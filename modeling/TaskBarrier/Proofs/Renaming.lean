import Mathlib.Data.List.Basic
import Mathlib.Logic.Function.Basic
import TaskBarrier.Barrier.Await
import TaskBarrier.Barrier.Firing
import TaskBarrier.Proofs.Orderly
import TaskBarrier.Scheduler.Step

/-!
# Renamings

Nothing depends on which numbers tasks and entries have, only on which of them are the same.  A
*renaming* replaces the numbers of tasks and the keys of entries by others, different ones by
different ones.  It is applied to everything that carries such numbers, and every operation commutes
with it.

The counters are a matter of their own.  They are numbers that nobody has yet, and a renaming says
apart what becomes of them.  So it can be said of a state that all numbers in it have been drawn: a
renaming that touches neither these nor the counters leaves the state as it is.

A shift moves all numbers alike, and the sequence numbers of appointments with them.  A renaming may
do anything to the numbers, and leaves the appointments in their places.

## Main Definitions

* `Renaming`.
* `Renaming.task`, `Renaming.stack`, `Renaming.move`, `Renaming.signal`, and so on.
* `Renaming.timer`, `Renaming.registry`, `Renaming.facility`.

The operations on one task and those on facilities are dealt with here, those on barriers and
schedulers in the module that follows.
-/

namespace TaskBarrier

/-- Other numbers for tasks and entries, and for the counters of both. -/
structure Renaming where
  id : TaskId → TaskId
  key : TimerKey → TimerKey
  /-- What becomes of the number that is drawn next. -/
  nextId : TaskId → TaskId
  /-- What becomes of the key that is drawn next. -/
  nextKey : TimerKey → TimerKey
  id_injective : Function.Injective id
  key_injective : Function.Injective key

namespace Renaming

variable {ν : Type} (ρ : Renaming)

@[simp] theorem id_inj {a b : TaskId} : ρ.id a = ρ.id b ↔ a = b := ρ.id_injective.eq_iff

@[simp] theorem key_inj {a b : TimerKey} : ρ.key a = ρ.key b ↔ a = b := ρ.key_injective.eq_iff

@[simp] theorem id_beq (a b : TaskId) : (ρ.id a == ρ.id b) = (a == b) := by
  rw [Bool.eq_iff_iff]
  simp

@[simp] theorem key_beq (a b : TimerKey) : (ρ.key a == ρ.key b) = (a == b) := by
  rw [Bool.eq_iff_iff]
  simp

/-! ## Tasks -/

/-- Renames the key that a slot remembers. -/
def slot (slot : Slot) : Slot := { slot with key := ρ.key slot.key }

/-- Renames a task. -/
def task (task : Task ν) : Task ν :=
  { task with id := ρ.id task.id, slot := task.slot.map ρ.slot }

section Task

variable (task : Task ν)

@[simp] theorem id_task : (ρ.task task).id = ρ.id task.id := rfl

@[simp] theorem phase_task : (ρ.task task).phase = task.phase := rfl

@[simp] theorem periodic_task : (ρ.task task).periodic = task.periodic := rfl

@[simp] theorem slot_task : (ρ.task task).slot = task.slot.map ρ.slot := rfl

@[simp] theorem executing_task : (ρ.task task).executing = task.executing := rfl

@[simp] theorem setCounted_task (counted : Bool) :
    (ρ.task task).setCounted counted = ρ.task (task.setCounted counted) := by
  cases slot : task.slot <;> simp [Renaming.task, Task.setCounted, slot, Renaming.slot]

@[simp] theorem doom_task : (ρ.task task).doom = ρ.task task.doom := by
  cases slot : task.slot <;> simp [Renaming.task, Task.doom, slot, Renaming.slot]

@[simp] theorem setPhase_task (phase : Phase) :
    (ρ.task task).setPhase phase = ρ.task (task.setPhase phase) := rfl

@[simp] theorem discard_task : (ρ.task task).discard = ρ.task task.discard := by
  cases task with
  | mk id periodic phase slot body executing promise => cases body <;> rfl

theorem enter?_task :
    (ρ.task task).enter? = task.enter?.map fun (execute, task) => (execute, ρ.task task) := by
  cases task with
  | mk id periodic phase slot body executing promise => cases executing <;> cases body <;> rfl

@[simp] theorem isDoomed_task : (ρ.task task).isDoomed = task.isDoomed := by
  cases slot : task.slot <;> simp [Task.isDoomed, slot, Renaming.slot]

@[simp] theorem afterRun_task :
    Barrier.afterRun (ρ.task task) = ρ.task (Barrier.afterRun task) := by
  unfold Barrier.afterRun
  rw [isDoomed_task, periodic_task]
  split
  · rfl
  · split <;> rfl

@[simp] theorem isDropped_task : (ρ.task task).isDropped = task.isDropped := by
  simp [Task.isDropped]

@[simp] theorem droppedKey?_task : (ρ.task task).droppedKey? = task.droppedKey?.map ρ.key := by
  unfold Task.droppedKey?
  rw [isDropped_task, phase_task, slot_task]
  split
  · cases task.slot <;> rfl
  · rfl

@[simp] theorem reset_task : (ρ.task task).reset = ρ.task task.reset := by
  unfold Task.reset
  rw [isDropped_task]
  split
  · rfl
  · cases slot : task.slot <;> cases phase : task.phase <;> simp [slot, phase]

end Task

/-! ## Frames, answers and events -/

/-- Renames what an answer names. -/
def answer : Answer ν → Answer ν
  | .accepted id => .accepted (ρ.id id)
  | .nothing => .nothing
  | .flag value => .flag value
  | .failed failure => .failed failure
  | .settled => .settled
  | .reading reading => .reading reading

/-- Renames what a frame names. -/
def frame : Frame ν → Frame ν
  | .deciding task => .deciding (ρ.id task)
  | .run task stage => .run (ρ.id task) stage
  | .awaiting start manner stage => .awaiting start manner stage
  | .dropping tasks => .dropping (tasks.map ρ.id)
  | .discarding tasks => .discarding (tasks.map ρ.id)
  | .settling => .settling
  | .guarding => .guarding
  | .refusing => .refusing
  | .joining => .joining
  | .answering answer => .answering (ρ.answer answer)
  | .raising panic => .raising panic

/-- Renames what is named on a stack. -/
def stack (stack : Stack ν) : Stack ν := stack.map ρ.frame

/-- Renames what a step tells user code. -/
def signal : Signal ν → Signal ν
  | .working => .working
  | .body task => .body (ρ.id task)
  | .answer answer => .answer (ρ.answer answer)
  | .unwound panic => .unwound panic
  | .idle wake => .idle wake

/-- Renames what an event tells. -/
def event : Event → Event
  | .accepted task delay cadence => .accepted (ρ.id task) delay cadence
  | .coalesced task => .coalesced (ρ.id task)
  | .startedByFiring task => .startedByFiring (ρ.id task)
  | .held task size => .held (ρ.id task) size
  | .ran task outstanding => .ran (ρ.id task) outstanding
  | .startedByReplay task => .startedByReplay (ρ.id task)
  | .cancelTooLate task => .cancelTooLate (ρ.id task)
  | .cancelledWhileRunning task => .cancelledWhileRunning (ρ.id task)
  | .cancelled task outstanding => .cancelled (ρ.id task) outstanding
  | .callbackPanicked key panic => .callbackPanicked (ρ.key key) panic
  | .resetDropped discarded => .resetDropped discarded
  | .awaiting outstanding size => .awaiting outstanding size
  | .settled => .settled
  | .exceededBudget remaining budget => .exceededBudget remaining budget
  | .timerStarted thread => .timerStarted thread
  | .timerShutDown => .timerShutDown
  | .timerDetached => .timerDetached
  | .workerPanicked => .workerPanicked

@[simp] theorem stack_nil : ρ.stack ([] : Stack ν) = [] := rfl

@[simp] theorem stack_cons (frame : Frame ν) (rest : Stack ν) :
    ρ.stack (frame :: rest) = ρ.frame frame :: ρ.stack rest := rfl

@[simp] theorem stack_append (top rest : Stack ν) :
    ρ.stack (top ++ rest) = ρ.stack top ++ ρ.stack rest :=
  List.map_append

/-- What is left to do when an await succeeds names nothing. -/
@[simp] theorem stack_succeeding (manner : Manner) :
    ρ.stack (manner.succeeding : Stack ν) = manner.succeeding := by
  unfold Manner.succeeding
  split <;> rfl

/-- What is left to do when an await fails names nothing. -/
@[simp] theorem stack_failing (manner : Manner) (failure : Failure) :
    ρ.stack (manner.failing failure : Stack ν) = manner.failing failure := by
  unfold Manner.failing
  cases manner.strict <;> cases manner.unwinding <;> rfl

/-- What comes next is a critical section in both, or in neither. -/
theorem takesLock_stack (stack : Stack ν) : (ρ.stack stack).takesLock = stack.takesLock := by
  cases stack with
  | nil => rfl
  | cons frame rest =>
      cases frame with
      | run task stage => cases stage <;> rfl
      | raising =>
          cases rest with
          | nil => rfl
          | cons below => cases below <;> rfl
      | _ => rfl

@[simp] theorem keepsAlive_frame (frame : Frame ν) :
    (ρ.frame frame).keepsAlive = frame.keepsAlive := by
  cases frame <;> rfl

/-! ## Moves -/

/-- Renames what a request names. -/
def request : Request → Request
  | .accept delay cadence produces => .accept delay cadence produces
  | .fire key => .fire (ρ.key key)
  | .call task => .call (ρ.id task)
  | .cancel handle => .cancel { handle with task := ρ.id handle.task }
  | .cancelByHandle task => .cancelByHandle (ρ.id task)
  | .await manner => .await manner
  | .read task => .read (ρ.id task)
  | .shutdown => .shutdown
  | .drop => .drop

/-- Renames what a move names. -/
def move : Move ν → Move ν
  | .request request => .request (ρ.request request)
  | .endBody how => .endBody how
  | .proceed => .proceed
  | .work => .work

/-! ## Registries -/

/-- Renames the key under which an entry is armed. -/
def arming : Arming → Arming
  | .armed key => .armed (ρ.key key)
  | .refused => .refused
  | .overflow => .overflow

/-- Renames an entry of a registry. -/
def registration (registered : Registration TaskId) : Registration TaskId :=
  { registered with key := ρ.key registered.key, callback := ρ.id registered.callback }

/-- Renames a registry. -/
def registry (registry : Registry TaskId) : Registry TaskId :=
  { registry with
    entries := registry.entries.map ρ.registration
    nextKey := ρ.nextKey registry.nextKey }

section Registry

variable (registry : Registry TaskId)

theorem find?_registry (key : TimerKey) :
    (ρ.registry registry).find? (ρ.key key) = (registry.find? key).map ρ.registration := by
  unfold Registry.find? Renaming.registry
  rw [List.find?_map]
  congr 2
  funext registered
  exact ρ.key_beq registered.key key

@[simp] theorem remove_registry (key : TimerKey) :
    (ρ.registry registry).remove (ρ.key key) = ρ.registry (registry.remove key) := by
  simp only [Registry.remove, Renaming.registry, List.filter_map]
  congr 2
  refine congrArg (List.filter · registry.entries) (funext fun registered => ?_)
  simp [registration, bne]

/-- **Arming an entry of a registry.** -/
theorem arm_registry (draws : ρ.nextKey registry.nextKey = ρ.key registry.nextKey)
    (next : ρ.nextKey registry.nextKey.next = (ρ.key registry.nextKey).next) (delay : Duration)
    (cadence : Cadence) (callback : TaskId) :
    (ρ.registry registry).arm delay cadence (ρ.id callback) =
      (ρ.arming (registry.arm delay cadence callback).1,
        ρ.registry (registry.arm delay cadence callback).2) := by
  have isShutdown : (ρ.registry registry).isShutdown = registry.isShutdown := rfl
  unfold Registry.arm
  rw [isShutdown]
  split
  · rfl
  · simp only [Renaming.registry, draws, next, List.map_append, List.map_cons, List.map_nil]
    rfl

/-- **Firing by hand.** -/
theorem fire?_registry (key : TimerKey) : (ρ.registry registry).fire? (ρ.key key) =
    (registry.fire? key).map fun (task, registry) => (ρ.id task, ρ.registry registry) := by
  unfold Registry.fire?
  rw [find?_registry, remove_registry]
  cases registry.find? key with
  | none => rfl
  | some registered =>
      simp only [Option.map_some, registration]
      split <;> rfl

end Registry

/-! ## Timers -/

/-- Renames the key of an appointment. -/
def appointment (a : Appointment) : Appointment := { a with key := ρ.key a.key }

/-- Renames an armed entry of a timer. -/
def armedEntry (armed : ArmedEntry TaskId) : ArmedEntry TaskId :=
  { armed with key := ρ.key armed.key, callback := ρ.id armed.callback }

/-- Renames the key in what a worker is doing. -/
def worker : WorkerState → WorkerState
  | .firing appointment cadence => .firing (ρ.appointment appointment) cadence
  | .idle => .idle
  | .exited => .exited
  | .died => .died

/-- Renames what a worker finds. -/
def polled : Polled TaskId → Polled TaskId
  | .firing key callback => .firing (ρ.key key) (ρ.id callback)
  | .waiting wake => .waiting wake
  | .ended => .ended

/-- Renames a timer. -/
def timer (timer : Timer TaskId) : Timer TaskId :=
  { timer with
    agenda := timer.agenda.map ρ.appointment
    armed := timer.armed.map ρ.armedEntry
    nextKey := ρ.nextKey timer.nextKey
    worker := ρ.worker timer.worker }

/-- Making an appointment commutes with a renaming: appointments are compared by due time and by
sequence number. -/
theorem insert_appointment (a : Appointment) (agenda : Agenda) :
    Agenda.insert (ρ.appointment a) (agenda.map ρ.appointment) =
      (agenda.insert a).map ρ.appointment := by
  induction agenda with
  | nil => rfl
  | cons b rest ih =>
      have precedes : (ρ.appointment b).precedes (ρ.appointment a) = b.precedes a := rfl
      rw [List.map_cons, Agenda.insert_cons, Agenda.insert_cons, precedes]
      split
      · rw [ih, List.map_cons]
      · rfl

section Timer

variable (timer : Timer TaskId)

@[simp] theorem isArmed_timer (key : TimerKey) :
    (ρ.timer timer).isArmed (ρ.key key) = timer.isArmed key := by
  unfold Timer.isArmed Renaming.timer
  rw [List.any_map]
  exact congrArg (List.any timer.armed) (funext fun armed => ρ.key_beq armed.key key)

theorem entryOf?_timer (a : Appointment) :
    (ρ.timer timer).entryOf? (ρ.appointment a) = (timer.entryOf? a).map ρ.armedEntry := by
  unfold Timer.entryOf? Renaming.timer
  rw [List.find?_map]
  congr 2
  funext armed
  simp [armedEntry, appointment]

theorem firingKey?_timer : (ρ.timer timer).firingKey? = timer.firingKey?.map ρ.key := by
  simp only [Timer.firingKey?, Renaming.timer]
  cases timer.worker <;> rfl

@[simp] theorem remove_timer (key : TimerKey) :
    (ρ.timer timer).remove (ρ.key key) = ρ.timer (timer.remove key) := by
  simp only [Timer.remove, Renaming.timer, List.filter_map]
  congr 2
  refine congrArg (List.filter · timer.armed) (funext fun armed => ?_)
  simp [armedEntry, bne]

@[simp] theorem schedule_timer (key : TimerKey) (due : Instant) :
    (ρ.timer timer).schedule (ρ.key key) due = ρ.timer (timer.schedule key due) := by
  simp only [Timer.schedule, Renaming.timer, ← insert_appointment]
  rfl

/-- **Arming an entry of a timer.** -/
theorem arm_timer (draws : ρ.nextKey timer.nextKey = ρ.key timer.nextKey)
    (next : ρ.nextKey timer.nextKey.next = (ρ.key timer.nextKey).next) (now : Instant)
    (delay : Duration) (cadence : Cadence) (callback : TaskId) :
    (ρ.timer timer).arm now delay cadence (ρ.id callback) =
      (ρ.arming (timer.arm now delay cadence callback).1,
        ρ.timer (timer.arm now delay cadence callback).2) := by
  have isShutdown : (ρ.timer timer).isShutdown = timer.isShutdown := rfl
  unfold Timer.arm
  rw [isShutdown]
  split
  · rfl
  · simp only [Renaming.timer, draws]
    cases now.after? delay with
    | none =>
        simp only [next]
        rfl
    | some due =>
        simp only [Timer.schedule, next, List.map_append, List.map_cons, List.map_nil,
          ← insert_appointment]
        rfl

/-- **A shutdown.** -/
theorem shutdown_timer :
    (ρ.timer timer).shutdown = (timer.shutdown.1, ρ.timer timer.shutdown.2) := by
  have isFiring : (ρ.timer timer).isFiring = timer.isFiring := by
    simp [Timer.isFiring, firingKey?_timer]
  have isShutdown : (ρ.timer timer).isShutdown = timer.isShutdown := rfl
  unfold Timer.shutdown
  rw [isFiring, isShutdown]
  split <;> rfl

theorem take_timer (first : Appointment) (rest : Agenda) (taken : ArmedEntry TaskId) :
    (ρ.timer timer).take (ρ.appointment first) (rest.map ρ.appointment) (ρ.armedEntry taken) =
      ρ.timer (timer.take first rest taken) := by
  have key : (ρ.armedEntry taken).key = ρ.key taken.key := rfl
  have periodic : (ρ.armedEntry taken).cadence.isPeriodic = taken.cadence.isPeriodic := rfl
  unfold Timer.take
  rw [key, periodic, remove_timer]
  split <;> rfl

theorem look_timer (now : Instant) (agenda : Agenda) :
    (ρ.timer timer).look now (agenda.map ρ.appointment) =
      (ρ.polled (timer.look now agenda).1, ρ.timer (timer.look now agenda).2) := by
  induction agenda with
  | nil => rfl
  | cons first rest ih =>
      rw [List.map_cons, Timer.look, Timer.look, entryOf?_timer]
      cases timer.entryOf? first with
      | none => exact ih
      | some taken =>
          have due : (ρ.appointment first).due = first.due := rfl
          simp only [Option.map_some, due, take_timer]
          split <;> rfl

/-- **The worker looks.** -/
theorem poll_timer (now : Instant) : (ρ.timer timer).poll now =
    (ρ.polled (timer.poll now).1, ρ.timer (timer.poll now).2) := by
  have worker : (ρ.timer timer).worker = ρ.worker timer.worker := rfl
  have isShutdown : (ρ.timer timer).isShutdown = timer.isShutdown := rfl
  unfold Timer.poll
  rw [worker, isShutdown]
  cases timer.worker with
  | firing | exited | died => rfl
  | idle =>
      simp only [Renaming.worker]
      split
      · rfl
      · exact ρ.look_timer timer now timer.agenda

theorem rearm_timer (key : TimerKey) (due : Instant) :
    (ρ.timer timer).rearm (ρ.key key) due = ρ.timer (timer.rearm key due) := by
  unfold Timer.rearm
  rw [isArmed_timer, schedule_timer]
  split
  · simp only [Renaming.timer, List.map_map]
    congr 1
    refine List.map_congr_left fun armed _ => ?_
    simp only [Function.comp_apply, armedEntry, key_beq]
    split <;> rfl
  · rfl

/-- **The worker comes back.** -/
theorem conclude_timer (finished : Instant) :
    (ρ.timer timer).conclude finished = ρ.timer (timer.conclude finished) := by
  have worker : (ρ.timer timer).worker = ρ.worker timer.worker := rfl
  unfold Timer.conclude
  rw [worker]
  cases timer.worker with
  | idle | exited | died => rfl
  | firing appointment cadence =>
      have due : (ρ.appointment appointment).due = appointment.due := rfl
      simp only [Renaming.worker, due]
      split
      · rfl
      · exact ρ.rearm_timer { timer with worker := .idle } appointment.key _
      · rfl

end Timer

/-! ## Facilities -/

/-- Renames a facility. -/
def facility : Facility TaskId → Facility TaskId
  | .byHand registry => .byHand (ρ.registry registry)
  | .byClock timer => .byClock (ρ.timer timer)

section Facility

variable (facility : Facility TaskId)

@[simp] theorem disarm_facility (key : TimerKey) :
    (ρ.facility facility).disarm (ρ.key key) = ρ.facility (facility.disarm key) := by
  cases facility with
  | byHand registry => exact congrArg Facility.byHand (ρ.remove_registry registry key)
  | byClock timer => exact congrArg Facility.byClock (ρ.remove_timer timer key)

theorem disarms_facility (keys : List TimerKey) :
    (keys.map ρ.key).foldl Facility.disarm (ρ.facility facility) =
      ρ.facility (keys.foldl Facility.disarm facility) := by
  induction keys generalizing facility with
  | nil => rfl
  | cons key keys ih => rw [List.map_cons, List.foldl_cons, disarm_facility, ih, List.foldl_cons]

theorem shutdown_facility : (ρ.facility facility).shutdown =
    (facility.shutdown.1, ρ.facility facility.shutdown.2) := by
  cases facility with
  | byHand registry => rfl
  | byClock timer =>
      simp only [Renaming.facility, Facility.shutdown, shutdown_timer]

/-- **Arming**, where the key that is drawn is renamed like any other and the counter goes on after
it. -/
theorem arm_facility (draws : ρ.nextKey facility.nextKey = ρ.key facility.nextKey)
    (next : ρ.nextKey facility.nextKey.next = (ρ.key facility.nextKey).next) (now : Instant)
    (delay : Duration) (cadence : Cadence) (callback : TaskId) :
    (ρ.facility facility).arm now delay cadence (ρ.id callback) =
      (ρ.arming (facility.arm now delay cadence callback).1,
        ρ.facility (facility.arm now delay cadence callback).2) := by
  cases facility with
  | byHand registry =>
      simp only [Renaming.facility, Facility.arm_byHand,
        ρ.arm_registry registry draws next delay cadence callback]
  | byClock timer =>
      simp only [Renaming.facility, Facility.arm_byClock,
        ρ.arm_timer timer draws next now delay cadence callback]

end Facility

end Renaming

end TaskBarrier
