import Mathlib.Data.List.Basic
import TaskBarrier.Barrier.Await
import TaskBarrier.Barrier.Firing
import TaskBarrier.Scheduler.Step

/-!
# Shifts

Two schedulers may do the same and differ in nothing but in how far their counters have come.  A
*shift* says by how much: it moves the numbers of tasks, the keys of entries and the sequence
numbers of appointments.  Numbers below the shift are *old*; no shifted number is old, and every
number that is not old is a shifted one.

A shift is applied to everything that carries such numbers.  No operation looks at a number other
than to compare it with another one of its kind, so every operation commutes with shifts.  For the
operations on one task this is said here, next to the definitions, for those on barriers and
facilities in the modules that follow.

## Main Definitions

* `Shift`, `Shift.id`, `Shift.key`.
* `Shift.task`, `Shift.stack`, `Shift.move`, `Shift.signal`, `Shift.event`, and so on.
* `Shift.isOld`, `Request.isOld`: numbers below the shift, and requests that name one.
-/

namespace TaskBarrier

/-- By how much the numbers of one scheduler are ahead of those of another. -/
structure Shift where
  ids : Nat
  keys : Nat
  sequences : Nat

namespace Shift

variable {ν : Type} (σ : Shift)

/-! ## Numbers -/

/-- Moves the number of a task. -/
def id (id : TaskId) : TaskId := ⟨σ.ids + id.number⟩

/-- Moves the key of an entry. -/
def key (key : TimerKey) : TimerKey := ⟨σ.keys + key.number⟩

/-- Whether the number is below the shift. -/
def isOld (id : TaskId) : Bool := decide (id.number < σ.ids)

/-- Whether the key is below the shift. -/
def isOldKey (key : TimerKey) : Bool := decide (key.number < σ.keys)

@[simp] theorem id_inj {a b : TaskId} : σ.id a = σ.id b ↔ a = b := by
  cases a
  cases b
  simp [id]

@[simp] theorem id_beq (a b : TaskId) : (σ.id a == σ.id b) = (a == b) := by
  rw [Bool.eq_iff_iff]
  simp

@[simp] theorem key_inj {a b : TimerKey} : σ.key a = σ.key b ↔ a = b := by
  cases a
  cases b
  simp [key]

@[simp] theorem key_beq (a b : TimerKey) : (σ.key a == σ.key b) = (a == b) := by
  rw [Bool.eq_iff_iff]
  simp

@[simp] theorem isOld_id (id : TaskId) : σ.isOld (σ.id id) = false :=
  decide_eq_false (Nat.not_lt.mpr (Nat.le_add_right ..))

@[simp] theorem isOldKey_key (key : TimerKey) : σ.isOldKey (σ.key key) = false :=
  decide_eq_false (Nat.not_lt.mpr (Nat.le_add_right ..))

theorem next_id (id : TaskId) : (σ.id id).next = σ.id id.next := rfl

/-- A number that is not old is a shifted one. -/
theorem exists_id {id : TaskId} (new : σ.isOld id = false) : ∃ id', id = σ.id id' := by
  have new : σ.ids ≤ id.number := by simpa [isOld] using new
  refine ⟨⟨id.number - σ.ids⟩, ?_⟩
  simp only [Shift.id, Nat.add_sub_cancel' new]

/-- A key that is not old is a shifted one. -/
theorem exists_key {key : TimerKey} (new : σ.isOldKey key = false) : ∃ key', key = σ.key key' := by
  have new : σ.keys ≤ key.number := by simpa [isOldKey] using new
  refine ⟨⟨key.number - σ.keys⟩, ?_⟩
  simp only [Shift.key, Nat.add_sub_cancel' new]

/-- No old number is a shifted one. -/
theorem id_ne_of_isOld {id other : TaskId} (old : σ.isOld id = true) : σ.id other ≠ id := by
  rintro rfl
  simp at old

/-- No old key is a shifted one. -/
theorem key_ne_of_isOldKey {key other : TimerKey} (old : σ.isOldKey key = true) :
    σ.key other ≠ key := by
  rintro rfl
  simp at old

/-! ## Tasks -/

/-- Moves the key that a slot remembers. -/
def slot (slot : Slot) : Slot := { slot with key := σ.key slot.key }

/-- Moves a task. -/
def task (task : Task ν) : Task ν :=
  { task with id := σ.id task.id, slot := task.slot.map σ.slot }

section Task

variable (task : Task ν)

@[simp] theorem id_task : (σ.task task).id = σ.id task.id := rfl

@[simp] theorem phase_task : (σ.task task).phase = task.phase := rfl

@[simp] theorem periodic_task : (σ.task task).periodic = task.periodic := rfl

@[simp] theorem slot_task : (σ.task task).slot = task.slot.map σ.slot := rfl

@[simp] theorem executing_task : (σ.task task).executing = task.executing := rfl

@[simp] theorem accepted_task (id : TaskId) (periodic : Bool) (key : TimerKey) (produces : Bool) :
    (.accepted (σ.id id) periodic (σ.key key) produces : Task ν) =
      σ.task (.accepted id periodic key produces) := rfl

@[simp] theorem setCounted_task (counted : Bool) :
    (σ.task task).setCounted counted = σ.task (task.setCounted counted) := by
  cases slot : task.slot <;> simp [Shift.task, Task.setCounted, slot, Shift.slot]

@[simp] theorem setPhase_task (phase : Phase) :
    (σ.task task).setPhase phase = σ.task (task.setPhase phase) := rfl

@[simp] theorem doom_task : (σ.task task).doom = σ.task task.doom := by
  cases slot : task.slot <;> simp [Shift.task, Task.doom, slot, Shift.slot]

@[simp] theorem retire_task (phase : Phase) :
    (σ.task task).retire phase = σ.task (task.retire phase) := rfl

@[simp] theorem leave_task (result : Option ν) :
    (σ.task task).leave result = σ.task (task.leave result) := rfl

@[simp] theorem discard_task : (σ.task task).discard = σ.task task.discard := by
  cases task with
  | mk id periodic phase slot body executing promise => cases body <;> rfl

theorem enter?_task :
    (σ.task task).enter? = task.enter?.map fun (execute, task) => (execute, σ.task task) := by
  cases task with
  | mk id periodic phase slot body executing promise => cases executing <;> cases body <;> rfl

@[simp] theorem isDoomed_task : (σ.task task).isDoomed = task.isDoomed := by
  cases slot : task.slot <;> simp [Task.isDoomed, slot, Shift.slot]

@[simp] theorem afterRun_task :
    Barrier.afterRun (σ.task task) = σ.task (Barrier.afterRun task) := by
  unfold Barrier.afterRun
  rw [isDoomed_task, periodic_task]
  split
  · rfl
  · split <;> rfl

@[simp] theorem isDropped_task : (σ.task task).isDropped = task.isDropped := by
  simp [Task.isDropped]

@[simp] theorem droppedKey?_task : (σ.task task).droppedKey? = task.droppedKey?.map σ.key := by
  unfold Task.droppedKey?
  rw [isDropped_task, phase_task, slot_task]
  split
  · cases task.slot <;> rfl
  · rfl

@[simp] theorem reset_task : (σ.task task).reset = σ.task task.reset := by
  unfold Task.reset
  rw [isDropped_task]
  split
  · rfl
  · cases slot : task.slot <;> cases phase : task.phase <;> simp [slot, phase]

end Task

/-! ## Frames, answers and events -/

/-- Moves the numbers in an answer. -/
def answer : Answer ν → Answer ν
  | .accepted id => .accepted (σ.id id)
  | .nothing => .nothing
  | .flag value => .flag value
  | .failed failure => .failed failure
  | .settled => .settled
  | .reading reading => .reading reading

/-- Moves the numbers in a frame. -/
def frame : Frame ν → Frame ν
  | .deciding task => .deciding (σ.id task)
  | .run task stage => .run (σ.id task) stage
  | .awaiting start manner stage => .awaiting start manner stage
  | .dropping tasks => .dropping (tasks.map σ.id)
  | .discarding tasks => .discarding (tasks.map σ.id)
  | .settling => .settling
  | .guarding => .guarding
  | .refusing => .refusing
  | .joining => .joining
  | .answering answer => .answering (σ.answer answer)
  | .raising panic => .raising panic

/-- Moves the numbers on a stack. -/
def stack (stack : Stack ν) : Stack ν := stack.map σ.frame

/-- Moves the numbers in what a step tells user code. -/
def signal : Signal ν → Signal ν
  | .working => .working
  | .body task => .body (σ.id task)
  | .answer answer => .answer (σ.answer answer)
  | .unwound panic => .unwound panic
  | .idle wake => .idle wake

/-- Moves the numbers in an event. -/
def event : Event → Event
  | .accepted task delay cadence => .accepted (σ.id task) delay cadence
  | .coalesced task => .coalesced (σ.id task)
  | .startedByFiring task => .startedByFiring (σ.id task)
  | .held task size => .held (σ.id task) size
  | .ran task outstanding => .ran (σ.id task) outstanding
  | .startedByReplay task => .startedByReplay (σ.id task)
  | .cancelTooLate task => .cancelTooLate (σ.id task)
  | .cancelledWhileRunning task => .cancelledWhileRunning (σ.id task)
  | .cancelled task outstanding => .cancelled (σ.id task) outstanding
  | .callbackPanicked key panic => .callbackPanicked (σ.key key) panic
  | .resetDropped discarded => .resetDropped discarded
  | .awaiting outstanding size => .awaiting outstanding size
  | .settled => .settled
  | .exceededBudget remaining budget => .exceededBudget remaining budget
  | .timerStarted thread => .timerStarted thread
  | .timerShutDown => .timerShutDown
  | .timerDetached => .timerDetached
  | .workerPanicked => .workerPanicked

@[simp] theorem stack_nil : σ.stack ([] : Stack ν) = [] := rfl

@[simp] theorem stack_cons (frame : Frame ν) (rest : Stack ν) :
    σ.stack (frame :: rest) = σ.frame frame :: σ.stack rest := rfl

@[simp] theorem stack_append (top rest : Stack ν) :
    σ.stack (top ++ rest) = σ.stack top ++ σ.stack rest :=
  List.map_append

@[simp] theorem length_stack (stack : Stack ν) : (σ.stack stack).length = stack.length :=
  List.length_map _

/-- What is left to do when an await succeeds carries no numbers. -/
@[simp] theorem stack_succeeding (manner : Manner) :
    σ.stack (manner.succeeding : Stack ν) = manner.succeeding := by
  unfold Manner.succeeding
  split <;> rfl

/-- What comes next is a critical section in both, or in neither. -/
theorem takesLock_stack (stack : Stack ν) : (σ.stack stack).takesLock = stack.takesLock := by
  cases stack with
  | nil => rfl
  | cons frame rest =>
      cases frame with
      | run task stage => cases stage <;> rfl
      | raising =>
          cases rest with
          | nil => rfl
          | cons below => cases below <;> rfl
      | _ => rfl

/-- What is left to do when an await fails carries no numbers. -/
@[simp] theorem stack_failing (manner : Manner) (failure : Failure) :
    σ.stack (manner.failing failure : Stack ν) = manner.failing failure := by
  unfold Manner.failing
  cases manner.strict <;> cases manner.unwinding <;> rfl

/-! ## Moves -/

/-- Moves the numbers in a request. -/
def request : Request → Request
  | .accept delay cadence produces => .accept delay cadence produces
  | .fire key => .fire (σ.key key)
  | .call task => .call (σ.id task)
  | .cancel handle => .cancel { handle with task := σ.id handle.task }
  | .cancelByHandle task => .cancelByHandle (σ.id task)
  | .await manner => .await manner
  | .read task => .read (σ.id task)
  | .shutdown => .shutdown
  | .drop => .drop

/-- Moves the numbers in a move. -/
def move : Move ν → Move ν
  | .request request => .request (σ.request request)
  | .endBody how => .endBody how
  | .proceed => .proceed
  | .work => .work

end Shift

/-- Whether a request names a task or an entry that is old. -/
def Request.isOld (σ : Shift) : Request → Bool
  | fire key => σ.isOldKey key
  | call task | cancelByHandle task | read task => σ.isOld task
  | cancel handle => σ.isOld handle.task
  | accept _ _ _ | await _ | shutdown | drop => false

/-- Whether a move is a request that names a task or an entry that is old. -/
def Move.isOld {ν : Type} (σ : Shift) : Move ν → Bool
  | request asked => asked.isOld σ
  | endBody _ | proceed | work => false

/-- A request that names nothing old is a shifted one. -/
theorem Shift.exists_request (σ : Shift) {request : Request} (new : request.isOld σ = false) :
    ∃ request', request = σ.request request' := by
  cases request with
  | accept delay cadence produces => exact ⟨.accept delay cadence produces, rfl⟩
  | fire key =>
      obtain ⟨key, rfl⟩ := σ.exists_key new
      exact ⟨.fire key, rfl⟩
  | call task =>
      obtain ⟨task, rfl⟩ := σ.exists_id new
      exact ⟨.call task, rfl⟩
  | cancel handle =>
      obtain ⟨scheduler, task⟩ := handle
      obtain ⟨task, rfl⟩ := σ.exists_id new
      exact ⟨.cancel ⟨scheduler, task⟩, rfl⟩
  | cancelByHandle task =>
      obtain ⟨task, rfl⟩ := σ.exists_id new
      exact ⟨.cancelByHandle task, rfl⟩
  | await manner => exact ⟨.await manner, rfl⟩
  | read task =>
      obtain ⟨task, rfl⟩ := σ.exists_id new
      exact ⟨.read task, rfl⟩
  | shutdown => exact ⟨.shutdown, rfl⟩
  | drop => exact ⟨.drop, rfl⟩

/-- **A move that names nothing old is a shifted one.** -/
theorem Shift.exists_move {ν : Type} (σ : Shift) {move : Move ν} (new : move.isOld σ = false) :
    ∃ move', move = σ.move move' := by
  cases move with
  | request request =>
      obtain ⟨request, rfl⟩ := σ.exists_request new
      exact ⟨.request request, rfl⟩
  | endBody how => exact ⟨.endBody how, rfl⟩
  | proceed => exact ⟨.proceed, rfl⟩
  | work => exact ⟨.work, rfl⟩

end TaskBarrier
