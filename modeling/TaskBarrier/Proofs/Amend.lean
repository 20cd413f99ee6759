import Mathlib.Data.List.Basic
import TaskBarrier.Proofs.Awaiting

/-!
# What has been promised has no influence

The record of a task that produces a value holds its promise, next to everything that decides what
becomes of the task.  The promise is written when the body has ended or is thrown away, and it is
looked at only by those who read it.  So it may be *amended*: whatever is put in its place, all
sections answer the same and leave the same behind, apart from the promise itself.

Two things have to be asked for.

* Somebody who reads the value of the task gets to see what has been put there.  All other moves do
  not.
* Where the promise is settled, it has to make no difference whether it is amended before that or
  after.  This is so for a promise that is closed: it is settled already.

A promise that is not settled by a step, nor read, is what it was: this is the special case in which
the promise is replaced by itself.

## Main Definitions

* `Task.amend`, `Barrier.amend`, `Scheduler.amend`, `Turn.amend`, `Stride.amend`.
* `Move.reads`: somebody reads the value of the task.
* `Deed.settles`: the promise of the task is settled.

The main statements are `Scheduler.step_amend` and `Scheduler.play_amend`.
-/

namespace TaskBarrier

variable {ν : Type}

/-- Puts something else in the place of what the task with the number has promised. -/
def Task.amend (id : TaskId) (f : Option (Promise ν) → Option (Promise ν)) (task : Task ν) :
    Task ν :=
  { task with promise := if task.id = id then f task.promise else task.promise }

/-- Puts something else in the place of what a task has promised. -/
def Barrier.amend (id : TaskId) (f : Option (Promise ν) → Option (Promise ν)) (b : Barrier ν) :
    Barrier ν :=
  { b with tasks := b.tasks.map (·.amend id f) }

/-- The outcome of a section, with something else in the place of what a task has promised. -/
def Section.amend {α : Type} (id : TaskId) (f : Option (Promise ν) → Option (Promise ν))
    (outcome : Section ν α) : Section ν α :=
  { outcome with barrier := outcome.barrier.amend id f }

/-- Whether it makes no difference if a promise is amended before it is settled, or after. -/
def Settles (f : Option (Promise ν) → Option (Promise ν)) : Prop :=
  ∀ (result : Option ν) promise,
    f (promise.map (·.settle result)) = (f promise).map (·.settle result)

variable {id : TaskId} {f : Option (Promise ν) → Option (Promise ν)}

/-! ## Tasks -/

namespace Task

variable (task : Task ν)

@[simp] theorem id_amend : (task.amend id f).id = task.id := rfl

@[simp] theorem phase_amend : (task.amend id f).phase = task.phase := rfl

@[simp] theorem slot_amend : (task.amend id f).slot = task.slot := rfl

@[simp] theorem periodic_amend : (task.amend id f).periodic = task.periodic := rfl

@[simp] theorem executing_amend : (task.amend id f).executing = task.executing := rfl

@[simp] theorem isDropped_amend : (task.amend id f).isDropped = task.isDropped := rfl

@[simp] theorem setCounted_amend (counted : Bool) :
    (task.amend id f).setCounted counted = (task.setCounted counted).amend id f := rfl

@[simp] theorem setPhase_amend (phase : Phase) :
    (task.amend id f).setPhase phase = (task.setPhase phase).amend id f := rfl

@[simp] theorem doom_amend : (task.amend id f).doom = task.doom.amend id f := rfl

@[simp] theorem retire_amend (phase : Phase) :
    (task.amend id f).retire phase = (task.retire phase).amend id f := rfl

theorem amend_of_ne {task : Task ν} (ne : task.id ≠ id) : task.amend id f = task := by
  rw [amend, if_neg ne]

@[simp] theorem afterRun_amend :
    Barrier.afterRun (task.amend id f) = (Barrier.afterRun task).amend id f := by
  unfold Barrier.afterRun
  have doomed : (task.amend id f).isDoomed = task.isDoomed := rfl
  rw [doomed, periodic_amend]
  split
  · rfl
  · split <;> rfl

@[simp] theorem reset_amend : (task.amend id f).reset = task.reset.amend id f := by
  unfold Task.reset
  rw [isDropped_amend, slot_amend, phase_amend]
  split
  · rfl
  · split <;> rfl

theorem enter?_amend : (task.amend id f).enter? =
    task.enter?.map fun (execute, task) => (execute, task.amend id f) := by
  cases task with
  | mk _ _ _ _ body executing _ => cases executing <;> cases body <;> rfl

theorem leave_amend (apart : task.id = id → Settles f) (result : Option ν) :
    (task.amend id f).leave result = (task.leave result).amend id f := by
  by_cases own : task.id = id
  · simp [leave, amend, own, (apart own result task.promise)]
  · have own' : (task.leave result).id ≠ id := own
    rw [amend_of_ne own, amend_of_ne own']

theorem discard_amend (apart : task.id = id → Settles f) :
    (task.amend id f).discard = task.discard.amend id f := by
  by_cases own : task.id = id
  · have settles := apart own none task.promise
    cases body : task.body <;> simp [discard, amend, body, own, settles]
  · have own' : task.discard.id ≠ id := by rwa [task.id_discard]
    rw [amend_of_ne own, amend_of_ne own']

end Task

/-! ## The primitives -/

namespace Barrier

variable (b : Barrier ν)

@[simp] theorem outstanding_amend : (b.amend id f).outstanding = b.outstanding := rfl

@[simp] theorem held_amend : (b.amend id f).held = b.held := rfl

@[simp] theorem draining_amend : (b.amend id f).draining = b.draining := rfl

@[simp] theorem config_amend : (b.amend id f).config = b.config := rfl

@[simp] theorem facility_amend : (b.amend id f).facility = b.facility := rfl

@[simp] theorem nextId_amend : (b.amend id f).nextId = b.nextId := rfl

@[simp] theorem task?_amend (other : TaskId) :
    (b.amend id f).task? other = (b.task? other).map (·.amend id f) := by
  unfold task? amend
  rw [List.find?_map]
  rfl

@[simp] theorem slotted?_amend (other : TaskId) : (b.amend id f).slotted? other =
    (b.slotted? other).map fun (task, slot) => (task.amend id f, slot) := by
  unfold slotted?
  rw [task?_amend]
  cases b.task? other with
  | none => rfl
  | some task => cases slot : task.slot <;> simp [slot]

theorem modify_amend (other : TaskId) (change change' : Task ν → Task ν)
    (commutes : ∀ task, task.id = other → change' (task.amend id f) = (change task).amend id f) :
    (b.amend id f).modify other change' = (b.modify other change).amend id f := by
  simp only [modify, amend, List.map_map]
  congr 1
  refine List.map_congr_left fun task _ => ?_
  by_cases same : task.id = other <;> simp [same, commutes]

@[simp] theorem count_amend (other : TaskId) :
    (b.amend id f).count other = (b.count other).amend id f := by
  unfold count
  rw [slotted?_amend]
  cases b.slotted? other with
  | none => rfl
  | some entry =>
      simp only [Option.map_some]
      split
      · rfl
      · rw [b.modify_amend other _ _ fun task _ => task.setCounted_amend true]
        rfl

@[simp] theorem uncount_amend (other : TaskId) :
    (b.amend id f).uncount other = (b.uncount other).amend id f := by
  unfold uncount
  rw [slotted?_amend]
  cases b.slotted? other with
  | none => rfl
  | some entry =>
      simp only [Option.map_some]
      split
      · rw [b.modify_amend other _ _ fun task _ => task.setCounted_amend false]
        rfl
      · rfl

/-! ## The sections -/

theorem accept_amend (drawn : b.nextId ≠ id) (now : Instant) (delay : Duration)
    (cadence : Cadence) (produces : Bool) : (b.amend id f).accept now delay cadence produces =
      (b.accept now delay cadence produces).amend id f := by
  unfold accept
  split
  · rfl
  · simp only [facility_amend, nextId_amend]
    cases (b.facility.arm now delay cadence b.nextId).1 with
    | refused | overflow => rfl
    | armed key =>
        have new : (Task.accepted b.nextId cadence.isPeriodic key produces : Task ν).amend id f =
            .accepted b.nextId cadence.isPeriodic key produces := Task.amend_of_ne drawn
        simp [Section.amend, amend, new]

@[simp] theorem fire_amend (other : TaskId) :
    (b.amend id f).fire other = (b.fire other).amend id f := by
  unfold fire
  rw [slotted?_amend]
  cases b.slotted? other with
  | none => rfl
  | some entry =>
      simp only [Option.map_some, Task.phase_amend]
      cases entry.1.phase with
      | live =>
          simp only [fireLive, count_amend, draining_amend]
          rw [modify_amend _ other _ _ fun task _ => task.setPhase_amend .running,
            modify_amend _ other _ _ fun task _ => task.setPhase_amend .held]
          split <;> rfl
      | held | running | ran | cancelled => rfl

@[simp] theorem popHeld_amend : (b.amend id f).popHeld = b.popHeld.amend id f := by
  unfold popHeld
  rw [held_amend]
  cases b.held with
  | nil => rfl
  | cons front rest =>
      simp only [slotted?_amend]
      cases b.slotted? front with
      | none => rfl
      | some entry =>
          have popped : ({ b with held := rest }.amend id f).modify front (·.setPhase .running) =
              ({ b with held := rest }.modify front (·.setPhase .running)).amend id f :=
            modify_amend _ front _ _ fun task _ => task.setPhase_amend .running
          simp only [Option.map_some, Section.amend, ← popped]
          rfl

@[simp] theorem finish_amend (other : TaskId) :
    (b.amend id f).finish other = (b.finish other).amend id f := by
  unfold finish
  simp only [uncount_amend, slotted?_amend, outstanding_amend]
  cases (b.uncount other).slotted? other with
  | none => rfl
  | some entry =>
      simp only [Option.map_some]
      rw [modify_amend _ other _ _ fun task _ => task.afterRun_amend]
      rfl

theorem withdraw_amend (other : TaskId) :
    (b.amend id f).withdraw other = (b.withdraw other).amend id f := by
  unfold withdraw
  simp only [uncount_amend, outstanding_amend]
  rw [modify_amend _ other _ _ fun task _ => task.retire_amend .cancelled]
  rfl

@[simp] theorem cancel_amend (other : TaskId) :
    (b.amend id f).cancel other = (b.cancel other).amend id f := by
  unfold cancel
  rw [slotted?_amend]
  cases b.slotted? other with
  | none => rfl
  | some entry =>
      obtain ⟨task, slot⟩ := entry
      simp only [Option.map_some, Task.phase_amend, Task.periodic_amend]
      cases task.phase with
      | live => exact (b.disarm slot.key).withdraw_amend other
      | held => exact ((b.disarm slot.key).unhold other).withdraw_amend other
      | running =>
          have doomed : ((b.disarm slot.key).amend id f).modify other (·.doom) =
              ((b.disarm slot.key).modify other (·.doom)).amend id f :=
            modify_amend _ other _ _ fun task _ => task.doom_amend
          simp only
          rw [apply_ite (Section.amend id f)]
          refine ite_congr rfl (fun _ => ?_) fun _ => rfl
          simp only [Section.amend, ← doomed]
          rfl
      | ran | cancelled => rfl

@[simp] theorem enterBody?_amend (other : TaskId) : (b.amend id f).enterBody? other =
    (b.enterBody? other).map fun (execute, b) => (execute, b.amend id f) := by
  unfold enterBody?
  rw [task?_amend]
  cases b.task? other with
  | none => rfl
  | some task =>
      simp only [Option.map_some, task.enter?_amend]
      cases task.enter? with
      | none => rfl
      | some entry =>
          simp only [Option.map_some]
          rw [b.modify_amend other (fun _ => entry.2) _ fun _ _ => rfl]

theorem leaveBody_amend {other : TaskId} (apart : other = id → Settles f) (result : Option ν) :
    (b.amend id f).leaveBody other result = (b.leaveBody other result).amend id f :=
  b.modify_amend other _ _ fun task same =>
    task.leave_amend (fun own => apart (same.symm.trans own)) result

theorem discard?_amend {other : TaskId} (apart : other = id → Settles f) :
    (b.amend id f).discard? other = (b.discard? other).map (·.amend id f) := by
  unfold discard?
  rw [task?_amend]
  cases b.task? other with
  | none => rfl
  | some task =>
      have discards := b.modify_amend other _ _ fun task same =>
        task.discard_amend fun own => apart (same.symm.trans own)
      simp only [Option.map_some, Task.executing_amend, discards]
      cases task.executing <;> rfl

theorem readValue_amend {other : TaskId} (ne : other ≠ id) : (b.amend id f).readValue other =
    ((b.readValue other).1, (b.readValue other).2.amend id f) := by
  have promised : ((b.amend id f).task? other).bind (·.promise) =
      (b.task? other).bind (·.promise) := by
    rw [task?_amend]
    cases found : b.task? other with
    | none => rfl
    | some task =>
        have own : task.id ≠ id := fun same => ne ((task?_id found).symm.trans same)
        rw [Option.map_some, Task.amend_of_ne own]
  unfold readValue
  rw [promised]
  cases (b.task? other).bind (·.promise) with
  | none => rfl
  | some promise =>
      simp only
      rw [b.modify_amend other ({ · with promise := some promise.read.2 })]
      intro task same
      have own : task.id ≠ id := fun own => ne (same.symm.trans own)
      have own' : ({ task with promise := some promise.read.2 } : Task ν).id ≠ id := own
      rw [Task.amend_of_ne own, Task.amend_of_ne own']

@[simp] theorem dropped_amend : (b.amend id f).dropped = b.dropped := by
  simp only [dropped, amend, List.filter_map, List.map_map]
  rfl

@[simp] theorem reset_amend : (b.amend id f).reset = b.reset.amend id f := by
  have keys : (b.tasks.map (·.amend id f)).filterMap (·.droppedKey?) =
      b.tasks.filterMap (·.droppedKey?) := List.filterMap_map ..
  have each : (b.tasks.map (·.amend id f)).map (·.reset) =
      (b.tasks.map (·.reset)).map (·.amend id f) := by
    rw [List.map_map, List.map_map]
    exact List.map_congr_left fun task _ => task.reset_amend
  simp only [reset, amend, keys, each]

@[simp] theorem check_amend (now deadline : Instant) :
    (b.amend id f).check now deadline = (b.check now deadline).amend id f := by
  unfold check
  rw [reset_amend, dropped_amend, outstanding_amend, config_amend]
  split
  · rfl
  · split <;> rfl

end Barrier

/-! ## Schedulers -/

/-- Puts something else in the place of what a task has promised. -/
def Scheduler.amend (id : TaskId) (f : Option (Promise ν) → Option (Promise ν))
    (s : Scheduler ν) : Scheduler ν :=
  { s with barrier := s.barrier.amend id f }

/-- What a step leaves behind, with something else in the place of what a task has promised. -/
def Turn.amend (id : TaskId) (f : Option (Promise ν) → Option (Promise ν)) (turn : Turn ν) :
    Turn ν :=
  { turn with scheduler := turn.scheduler.amend id f }

/-- Whether somebody reads the value of the task. -/
def Move.reads (id : TaskId) : Move ν → Bool
  | request (.read task) => task == id
  | _ => false

/-- Whether the promise of the task is settled. -/
def Deed.settles (id : TaskId) : Deed → Bool
  | leave task | discard task => task == id
  | _ => false

namespace Scheduler

variable (s : Scheduler ν) (thread : ThreadId)

@[simp] theorem barrier_amend : (s.amend id f).barrier = s.barrier.amend id f := rfl

@[simp] theorem stack_amend : (s.amend id f).stack thread = s.stack thread := rfl

@[simp] theorem isAlive_amend : (s.amend id f).isAlive = s.isAlive := rfl

@[simp] theorem lock_amend : (s.amend id f).lock = s.lock := rfl

@[simp] theorem isUserCode_amend : (s.amend id f).isUserCode thread = s.isUserCode thread := rfl

@[simp] theorem timer?_amend : (s.amend id f).timer? = s.timer? := rfl

@[simp] theorem turn_amend (barrier : Barrier ν) (stack : Stack ν) (signal : Signal ν)
    (events : List Event) : (s.amend id f).turn (barrier.amend id f) thread stack signal events =
      (s.turn barrier thread stack signal events).amend id f := rfl

/-! ### Requests -/

theorem requestAccept_amend (drawn : s.barrier.nextId ≠ id) (now : Instant) (delay : Duration)
    (cadence : Cadence) (produces : Bool) :
    (s.amend id f).requestAccept thread now delay cadence produces =
      (s.requestAccept thread now delay cadence produces).amend id f := by
  unfold requestAccept
  rw [barrier_amend, Barrier.accept_amend _ drawn]
  simp only [Section.amend]
  cases (s.barrier.accept now delay cadence produces).answer with
  | accepted | unwound => rfl
  | refused =>
      simp only
      split <;> rfl

theorem requestFire_amend (key : TimerKey) :
    (s.amend id f).requestFire thread key = (s.requestFire thread key).amend id f := by
  unfold requestFire
  rw [barrier_amend, Barrier.facility_amend]
  split
  · rfl
  · split <;> rfl

theorem requestCancel_amend (task : TaskId) :
    (s.amend id f).requestCancel thread task = (s.requestCancel thread task).amend id f := by
  unfold requestCancel
  rw [barrier_amend, Barrier.cancel_amend]
  rfl

theorem requestRead_amend {task : TaskId} (ne : task ≠ id) :
    (s.amend id f).requestRead thread task = (s.requestRead thread task).amend id f := by
  unfold requestRead
  rw [barrier_amend, Barrier.readValue_amend _ ne]
  rfl

theorem whileOwned_amend (turn : Turn ν) :
    (s.amend id f).whileOwned (turn.amend id f) = (s.whileOwned turn).map (·.amend id f) := by
  unfold whileOwned
  cases dropped : s.dropped <;> simp [amend, dropped]

theorem request_amend (drawn : s.barrier.nextId ≠ id) (now : Instant) {request : Request}
    (unread : request ≠ .read id) : (s.amend id f).request thread now request =
      (s.request thread now request).map (·.amend id f) := by
  unfold Scheduler.request
  rw [isUserCode_amend]
  split
  · rfl
  · cases request with
    | accept delay cadence produces =>
        simp only [s.requestAccept_amend thread drawn, whileOwned_amend]
    | fire key => exact congrArg some (s.requestFire_amend thread key)
    | call task => rfl
    | cancel handle =>
        have number : (s.amend id f).number = s.number := rfl
        have refused : (s.amend id f).refuse = s.refuse.amend id f := rfl
        simp only [number, s.requestCancel_amend, refused, ← apply_ite, whileOwned_amend]
    | cancelByHandle task =>
        have refused : (s.amend id f).refuse = s.refuse.amend id f := rfl
        simp only [isAlive_amend, s.requestCancel_amend, refused, ← apply_ite, Option.map_some]
    | await manner => exact s.whileOwned_amend (s.requestAwait thread now manner)
    | read task =>
        have ne : task ≠ id := fun same => unread (same ▸ rfl)
        exact congrArg some (s.requestRead_amend thread ne)
    | shutdown => exact s.whileOwned_amend (s.requestShutdown thread)
    | drop => exact s.whileOwned_amend ({ s with dropped := true }.requestShutdown thread)

/-! ### Bodies and frames -/

theorem endBody_amend (how : BodyEnd ν)
    (apart : ∀ rest, s.stack thread = .run id .executing :: rest → Settles f) :
    (s.amend id f).endBody thread how = (s.endBody thread how).map (·.amend id f) := by
  unfold endBody
  rw [stack_amend]
  split
  · next task rest top =>
    have settles : task = id → Settles f := fun same => apart rest (same ▸ top)
    simp only [barrier_amend, Barrier.leaveBody_amend _ settles]
    rfl
  · rfl

theorem proceedDeciding_amend (task : TaskId) (rest : Stack ν) :
    (s.amend id f).proceedDeciding thread task rest =
      (s.proceedDeciding thread task rest).amend id f := by
  unfold proceedDeciding
  rw [barrier_amend, Barrier.fire_amend]
  rfl

theorem proceedStarting_amend (task : TaskId) (replayed : Bool) (rest : Stack ν) :
    (s.amend id f).proceedStarting thread task replayed rest =
      (s.proceedStarting thread task replayed rest).map (·.amend id f) := by
  unfold proceedStarting
  rw [barrier_amend, Barrier.enterBody?_amend]
  cases s.barrier.enterBody? task with
  | none => rfl
  | some entry =>
      obtain ⟨executes, barrier⟩ := entry
      cases executes <;> rfl

theorem proceedFinishing_amend (task : TaskId) (rest : Stack ν) :
    (s.amend id f).proceedFinishing thread task rest =
      (s.proceedFinishing thread task rest).amend id f := by
  unfold proceedFinishing
  rw [barrier_amend, Barrier.finish_amend]
  rfl

theorem proceedReplaying_amend (now start : Instant) (manner : Manner) (rest : Stack ν) :
    (s.amend id f).proceedReplaying thread now start manner rest =
      (s.proceedReplaying thread now start manner rest).amend id f := by
  unfold proceedReplaying
  rw [barrier_amend, Barrier.popHeld_amend]
  rfl

theorem proceedWaiting_amend (now start : Instant) (manner : Manner) (deadline : Instant)
    (rest : Stack ν) : (s.amend id f).proceedWaiting thread now start manner deadline rest =
      (s.proceedWaiting thread now start manner deadline rest).amend id f := by
  unfold proceedWaiting
  rw [barrier_amend, Barrier.check_amend]
  rfl

theorem proceedRaising_amend (panic : Panic) (rest : Stack ν) :
    (s.amend id f).proceedRaising thread panic rest =
      (s.proceedRaising thread panic rest).amend id f := by
  unfold proceedRaising
  cases rest with
  | nil =>
      have key : (s.amend id f).firingKey? thread = s.firingKey? thread := rfl
      simp only [key]
      split <;> rfl
  | cons frame below =>
      cases frame with
      | awaiting =>
          simp only [barrier_amend, Barrier.reset_amend, Barrier.dropped_amend, turn_amend]
      | answering | deciding | run | dropping | discarding | settling | guarding | refusing
      | joining | raising => rfl

theorem proceedGuarding_amend (rest : Stack ν) :
    (s.amend id f).proceedGuarding thread rest = (s.proceedGuarding thread rest).amend id f := by
  unfold proceedGuarding
  rw [barrier_amend, Barrier.reset_amend, Barrier.dropped_amend, turn_amend]

theorem proceedDiscarding_amend (tasks : List TaskId) (rest : Stack ν)
    (apart : ∀ others, tasks = id :: others → Settles f) :
    (s.amend id f).proceedDiscarding thread tasks rest =
      (s.proceedDiscarding thread tasks rest).map (·.amend id f) := by
  unfold proceedDiscarding
  cases tasks with
  | nil => rfl
  | cons task others =>
      have settles : task = id → Settles f := fun same => apart others (same ▸ rfl)
      simp only [barrier_amend, Barrier.discard?_amend _ settles, Option.map_map]
      rfl

theorem proceedJoining_amend (rest : Stack ν) : (s.amend id f).proceedJoining thread rest =
    (s.proceedJoining thread rest).map (·.amend id f) := by
  unfold proceedJoining
  rw [timer?_amend]
  cases s.timer? with
  | none => rfl
  | some timer =>
      simp only
      cases timer.worker <;> rfl

theorem proceed_amend (now : Instant)
    (apart : ∀ others rest, s.stack thread = .discarding (id :: others) :: rest → Settles f) :
    (s.amend id f).proceed thread now = (s.proceed thread now).map (·.amend id f) := by
  unfold proceed
  rw [stack_amend]
  cases top : s.stack thread with
  | nil => rfl
  | cons frame rest =>
      cases frame with
      | deciding task => exact congrArg some (s.proceedDeciding_amend thread task rest)
      | run task stage =>
          cases stage with
          | starting replayed => exact s.proceedStarting_amend thread task replayed rest
          | executing => rfl
          | finishing => exact congrArg some (s.proceedFinishing_amend thread task rest)
      | awaiting start manner stage =>
          cases stage with
          | replaying =>
              exact congrArg some (s.proceedReplaying_amend thread now start manner rest)
          | waiting deadline wake =>
              exact congrArg some (s.proceedWaiting_amend thread now start manner deadline rest)
      | dropping | settling | refusing | answering => rfl
      | guarding => exact congrArg some (s.proceedGuarding_amend thread rest)
      | discarding tasks =>
          refine s.proceedDiscarding_amend thread tasks rest fun others same => ?_
          exact apart others rest (top.trans (same ▸ rfl))
      | joining => exact s.proceedJoining_amend thread rest
      | raising panic => exact congrArg some (s.proceedRaising_amend thread panic rest)

theorem work_amend (now : Instant) :
    (s.amend id f).work thread now = (s.work thread now).map (·.amend id f) := by
  have worker : (s.amend id f).worker = s.worker := rfl
  unfold work
  rw [timer?_amend, stack_amend, worker]
  cases s.timer? with
  | none => rfl
  | some timer =>
      cases s.stack thread with
      | cons => rfl
      | nil =>
          simp only
          split
          · rfl
          · cases timer.worker with
            | exited | died | firing => rfl
            | idle =>
                simp only
                split <;> rfl

theorem takesLock_amend (move : Move ν) :
    (s.amend id f).takesLock thread move = s.takesLock thread move := by
  cases move with
  | request request => cases request <;> rfl
  | endBody | proceed | work => rfl

theorem attempt_amend (drawn : s.barrier.nextId ≠ id) (now : Instant) {move : Move ν}
    (unread : move.reads id = false)
    (apart : (s.deed thread now move).settles id = true → Settles f) :
    (s.amend id f).attempt thread now move = (s.attempt thread now move).map (·.amend id f) := by
  cases move with
  | request request =>
      refine s.request_amend thread drawn now fun reads => ?_
      simp [reads, Move.reads] at unread
  | endBody how =>
      refine s.endBody_amend thread how fun rest top => apart ?_
      simp [deed, top, Deed.settles]
  | proceed =>
      refine s.proceed_amend thread now fun others rest top => apart ?_
      simp [deed, frameDeed, top, Deed.settles]
  | work => exact s.work_amend thread now

/-- **A step does the same**, whatever has been promised: it can be made before and after a promise
is amended, and leaves the same behind but for the promise. -/
theorem step_amend (drawn : s.barrier.nextId ≠ id) (now : Instant) {move : Move ν}
    (unread : move.reads id = false)
    (apart : (s.deed thread now move).settles id = true → Settles f) :
    (s.amend id f).step thread now move = (s.step thread now move).map (·.amend id f) := by
  unfold step
  rw [lock_amend, takesLock_amend]
  split
  · rfl
  · exact s.attempt_amend thread drawn now unread apart

/-- A step is the same deed, whatever has been promised. -/
theorem deed_amend (drawn : s.barrier.nextId ≠ id) (now : Instant) (move : Move ν) :
    (s.amend id f).deed thread now move = s.deed thread now move := by
  cases move with
  | request request =>
      cases request with
      | accept delay cadence produces =>
          simp only [deed, requestDeed, barrier_amend, Barrier.accept_amend _ drawn]
          rfl
      | cancel handle =>
          simp only [deed, requestDeed, barrier_amend, Barrier.cancel_amend]
          rfl
      | cancelByHandle task =>
          simp only [deed, requestDeed, barrier_amend, Barrier.cancel_amend, isAlive_amend]
          rfl
      | fire | call | await | read | shutdown | drop => rfl
  | endBody how => rfl
  | proceed =>
      simp only [deed, stack_amend]
      cases s.stack thread with
      | nil => rfl
      | cons frame rest =>
          cases frame with
          | deciding task =>
              simp only [frameDeed, barrier_amend, Barrier.fire_amend]
              rfl
          | run task stage =>
              cases stage with
              | starting replayed =>
                  simp only [frameDeed, barrier_amend, Barrier.enterBody?_amend]
                  cases s.barrier.enterBody? task <;> rfl
              | executing | finishing => rfl
          | awaiting start manner stage =>
              cases stage with
              | replaying =>
                  simp only [frameDeed, barrier_amend, Barrier.popHeld_amend]
                  rfl
              | waiting deadline wake =>
                  simp only [frameDeed, barrier_amend, Barrier.check_amend]
                  rfl
          | raising panic =>
              cases rest with
              | nil => rfl
              | cons below rest => cases below <;> simp [frameDeed]
          | discarding tasks => cases tasks <;> rfl
          | guarding => simp only [frameDeed, barrier_amend, Barrier.dropped_amend]
          | dropping | settling | refusing | joining | answering => rfl
  | work => rfl

end Scheduler

/-! ## Whole paths -/

/-- A step, with something else in the place of what a task has promised. -/
def Stride.amend (id : TaskId) (f : Option (Promise ν) → Option (Promise ν)) (stride : Stride ν) :
    Stride ν :=
  { stride with before := stride.before.amend id f, turn := stride.turn.amend id f }

/-- Numbers of tasks are drawn in ascending order. -/
theorem Scheduler.drawn_of_step {s : Scheduler ν} {thread : ThreadId} {now : Instant}
    {move : Move ν} {turn : Turn ν} (taken : s.step thread now move = some turn)
    (drawn : id.number < s.barrier.nextId.number) :
    id.number < turn.scheduler.barrier.nextId.number :=
  Nat.lt_of_lt_of_le drawn (follows_of_step taken).transition.nextId_le

/-- A number that has been drawn is not the next one. -/
theorem Scheduler.nextId_ne {s : Scheduler ν} (drawn : id.number < s.barrier.nextId.number) :
    s.barrier.nextId ≠ id :=
  fun same => Nat.lt_irrefl _ (same ▸ drawn)

/-- **Moves that do not read a promise do the same**, whatever has been promised: the same moves can
be made before and after a promise is amended, with the same answers and the same events. -/
theorem Scheduler.play_amend {s : Scheduler ν} (drawn : id.number < s.barrier.nextId.number)
    (settles : Settles f) {moves : List (ThreadId × Instant × Move ν)}
    (unread : ∀ entry ∈ moves, entry.2.2.reads id = false) :
    (s.amend id f).play moves =
      (s.play moves).map fun (later, last) => (later.map (·.amend id f), last.amend id f) := by
  induction moves generalizing s with
  | nil => rfl
  | cons entry moves ih =>
      obtain ⟨thread, now, move⟩ := entry
      obtain ⟨unread, others⟩ := List.forall_mem_cons.mp unread
      unfold play
      rw [s.step_amend thread (nextId_ne drawn) now unread fun _ => settles]
      cases taken : s.step thread now move with
      | none => rfl
      | some turn =>
          have rest := ih (drawn_of_step taken drawn) others
          simp only [Option.map_some]
          rw [show (turn.amend id f).scheduler = turn.scheduler.amend id f from rfl, rest]
          cases turn.scheduler.play moves with
          | none => rfl
          | some played => simp [Stride.amend]

/-- **A path consists of the same deeds**, whatever has been promised. -/
theorem Path.tally_amend {origin s : Scheduler ν} {later : History ν}
    (path : Path origin later s) (drawn : id.number < origin.barrier.nextId.number)
    (which : Deed → Bool) :
    History.tally (later.map (·.amend id f)) which = later.tally which := by
  suffices holds : id.number < s.barrier.nextId.number ∧
      History.tally (later.map (·.amend id f)) which = later.tally which from holds.2
  induction path with
  | start => exact ⟨drawn, rfl⟩
  | @step _ s thread now move turn _ taken ih =>
      obtain ⟨drawn, same⟩ := ih
      refine ⟨Scheduler.drawn_of_step taken drawn, ?_⟩
      have deed : (Stride.amend id f ⟨s, thread, now, move, turn⟩).deed =
          Stride.deed ⟨s, thread, now, move, turn⟩ :=
        s.deed_amend thread (Scheduler.nextId_ne drawn) now move
      rw [List.map_cons, History.tally_cons, History.tally_cons, same, deed]

end TaskBarrier
