import TaskBarrier.Barrier.Basic

/-!
# Cancelling a task

A task that has not started is taken out of the barrier and out of the facility, and its body is
thrown away.  A periodic task that is running is *doomed*: it fires no more and ends with the run
in progress, which goes on undisturbed and stays counted.  In all other cases a cancel is too late.

## Main Definitions

- `Cancellation`: the answer.
- `Barrier.cancel`: the section.
-/

namespace TaskBarrier

/-- The answer to a cancel. -/
inductive Cancellation where
  /-- The task has started or ended. -/
  | tooLate
  /-- The task ends with the run in progress. -/
  | doomed
  /-- The task has ended; its body has to be thrown away. -/
  | cancelled
  deriving DecidableEq

namespace Cancellation

/-- Whether the caller is told that the task has been cancelled. -/
def succeeded : Cancellation → Bool
  | tooLate => false
  | doomed | cancelled => true

end Cancellation

namespace Barrier

variable {ν : Type}

/-- The entry of a task is removed from the facility. -/
def disarm (b : Barrier ν) (key : TimerKey) : Barrier ν :=
  { b with facility := b.facility.disarm key }

/-- A task leaves the hold queue. -/
def unhold (b : Barrier ν) (id : TaskId) : Barrier ν :=
  { b with held := b.held.filter (· != id) }

/-- A task that has not started ends without having been executed again. -/
def withdraw (b : Barrier ν) (id : TaskId) : Section ν Cancellation :=
  let uncounted := b.uncount id
  ⟨.cancelled, uncounted.modify id (·.retire .cancelled), [.cancelled id uncounted.outstanding]⟩

/-- Cancels a task. -/
def cancel (b : Barrier ν) (id : TaskId) : Section ν Cancellation :=
  match b.slotted? id with
  | none => ⟨.tooLate, b, [.cancelTooLate id]⟩
  | some (task, slot) =>
      match task.phase with
      | .live => (b.disarm slot.key).withdraw id
      | .held => ((b.disarm slot.key).unhold id).withdraw id
      | .running =>
          if task.periodic && !slot.doomed then
            ⟨.doomed, (b.disarm slot.key).modify id (·.doom), [.cancelledWhileRunning id]⟩
          else ⟨.tooLate, b, [.cancelTooLate id]⟩
      | .ran | .cancelled => ⟨.tooLate, b, [.cancelTooLate id]⟩

theorem cancel_of_slotted?_eq_none {b : Barrier ν} {id : TaskId} (gone : b.slotted? id = none) :
    b.cancel id = ⟨.tooLate, b, [.cancelTooLate id]⟩ := by
  simp [cancel, gone]

end Barrier

end TaskBarrier
