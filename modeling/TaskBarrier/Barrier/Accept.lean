import TaskBarrier.Barrier.Basic

/-!
# Accepting a task

A task is accepted by drawing a number for it and arming an entry that fires it.  Three things can
go wrong, and none of them leaves anything behind but used-up numbers.

* A periodic task with a period of zero is refused before the lock is taken.
* The facility has been shut down.
* The first due time overflows, and the call unwinds out of the section.

## Main Definitions

- `Acceptance`: the answer.
- `Barrier.accept`: the section.
-/

namespace TaskBarrier

/-- The answer to somebody who hands in a task. -/
inductive Acceptance where
  /-- The task is accepted under the given number. -/
  | accepted (id : TaskId)
  /-- The task is refused. -/
  | refused (failure : Failure)
  /-- The call unwinds. -/
  | unwound (panic : Panic)
  deriving DecidableEq

namespace Barrier

variable {ν : Type}

/-- Accepts a task that fires `delay` after `now` and then as `cadence` says.  `produces` tells
whether it is to produce a value. -/
def accept (b : Barrier ν) (now : Instant) (delay : Duration) (cadence : Cadence)
    (produces : Bool) : Section ν Acceptance :=
  if cadence.isDegenerate then ⟨.refused .zeroPeriod, b, []⟩
  else
    let id := b.nextId
    let (arming, facility) := b.facility.arm now delay cadence id
    let drawn := { b with facility := facility, nextId := id.next }
    match arming with
    | .refused => ⟨.refused .shutdown, drawn, []⟩
    | .overflow => ⟨.unwound .instantOverflow, drawn, []⟩
    | .armed key =>
        { answer := .accepted id
          barrier := { drawn with
            tasks := b.tasks ++ [.accepted id cadence.isPeriodic key produces]
            outstanding := b.outstanding + 1 }
          events := [.accepted id delay cadence] }

theorem accept_of_isDegenerate (b : Barrier ν) (now : Instant) (delay : Duration)
    {cadence : Cadence} (degenerate : cadence.isDegenerate = true) (produces : Bool) :
    b.accept now delay cadence produces = ⟨.refused .zeroPeriod, b, []⟩ := by
  simp [accept, degenerate]

end Barrier

end TaskBarrier
