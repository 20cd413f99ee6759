import TaskBarrier.Barrier.Basic

/-!
# Awaiting

An await lets tasks run from its first section on.  It replays the hold queue, and then looks
again and again whether anything is outstanding, until nothing is or the deadline has come.  The
section that sees the end also *resets* the barrier, so that nothing can be accepted in between
and be lost.

A reset ends the cycle.  Tasks that are running go on, but no longer count.  Periodic tasks stay
armed and are live.  One-shot tasks that have not started are dropped: a live one is disarmed, a
held one was disarmed by its own firing.

## Main Definitions

- `Barrier.beginAwait`: the first section.
- `Barrier.reset`: the end of a cycle.
- `Check`, `Barrier.check`: one look of a waiting await.

### design decisions

* Each look is given its own reading of the clock.  How long the waiter sleeps between two looks,
  and whether it is woken early, is not decided here.
-/

namespace TaskBarrier

/-- What a waiting await sees. -/
inductive Check where
  /-- Nothing is outstanding.  The bodies of the dropped tasks have to be thrown away. -/
  | settled (dropped : List TaskId)
  /-- The deadline has come with tasks outstanding, and the bodies of the dropped ones have to be
  thrown away. -/
  | timedOut (remaining : Nat) (budget : Duration) (dropped : List TaskId)
  /-- The await goes on waiting, no longer than the given time. -/
  | wait (time : Duration)
  deriving DecidableEq

namespace Task

variable {ν : Type}

/-- Whether a reset drops the task. -/
def isDropped (task : Task ν) : Bool :=
  task.slot.isSome &&
    match task.phase with
    | .live | .held => !task.periodic
    | .running => false
    | .ran | .cancelled => true

/-- The entry that a reset has to disarm for the task: that of a dropped task which has not
fired. -/
def droppedKey? (task : Task ν) : Option TimerKey :=
  if task.isDropped && task.phase == .live then task.slot.map (·.key) else none

/-- What a reset makes of a task. -/
def reset (task : Task ν) : Task ν :=
  if task.isDropped then task.retire .cancelled
  else
    match task.slot, task.phase with
    | some _, .held => (task.setCounted false).setPhase .live
    | _, _ => task.setCounted false

end Task

namespace Barrier

variable {ν : Type}

/-- An await begins: from now on, what fires may run. -/
def beginAwait (b : Barrier ν) : Section ν Unit :=
  ⟨(), { b with draining := true }, [.awaiting b.outstanding b.held.length]⟩

/-- The tasks that a reset drops. -/
def dropped (b : Barrier ν) : List TaskId := (b.tasks.filter (·.isDropped)).map (·.id)

/-- Ends a cycle. -/
def reset (b : Barrier ν) : Barrier ν :=
  { b with
    draining := false
    outstanding := 0
    held := []
    facility := (b.tasks.filterMap (·.droppedKey?)).foldl Facility.disarm b.facility
    tasks := b.tasks.map (·.reset) }

/-- An await looks whether it has come to its end, at the reading `now`. -/
def check (b : Barrier ν) (now deadline : Instant) : Section ν Check :=
  if b.outstanding = 0 then ⟨.settled b.dropped, b.reset, []⟩
  else if now.reached deadline then
    let budget := b.config.awaitBudget
    ⟨.timedOut b.outstanding budget b.dropped, b.reset, [.exceededBudget b.outstanding budget]⟩
  else ⟨.wait (b.config.pollInterval.shorter (deadline.since now)), b, []⟩

@[simp] theorem outstanding_reset (b : Barrier ν) : b.reset.outstanding = 0 := rfl

@[simp] theorem held_reset (b : Barrier ν) : b.reset.held = [] := rfl

@[simp] theorem draining_reset (b : Barrier ν) : b.reset.draining = false := rfl

end Barrier

end TaskBarrier
