import TaskBarrier.Barrier.Promise
import TaskBarrier.Identifier
import TaskBarrier.Phase

/-!
# Tasks

A `Task` is the record of one piece of work from its acceptance on.  It is never forgotten: whoever
holds a handle can ask for the phase of a task long after its end.  What a task *takes up in the
barrier* is its `Slot`, which it has from its acceptance to its end.

The body of a task is guarded by a lock of its own, held while the body is executed.  A one-shot
body is used up by being executed, and any body by being discarded.

## Main Definitions

- `Slot`, `Body`, `Task`, `Task.accepted`.
- `Task.isCounted`: whether the task contributes to the number of outstanding tasks.
- `Task.retire`: the end of a task.
- `Task.enter?`, `Task.leave`, `Task.discard`: what happens to the body.
-/

namespace TaskBarrier

/-- What a task takes up in the barrier. -/
structure Slot where
  /-- The entry that fires the task. -/
  key : TimerKey
  /-- Whether the task contributes to the number of outstanding tasks. -/
  counted : Bool
  /-- Whether a periodic task was cancelled during a run and ends with it. -/
  doomed : Bool
  deriving DecidableEq

/-- What is left of the body of a task. -/
inductive Body where
  /-- Can be executed once. -/
  | once
  /-- Can be executed any number of times. -/
  | repeating
  /-- Has been used up or thrown away. -/
  | spent
  deriving DecidableEq

/-- The record of one task.  `ν` is the type of the values that tasks produce. -/
structure Task (ν : Type) where
  id : TaskId
  periodic : Bool
  phase : Phase
  /-- Present from the acceptance of the task to its end. -/
  slot : Option Slot
  body : Body
  /-- Whether the lock of the body is held because the body is being executed. -/
  executing : Bool
  /-- The promise of a task that produces a value. -/
  promise : Option (Promise ν)

namespace Task

variable {ν : Type}

/-- A task that has just been accepted: live, counted, and fired by the entry `key`. -/
def accepted (id : TaskId) (periodic : Bool) (key : TimerKey) (produces : Bool) : Task ν where
  id := id
  periodic := periodic
  phase := .live
  slot := some ⟨key, true, false⟩
  body := if periodic then .repeating else .once
  executing := false
  promise := if produces then some .pending else none

/-- Whether the task contributes to the number of outstanding tasks. -/
def isCounted (task : Task ν) : Bool := task.slot.any (·.counted)

/-- Whether the task ends with the run in progress. -/
def isDoomed (task : Task ν) : Bool := task.slot.any (·.doomed)

/-- Sets whether the task is counted. -/
def setCounted (task : Task ν) (counted : Bool) : Task ν :=
  { task with slot := task.slot.map ({ · with counted := counted }) }

/-- Moves the task to another phase. -/
def setPhase (task : Task ν) (phase : Phase) : Task ν := { task with phase := phase }

/-- Marks the task to end with the run in progress. -/
def doom (task : Task ν) : Task ν :=
  { task with slot := task.slot.map ({ · with doomed := true }) }

/-- Ends the task in a phase that it never leaves. -/
def retire (task : Task ν) (phase : Phase) : Task ν := { task with phase := phase, slot := none }

/-- Starts executing the body: whether there is anything to execute, and the task with its body
locked.  There is no answer while the body is being executed. -/
def enter? (task : Task ν) : Option (Bool × Task ν) :=
  if task.executing then none
  else
    match task.body with
    | .spent => some (false, task)
    | .once => some (true, { task with body := .spent, executing := true })
    | .repeating => some (true, { task with executing := true })

/-- The body has ended, with a value or without one: its lock is free again, and the promise is
settled if the body was the producer of a value. -/
def leave (task : Task ν) (result : Option ν) : Task ν :=
  { task with executing := false, promise := task.promise.map (·.settle result) }

/-- Throws the body away, and with it the producer of a value. -/
def discard (task : Task ν) : Task ν :=
  match task.body with
  | .spent => task
  | .once | .repeating =>
      { task with body := .spent, promise := task.promise.map (·.settle none) }

@[simp] theorem isCounted_accepted (id : TaskId) (periodic : Bool) (key : TimerKey)
    (produces : Bool) : (accepted id periodic key produces : Task ν).isCounted = true := rfl

@[simp] theorem isCounted_retire (task : Task ν) (phase : Phase) :
    (task.retire phase).isCounted = false := rfl

@[simp] theorem isCounted_setPhase (task : Task ν) (phase : Phase) :
    (task.setPhase phase).isCounted = task.isCounted := rfl

@[simp] theorem isCounted_discard (task : Task ν) : task.discard.isCounted = task.isCounted := by
  cases task with
  | mk id periodic phase slot body executing promise => cases body <;> rfl

end Task

end TaskBarrier
