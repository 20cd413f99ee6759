import TaskBarrier.Barrier.Promise
import TaskBarrier.Failure
import TaskBarrier.Identifier
import TaskBarrier.Time.Instant

/-!
# What a thread is doing inside a scheduler

A call into a scheduler is a series of critical sections with steps outside of the lock between
them, and it may run bodies, which call into the scheduler again.  What is left to do on a thread
is a stack of *frames*, the innermost first.  The frame on top determines the next step, except
where it is user code that comes next: on an empty stack, and on a body that is being executed.

A call that fires or awaits can be left by a panic.  Then a frame that *raises* the panic stands
on top, and the frames below are left one after the other, each doing on its way out what it owes:
a run is finished, an await resets the barrier.

An await owes that reset to a *guard*, which looks only whether a panic is on its way through the
thread.  An await can be called while that is so, by code that cleans up.  Its guard then resets the
barrier once more when the await comes to a regular end.

## Main Definitions

- `Answer`: what a call returns.
- `Manner`: how an await is called.
- `RunStage`, `AwaitStage`, `Frame`.
- `Manner.succeeding`, `Manner.failing`: what is left to do when an await comes to a regular end.
- `Stack`, `Stacks`: the frames of one thread and of all threads.

### design decisions

* Whether a panic is on its way through a thread is said with the call of an await, since nothing
  else depends on it.
* A body that is refused under the lock is thrown away there.  A request of its destructor gets no
  turn: one that needs the lock waits for it in vain, and any other is not part of this model, nor
  is a destructor that panics.  All other bodies are thrown away outside of the lock, and their
  destructors ask for nothing and return.
-/

namespace TaskBarrier

/-- What a call into a scheduler returns. -/
inductive Answer (ν : Type) where
  /-- Nothing worth telling. -/
  | nothing
  | flag (value : Bool)
  | accepted (id : TaskId)
  | failed (failure : Failure)
  /-- An await found everything finished. -/
  | settled
  | reading (reading : Reading ν)

/-- How an await is called. -/
structure Manner where
  /-- A strict await panics where another one fails. -/
  strict : Bool
  /-- A panic is on its way through the thread when the call is made. -/
  unwinding : Bool
  deriving DecidableEq

/-- How far the run of a body has come. -/
inductive RunStage where
  /-- The run has been decided upon: `replayed` tells whether by an await or by a firing. -/
  | starting (replayed : Bool)
  /-- The body is being executed: user code comes next. -/
  | executing
  /-- The body has ended; the task has to be finished. -/
  | finishing
  deriving DecidableEq

/-- How far an await has come. -/
inductive AwaitStage where
  /-- Replaying the hold queue. -/
  | replaying
  /-- Waiting until `deadline`; the waiter means to look again at `wake`. -/
  | waiting (deadline wake : Instant)
  deriving DecidableEq

/-- One thing that is left to do on a thread. -/
inductive Frame (ν : Type) where
  /-- The callback of the task has been called; the barrier has to decide. -/
  | deciding (task : TaskId)
  /-- A run of the task. -/
  | run (task : TaskId) (stage : RunStage)
  /-- An await that began at `start`. -/
  | awaiting (start : Instant) (manner : Manner) (stage : AwaitStage)
  /-- The bodies of these tasks have to be thrown away, after it has been announced how many. -/
  | dropping (tasks : List TaskId)
  /-- The bodies of these tasks have to be thrown away. -/
  | discarding (tasks : List TaskId)
  /-- An await has succeeded, which has to be logged. -/
  | settling
  /-- An await has come to a regular end on a thread that a panic is on its way through, and its
  guard has to reset the barrier. -/
  | guarding
  /-- A task has been refused, and its body is thrown away while the thread holds the lock. -/
  | refusing
  /-- A shutdown waits for the worker of the timer. -/
  | joining
  /-- The call returns. -/
  | answering (answer : Answer ν)
  /-- A panic leaves the frames below. -/
  | raising (panic : Panic)

/-- What is left to do on one thread, the innermost frame first. -/
abbrev Stack (ν : Type) := List (Frame ν)

namespace Frame

variable {ν : Type}

/-- Whether the frame keeps the state of the scheduler alive after the scheduler itself has been
dropped.  Calls in progress do; one that only has to return does not. -/
def keepsAlive : Frame ν → Bool
  | deciding _ | run _ _ | awaiting _ _ _ | dropping _ | discarding _ | settling | guarding
  | refusing | joining => true
  | answering _ | raising _ => false

end Frame

namespace Manner

variable {ν : Type}

/-- An await that tells of its failure, called while no panic is on its way. -/
def plain : Manner := ⟨false, false⟩

/-- What is left to do when an await succeeds. -/
def succeeding (manner : Manner) : Stack ν :=
  if manner.unwinding then [.settling, .guarding, .answering .settled] else [.settling]

/-- What is left to do when an await fails because its deadline has come. -/
def failing (manner : Manner) (failure : Failure) : Stack ν :=
  let last : Frame ν :=
    if manner.strict then .raising (.ofFailure failure) else .answering (.failed failure)
  if manner.unwinding then [.guarding, last] else [last]

end Manner

/-- A number that tells threads apart. -/
abbrev ThreadId := Nat

/-- The stacks of all threads: the calls in progress.  A thread without an entry has nothing to
do. -/
structure Stacks (ν : Type) where
  entries : List (ThreadId × Stack ν)

namespace Stacks

variable {ν : Type}

/-- No thread has anything to do. -/
def empty : Stacks ν := ⟨[]⟩

/-- The stack of a thread. -/
def get (calls : Stacks ν) (thread : ThreadId) : Stack ν :=
  match calls.entries.find? (·.1 == thread) with
  | some (_, stack) => stack
  | none => []

/-- Replaces the stack of a thread. -/
def set (calls : Stacks ν) (thread : ThreadId) (stack : Stack ν) : Stacks ν :=
  ⟨(thread, stack) :: calls.entries.filter (·.1 != thread)⟩

/-- Whether a frame of any thread keeps the state of the scheduler alive. -/
def keepAlive (calls : Stacks ν) : Bool := calls.entries.any fun (_, stack) =>
  stack.any (·.keepsAlive)

@[simp] theorem get_empty (thread : ThreadId) : (empty : Stacks ν).get thread = [] := rfl

@[simp] theorem get_set_self (calls : Stacks ν) (thread : ThreadId) (stack : Stack ν) :
    (calls.set thread stack).get thread = stack := by
  simp [get, set]

theorem get_set_of_ne (calls : Stacks ν) {thread other : ThreadId} (stack : Stack ν)
    (ne : other ≠ thread) : (calls.set thread stack).get other = calls.get other := by
  have skipped : (calls.entries.filter (·.1 != thread)).find? (·.1 == other)
      = calls.entries.find? (·.1 == other) := by
    induction calls.entries with
    | nil => rfl
    | cons head rest ih =>
        by_cases at_thread : head.1 = thread
        · have not_other : head.1 ≠ other := fun h => ne (h.symm.trans at_thread)
          simp_all
        · by_cases at_other : head.1 = other <;> simp_all
  simp [get, set, Ne.symm ne, skipped]

end Stacks

end TaskBarrier
