import TaskBarrier.Barrier.Basic
import TaskBarrier.Scheduler.Frame
import TaskBarrier.Timer.Worker

/-!
# Schedulers

A scheduler is a barrier with threads at work in it.  Its owner can drop it, which shuts its
facility down.  What the lock guards lives on for as long as a call is in progress: a handle of a
task refers to it weakly, so it can still act on a dropped scheduler while some thread executes a
body that was fired earlier.

A critical section is one step, and so the lock is free between two steps.  There is one exception.
The body of a task that is refused is thrown away under the lock, and its destructor is code of the
user.  Until it comes to its end the thread holds the lock.

## Main Definitions

- `Handle`: a reference to a task that names the scheduler the task belongs to.
- `Scheduler`, `Scheduler.start`.
- `Scheduler.isAlive`: whether weak references still lead anywhere.
- `Signal`, `Turn`: what one step of one thread leaves behind.
-/

namespace TaskBarrier

/-- A reference to a task. -/
structure Handle where
  /-- The number of the scheduler that accepted the task. -/
  scheduler : Nat
  task : TaskId
  deriving DecidableEq

/-- A barrier, the threads at work in it, who holds its lock, and whether its owner has dropped
it. -/
structure Scheduler (ν : Type) where
  /-- Tells this scheduler from all others. -/
  number : Nat
  barrier : Barrier ν
  /-- The calls in progress. -/
  calls : Stacks ν
  /-- The thread that holds the lock between two steps, if there is one. -/
  lock : Option ThreadId
  /-- The thread that works for the timer of this scheduler, if it has one. -/
  worker : Option ThreadId
  dropped : Bool

/-- What a step tells the user code on its thread. -/
inductive Signal (ν : Type) where
  /-- The call goes on. -/
  | working
  /-- The body of the task comes next. -/
  | body (task : TaskId)
  /-- The call has returned. -/
  | answer (answer : Answer ν)
  /-- The call has been left by a panic. -/
  | unwound (panic : Panic)
  /-- The worker has nothing to do before the given instant. -/
  | idle (wake : Option Instant)

/-- What one step of one thread leaves behind. -/
structure Turn (ν : Type) where
  scheduler : Scheduler ν
  signal : Signal ν
  events : List Event

namespace Scheduler

variable {ν : Type}

/-- A scheduler that nothing has been asked of. -/
def start (number : Nat) (config : Config) (facility : Facility TaskId)
    (worker : Option ThreadId) : Scheduler ν where
  number := number
  barrier := .fresh config facility
  calls := .empty
  lock := none
  worker := worker
  dropped := false

/-- Whether weak references to the scheduler still lead to its barrier. -/
def isAlive (s : Scheduler ν) : Bool := !s.dropped || s.calls.keepAlive

/-- What is left to do on a thread. -/
def stack (s : Scheduler ν) (thread : ThreadId) : Stack ν := s.calls.get thread

/-- Replaces the barrier and the stack of one thread. -/
def update (s : Scheduler ν) (barrier : Barrier ν) (thread : ThreadId) (stack : Stack ν) :
    Scheduler ν :=
  { s with barrier := barrier, calls := s.calls.set thread stack }

/-- A turn that changes the barrier and the stack of one thread. -/
def turn (s : Scheduler ν) (barrier : Barrier ν) (thread : ThreadId) (stack : Stack ν)
    (signal : Signal ν) (events : List Event) : Turn ν :=
  ⟨s.update barrier thread stack, signal, events⟩

/-- Whether user code comes next on a thread: outside of all calls, and in a body that is being
executed.  The worker of the timer executes no user code but bodies. -/
def isUserCode (s : Scheduler ν) (thread : ThreadId) : Bool :=
  match s.stack thread with
  | [] => s.worker != some thread
  | .run _ .executing :: _ => true
  | _ => false

/-- The timer of a scheduler that has one. -/
def timer? (s : Scheduler ν) : Option (Timer TaskId) :=
  match s.barrier.facility with
  | .byClock timer => some timer
  | .byHand _ => none

/-- Replaces the timer of a scheduler. -/
def withTimer (s : Scheduler ν) (timer : Timer TaskId) : Scheduler ν :=
  { s with barrier := { s.barrier with facility := .byClock timer } }

@[simp] theorem stack_start (number : Nat) (config : Config) (facility : Facility TaskId)
    (worker : Option ThreadId) (thread : ThreadId) :
    (start number config facility worker : Scheduler ν).stack thread = [] := rfl

@[simp] theorem stack_update_self (s : Scheduler ν) (barrier : Barrier ν) (thread : ThreadId)
    (stack : Stack ν) : (s.update barrier thread stack).stack thread = stack :=
  s.calls.get_set_self thread stack

@[simp] theorem barrier_update (s : Scheduler ν) (barrier : Barrier ν) (thread : ThreadId)
    (stack : Stack ν) : (s.update barrier thread stack).barrier = barrier := rfl

@[simp] theorem lock_update (s : Scheduler ν) (barrier : Barrier ν) (thread : ThreadId)
    (stack : Stack ν) : (s.update barrier thread stack).lock = s.lock := rfl

end Scheduler

end TaskBarrier
