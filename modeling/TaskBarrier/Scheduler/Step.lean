import TaskBarrier.Scheduler.Proceed
import TaskBarrier.Scheduler.Request

/-!
# Steps of a scheduler

A run of a scheduler is a sequence of steps, each made by one thread at one reading of the clock.
User code makes a request, or ends the body that it is the code of; everything else follows from
the frame on top of the thread's stack; and the worker of the timer looks for entries that are
due.  A thread that cannot make the step asked of it gets no turn.

While some thread holds the lock, no critical section can be entered, and a thread that wants to
enter one gets no turn either.  The thread that holds the lock is no exception.

Which thread comes next is not decided here.  Every order of steps is a run.

## Main Definitions

- `Move`: what a thread can do next.
- `Scheduler.work`: the worker of the timer between two callbacks.
- `Scheduler.attempt`: all steps, were it not for the lock.
- `Scheduler.takesLock`: whether a step is a critical section.
- `Scheduler.step`: all steps.

### design decisions

* What a body asks for is not part of this model, so a run may contain any requests between the
  start and the end of a body.
-/

namespace TaskBarrier

/-- What a thread does next. -/
inductive Move (ν : Type) where
  | request (request : Request)
  | endBody (how : BodyEnd ν)
  | proceed
  | work

/-- Whether what comes next on a stack is a critical section. -/
def Stack.takesLock {ν : Type} : Stack ν → Bool
  | .deciding _ :: _ | .run _ .finishing :: _ | .awaiting _ _ _ :: _ | .guarding :: _
  | .raising _ :: .awaiting _ _ _ :: _ => true
  | _ => false

namespace Scheduler

variable {ν : Type}

/-- The worker of the timer, between two callbacks: it looks for an entry that is due, or comes
back from a callback. -/
def work (s : Scheduler ν) (thread : ThreadId) (now : Instant) : Option (Turn ν) :=
  match s.timer?, s.stack thread with
  | some timer, [] =>
      if s.worker != some thread then none
      else
        match timer.worker with
        | .exited | .died => none
        | .firing _ _ => some ⟨s.withTimer (timer.conclude now), .working, []⟩
        | .idle =>
            match timer.poll now with
            | (.waiting wake, timer) => some ⟨s.withTimer timer, .idle wake, []⟩
            | (.ended, timer) => some ⟨s.withTimer timer, .working, []⟩
            | (.firing _ task, timer) =>
                let s := s.withTimer timer
                some (s.turn s.barrier thread (s.calling task) .working [])
  | _, _ => none

/-- What one step of one thread comes to if nobody holds the lock. -/
def attempt (s : Scheduler ν) (thread : ThreadId) (now : Instant) : Move ν → Option (Turn ν)
  | .request request => s.request thread now request
  | .endBody how => s.endBody thread how
  | .proceed => s.proceed thread now
  | .work => s.work thread now

/-- Whether a thread that makes the move enters a critical section. -/
def takesLock (s : Scheduler ν) (thread : ThreadId) : Move ν → Bool
  | .request (.accept _ cadence _) => !cadence.isDegenerate
  | .request (.cancel handle) => handle.scheduler == s.number
  | .request (.cancelByHandle _) => s.isAlive
  | .request (.await _) => true
  | .request _ | .endBody _ | .work => false
  | .proceed => Stack.takesLock (s.stack thread)

/-- One step of one thread at one reading of the clock. -/
def step (s : Scheduler ν) (thread : ThreadId) (now : Instant) (move : Move ν) :
    Option (Turn ν) :=
  if s.lock.isSome && s.takesLock thread move then none else s.attempt thread now move

variable {s : Scheduler ν} {thread : ThreadId} {now : Instant} {move : Move ν}

/-- A step that is made is made as if there were no lock. -/
theorem attempt_of_step {turn : Turn ν} (taken : s.step thread now move = some turn) :
    s.attempt thread now move = some turn := by
  unfold step at taken
  split at taken
  · cases taken
  · exact taken

/-- While nobody holds the lock, it keeps nobody from a step. -/
theorem step_of_free (free : s.lock = none) :
    s.step thread now move = s.attempt thread now move := by
  simp [step, free]

/-- Outside of the critical sections, the lock keeps nobody from a step. -/
theorem step_of_lockless (lockless : s.takesLock thread move = false) :
    s.step thread now move = s.attempt thread now move := by
  simp [step, lockless]

/-- While somebody holds the lock, nobody enters a critical section. -/
theorem step_of_locked {holder : ThreadId} (locked : s.lock = some holder)
    (takes : s.takesLock thread move = true) : s.step thread now move = none := by
  simp [step, locked, takes]

/-- Whoever enters a critical section has found the lock free. -/
theorem lock_of_entered {turn : Turn ν} (taken : s.step thread now move = some turn)
    (takes : s.takesLock thread move = true) : s.lock = none := by
  cases locked : s.lock with
  | none => rfl
  | some holder =>
      rw [step_of_locked locked takes] at taken
      cases taken

end Scheduler

end TaskBarrier
