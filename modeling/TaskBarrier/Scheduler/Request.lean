import TaskBarrier.Barrier.Accept
import TaskBarrier.Barrier.Await
import TaskBarrier.Barrier.Cancel
import TaskBarrier.Scheduler.Basic

/-!
# Requests

User code calls into a scheduler by making a *request*.  Those that are over after one critical
section are answered at once.  All others leave frames on the stack of the thread, which say what
is left to do before the call returns.

A task whose period is zero is refused before the lock is taken.  One that is refused for another
reason is refused in the middle of the section, and its body is thrown away before the lock is
given back.

A scheduler that has been dropped takes no more requests from its owner.  What can be reached
without the owner still answers: the registry, callbacks, handles and promises.

## Main Definitions

- `Request`: what can be asked.
- `Scheduler.declining`: a task is refused under the lock.
- `Scheduler.requestAccept`, `Scheduler.requestFire` and so on: one function a request.
- `Scheduler.request`: all of them, for a thread on which user code comes next.
-/

namespace TaskBarrier

/-- What user code asks of a scheduler. -/
inductive Request where
  /-- Hand in a task. -/
  | accept (delay : Duration) (cadence : Cadence) (produces : Bool)
  /-- Fire an entry of the registry. -/
  | fire (key : TimerKey)
  /-- Call the callback of a task. -/
  | call (task : TaskId)
  /-- Cancel through the scheduler, which refuses the tasks of others. -/
  | cancel (handle : Handle)
  /-- Cancel through the handle, which works for as long as the scheduler is alive. -/
  | cancelByHandle (task : TaskId)
  /-- Await all tasks. -/
  | await (manner : Manner)
  /-- Read the value of a task. -/
  | read (task : TaskId)
  /-- Shut the facility down. -/
  | shutdown
  /-- Drop the scheduler. -/
  | drop

namespace Scheduler

variable {ν : Type}

/-- The call of a callback begins, if it leads anywhere. -/
def calling (s : Scheduler ν) (task : TaskId) : Stack ν :=
  if s.isAlive then [.deciding task] else []

/-- A task is refused under the lock, which the thread holds until the body has been thrown away.
Then the call comes to its end with `last`. -/
def declining (s : Scheduler ν) (thread : ThreadId) (barrier : Barrier ν) (last : Frame ν) :
    Turn ν :=
  { s with lock := some thread }.turn barrier thread (.refusing :: last :: s.stack thread)
    .working []

/-- Hands in a task. -/
def requestAccept (s : Scheduler ν) (thread : ThreadId) (now : Instant) (delay : Duration)
    (cadence : Cadence) (produces : Bool) : Turn ν :=
  let accepted := s.barrier.accept now delay cadence produces
  let answered (answer : Answer ν) :=
    s.turn accepted.barrier thread (s.stack thread) (.answer answer) accepted.events
  match accepted.answer with
  | .accepted id => answered (.accepted id)
  | .refused failure =>
      if cadence.isDegenerate then answered (.failed failure)
      else s.declining thread accepted.barrier (.answering (.failed failure))
  | .unwound panic => s.declining thread accepted.barrier (.raising panic)

section Accepting

variable (s : Scheduler ν) (thread : ThreadId) {now : Instant} {delay : Duration}
  {cadence : Cadence} {produces : Bool}

theorem requestAccept_of_accepted {id : TaskId}
    (answer : (s.barrier.accept now delay cadence produces).answer = .accepted id) :
    s.requestAccept thread now delay cadence produces =
      s.turn (s.barrier.accept now delay cadence produces).barrier thread (s.stack thread)
        (.answer (.accepted id)) (s.barrier.accept now delay cadence produces).events := by
  simp only [requestAccept, answer]

theorem requestAccept_of_isDegenerate (degenerate : cadence.isDegenerate = true) :
    s.requestAccept thread now delay cadence produces =
      s.turn s.barrier thread (s.stack thread) (.answer (.failed .zeroPeriod)) [] := by
  simp only [requestAccept, s.barrier.accept_of_isDegenerate now delay degenerate, degenerate,
    if_true]

theorem requestAccept_of_refused {failure : Failure} (proper : cadence.isDegenerate = false)
    (answer : (s.barrier.accept now delay cadence produces).answer = .refused failure) :
    s.requestAccept thread now delay cadence produces =
      s.declining thread (s.barrier.accept now delay cadence produces).barrier
        (.answering (.failed failure)) := by
  simp only [requestAccept, answer, proper, Bool.false_eq_true, if_false]

theorem requestAccept_of_unwound {panic : Panic}
    (answer : (s.barrier.accept now delay cadence produces).answer = .unwound panic) :
    s.requestAccept thread now delay cadence produces =
      s.declining thread (s.barrier.accept now delay cadence produces).barrier
        (.raising panic) := by
  simp only [requestAccept, answer]

/-- A request to accept a task comes to one of three things: the task is accepted, its period is
zero, or it is refused under the lock. -/
theorem requestAccept_cases (now : Instant) (delay : Duration) (cadence : Cadence)
    (produces : Bool) :
    (∃ id, (s.barrier.accept now delay cadence produces).answer = .accepted id ∧
      s.requestAccept thread now delay cadence produces =
        s.turn (s.barrier.accept now delay cadence produces).barrier thread (s.stack thread)
          (.answer (.accepted id)) (s.barrier.accept now delay cadence produces).events) ∨
    (cadence.isDegenerate = true ∧ s.requestAccept thread now delay cadence produces =
      s.turn s.barrier thread (s.stack thread) (.answer (.failed .zeroPeriod)) []) ∨
    (∀ id, (s.barrier.accept now delay cadence produces).answer ≠ .accepted id) ∧
      ∃ last : Frame ν,
        ((∃ failure, last = .answering (.failed failure)) ∨ ∃ panic, last = .raising panic) ∧
        s.requestAccept thread now delay cadence produces =
          s.declining thread (s.barrier.accept now delay cadence produces).barrier last := by
  cases answer : (s.barrier.accept now delay cadence produces).answer with
  | accepted id => exact .inl ⟨id, rfl, s.requestAccept_of_accepted thread answer⟩
  | unwound panic =>
      exact .inr (.inr ⟨nofun, _, .inr ⟨panic, rfl⟩, s.requestAccept_of_unwound thread answer⟩)
  | refused failure =>
      cases proper : cadence.isDegenerate with
      | true => exact .inr (.inl ⟨rfl, s.requestAccept_of_isDegenerate thread proper⟩)
      | false =>
          exact .inr (.inr ⟨nofun, _, .inl ⟨failure, rfl⟩,
            s.requestAccept_of_refused thread proper answer⟩)

end Accepting

/-- The answer of a call that finds nothing to do. -/
def refuse (s : Scheduler ν) : Turn ν := ⟨s, .answer (.flag false), []⟩

/-- Fires an entry of the registry: the entry is taken out of it first. -/
def requestFire (s : Scheduler ν) (thread : ThreadId) (key : TimerKey) : Turn ν :=
  match s.barrier.facility with
  | .byClock _ => s.refuse
  | .byHand registry =>
      match registry.fire? key with
      | none => s.refuse
      | some (task, registry) =>
          s.turn { s.barrier with facility := .byHand registry } thread
            (s.calling task ++ .answering (.flag true) :: s.stack thread) .working []

/-- Calls the callback of a task. -/
def requestCall (s : Scheduler ν) (thread : ThreadId) (task : TaskId) : Turn ν :=
  s.turn s.barrier thread (s.calling task ++ .answering (.flag true) :: s.stack thread) .working []

/-- Cancels a task. -/
def requestCancel (s : Scheduler ν) (thread : ThreadId) (task : TaskId) : Turn ν :=
  let cancelled := s.barrier.cancel task
  let answer := Frame.answering (.flag cancelled.answer.succeeded)
  let discarding := match cancelled.answer with
    | .cancelled => [.discarding [task]]
    | .tooLate | .doomed => []
  s.turn cancelled.barrier thread (discarding ++ answer :: s.stack thread) .working
    cancelled.events

/-- Begins an await. -/
def requestAwait (s : Scheduler ν) (thread : ThreadId) (now : Instant) (manner : Manner) :
    Turn ν :=
  let begun := s.barrier.beginAwait
  s.turn begun.barrier thread (.awaiting now manner .replaying :: s.stack thread) .working
    begun.events

/-- Reads the value of a task. -/
def requestRead (s : Scheduler ν) (thread : ThreadId) (task : TaskId) : Turn ν :=
  let (reading, barrier) := s.barrier.readValue task
  s.turn barrier thread (s.stack thread) (.answer (.reading reading)) []

/-- Shuts the facility down. -/
def requestShutdown (s : Scheduler ν) (thread : ThreadId) : Turn ν :=
  let (shutdown, facility) := s.barrier.facility.shutdown
  let (joining, events) : Stack ν × List Event := match shutdown with
    | none | some .repeated => ([], [])
    | some .detached => ([], [.timerDetached])
    | some .joining => ([.joining], [])
  s.turn { s.barrier with facility := facility } thread
    (joining ++ .answering .nothing :: s.stack thread) .working events

/-- What can be asked of a scheduler only by its owner, and so only until it has been dropped. -/
def whileOwned (s : Scheduler ν) (turn : Turn ν) : Option (Turn ν) :=
  if s.dropped then none else some turn

/-- User code calls into the scheduler.  After the scheduler has been dropped the registry,
callbacks, handles and promises are left. -/
def request (s : Scheduler ν) (thread : ThreadId) (now : Instant) (request : Request) :
    Option (Turn ν) :=
  if !s.isUserCode thread then none
  else
    match request with
    | .accept delay cadence produces =>
        s.whileOwned (s.requestAccept thread now delay cadence produces)
    | .fire key => some (s.requestFire thread key)
    | .call task => some (s.requestCall thread task)
    | .cancel handle =>
        s.whileOwned
          (if handle.scheduler = s.number then s.requestCancel thread handle.task else s.refuse)
    | .cancelByHandle task => some (if s.isAlive then s.requestCancel thread task else s.refuse)
    | .await manner => s.whileOwned (s.requestAwait thread now manner)
    | .read task => some (s.requestRead thread task)
    | .shutdown => s.whileOwned (s.requestShutdown thread)
    | .drop => s.whileOwned ({ s with dropped := true }.requestShutdown thread)

end Scheduler

end TaskBarrier
