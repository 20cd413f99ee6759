import TaskBarrier.Barrier.Await
import TaskBarrier.Barrier.Firing
import TaskBarrier.Scheduler.Basic

/-!
# Calls in progress

The frame on top of a thread's stack determines what the thread does next, one critical section or
one step outside of the lock at a time.  A frame that cannot do its work now, because a body is
locked or the worker of the timer has not ended, gets no turn.

A body is user code.  Its frame waits for it, and the body ends when user code says so, by
returning or by a panic.

## Main Definitions

- `BodyEnd`, `Scheduler.endBody`: user code comes to the end of a body.
- `Scheduler.proceedDeciding`, `Scheduler.proceedStarting` and so on: one function a frame.
- `Scheduler.proceed`: the frame on top of a stack.

### design decisions

* A waiting await may look again at any time.  A sleeping thread that nobody wakes and whose time
  has not come is a matter of whoever chooses the order.
-/

namespace TaskBarrier

/-- How a body ends. -/
inductive BodyEnd (ν : Type) where
  /-- The body returns, with the value that it was to produce. -/
  | returned (value : Option ν)
  /-- The body panics. -/
  | panicked (panic : Panic)

namespace Scheduler

variable {ν : Type}

/-- User code comes to the end of the body that it is the code of.  The value is delivered, or
lost, before the task is finished. -/
def endBody (s : Scheduler ν) (thread : ThreadId) (how : BodyEnd ν) : Option (Turn ν) :=
  match s.stack thread with
  | .run task .executing :: rest =>
      let (result, below) : Option ν × Stack ν := match how with
        | .returned value => (value, rest)
        | .panicked panic => (none, .raising panic :: rest)
      some (s.turn (s.barrier.leaveBody task result) thread (.run task .finishing :: below)
        .working [])
  | _ => none

/-- The barrier decides about a firing. -/
def proceedDeciding (s : Scheduler ν) (thread : ThreadId) (task : TaskId) (rest : Stack ν) :
    Turn ν :=
  let fired := s.barrier.fire task
  let running := match fired.answer with
    | .run => [.run task (.starting false)]
    | .ignored | .coalesced | .held => []
  s.turn fired.barrier thread (running ++ rest) .working fired.events

/-- A run is logged and its body locked.  A body that has been used up has nothing to execute. -/
def proceedStarting (s : Scheduler ν) (thread : ThreadId) (task : TaskId) (replayed : Bool)
    (rest : Stack ν) : Option (Turn ν) :=
  let started := if replayed then Event.startedByReplay task else Event.startedByFiring task
  match s.barrier.enterBody? task with
  | none => none
  | some (true, barrier) =>
      some (s.turn barrier thread (.run task .executing :: rest) (.body task) [started])
  | some (false, barrier) =>
      some (s.turn barrier thread (.run task .finishing :: rest) .working [started])

/-- A run is finished. -/
def proceedFinishing (s : Scheduler ν) (thread : ThreadId) (task : TaskId) (rest : Stack ν) :
    Turn ν :=
  let finished := s.barrier.finish task
  s.turn finished.barrier thread
    (if finished.answer then .discarding [task] :: rest else rest) .working finished.events

/-- An await takes the next task of the hold queue, or begins to wait.  A deadline beyond the last
instant makes the await panic. -/
def proceedReplaying (s : Scheduler ν) (thread : ThreadId) (now start : Instant) (manner : Manner)
    (rest : Stack ν) : Turn ν :=
  let popped := s.barrier.popHeld
  let stack : Stack ν := match popped.answer with
    | .run task => .run task (.starting true) :: .awaiting start manner .replaying :: rest
    | .skipped => .awaiting start manner .replaying :: rest
    | .done =>
        match start.after? s.barrier.config.awaitBudget with
        | some deadline => .awaiting start manner (.waiting deadline now) :: rest
        | none => .raising .instantOverflow :: .awaiting start manner .replaying :: rest
  s.turn popped.barrier thread stack .working popped.events

/-- An await looks whether it has come to its end. -/
def proceedWaiting (s : Scheduler ν) (thread : ThreadId) (now start : Instant) (manner : Manner)
    (deadline : Instant) (rest : Stack ν) : Turn ν :=
  let checked := s.barrier.check now deadline
  let stack : Stack ν := match checked.answer with
    | .settled dropped => .dropping dropped :: manner.succeeding ++ rest
    | .timedOut remaining budget dropped =>
        .dropping dropped :: manner.failing (.timedOut remaining budget) ++ rest
    | .wait time => .awaiting start manner (.waiting deadline ⟨now.nanos + time.nanos⟩) :: rest
  s.turn checked.barrier thread stack .working checked.events

/-- The success of an await is logged.  The call returns, unless its guard comes first. -/
def proceedSettling (s : Scheduler ν) (thread : ThreadId) (rest : Stack ν) : Turn ν :=
  let signal : Signal ν := match rest with
    | .guarding :: _ => .working
    | _ => .answer .settled
  s.turn s.barrier thread rest signal [.settled]

/-- The guard of an await resets the barrier. -/
def proceedGuarding (s : Scheduler ν) (thread : ThreadId) (rest : Stack ν) : Turn ν :=
  s.turn s.barrier.reset thread (.dropping s.barrier.dropped :: rest) .working []

/-- The body of a refused task has been thrown away, and the lock is given back. -/
def proceedRefusing (s : Scheduler ν) (thread : ThreadId) (rest : Stack ν) : Turn ν :=
  { s with lock := none }.turn s.barrier thread rest .working []

/-- The entry whose callback a thread is executing, if the thread is the worker of the timer. -/
def firingKey? (s : Scheduler ν) (thread : ThreadId) : Option TimerKey :=
  if s.worker = some thread then s.timer?.bind Timer.firingKey? else none

/-- A panic leaves the frame below.  An await resets the barrier, a call does not return, and user
code gets to see the panic.  The worker of the timer logs it and goes on. -/
def proceedRaising (s : Scheduler ν) (thread : ThreadId) (panic : Panic) (rest : Stack ν) :
    Turn ν :=
  let unwound (below : Stack ν) := s.turn s.barrier thread below (.unwound panic) []
  match rest with
  | .awaiting _ _ _ :: below =>
      s.turn s.barrier.reset thread (.dropping s.barrier.dropped :: .raising panic :: below)
        .working []
  | .answering _ :: below => unwound below
  | [] =>
      match s.firingKey? thread with
      | some key => s.turn s.barrier thread [] .working [.callbackPanicked key panic]
      | none => unwound []
  | frame :: below => unwound (frame :: below)

/-- The bodies of dropped tasks are thrown away one by one. -/
def proceedDiscarding (s : Scheduler ν) (thread : ThreadId) (tasks : List TaskId)
    (rest : Stack ν) : Option (Turn ν) :=
  match tasks with
  | [] => some (s.turn s.barrier thread rest .working [])
  | task :: others =>
      (s.barrier.discard? task).map fun barrier =>
        s.turn barrier thread (.discarding others :: rest) .working []

/-- A shutdown goes on once the worker has ended. -/
def proceedJoining (s : Scheduler ν) (thread : ThreadId) (rest : Stack ν) : Option (Turn ν) :=
  match s.timer? with
  | none => some (s.turn s.barrier thread rest .working [])
  | some timer =>
      match timer.worker with
      | .exited => some (s.turn s.barrier thread rest .working [.timerShutDown])
      | .died => some (s.turn s.barrier thread rest .working [.workerPanicked, .timerShutDown])
      | .idle | .firing _ _ => none

/-- The frame on top of a thread's stack takes its next step. -/
def proceed (s : Scheduler ν) (thread : ThreadId) (now : Instant) : Option (Turn ν) :=
  match s.stack thread with
  | [] => none
  | frame :: rest =>
      match frame with
      | .deciding task => some (s.proceedDeciding thread task rest)
      | .run task (.starting replayed) => s.proceedStarting thread task replayed rest
      | .run _ .executing => none
      | .run task .finishing => some (s.proceedFinishing thread task rest)
      | .awaiting start manner .replaying =>
          some (s.proceedReplaying thread now start manner rest)
      | .awaiting start manner (.waiting deadline _) =>
          some (s.proceedWaiting thread now start manner deadline rest)
      | .dropping tasks =>
          some (s.turn s.barrier thread (.discarding tasks :: rest) .working
            (if tasks.isEmpty then [] else [.resetDropped tasks.length]))
      | .discarding tasks => s.proceedDiscarding thread tasks rest
      | .settling => some (s.proceedSettling thread rest)
      | .guarding => some (s.proceedGuarding thread rest)
      | .refusing => some (s.proceedRefusing thread rest)
      | .joining => s.proceedJoining thread rest
      | .answering answer => some (s.turn s.barrier thread rest (.answer answer) [])
      | .raising panic => some (s.proceedRaising thread panic rest)

end Scheduler

end TaskBarrier
