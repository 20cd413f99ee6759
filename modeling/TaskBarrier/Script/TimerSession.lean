import TaskBarrier.Cooperative
import TaskBarrier.Event
import TaskBarrier.Script.TimerAction
import TaskBarrier.Timer.Worker

/-!
# Sessions on a timer alone

A timer session performs the steps of a script on one timer.  There are two threads: the first
performs the steps, the other is the worker of the timer, which executes callbacks.  A callback
is a script too.  Its runs are counted, it may disarm itself after a given number of them, and
each run is recorded when it ends, also when it ends in a panic.

The worker can be *parked*: a callback that does nothing but wait until it is released makes room
for arming any number of entries before the first of them can fire.

## Main Definitions

- `Callback`, `CallbackRun`: what is armed, and what it is in the middle of.
- `TimerSession`, `TimerSession.step?`, `TimerSession.run`.

### design decisions

* A shutdown by the first thread waits a little before it begins, so that a callback that has just
  been recorded is over by then.
* At its end the session drops the timer, which shuts it down.
-/

namespace TaskBarrier

/-- What is called when an entry fires. -/
structure Callback where
  label : String
  /-- The run after which the callback disarms itself. -/
  times : Option Nat
  /-- Whether the callback parks the worker. -/
  parks : Bool
  body : List (Guarded TimerAction)

/-- What a thread of a timer session waits for. -/
inductive TimerObstacle where
  | time (instant : Instant)
  /-- The pause before a shutdown. -/
  | pause (instant : Instant)
  | runs (number : Nat)
  | pending (number : Nat)
  | parked (key : TimerKey)
  /-- The worker has to end. -/
  | ended

/-- A script in progress, with its outcomes so far. -/
structure TimerLine where
  current : Option (TimerAction × TimerObstacle)
  rest : List (Guarded TimerAction)
  outcomes : List TimerOutcome

/-- A callback in progress. -/
structure CallbackRun where
  key : TimerKey
  callback : Callback
  /-- The number of the run, from one. -/
  number : Nat
  line : TimerLine
  /-- The panic in which the run is to end. -/
  panic : Option Panic

/-- Scripts in progress on one timer. -/
structure TimerSession where
  threadName : String
  timer : Timer Callback
  clock : Instant
  steps : TimerLine
  /-- What the worker is in the middle of. -/
  calling : Option CallbackRun
  /-- Whether a parked worker may go. -/
  released : Bool
  labels : List (String × TimerKey)
  /-- The key of every run that has begun. -/
  begun : List TimerKey
  /-- The runs that have ended. -/
  recorded : List (String × Nat × List TimerOutcome)
  log : List Event

/-- How far an action has come. -/
inductive TimerProgress where
  | done (outcome : TimerOutcome)
  | waiting (obstacle : TimerObstacle)

namespace TimerSession

/-- A timer whose worker has just been started, and the steps to perform. -/
def start (threadName : String) (steps : List (Guarded TimerAction)) : TimerSession where
  threadName := threadName
  timer := .start
  clock := ⟨Duration.nanosPerSecond⟩
  steps := ⟨none, steps ++ [⟨none, false, .drop⟩], []⟩
  calling := none
  released := false
  labels := []
  begun := []
  recorded := []
  log := [.timerStarted threadName]

/-- How long the first thread waits before it shuts the timer down. -/
def pause : Duration := .ofMillis 2

/-- The instant that lies some time ahead. -/
def ahead (m : TimerSession) (time : Duration) : Instant := ⟨m.clock.nanos + time.nanos⟩

/-- The key armed last under a label. -/
def keyOf? (m : TimerSession) (label : String) : Option TimerKey :=
  (m.labels.find? (·.1 == label)).map (·.2)

/-! ## Actions -/

/-- Arms a callback. -/
def arm (m : TimerSession) (delay : Duration) (cadence : Cadence) (callback : Callback) :
    Arming × TimerSession :=
  let (arming, timer) := m.timer.arm m.clock delay cadence callback
  (arming, { m with timer := timer })

/-- Disarms an entry. -/
def disarm (m : TimerSession) (key : TimerKey) : Bool × TimerSession :=
  let (found, timer) := m.timer.disarm key
  (found, { m with timer := timer })

/-- Shuts the timer down, and waits for the worker unless that is in a callback. -/
def shutdown (m : TimerSession) : TimerProgress × TimerSession :=
  let (answer, timer) := m.timer.shutdown
  let asked := { m with timer := timer }
  match answer with
  | .repeated => (.done .nothing, asked)
  | .detached => (.done .nothing, { asked with log := m.log ++ [.timerDetached] })
  | .joining => (.waiting .ended, asked)

/-- An action begins, on the worker or on the first thread. -/
def perform (m : TimerSession) (onWorker : Bool) : TimerAction → TimerProgress × TimerSession
  | .arm label delay cadence times body =>
      match m.arm delay cadence ⟨label, times, false, body⟩ with
      | (.armed key, m) =>
          (.done (.armed key), { m with labels := (label, key) :: m.labels })
      | (.refused, m) => (.done (.failed .shutdown), m)
      | (.overflow, m) => (.done (.panicked .instantOverflow), m)
  | .disarm label =>
      match m.keyOf? label with
      | some key =>
          let (found, m) := m.disarm key
          (.done (.flag found), m)
      | none => (.done (.flag false), m)
  | .disarmKey key =>
      let (found, m) := m.disarm key
      (.done (.flag found), m)
  | .pending => (.done (.count m.timer.pending), m)
  | .isShutdown => (.done (.flag m.timer.isShutdown), m)
  | .shutdown => if onWorker then m.shutdown else (.waiting (.pause (m.ahead pause)), m)
  | .thread => (.done (.name (if onWorker then m.threadName else "main")), m)
  | .hold =>
      match m.arm .zero .once ⟨"", none, true, []⟩ with
      | (.armed key, m) => (.waiting (.parked key), m)
      | (.refused, m) => (.done (.failed .shutdown), m)
      | (.overflow, m) => (.done (.panicked .instantOverflow), m)
  | .release after => (.waiting (.time (m.ahead after)), m)
  | .awaitRuns number => (.waiting (.runs number), m)
  | .quiet time => (.waiting (.time (m.ahead time)), m)
  | .awaitPending number => (.waiting (.pending number), m)
  | .panic panic => (.done (.panicked panic), m)
  | .drop => m.shutdown

/-- Whether what a thread waits for has come about. -/
def isCleared (m : TimerSession) : TimerObstacle → Bool
  | .time instant | .pause instant => m.clock.reached instant
  | .runs number => decide (number ≤ m.recorded.length)
  | .pending number => m.timer.pending == number
  | .parked key => m.calling.any (·.key == key)
  | .ended => m.timer.workerEnded

/-- An action goes on after it has waited. -/
def goOn (m : TimerSession) (action : TimerAction) : TimerObstacle → TimerProgress × TimerSession
  | .time _ =>
      match action with
      | .release _ => (.done (.flag true), { m with released := true })
      | _ => (.done (.runs m.recorded), m)
  | .pause _ => m.shutdown
  | .runs _ => (.done (.reached m.recorded), m)
  | .pending _ => (.done (.count m.timer.pending), m)
  | .parked key => (.done (.armed key), m)
  | .ended =>
      let events : List Event := match m.timer.worker with
        | .died => [.workerPanicked, .timerShutDown]
        | .idle | .firing _ _ | .exited => [.timerShutDown]
      (.done .nothing, { m with log := m.log ++ events })

/-! ## Lines -/

/-- A line after one step of its action. -/
def TimerLine.after (line : TimerLine) (action : TimerAction) : TimerProgress → TimerLine
  | .done outcome => { line with current := none, outcomes := line.outcomes ++ [outcome] }
  | .waiting obstacle => { line with current := some (action, obstacle) }

/-- One step of a script: nothing while it is blocked or at its end. -/
def stepLine? (m : TimerSession) (onWorker : Bool) (line : TimerLine) :
    Option (TimerAction × TimerProgress × TimerLine × TimerSession) :=
  match line.current, line.rest with
  | some (action, obstacle), _ =>
      if m.isCleared obstacle then
        let (progress, after) := m.goOn action obstacle
        some (action, progress, TimerLine.after line action progress, after)
      else none
  | none, [] => none
  | none, guarded :: rest =>
      let (progress, after) := m.perform onWorker guarded.action
      let begun := { line with rest := rest }
      some (guarded.action, progress, TimerLine.after begun guarded.action progress, after)

/-! ## The worker -/

/-- The worker begins the callback of an entry. -/
def beginCallback (m : TimerSession) (key : TimerKey) (callback : Callback) : TimerSession :=
  let number := m.begun.count key + 1
  let wanted := callback.body.filter fun guarded => guarded.onRun.all (· == number)
  { m with
    begun := key :: m.begun
    calling := some ⟨key, callback, number, ⟨none, wanted, []⟩, none⟩ }

/-- The worker is back from a callback. -/
def endCallback (m : TimerSession) (run : CallbackRun) : TimerSession :=
  let events : List Event := match run.panic with
    | some panic => [.callbackPanicked run.key panic]
    | none => []
  { m with calling := none, timer := m.timer.conclude m.clock, log := m.log ++ events }

/-- A run has come to its end: it disarms itself if it is to, and is recorded. -/
def endRun (m : TimerSession) (run : CallbackRun) : TimerSession :=
  let (outcomes, disarmed) :=
    if run.callback.times = some run.number then
      let (found, disarmed) := m.disarm run.key
      (run.line.outcomes ++ [.flag found], disarmed)
    else (run.line.outcomes, m)
  let recorded := { disarmed with
    recorded := m.recorded ++ [(run.callback.label, run.number, outcomes)] }
  recorded.endCallback run

/-- One step of a callback. -/
def callbackStep? (m : TimerSession) (run : CallbackRun) : Option TimerSession :=
  if run.callback.parks then
    if m.released then some ({ m with released := false }.endCallback run) else none
  else if run.line.current.isNone && run.line.rest.isEmpty then some (m.endRun run)
  else
    (m.stepLine? true run.line).map fun (action, progress, line, after) =>
      match action, progress with
      | .panic _, .done (.panicked panic) =>
          let ending := { run with line := { run.line with rest := [] }, panic := some panic }
          { after with calling := some ending }
      | _, _ => { after with calling := some { run with line := line } }

/-- One step of the worker. -/
def workerStep? (m : TimerSession) : Option TimerSession :=
  match m.calling with
  | some run => m.callbackStep? run
  | none =>
      match m.timer.poll m.clock with
      | (.waiting _, _) => none
      | (.firing key callback, timer) => some ({ m with timer := timer }.beginCallback key callback)
      | (.ended, timer) => if m.timer.workerEnded then none else some { m with timer := timer }

/-! ## Runs -/

/-- One step of the first thread or of the worker. -/
def step? (m : TimerSession) : Nat → Option TimerSession
  | 0 =>
      (m.stepLine? false m.steps).map fun (_, _, line, after) => { after with steps := line }
  | 1 => m.workerStep?
  | _ => none

/-- When a blocked line goes on by itself. -/
def wakeOf (line : TimerLine) : Option Instant :=
  match line.current with
  | some (_, .time instant) | some (_, .pause instant) => some instant
  | _ => none

/-- When a blocked thread goes on by itself. -/
def wake? (m : TimerSession) : Nat → Option Instant
  | 0 => wakeOf m.steps
  | 1 =>
      match m.calling with
      | some run => wakeOf run.line
      | none =>
          match m.timer.poll m.clock with
          | (.waiting wake, _) => wake
          | (.firing _ _, _) | (.ended, _) => none
  | _ => none

/-- The two threads of a timer session. -/
def threads : Cooperative TimerSession where
  size _ := 2
  step := step?
  wake := wake?
  clock m := m.clock
  setClock m instant := { m with clock := instant }
  isDone m := m.steps.current.isNone && m.steps.rest.isEmpty

/-- The number of steps after which a session is given up.  Scripts that come to an end need far
fewer. -/
def stepLimit : Nat := 10000000

/-- Performs all steps: their outcomes, without that of the drop, and what was logged. -/
def run (m : TimerSession) : List TimerOutcome × List Event :=
  let ended := threads.run stepLimit 0 m
  (ended.steps.outcomes.take (m.steps.rest.length - 1), ended.log)

end TimerSession

end TaskBarrier
