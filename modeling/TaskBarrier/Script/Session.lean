import TaskBarrier.Scheduler.Step
import TaskBarrier.Script.Action
import TaskBarrier.Script.Outcome

/-!
# Sessions

A session performs scripts on some number of schedulers.  Its first thread performs the steps of
the session; helpers, spawned threads and the workers of timers are the others.  Each thread has a
stack of *lines*, scripts in progress: a body that fires another task performs that task's body on
top of its own.

What happens inside of a scheduler is decided by `Scheduler.step` alone.  A session asks for it,
gives the steps their readings of the clock, and remembers what belongs to the scripts and not to
the schedulers: labels, bodies, gates and the journal.

## Main Definitions

- `Record`: what a session knows about a task it has handed in.
- `Obstacle`, `Doing`, `Origin`, `Line`, `Role`, `Thread`.
- `Session`, `Session.start`.
- The look-ups and updates on which the actions are built.
-/

namespace TaskBarrier

/-- What a session knows about a task. -/
structure Record (ν : Type) where
  handle : Handle
  label : String
  /-- The value that the task produces when its body returns. -/
  value : Option ν
  body : List (Guarded (Action ν))
  /-- How often the body has been begun. -/
  runs : Nat

/-- What a thread waits for. -/
inductive Obstacle where
  | gate (name : String)
  | time (instant : Instant)
  /-- The hold queue of the scheduler has to have so many members. -/
  | held (scheduler : Nat) (size : Nat)
  | finished (thread : ThreadId)
  /-- Something has to wait at the gate, or the thread that was to do so has to end. -/
  | reached (gate : String) (thread : ThreadId)
  | value (handle : Handle)

/-- How far an action has come. -/
inductive Doing (ν : Type) where
  /-- Inside of a scheduler since the given instant, with a helper at hand. -/
  | calling (scheduler : Nat) (since : Instant) (helper : Option ThreadId)
  /-- Firing entries one by one: so many fired, these left, and whether a call is in progress. -/
  | firing (scheduler : Nat) (fired : Nat) (left : List TimerKey) (inside : Bool)
  | blocked (obstacle : Obstacle)
  /-- The await has returned; the helper has to come to its end. -/
  | gathering (helper : Option ThreadId) (await : Outcome ν) (elapsed : Duration)

/-- Whose script a line is. -/
inductive Origin where
  /-- The steps of the session. -/
  | steps
  /-- A list of actions whose outcomes are collected. -/
  | list
  /-- The body of a task, in the run of the given number. -/
  | body (handle : Handle) (label : String) (run : Nat)

/-- A script in progress. -/
structure Line (ν : Type) where
  origin : Origin
  current : Option (Guarded (Action ν) × Doing ν)
  rest : List (Guarded (Action ν))

/-- What a thread is for. -/
inductive Role where
  | scripted
  /-- Begins once an await of the given scheduler has nothing left to do but wait. -/
  | helper (scheduler : Nat)
  /-- Works for the timer of the given scheduler. -/
  | worker (scheduler : Nat)
  deriving DecidableEq

/-- A thread of a session. -/
structure Thread (ν : Type) where
  name : String
  role : Role
  lines : List (Line ν)
  /-- The outcomes of the actions of a list. -/
  results : List (Outcome ν)

/-- Scripts in progress on some number of schedulers. -/
structure Session (ν : Type) where
  schedulers : List (Scheduler ν)
  threads : List (Thread ν)
  records : List (Record ν)
  /-- The tasks by label. -/
  labels : List (String × Handle)
  /-- The promises by label. -/
  promises : List (String × Handle)
  /-- The callbacks that have been kept, by name. -/
  kept : List (String × Handle)
  openGates : List String
  /-- How often a body has been begun. -/
  runs : Nat
  clock : Instant
  /-- What bodies have done since the last snapshot. -/
  journal : List (JournalEntry ν)
  /-- What has been logged since the last report. -/
  log : List Event
  /-- For each step to come, whether it is followed by a snapshot. -/
  snapshots : List Bool
  reports : List (Report ν)

/-- Replaces the value under a name, or adds it. -/
def assign {α : Type} (table : List (String × α)) (name : String) (value : α) :
    List (String × α) :=
  match table with
  | [] => [(name, value)]
  | (key, old) :: rest =>
      if key = name then (name, value) :: rest else (key, old) :: assign rest name value

/-- The value under a name. -/
def lookUp {α : Type} (table : List (String × α)) (name : String) : Option α :=
  (table.find? (·.1 == name)).map (·.2)

namespace Session

variable {ν : Type}

/-! ## The start -/

/-- The threads that the timers of some schedulers need. -/
def workers (configs : List Config) : List (Thread ν) :=
  configs.mapIdx fun number config => ⟨config.threadName, .worker number, [], []⟩

/-- Schedulers with the given settings, on timers or fired by hand. -/
def schedulersOf (configs : List Config) (onTimers : Bool) : List (Scheduler ν) :=
  configs.mapIdx fun number config =>
    if onTimers then .start number config (.byClock .start) (some (number + 1))
    else .start number config (.byHand .empty) none

/-- A session that has performed nothing.  The clock has been running for a second. -/
def start (configs : List Config) (onTimers : Bool)
    (steps : List (Guarded (Action ν) × Bool)) : Session ν where
  schedulers := schedulersOf configs onTimers
  threads := ⟨"main", .scripted, [⟨.steps, none, steps.map (·.1)⟩], []⟩ ::
    (if onTimers then workers configs else [])
  records := []
  labels := []
  promises := []
  kept := []
  openGates := []
  runs := 0
  clock := ⟨Duration.nanosPerSecond⟩
  journal := []
  log := if onTimers then configs.map fun config => .timerStarted config.threadName else []
  snapshots := steps.map (·.2)
  reports := []

/-! ## Looking things up -/

/-- A scheduler that has not been dropped. -/
def scheduler? (m : Session ν) (number : Nat) : Option (Scheduler ν) :=
  m.schedulers[number]?.filter (!·.dropped)

/-- The record of a task. -/
def task? (m : Session ν) (handle : Handle) : Option (Task ν) :=
  m.schedulers[handle.scheduler]?.bind (·.barrier.task? handle.task)

/-- What the session knows about a task. -/
def record? (m : Session ν) (handle : Handle) : Option (Record ν) :=
  m.records.find? (·.handle == handle)

/-- How a scheduler stands. -/
def statusOf (s : Scheduler ν) : Status where
  outstanding := s.barrier.outstanding
  held := s.barrier.held.length
  draining := s.barrier.draining
  isShutdown := s.barrier.facility.isShutdown

/-- The registry of a scheduler that is fired by hand, dropped or not. -/
def registry? (m : Session ν) (number : Nat) : Option (Registry TaskId) :=
  m.schedulers[number]?.bind fun s =>
    match s.barrier.facility with
    | .byHand registry => some registry
    | .byClock _ => none

/-- The phases of the tasks, by label. -/
def phases (m : Session ν) : List (String × Phase) :=
  m.labels.filterMap fun (label, handle) => (m.task? handle).map fun task => (label, task.phase)

/-- Whether some thread waits at a gate. -/
def isAwaited (m : Session ν) (gate : String) : Bool :=
  m.threads.any fun thread =>
    match thread.lines with
    | ⟨_, some (_, .blocked (.gate name)), _⟩ :: _ => name == gate
    | _ => false

/-- Whether a thread has come to its end. -/
def hasEnded (m : Session ν) (thread : ThreadId) : Bool :=
  m.threads[thread]?.all (·.lines.isEmpty)

/-- The last thread that has been started under a name. -/
def threadNamed? (m : Session ν) (name : String) : Option ThreadId :=
  (List.range m.threads.length).reverse.find? fun t => m.threads[t]?.any (·.name == name)

/-! ## Changing things -/

/-- Changes one thread. -/
def modifyThread (m : Session ν) (thread : ThreadId) (change : Thread ν → Thread ν) :
    Session ν :=
  { m with threads := m.threads.modify thread change }

/-- Changes the line on top of a thread. -/
def modifyLine (m : Session ν) (thread : ThreadId) (change : Line ν → Line ν) : Session ν :=
  m.modifyThread thread fun th =>
    match th.lines with
    | line :: below => { th with lines := change line :: below }
    | [] => th

/-- Takes the line on top of a thread away. -/
def popLine (m : Session ν) (thread : ThreadId) : Session ν :=
  m.modifyThread thread fun th => { th with lines := th.lines.tail }

/-- Says how far the current action of a thread has come. -/
def setDoing (m : Session ν) (thread : ThreadId) (action : Guarded (Action ν)) (doing : Doing ν) :
    Session ν :=
  m.modifyLine thread fun line => { line with current := some (action, doing) }

/-- Starts a thread that performs a list of actions. -/
def spawnThread (m : Session ν) (name : String) (role : Role)
    (actions : List (Guarded (Action ν))) : Session ν :=
  { m with threads := m.threads ++ [⟨name, role, [⟨.list, none, actions⟩], []⟩] }

/-- What schedulers and tasks look like now. -/
def snapshot (m : Session ν) : Snapshot ν where
  schedulers := (List.range m.schedulers.length).map fun number =>
    ((m.scheduler? number).map statusOf, (m.registry? number).map (·.keys))
  phases := m.phases
  journal := m.journal

/-- Reports a step. -/
def report (m : Session ν) (outcome : Outcome ν) : Session ν :=
  let shown := m.snapshots.head?.getD true
  { m with
    reports := m.reports ++ [⟨outcome, if shown then some m.snapshot else none, m.log⟩]
    journal := if shown then [] else m.journal
    log := []
    snapshots := m.snapshots.tail }

end Session

end TaskBarrier
