import TaskBarrier.Cooperative
import TaskBarrier.Script.Perform

/-!
# Runs of a session

One step of a thread is one of these: it begins the next action of its script, it goes on with an
action that takes more than one step, or it comes to the end of a script.  The worker of a timer
has no script; it looks for entries that are due, and executes what fires.

## Main Definitions

- `Session.goOn?`: an action that takes more than one step.
- `Session.step?`: one step of one thread.
- `Session.wake?`: when a blocked thread goes on by itself.
- `Session.threadsOf`, `Session.run`: all of it.

### design decisions

* A waiting await is woken by the last task that finishes, and otherwise looks again when it meant
  to.  A helper begins when its await is draining, nothing is held, and no task is running.
-/

namespace TaskBarrier

namespace Session

variable {ν : Type}

/-! ## Going on -/

/-- Whether what a thread waits for has come about. -/
def isCleared (m : Session ν) : Obstacle → Bool
  | .gate name => m.openGates.contains name
  | .time instant => m.clock.reached instant
  | .held scheduler size =>
      m.schedulers[scheduler]?.all fun s => decide (size ≤ s.barrier.held.length)
  | .finished thread => m.hasEnded thread
  | .reached gate thread => m.isAwaited gate || m.hasEnded thread
  | .value handle => (m.task? handle).all fun task => !(task.promise.any (·.isPending))

/-- The outcome of an action that has waited for something. -/
def clear (m : Session ν) (thread : ThreadId) (action : Guarded (Action ν))
    (obstacle : Obstacle) : Session ν :=
  match obstacle with
  | .gate _ => m.complete thread action (.flag true)
  | .time _ =>
      match action.action with
      | .quiet _ => m.complete thread action (.count m.runs)
      | _ => m.complete thread action .nothing
  | .held scheduler _ =>
      m.complete thread action
        (.count ((m.schedulers[scheduler]?.map (·.barrier.held.length)).getD 0))
  | .finished other =>
      m.complete thread action (.results ((m.threads[other]?.map (·.results)).getD []))
  | .reached _ _ => m.complete thread action .nothing
  | .value handle => m.ask thread action handle.scheduler (.read handle.task) none

/-- Whether a thread sleeps in an await: something is outstanding, and it is not yet time to look
again. -/
def isAsleep (m : Session ν) (thread : ThreadId) (scheduler : Nat) : Option Instant :=
  m.schedulers[scheduler]?.bind fun s =>
    match s.stack thread with
    | .awaiting _ _ (.waiting _ wake) :: _ =>
        if s.barrier.outstanding > 0 && m.clock.before wake then some wake else none
    | _ => none

/-- An action that takes more than one step goes on. -/
def goOn? (m : Session ν) (thread : ThreadId) (action : Guarded (Action ν)) :
    Doing ν → Option (Session ν)
  | .calling scheduler _ _ | .firing scheduler _ _ true =>
      if (m.isAsleep thread scheduler).isSome then none
      else m.move? thread scheduler .proceed
  | .firing _ fired [] false => some (m.complete thread action (.count fired))
  | .firing scheduler fired (key :: left) false =>
      let firing := m.setDoing thread action (.firing scheduler fired left true)
      some ((firing.move? thread scheduler (.request (.fire key))).getD
        (m.setDoing thread action (.firing scheduler fired left false)))
  | .blocked obstacle =>
      if m.isCleared obstacle then some (m.clear thread action obstacle) else none
  | .gathering helper await elapsed =>
      match action.action with
      | .await _ _ _ within =>
          let inTime := within.map fun limit => decide (elapsed.nanos < limit.nanos)
          match helper with
          | none => some (m.complete thread action (.awaited await none inTime))
          | some other =>
              let idle := m.threads[other]?.any fun th => th.role != .scripted
              if idle || m.hasEnded other then
                let results := (m.threads[other]?.map (·.results)).getD []
                let ended := m.modifyThread other fun th => { th with lines := [] }
                some (ended.complete thread action (.awaited await (some results) inTime))
              else none
      | _ => some (m.complete thread action await)

/-- Whether an await has nothing left to do but wait. -/
def canHelp (m : Session ν) (scheduler : Nat) : Bool :=
  (m.scheduler? scheduler).any fun s =>
    s.barrier.draining && s.barrier.held.isEmpty && m.phases.all fun (_, phase) => phase != .running

/-- The script on top of a thread comes to its end. -/
def endLine (m : Session ν) (thread : ThreadId) (origin : Origin) : Session ν :=
  let popped := m.popLine thread
  match origin with
  | .steps | .list => popped
  | .body handle _ _ =>
      popped.endBody thread handle (.returned ((m.record? handle).bind (·.value)))

/-- Whether an action is to be performed: in a body it may belong to one run only. -/
def isWanted (origin : Origin) (action : Guarded (Action ν)) : Bool :=
  match origin, action.onRun with
  | .body _ _ run, some only => only == run
  | _, _ => true

/-- The worker of a timer makes a step: in a callback, or between two of them. -/
def workerStep? (m : Session ν) (thread : ThreadId) (scheduler : Nat) : Option (Session ν) :=
  match m.schedulers[scheduler]? with
  | none => none
  | some s =>
      if (s.stack thread).isEmpty then
        match m.stepScheduler? thread scheduler .work with
        | some (.idle _, _) | none => none
        | some (_, after) => some after
      else if (m.isAsleep thread scheduler).isSome then none
      else m.move? thread scheduler .proceed

/-- One step of one thread, if it can make one. -/
def step? (m : Session ν) (thread : ThreadId) : Option (Session ν) :=
  match m.threads[thread]? with
  | none => none
  | some th =>
      match th.role, th.lines with
      | .worker scheduler, [] => m.workerStep? thread scheduler
      | .helper scheduler, _ :: _ =>
          if m.canHelp scheduler then
            some (m.modifyThread thread fun th => { th with role := .scripted })
          else none
      | _, [] => none
      | _, line :: _ =>
          match line.current, line.rest with
          | some (action, doing), _ => m.goOn? thread action doing
          | none, [] => some (m.endLine thread line.origin)
          | none, action :: rest =>
              let begun := m.modifyLine thread fun line => { line with rest := rest }
              some (if isWanted line.origin action then begun.perform thread action else begun)

/-- When a blocked thread wakes up by itself. -/
def wake? (m : Session ν) (thread : ThreadId) : Option Instant :=
  match m.threads[thread]? with
  | none => none
  | some th =>
      match th.role, th.lines with
      | .worker scheduler, [] =>
          match m.stepScheduler? thread scheduler .work with
          | some (.idle wake, _) => wake
          | _ => m.isAsleep thread scheduler
      | _, ⟨_, some (_, .blocked (.time instant)), _⟩ :: _ => some instant
      | _, ⟨_, some (_, .calling scheduler _ _), _⟩ :: _ => m.isAsleep thread scheduler
      | _, ⟨_, some (_, .firing scheduler _ _ true), _⟩ :: _ => m.isAsleep thread scheduler
      | _, _ => none

/-! ## Runs -/

/-- The threads of a session. -/
def threadsOf : Cooperative (Session ν) where
  size m := m.threads.length
  step := step?
  wake := wake?
  clock m := m.clock
  setClock m instant := { m with clock := instant }
  isDone m := m.hasEnded 0

/-- The number of steps after which a session is given up.  Scripts that come to an end need far
fewer. -/
def stepLimit : Nat := 10000000

/-- Performs all steps of a session. -/
def run (m : Session ν) : List (Report ν) := (threadsOf.run stepLimit 0 m).reports

end Session

end TaskBarrier
