import TaskBarrier.Script.Exchange

/-!
# Actions begin

An action that takes no time comes to its outcome as soon as it begins.  One that calls into a
scheduler goes on in there, and one that has to wait for something says for what.

## Main Definitions

- `Session.beginAwait`, `Session.beginCancel`, `Session.beginRead`, `Session.beginWait`: actions
  that call into a scheduler in more than one way.
- `Session.perform`: an action begins.
-/

namespace TaskBarrier

namespace Session

variable {ν : Type}

/-- A handle, with the phase of the task. -/
def describe (m : Session ν) (handle : Handle) : Outcome ν :=
  match m.task? handle with
  | some task => .handle task.id task.phase task.periodic
  | none => .noTask

/-- Looks at a scheduler that has not been dropped. -/
def inspect (m : Session ν) (scheduler : Nat) (view : Scheduler ν → Outcome ν) : Outcome ν :=
  ((m.scheduler? scheduler).map view).getD .gone

/-- The armed entries of a registry. -/
def armedEntries (m : Session ν) (scheduler : Nat) : List (TimerKey × Duration × Cadence) :=
  match m.registry? scheduler with
  | some registry => registry.entries.map fun entry => (entry.key, entry.delay, entry.cadence)
  | none => []

/-- The thread waits for something before the action can come to its outcome. -/
def awaitObstacle (m : Session ν) (thread : ThreadId) (action : Guarded (Action ν))
    (obstacle : Obstacle) : Session ν :=
  m.setDoing thread action (.blocked obstacle)

/-- The outcomes of a thread are waited for, if there is such a thread. -/
def joining (m : Session ν) (thread : ThreadId) (action : Guarded (Action ν)) (name : String) :
    Session ν :=
  match m.threadNamed? name with
  | some other => m.awaitObstacle thread action (.finished other)
  | none => m.complete thread action .gone

/-- A thread sleeps for some time. -/
def sleeping (m : Session ν) (thread : ThreadId) (action : Guarded (Action ν)) (time : Duration) :
    Session ν :=
  m.awaitObstacle thread action (.time ⟨m.clock.nanos + time.nanos⟩)

/-- An await begins, with a helper if there is something to be done meanwhile. -/
def beginAwait (m : Session ν) (thread : ThreadId) (action : Guarded (Action ν))
    (scheduler : Nat) (strict : Bool) (during : Option (List (Guarded (Action ν)))) :
    Session ν :=
  let request := Request.await ⟨strict, false⟩
  match during with
  | none => m.ask thread action scheduler request none
  | some actions =>
      (m.spawnThread "helper" (.helper scheduler) actions).ask thread action scheduler request
        (some m.threads.length)

/-- A cancel begins. -/
def beginCancel (m : Session ν) (thread : ThreadId) (action : Guarded (Action ν))
    (label : String) (via : CancelVia) : Session ν :=
  let byHandle (handle : Handle) :=
    m.ask thread action handle.scheduler (.cancelByHandle handle.task) none
  match via with
  | .promise =>
      match lookUp m.promises label with
      | some handle => byHandle handle
      | none => m.complete thread action .gone
  | .handle =>
      match lookUp m.labels label with
      | some handle => byHandle handle
      | none => m.complete thread action .noTask
  | .scheduler number =>
      match lookUp m.labels label with
      | some handle => m.ask thread action number (.cancel handle) none
      | none => m.complete thread action .noTask

/-- The value of a promise is asked for. -/
def beginRead (m : Session ν) (thread : ThreadId) (action : Guarded (Action ν))
    (label : String) : Session ν :=
  match lookUp m.promises label with
  | some handle => m.ask thread action handle.scheduler (.read handle.task) none
  | none => m.complete thread action .gone

/-- A promise is consumed and its value waited for, unless that is not wanted yet. -/
def beginWait (m : Session ν) (thread : ThreadId) (action : Guarded (Action ν)) (label : String)
    (block : Bool) : Session ν :=
  match lookUp m.promises label with
  | none => m.complete thread action .gone
  | some handle =>
      if block || (m.task? handle).any (·.phase.isTerminal) then
        let consumed := { m with promises := m.promises.filter (·.1 != label) }
        consumed.awaitObstacle thread action (.value handle)
      else m.complete thread action .pending

/-- The callback of an armed entry is kept under a name. -/
def grab (m : Session ν) (scheduler : Nat) (key : TimerKey) (name : String) :
    Bool × Session ν :=
  match (m.registry? scheduler).bind (·.find? key) with
  | some entry => (true, { m with kept := assign m.kept name ⟨scheduler, entry.callback⟩ })
  | none => (false, m)

/-- An action begins. -/
def perform (m : Session ν) (thread : ThreadId) (action : Guarded (Action ν)) : Session ν :=
  let done (outcome : Outcome ν) := m.complete thread action outcome
  match action.action with
  | .accept scheduler _ intake _ =>
      m.ask thread action scheduler
        (.accept intake.delay intake.cadence intake.value?.isSome) none
  | .await scheduler strict during _ => m.beginAwait thread action scheduler strict during
  | .cancel label via => m.beginCancel thread action label via
  | .handle label => done (((lookUp m.labels label).map m.describe).getD .noTask)
  | .tryTake label | .poll label => m.beginRead thread action label
  | .wait label block => m.beginWait thread action label block
  | .dropCall label =>
      { m with promises := m.promises.filter (·.1 != label) }.complete thread action .nothing
  | .state scheduler => done (m.inspect scheduler fun s => .status (statusOf s))
  | .config scheduler => done (m.inspect scheduler fun s => .config s.barrier.config)
  | .shutdown scheduler => m.ask thread action scheduler .shutdown none
  | .dropScheduler scheduler =>
      if (m.scheduler? scheduler).isSome then m.ask thread action scheduler .drop none
      else done .nothing
  | .fire scheduler key => m.ask thread action scheduler (.fire key) none
  | .fireAll scheduler descending =>
      let keys := ((m.registry? scheduler).map (·.keys)).getD []
      let order := if descending then keys.reverse else keys
      m.setDoing thread action (.firing scheduler 0 order false)
  | .armed scheduler => done (.armed (m.armedEntries scheduler))
  | .grab scheduler key name =>
      let (found, grabbed) := m.grab scheduler key name
      grabbed.complete thread action (.flag found)
  | .callGrabbed name =>
      match lookUp m.kept name with
      | some handle => m.ask thread action handle.scheduler (.call handle.task) none
      | none => done (.flag false)
  | .note value => done (.noted value)
  | .panic panic => done (.panicked panic)
  | .thread => done (.name ((m.threads[thread]?.map (·.name)).getD ""))
  | .waitGate gate => m.awaitObstacle thread action (.gate gate)
  | .openGate gate join =>
      let opened := { m with openGates := gate :: m.openGates }
      match join with
      | none => opened.complete thread action .nothing
      | some name => opened.joining thread action name
  | .spawn name actions until? =>
      let spawned := m.spawnThread name .scripted actions
      match until? with
      | none => spawned.complete thread action .nothing
      | some gate => spawned.awaitObstacle thread action (.reached gate m.threads.length)
  | .join name => m.joining thread action name
  | .sleep time | .quiet time => m.sleeping thread action time
  | .waitHeld scheduler size => m.awaitObstacle thread action (.held scheduler size)

end Session

end TaskBarrier
