import TaskBarrier.Script.Session

/-!
# What passes between scripts and schedulers

A script asks something of a scheduler, and the scheduler answers, panics, or hands over a body to
be executed.  Everything that passes does so by `Scheduler.step`: a script cannot do to a scheduler
what no thread could.

A panic ends the script it happens in if that is a body, unless the action says that panics stop
there; the body then ends with that panic.  A step of the session and an action of a list stop
every panic and have it as their outcome.

## Main Definitions

- `Session.stepScheduler?`: one step inside of a scheduler.
- `Session.beginBody`, `Session.endBody`: a body becomes a line of the thread that executes it.
- `Session.complete`: an action has come to its outcome.
- `Session.ask`, `Session.heed`: a call, and what it comes to.

### design decisions

* The thread of a session that has made the latest step goes on for as long as it can, and a thread
  that holds a lock can always go on.  So no thread finds a lock taken when it asks for something.
-/

namespace TaskBarrier

/-- What an answer of a scheduler comes to. -/
def Answer.outcome {ν : Type} : Answer ν → Outcome ν
  | .nothing => .nothing
  | .flag value => .flag value
  | .accepted id => .accepted id
  | .failed failure => .failed failure
  | .settled => .settled
  | .reading .pending => .pending
  | .reading (.value value) => .produced value
  | .reading .abandoned => .failed .abandoned

namespace Session

variable {ν : Type}

/-! ## Schedulers -/

/-- One step inside of a scheduler.  What it logs goes into the log of the session. -/
def stepScheduler? (m : Session ν) (thread : ThreadId) (number : Nat) (move : Move ν) :
    Option (Signal ν × Session ν) :=
  match m.schedulers[number]? with
  | none => none
  | some s =>
      (s.step thread m.clock move).map fun turn =>
        (turn.signal,
          { m with
            schedulers := m.schedulers.set number turn.scheduler
            log := m.log ++ turn.events })

/-- The body of a task comes to its end. -/
def endBody (m : Session ν) (thread : ThreadId) (handle : Handle) (how : BodyEnd ν) : Session ν :=
  match m.stepScheduler? thread handle.scheduler (.endBody how) with
  | some (_, after) => after
  | none => m

/-- The body of a task begins. -/
def beginBody (m : Session ν) (thread : ThreadId) (handle : Handle) : Session ν :=
  match m.record? handle with
  | none =>
      m.modifyThread thread fun th =>
        { th with lines := ⟨.body handle "" 1, none, []⟩ :: th.lines }
  | some record =>
      let run := record.runs + 1
      let begun : Session ν := { m with
        records :=
          m.records.map (fun r => if r.handle == handle then { r with runs := run } else r)
        runs := m.runs + 1
        journal := m.journal ++ [.ran record.label run] }
      begun.modifyThread thread fun th =>
        { th with lines := ⟨.body handle record.label run, none, record.body⟩ :: th.lines }

/-- A task has been handed in under a label, which until now may have been that of another. -/
def register (m : Session ν) (scheduler : Nat) (id : TaskId) (label : String)
    (intake : Intake ν) (body : List (Guarded (Action ν))) : Session ν :=
  let handle : Handle := ⟨scheduler, id⟩
  { m with
    records := m.records ++ [⟨handle, label, intake.value?, body, 0⟩]
    labels := assign m.labels label handle
    promises := if intake.value?.isSome then assign m.promises label handle else m.promises }

/-! ## Outcomes -/

/-- The action on top of a thread has come to its outcome. -/
def complete (m : Session ν) (thread : ThreadId) (action : Guarded (Action ν))
    (outcome : Outcome ν) : Session ν :=
  match m.threads[thread]?.bind (·.lines.head?) with
  | none => m
  | some line =>
      let done := m.modifyLine thread fun line => { line with current := none }
      match line.origin with
      | .steps => done.report outcome
      | .list =>
          done.modifyThread thread fun th => { th with results := th.results ++ [outcome] }
      | .body handle label _ =>
          match outcome, action.catches with
          | .panicked panic, false => (done.popLine thread).endBody thread handle (.panicked panic)
          | outcome, _ =>
              { done with journal := done.journal ++ [.did label action.action.word outcome] }

/-- A call into a scheduler has returned, or has been left by a panic. -/
def returned (m : Session ν) (thread : ThreadId) (outcome : Outcome ν) : Session ν :=
  match (m.threads[thread]?.bind (·.lines.head?)).bind (·.current) with
  | some (action, .calling _ since helper) =>
      match action.action, outcome with
      | .accept scheduler label intake body, .accepted id =>
          (m.register scheduler id label intake body).complete thread action outcome
      | .await _ _ none none, outcome => m.complete thread action outcome
      | .await _ _ _ _, outcome =>
          m.setDoing thread action (.gathering helper outcome (m.clock.since since))
      | _, outcome => m.complete thread action outcome
  | some (action, .firing scheduler fired left _) =>
      match outcome with
      | .panicked panic => m.complete thread action (.panicked panic)
      | .flag false => m.setDoing thread action (.firing scheduler fired left false)
      | _ => m.setDoing thread action (.firing scheduler (fired + 1) left false)
  | _ => m

/-- What a step inside of a scheduler tells the script that called into it. -/
def heed (m : Session ν) (thread : ThreadId) (scheduler : Nat) : Signal ν → Session ν
  | .working | .idle _ => m
  | .body task => m.beginBody thread ⟨scheduler, task⟩
  | .answer answer => m.returned thread answer.outcome
  | .unwound panic => m.returned thread (.panicked panic)

/-- A thread makes a step inside of a scheduler. -/
def move? (m : Session ν) (thread : ThreadId) (scheduler : Nat) (move : Move ν) :
    Option (Session ν) :=
  (m.stepScheduler? thread scheduler move).map fun (signal, after) =>
    after.heed thread scheduler signal

/-- A thread begins a call into a scheduler.  One that has been dropped does not answer. -/
def ask (m : Session ν) (thread : ThreadId) (action : Guarded (Action ν)) (scheduler : Nat)
    (request : Request) (helper : Option ThreadId) : Session ν :=
  let asking := m.setDoing thread action (.calling scheduler m.clock helper)
  (asking.move? thread scheduler (.request request)).getD (asking.complete thread action .gone)

end Session

end TaskBarrier
