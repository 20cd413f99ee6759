import TaskBarrier.Proofs.Guarding

/-!
# One-shot tasks run exactly once

A one-shot task has four possible fates.  It is waiting, and may have any of the other three; its
body has been started; it has been cancelled; or it has been dropped, by a reset that a failure has
caused.  At every point of a run it has exactly one of them, and the last three it keeps.

An await fails when its budget is used up, or when a panic leaves it.  To the guard of an await it
is the same whether a panic leaves the await or was on its way through the thread before, so what
its reset drops counts as dropped by a failure too, although the await may have succeeded.

The proof keeps a *ledger* for each task, of how often its body has been started and executed and
of how often it has been revoked, be it by a cancel or by a failure.  What the ledger has to
say follows from the phase of the task, and from the stage of its run.

## Main Definitions

* `Ledger`, `History.ledger`: what has happened to a task, as numbers.
* `Ledger.due`: what the ledger of a one-shot task says.
* `Fate`, `Fate.Holds`.

The main statement is `existsUnique_fate`.
-/

namespace TaskBarrier

variable {ν : Type}

/-- How often something has happened to a task. -/
structure Ledger where
  /-- How often a run of the task has been decided upon. -/
  starts : Nat
  /-- How often the body of the task has been executed. -/
  executions : Nat
  /-- How often the task has been cancelled, or dropped by a reset that a failure has caused. -/
  revocations : Nat
  deriving DecidableEq

namespace Ledger

/-- The ledger after one more deed. -/
def record (ledger : Ledger) (id : TaskId) (deed : Deed) : Ledger where
  starts := ledger.starts + if deed.startsTask id then 1 else 0
  executions := ledger.executions + if deed.executesTask id then 1 else 0
  revocations := ledger.revocations +
    ((if deed.cancelsTask id then 1 else 0) + if deed.dropsTask id then 1 else 0)

/-- The ledger of a one-shot task in the given phase, with a run in the given stage. -/
def due (stage : Option RunStage) : Phase → Ledger
  | .live | .held => ⟨0, 0, 0⟩
  | .running =>
      match stage with
      | some (.starting _) => ⟨1, 0, 0⟩
      | some .executing | some .finishing | none => ⟨1, 1, 0⟩
  | .ran => ⟨1, 1, 0⟩
  | .cancelled => ⟨0, 0, 1⟩

/-- Nothing has happened to a task that waits for its run. -/
theorem due_of_waiting {phase : Phase} (waiting : phase = .live ∨ phase = .held)
    (stage : Option RunStage) : due stage phase = ⟨0, 0, 0⟩ := by
  rcases waiting with rfl | rfl
  · rfl
  · rfl

/-- A deed that does not concern a task is not recorded. -/
theorem record_of_apart (ledger : Ledger) {id : TaskId} {deed : Deed}
    (apart : deed.concerns id = false) : ledger.record id deed = ledger := by
  simp [record, Deed.startsTask_of_apart apart, Deed.executesTask_of_apart apart,
    Deed.cancelsTask_of_apart apart, Deed.dropsTask_of_apart apart]

/-- A firing that starts a run. -/
theorem record_run (ledger : Ledger) (id : TaskId) : ledger.record id (.call id .run) =
    { ledger with starts := ledger.starts + 1 } := by
  simp [record, Deed.startsTask, Deed.executesTask, Deed.cancelsTask, Deed.dropsTask]

/-- A replay. -/
theorem record_replay (ledger : Ledger) (id : TaskId) : ledger.record id (.replay (.run id)) =
    { ledger with starts := ledger.starts + 1 } := by
  simp [record, Deed.startsTask, Deed.executesTask, Deed.cancelsTask, Deed.dropsTask]

/-- The beginning of an execution. -/
theorem record_enter (ledger : Ledger) (id : TaskId) : ledger.record id (.enter id true) =
    { ledger with executions := ledger.executions + 1 } := by
  simp [record, Deed.startsTask, Deed.executesTask, Deed.cancelsTask, Deed.dropsTask]

/-- A cancel of a task that has not started. -/
theorem record_withdraw (ledger : Ledger) (id : TaskId) : ledger.record id (.cancel id .cancelled) =
    { ledger with revocations := ledger.revocations + 1 } := by
  simp [record, Deed.startsTask, Deed.executesTask, Deed.cancelsTask, Deed.dropsTask,
    Cancellation.succeeded]

/-- A reset that a failure has caused, and that drops the task. -/
theorem record_drop (ledger : Ledger) {id : TaskId} {ending : Ending} {dropped : List TaskId}
    (failed : ending.failed = true) (listed : id ∈ dropped) :
    ledger.record id (.reset ending dropped) =
      { ledger with revocations := ledger.revocations + 1 } := by
  simp [record, Deed.startsTask, Deed.executesTask, Deed.cancelsTask, Deed.dropsTask, failed,
    listed]

/-- A reset that does not drop the task. -/
theorem record_spare (ledger : Ledger) {id : TaskId} {ending : Ending} {dropped : List TaskId}
    (unlisted : id ∉ dropped) : ledger.record id (.reset ending dropped) = ledger := by
  simp [record, Deed.startsTask, Deed.executesTask, Deed.cancelsTask, Deed.dropsTask, unlisted]

end Ledger

namespace History

/-- What has happened to a task so far. -/
def ledger (history : History ν) (id : TaskId) : Ledger where
  starts := history.starts id
  executions := history.executions id
  revocations := history.cancels id + history.drops id

theorem ledger_cons (stride : Stride ν) (history : History ν) (id : TaskId) :
    History.ledger (stride :: history) id = (history.ledger id).record id stride.deed := by
  simp only [ledger, Ledger.record, starts_cons, executions_cons, cancels_cons, drops_cons,
    Ledger.mk.injEq, true_and]
  omega

/-- A ledger, number by number. -/
theorem ledger_eq_iff {history : History ν} {id : TaskId} {starts executions revocations : Nat} :
    history.ledger id = ⟨starts, executions, revocations⟩ ↔
      history.starts id = starts ∧ history.executions id = executions ∧
        history.cancels id + history.drops id = revocations := by
  simp [ledger]

end History

/-- The ledger of a one-shot task says what is due; and nothing is recorded of a task that has not
been accepted. -/
def Balanced (id : TaskId) (history : History ν) (stage : Option RunStage) :
    Option (Task ν) → Prop
  | none => history.ledger id = ⟨0, 0, 0⟩
  | some task => task.periodic = false → history.ledger id = .due stage task.phase

/-- A one-shot task has ran after its run. -/
theorem Task.Fits.afterRun_of_once {task : Task ν} {stage : Option RunStage}
    (fits : task.Fits stage) (once : task.periodic = false) :
    Barrier.afterRun (task.setCounted false) = (task.setCounted false).retire .ran := by
  have undoomed : (task.setCounted false).isDoomed = false := by
    rw [Task.isDoomed_setCounted]
    by_contra doomed
    have periodic := (fits.doomed (by simpa using doomed)).2
    rw [once] at periodic
    cases periodic
  have once : (task.setCounted false).periodic = false := once
  simp [Barrier.afterRun, undoomed, once]

/-- **Every step keeps the ledger of every task.** -/
theorem Balanced.step {id : TaskId} {history : History ν} {stride : Stride ν} {deed : Deed}
    {before after : Option (Task ν)} {stage stage' : Option RunStage} (done : stride.deed = deed)
    (passage : Passage id deed before stage after stage')
    (balanced : Balanced id history stage before) :
    Balanced id (stride :: history) stage' after := by
  obtain ⟨course, fits, fits', named, named'⟩ := passage
  generalize own : stage.toList = stages, own' : stage'.toList = stages' at course
  have recorded : History.ledger (stride :: history) id = (history.ledger id).record id deed := by
    rw [History.ledger_cons, done]
  cases course with
  | accept =>
      have nothing : history.ledger id = ⟨0, 0, 0⟩ := balanced
      intro _
      rw [recorded, nothing]
      rfl
  | run slotted live =>
      intro once
      obtain rfl := stage_of_toList own'
      rw [recorded, balanced once, live, Ledger.record_run]
      rfl
  | hold slotted live =>
      intro once
      rw [recorded, balanced once, live]
      rfl
  | replay slotted held =>
      intro once
      obtain rfl := stage_of_toList own'
      rw [recorded, balanced once, held, Ledger.record_replay]
      rfl
  | enter =>
      intro once
      obtain rfl := stage_of_toList own
      obtain rfl := stage_of_toList own'
      rw [recorded, balanced once, Ledger.record_enter, fits.of_some.phase_of_some,
        fits'.of_some.phase_of_some]
      rfl
  | leave =>
      intro once
      obtain rfl := stage_of_toList own
      obtain rfl := stage_of_toList own'
      rw [recorded, balanced once, fits.of_some.phase_of_some, fits'.of_some.phase_of_some]
      rfl
  | @finish task _ running =>
      intro once
      have once : task.periodic = false := (task.setCounted false).periodic_afterRun ▸ once
      obtain rfl := stage_of_toList own
      rw [recorded, balanced once, running, fits.of_some.afterRun_of_once once]
      rfl
  | withdraw waiting =>
      intro once
      rw [recorded, balanced once, Ledger.record_withdraw, Ledger.due_of_waiting waiting]
      rfl
  | @doom task _ running periodic =>
      -- No one-shot task is doomed.
      intro once
      have once : task.periodic = false := once
      rw [periodic] at once
      cases once
  | @reset ending dropped task _ listed cleared =>
      intro once
      have once : task.periodic = false := task.periodic_reset ▸ once
      obtain rfl := stage_inj own own'
      have due := balanced once
      -- What is dropped was counted, so this is the reset of a failure.
      rcases fits.of_some.reset_cases with ⟨isDropped, waiting, -, eq⟩ | ⟨-, -, periodic, -⟩ |
        ⟨kept, -, -, eq⟩
      · have failed := cleared (fits.of_some.isCounted_of_isDropped isDropped)
        rw [recorded, due, Ledger.record_drop _ failed (listed.mpr isDropped), eq,
          Ledger.due_of_waiting waiting]
        rfl
      · rw [periodic] at once
        cases once
      · have unlisted : id ∉ dropped := by
          rw [listed, kept]
          simp
        rw [recorded, due, Ledger.record_spare _ unlisted, eq]
        rfl
  | absent unlisted =>
      have nothing : history.ledger id = ⟨0, 0, 0⟩ := balanced
      show History.ledger (stride :: history) id = ⟨0, 0, 0⟩
      rw [recorded, nothing, Ledger.record_spare _ unlisted]
  | @discard task _ cancelled =>
      intro once
      have once : task.periodic = false := task.periodic_discard ▸ once
      obtain ⟨body, promise, eq⟩ := task.discard_eq
      rw [recorded, balanced once, eq, cancelled]
      rfl
  | read =>
      obtain rfl := stage_inj own own'
      intro once
      rw [recorded, balanced once]
      rfl
  | keep apart =>
      obtain rfl := stage_inj own own'
      rw [Ledger.record_of_apart _ apart] at recorded
      cases before with
      | none => exact recorded.trans balanced
      | some task => exact fun once => recorded.trans (balanced once)

/-- In every state of a run, the ledger of a one-shot task says what is due. -/
theorem Run.ledger_eq {history : History ν} {s : Scheduler ν} (run : Run history s)
    {task : Task ν} (member : task ∈ s.barrier.tasks) (once : task.periodic = false) :
    ∃ stage, s.Staged task.id stage ∧ task.Fits stage ∧
      history.ledger task.id = .due stage task.phase := by
  have found := run.sound.coherent.task?_of_mem member
  obtain ⟨stage, staged, fits, balanced⟩ := run.induct_task task.id
    (motive := fun history record stage => Balanced task.id history stage record) rfl
    (fun done _ passage balanced => balanced.step done passage)
  rw [found] at fits balanced
  exact ⟨stage, staged, fits.of_some, balanced once⟩

/-! ## After a cancel -/

/-- A cancelled task is not started. -/
theorem Course.startsTask_of_cancelled {id : TaskId} {deed : Deed} {before after : Option (Task ν)}
    {stages stages' : List RunStage} (course : Course id deed before stages after stages')
    (cancelled : before.map (·.phase) = some .cancelled) : deed.startsTask id = false := by
  cases course with
  | run _ phase | replay _ phase => simp [phase] at cancelled
  | keep apart => exact Deed.startsTask_of_apart apart
  | _ => rfl

/-- **A task that is cancelled is never started again**, whatever happens afterwards. -/
theorem Path.starts_of_cancelled {s s' : Scheduler ν} {later : History ν} {id : TaskId}
    (path : Path s later s') (sound : s.Sound)
    (cancelled : s.barrier.phase? id = some .cancelled) :
    s'.Sound ∧ s'.barrier.phase? id = some .cancelled ∧ later.starts id = 0 := by
  induction path with
  | start => exact ⟨sound, cancelled, rfl⟩
  | @step history middle thread now move turn path taken ih =>
      obtain ⟨sound, cancelled, never⟩ := ih
      have follows := Scheduler.follows_of_step taken
      have course := sound.course follows id
      have deed : (⟨middle, thread, now, move, turn⟩ : Stride ν).deed =
        middle.deed thread now move := rfl
      refine ⟨sound.step follows, course.cancelled cancelled, ?_⟩
      rw [History.starts_cons, never, deed, course.startsTask_of_cancelled cancelled]
      rfl

/-! ## The four fates -/

/-- What can become of a one-shot task. -/
inductive Fate where
  /-- The task is live or held, and has not been started. -/
  | waiting
  /-- The body of the task has been started. -/
  | started
  /-- The task has been cancelled. -/
  | cancelled
  /-- The task has been dropped by a reset that a failure has caused. -/
  | discarded
  deriving DecidableEq

/-- What it means for a task to have a fate, after the given steps have led to the given state. -/
def Fate.Holds (history : History ν) (s : Scheduler ν) (task : Task ν) : Fate → Prop
  | waiting => (task.phase = .live ∨ task.phase = .held) ∧ history.starts task.id = 0
  | started => history.starts task.id = 1
  | cancelled =>
      history.cancels task.id = 1 ∧
        ∀ later s', Path s later s' → History.starts later task.id = 0
  | discarded =>
      history.drops task.id = 1 ∧
        ∀ later s', Path s later s' → History.starts later task.id = 0

end TaskBarrier
