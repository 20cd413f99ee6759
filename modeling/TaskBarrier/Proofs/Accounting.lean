import TaskBarrier.Proofs.Preservation

/-!
# What the counter counts

`Coherence` shows that the counter of outstanding tasks agrees with the flags in the slots.  This
module says what the flags mean, in terms of what has happened: a task contributes to the counter
if it has a slot and

* it is held, or
* it is running, in a run that was started after the latest reset, or
* it is live, was accepted after the latest reset, and no run of it is over.

The run in progress of a running task is the one that was started last.  So it was started after
the latest reset if and only if any run of the task was.

## Main Definitions

* `History.contributes`: whether a task contributes, read off its record and the history.

The main statement is `outstanding_eq_contributions`.
-/

namespace TaskBarrier

variable {ν : Type}

namespace History

/-- Whether the task contributes to the number of outstanding tasks, after the given steps. -/
def contributes (history : History ν) (task : Task ν) : Bool :=
  task.slot.isSome &&
    match task.phase with
    | .held => true
    | .running => history.sinceReset.starts task.id != 0
    | .live => history.sinceReset.accepts task.id != 0 && history.finishes task.id == 0
    | .ran | .cancelled => false

/-- A task without a slot contributes nothing. -/
theorem contributes_of_none (history : History ν) {task : Task ν} (none : task.slot = none) :
    history.contributes task = false := by
  simp [contributes, none]

/-- A held task contributes. -/
theorem contributes_of_held (history : History ν) {task : Task ν}
    (slotted : task.slot.isSome = true) (held : task.phase = .held) :
    history.contributes task = true := by
  simp [contributes, slotted, held]

/-- A step that neither starts, finishes nor accepts a task, and is no reset, changes nothing about
what a task contributes that keeps its phase and its slot. -/
theorem contributes_cons_of_same {history : History ν} {stride : Stride ν} {task task' : Task ν}
    (slot : task'.slot.isSome = task.slot.isSome) (phase : task'.phase = task.phase)
    (id : task'.id = task.id) (reset : stride.deed.isReset = false)
    (starts : stride.deed.startsTask task.id = false)
    (accepts : stride.deed.acceptsTask task.id = false)
    (finishes : stride.deed.finishesTask task.id = false) :
    History.contributes (stride :: history) task' = history.contributes task := by
  have since : History.sinceReset (stride :: history) = stride :: history.sinceReset := by
    simp [sinceReset_cons, reset]
  simp only [contributes, slot, phase, id, since, starts_cons, accepts_cons, finishes_cons, starts,
    accepts, finishes]
  rfl

/-- A task contributes from the decision to run it. -/
theorem contributes_cons_of_start {history : History ν} {stride : Stride ν} {task : Task ν}
    (slotted : task.slot.isSome = true) (running : task.phase = .running)
    (reset : stride.deed.isReset = false) (starts : stride.deed.startsTask task.id = true) :
    History.contributes (stride :: history) task = true := by
  simp [contributes, slotted, running, sinceReset_cons, reset, starts_cons, starts]

/-- No task contributes after a reset, unless it is held, which no task is after a reset. -/
theorem contributes_cons_of_reset {history : History ν} {stride : Stride ν} {task : Task ν}
    (reset : stride.deed.isReset = true) (resting : task.phase ≠ .held) :
    History.contributes (stride :: history) task = false := by
  have since : History.sinceReset (stride :: history) = [] := by
    simp [sinceReset_cons, reset]
  unfold contributes
  rw [since]
  cases phase : task.phase with
  | held => exact absurd phase resting
  | _ => simp

/-- A live task does not contribute once a run of it is over. -/
theorem contributes_cons_of_finish {history : History ν} {stride : Stride ν} {task : Task ν}
    (finishes : stride.deed.finishesTask task.id = true)
    (ended : task.slot = none ∨ task.phase = .live) :
    History.contributes (stride :: history) task = false := by
  rcases ended with none | live
  · exact contributes_of_none _ none
  · simp [contributes, live, finishes_cons, finishes]

end History

/-- The flag of a task says whether the task contributes; and no run is over of a task that has not
been accepted. -/
def Accounted (id : TaskId) (history : History ν) : Option (Task ν) → Prop
  | none => history.finishes id = 0
  | some task => task.isCounted = history.contributes task

/-- A task that keeps its phase, its slot and its flag keeps its account. -/
theorem Accounted.cons_of_same {id : TaskId} {history : History ν} {stride : Stride ν}
    {task task' : Task ν} (accounted : Accounted id history (some task))
    (flag : task'.isCounted = task.isCounted) (slot : task'.slot.isSome = task.slot.isSome)
    (phase : task'.phase = task.phase) (same : task'.id = task.id)
    (reset : stride.deed.isReset = false) (starts : stride.deed.startsTask task.id = false)
    (accepts : stride.deed.acceptsTask task.id = false)
    (finishes : stride.deed.finishesTask task.id = false) :
    Accounted id (stride :: history) (some task') := by
  have counted : task.isCounted = history.contributes task := accounted
  show task'.isCounted = History.contributes (stride :: history) task'
  rw [flag, counted]
  exact (History.contributes_cons_of_same slot phase same reset starts accepts finishes).symm

/-- **Every step keeps the account of every task.** -/
theorem Accounted.step {id : TaskId} {history : History ν} {stride : Stride ν} {deed : Deed}
    {before after : Option (Task ν)} {stage stage' : Option RunStage} (done : stride.deed = deed)
    (passage : Passage id deed before stage after stage')
    (accounted : Accounted id history before) : Accounted id (stride :: history) after := by
  obtain ⟨course, fits, fits', named, named'⟩ := passage
  generalize stage.toList = stages, stage'.toList = stages' at course
  cases course with
  | accept =>
      have never : history.finishes id = 0 := accounted
      show true = _
      simp [History.contributes, Task.accepted, History.sinceReset_cons, History.accepts_cons,
        History.finishes_cons, done, Deed.isReset, Deed.acceptsTask, Deed.finishesTask, never]
  | @run task _ slotted live =>
      have starts : stride.deed.startsTask task.id = true := by
        rw [done, named task rfl]
        exact beq_self_eq_true id
      have slotted' : ((task.setCounted true).setPhase .running).slot.isSome = true :=
        (task.isSome_slot_setCounted true).trans slotted
      have flag : ((task.setCounted true).setPhase .running).isCounted = true := by
        rw [Task.isCounted_setPhase, Task.isCounted_setCounted, slotted]
        rfl
      exact flag.trans
        (History.contributes_cons_of_start slotted' rfl (by rw [done]; rfl) starts).symm
  | @hold task _ slotted live =>
      have slotted' : ((task.setCounted true).setPhase .held).slot.isSome = true :=
        (task.isSome_slot_setCounted true).trans slotted
      exact (fits'.of_some.counted (.inl rfl)).trans
        (History.contributes_of_held _ slotted' rfl).symm
  | @replay task _ slotted held =>
      have starts : stride.deed.startsTask task.id = true := by
        rw [done, named task rfl]
        exact beq_self_eq_true id
      have slotted' : (task.setPhase .running).slot.isSome = true := slotted
      have flag : (task.setPhase .running).isCounted = true := fits.of_some.counted (.inl held)
      exact flag.trans
        (History.contributes_cons_of_start slotted' rfl (by rw [done]; rfl) starts).symm
  | enter | leave | read =>
      exact accounted.cons_of_same rfl rfl rfl rfl (by rw [done]; rfl) (by rw [done]; rfl)
        (by rw [done]; rfl) (by rw [done]; rfl)
  | @finish task _ running =>
      have uncounted : (task.setCounted false).isCounted = false := by simp
      have finishes :
          stride.deed.finishesTask (Barrier.afterRun (task.setCounted false)).id = true := by
        rw [done, named' _ rfl]
        exact beq_self_eq_true id
      exact (Task.isCounted_afterRun uncounted).trans
        (History.contributes_cons_of_finish finishes (Task.afterRun_cases _)).symm
  | withdraw => rfl
  | @doom task _ running periodic undoomed =>
      exact accounted.cons_of_same task.isCounted_doom task.isSome_slot_doom rfl rfl
        (by rw [done]; rfl) (by rw [done]; rfl) (by rw [done]; rfl) (by rw [done]; rfl)
  | @reset _ _ task _ listed cleared =>
      exact task.isCounted_reset.trans (History.contributes_cons_of_reset (by rw [done]; rfl)
        fits.of_some.phase_reset_ne_held).symm
  | absent unlisted =>
      have never : history.finishes id = 0 := accounted
      show History.finishes (stride :: history) id = 0
      rw [History.finishes_cons, done, never]
      rfl
  | @discard task _ cancelled =>
      obtain ⟨body, promise, eq⟩ := task.discard_eq
      rw [eq]
      exact accounted.cons_of_same rfl rfl rfl rfl (by rw [done]; rfl) (by rw [done]; rfl)
        (by rw [done]; rfl) (by rw [done]; rfl)
  | keep apart =>
      rw [← done] at apart
      cases before with
      | none =>
          have never : history.finishes id = 0 := accounted
          show History.finishes (stride :: history) id = 0
          rw [History.finishes_cons, never, Deed.finishesTask_of_apart apart]
          rfl
      | some task =>
          rw [← named task rfl] at apart
          exact accounted.cons_of_same rfl rfl rfl rfl (Deed.isReset_of_apart apart)
            (Deed.startsTask_of_apart apart) (Deed.acceptsTask_of_apart apart)
            (Deed.finishesTask_of_apart apart)

/-- In every state of a run, the flags of all tasks say which of them contribute. -/
theorem Run.isCounted_eq {history : History ν} {s : Scheduler ν} (run : Run history s)
    {task : Task ν} (member : task ∈ s.barrier.tasks) :
    task.isCounted = history.contributes task := by
  have found := run.sound.coherent.task?_of_mem member
  obtain ⟨-, -, -, accounted⟩ := run.induct_task task.id
    (motive := fun history record _ => Accounted task.id history record) rfl
    (fun done _ passage accounted => accounted.step done passage)
  rw [found] at accounted
  exact accounted

/-- The tasks that have a slot are all that are counted. -/
theorem Barrier.counted_eq_slotted (b : Barrier ν) :
    b.counted = b.slotted.countP (·.isCounted) := by
  rw [counted, slotted, List.countP_filter]
  refine List.countP_congr fun task _ => ?_
  cases slot : task.slot <;> simp [Task.isCounted, slot]

/-- **The counter is exact.**  In every state of a run, the counter of outstanding tasks is the
number of tasks that contribute to it, none of which occurs twice, and the number of slots whose
flag is set.  A section that stops counting a task finds the counter above zero and lowers it by
one, whatever the section has done to the facility and to the hold queue before. -/
theorem outstanding_eq_contributions {history : History ν} {s : Scheduler ν}
    (run : Run history s) :
    s.barrier.outstanding = s.barrier.tasks.countP (history.contributes ·) ∧
      (s.barrier.tasks.map (·.id)).Nodup ∧
      s.barrier.outstanding = s.barrier.slotted.countP (·.isCounted) ∧
      ∀ facility held id task slot,
        let b : Barrier ν := { s.barrier with facility := facility, held := held }
        b.slotted? id = some (task, slot) → slot.counted = true →
          0 < b.outstanding ∧ (b.uncount id).outstanding + 1 = b.outstanding := by
  have coherent := run.sound.coherent
  have exact : s.barrier.counted = s.barrier.tasks.countP (history.contributes ·) :=
    List.countP_congr fun task member => by rw [run.isCounted_eq member]
  refine ⟨coherent.balanced.trans exact, coherent.nodup,
    coherent.balanced.trans s.barrier.counted_eq_slotted, ?_⟩
  intro facility held id task slot b has counted
  obtain ⟨found, has⟩ := Barrier.slotted?_eq_some_iff.mp has
  have same : b.Coherent := coherent.transfer rfl rfl (Nat.le_refl _)
  have lowered := (same.outstanding_uncount found).1
  have flag : task.isCounted = true := by simp [Task.isCounted, has, counted]
  rw [flag, if_pos rfl] at lowered
  exact ⟨by omega, lowered⟩

/-- While the task of `replayedMoves` is held, it is what the counter counts. -/
theorem outstanding_of_held : ∃ (history : History Unit) (s : Scheduler Unit), Run history s ∧
    s.barrier.phase? ⟨0⟩ = some .held ∧ s.barrier.outstanding = 1 ∧
    s.barrier.tasks.countP (history.contributes ·) = 1 := by
  obtain ⟨history, s, played, held, counter⟩ : ∃ history s,
      (Scheduler.start 0 .default (.byHand .empty) none).play (replayedMoves.take 4) =
        some (history, s) ∧ s.barrier.phase? ⟨0⟩ = some .held ∧ s.barrier.outstanding = 1 :=
    ⟨_, _, rfl, rfl, rfl⟩
  have run := Run.of_play played
  obtain ⟨exact, -⟩ := outstanding_eq_contributions run
  exact ⟨history, s, run, held, counter, exact.symm.trans counter⟩

end TaskBarrier
