import TaskBarrier.Proofs.ExactlyOnce

/-!
# The life of a task

The phase of a task is written in six places, by whoever holds the lock, and read by anybody who
holds a handle.  All six go along the same few ways.

* A **live** task is held, starts to run or is cancelled.
* A **held** task starts to run or is cancelled, and a periodic one may be live again.
* A **running** one-shot task has ran when its run is over.  A periodic one is live again, or is
  cancelled.

A task that has ran or is cancelled stays so for good, and only a one-shot task whose body has been
executed has ran.  A task has a slot exactly until then.  What is found through a slot is therefore
never a task that has ended, and the sections that look for a slot first make no use of what they
say about such tasks.  A firing is ignored, and a cancel comes too late for a task that is not
running, only if there is no slot.  A reset drops live and held tasks only, and leaves those that
have ended as they are.

## Main Definitions

* `Phase.LeadsTo`: the ways from one phase to another.
* `Lifecycle`.

The main statement is `lifecycle_of_run`.
-/

namespace TaskBarrier

variable {ν : Type}

/-- The ways from one phase to another, for tasks that are periodic or not. -/
inductive Phase.LeadsTo (periodic : Bool) : Phase → Phase → Prop
  /-- The task fires while nobody awaits. -/
  | hold : LeadsTo periodic .live .held
  /-- The task fires while somebody awaits. -/
  | run : LeadsTo periodic .live .running
  /-- The task is cancelled or dropped before it has fired. -/
  | withdraw : LeadsTo periodic .live .cancelled
  /-- The task is replayed. -/
  | replay : LeadsTo periodic .held .running
  /-- The task is cancelled or dropped before it is replayed. -/
  | drop : LeadsTo periodic .held .cancelled
  /-- A cycle ends before the task is replayed. -/
  | release (repeats : periodic = true) : LeadsTo periodic .held .live
  /-- The only run of the task is over. -/
  | complete (once : periodic = false) : LeadsTo periodic .running .ran
  /-- A run of the task is over. -/
  | again (repeats : periodic = true) : LeadsTo periodic .running .live
  /-- A run of the task is over during which it has been cancelled. -/
  | doom (repeats : periodic = true) : LeadsTo periodic .running .cancelled

namespace Phase

/-- No way leads out of a terminal phase. -/
theorem LeadsTo.isTerminal {periodic : Bool} {phase phase' : Phase}
    (leads : phase.LeadsTo periodic phase') : phase.isTerminal = false := by
  cases leads <;> rfl

/-- Only one-shot tasks come to the phase `ran`. -/
theorem LeadsTo.once {periodic : Bool} {phase : Phase} (leads : phase.LeadsTo periodic .ran) :
    periodic = false := by
  cases leads with
  | complete once => exact once

end Phase

/-! ## What a step does to a phase -/

/-- The task goes on: it is periodic or not as before, and its phase is the same or has been left
along one of the ways. -/
def Task.GoesOn (task task' : Task ν) : Prop :=
  task'.id = task.id ∧ task'.periodic = task.periodic ∧
    (task'.phase = task.phase ∨ task.phase.LeadsTo task.periodic task'.phase)

/-- The ways that a run of a task can end. -/
theorem Task.Fits.leadsTo_afterRun {task : Task ν} {stage : Option RunStage}
    (fits : task.Fits stage) (running : task.phase = .running) :
    task.phase.LeadsTo task.periodic (Barrier.afterRun (task.setCounted false)).phase := by
  rw [running]
  unfold Barrier.afterRun
  split
  · next doomed =>
    rw [Task.isDoomed_setCounted] at doomed
    exact .doom (fits.doomed doomed).2
  · split
    · next repeats => exact .again repeats
    · next once =>
      have once : ¬ task.periodic = true := once
      exact .complete (by simpa using once)

/-- The ways that a reset leads. -/
theorem Task.Fits.goesOn_reset {task : Task ν} {stage : Option RunStage}
    (fits : task.Fits stage) : task.GoesOn task.reset := by
  refine ⟨task.id_reset, task.periodic_reset, ?_⟩
  rcases fits.reset_cases with ⟨-, live | held, -, eq⟩ | ⟨-, held, repeats, eq⟩ | ⟨-, -, -, eq⟩
  · rw [eq, live]
    exact .inr .withdraw
  · rw [eq, held]
    exact .inr .drop
  · rw [eq, held]
    exact .inr (.release repeats)
  · rw [eq]
    exact .inl rfl

namespace Course

variable {id : TaskId} {deed : Deed} {before after : Option (Task ν)}
  {stages stages' : List RunStage}

/-- **A step takes a task along one of the ways**, or leaves it in its phase. -/
theorem goesOn {task : Task ν} (course : Course id deed (some task) stages after stages')
    {stage : Option RunStage} (fits : task.Fits stage) :
    ∃ task', after = some task' ∧ task.GoesOn task' := by
  cases course with
  | run _ live => exact ⟨_, rfl, rfl, rfl, .inr (live ▸ .run)⟩
  | hold _ live => exact ⟨_, rfl, rfl, rfl, .inr (live ▸ .hold)⟩
  | replay _ held => exact ⟨_, rfl, rfl, rfl, .inr (held ▸ .replay)⟩
  | enter => exact ⟨_, rfl, rfl, rfl, .inl rfl⟩
  | leave => exact ⟨_, rfl, rfl, rfl, .inl rfl⟩
  | finish running =>
      exact ⟨_, rfl, Task.id_afterRun _, Task.periodic_afterRun _,
        .inr (fits.leadsTo_afterRun running)⟩
  | withdraw waiting =>
      rcases waiting with live | held
      · exact ⟨_, rfl, rfl, rfl, .inr (live ▸ .withdraw)⟩
      · exact ⟨_, rfl, rfl, rfl, .inr (held ▸ .drop)⟩
  | doom => exact ⟨_, rfl, rfl, rfl, .inl rfl⟩
  | reset => exact ⟨_, rfl, fits.goesOn_reset⟩
  | discard =>
      obtain ⟨body, promise, eq⟩ := task.discard_eq
      exact ⟨_, rfl, by rw [eq], by rw [eq], .inl (by rw [eq])⟩
  | read => exact ⟨_, rfl, rfl, rfl, .inl rfl⟩
  | keep => exact ⟨task, rfl, rfl, rfl, .inl rfl⟩

/-- A task that appears is live. -/
theorem begins {task : Task ν} (course : Course id deed none stages (some task) stages') :
    task.phase = .live := by
  cases course with
  | accept => rfl

end Course

namespace Scheduler.Sound

variable {s s' : Scheduler ν} {thread : ThreadId} {deed : Deed}

/-- A step takes every task along one of the ways, or leaves it in its phase. -/
theorem goesOn (sound : s.Sound) (follows : s.Follows thread deed s') {id : TaskId} {task : Task ν}
    (found : s.barrier.task? id = some task) :
    ∃ task', s'.barrier.task? id = some task' ∧ task.GoesOn task' := by
  obtain ⟨stage, -, fits⟩ := sound.fits_of_found found
  have course := sound.course follows id
  rw [found] at course
  exact course.goesOn fits

end Scheduler.Sound

/-- **A task that has ended stays as it is**, whatever happens afterwards. -/
theorem Path.phase?_of_isTerminal {s s' : Scheduler ν} {later : History ν} (path : Path s later s')
    (sound : s.Sound) {id : TaskId} {phase : Phase} (ended : s.barrier.phase? id = some phase)
    (terminal : phase.isTerminal = true) : s'.Sound ∧ s'.barrier.phase? id = some phase := by
  induction path with
  | start => exact ⟨sound, ended⟩
  | step _ taken ih =>
      obtain ⟨sound, ended⟩ := ih
      have follows := Scheduler.follows_of_step taken
      obtain ⟨task, found, rfl⟩ := Option.map_eq_some_iff.mp ended
      obtain ⟨task', found', -, -, same | leads⟩ := sound.goesOn follows found
      · exact ⟨sound.step follows, by rw [Barrier.phase?, found', Option.map_some, same]⟩
      · cases leads.isTerminal.symm.trans terminal

/-- No step makes a periodic task one that has ran. -/
theorem Passage.once_of_ran {id : TaskId} {deed : Deed} {before after : Option (Task ν)}
    {stage stage' : Option RunStage} (passage : Passage id deed before stage after stage')
    (once : ∀ task ∈ before, task.phase = .ran → task.periodic = false) :
    ∀ task ∈ after, task.phase = .ran → task.periodic = false := by
  rintro task' ⟨⟩ ran
  obtain ⟨course, fits, -⟩ := passage
  cases before with
  | none =>
      rw [course.begins] at ran
      cases ran
  | some task =>
      obtain ⟨task', ⟨⟩, -, periodic, way⟩ := course.goesOn fits.of_some
      rw [periodic]
      rcases way with same | leads
      · exact once task rfl (same.symm.trans ran)
      · rw [ran] at leads
        exact leads.once

/-- Only one-shot tasks have ran. -/
theorem Run.once_of_ran {history : History ν} {s : Scheduler ν} (run : Run history s) (id : TaskId) :
    ∀ task ∈ s.barrier.task? id, task.phase = .ran → task.periodic = false := by
  obtain ⟨-, -, -, once⟩ := run.induct_task id
    (motive := fun _ record _ => ∀ task ∈ record, task.phase = .ran → task.periodic = false)
    (fun _ member => nomatch member) (fun _ _ passage once => passage.once_of_ran once)
  exact once

/-! ## What is found through a slot -/

section Slots

variable {b : Barrier ν} {task : Task ν} {stage : Option RunStage}

/-- A task that has ended has nothing that a reset could take. -/
theorem Task.Fits.reset_of_isTerminal (fits : task.Fits stage)
    (terminal : task.phase.isTerminal = true) : task.isDropped = false ∧ task.reset = task := by
  have slotted := fits.slotted
  rw [terminal] at slotted
  have none : task.slot = none := by simpa using slotted
  have kept : task.isDropped = false := by rw [Task.isDropped, none]; rfl
  refine ⟨kept, ?_⟩
  rw [Task.reset, kept, none]
  cases task
  obtain rfl := none
  rfl

/-- What is found through a slot has not ended. -/
theorem Scheduler.Sound.isTerminal_of_slotted? {s : Scheduler ν} (sound : s.Sound) {id : TaskId}
    {slot : Slot} (slotted : s.barrier.slotted? id = some (task, slot)) :
    task.phase.isTerminal = false := by
  obtain ⟨found, has⟩ := Barrier.slotted?_eq_some_iff.mp slotted
  obtain ⟨stage, -, fits⟩ := sound.fits_of_found found
  have isSome := fits.slotted
  rw [has] at isSome
  simpa using isSome.symm

/-- **A firing is ignored only if there is no slot.** -/
theorem Scheduler.Sound.ignored_iff {s : Scheduler ν} (sound : s.Sound) (id : TaskId) :
    (s.barrier.fire id).answer = .ignored ↔ s.barrier.slotted? id = none := by
  unfold Barrier.fire
  cases slotted : s.barrier.slotted? id with
  | none => exact iff_of_true rfl rfl
  | some found =>
      obtain ⟨task, slot⟩ := found
      refine iff_of_false ?_ (by simp)
      have continues := sound.isTerminal_of_slotted? slotted
      dsimp only
      cases phase : task.phase with
      | live =>
          rw [Barrier.answer_fireLive]
          split <;> simp
      | held | running => simp
      | ran | cancelled =>
          rw [phase] at continues
          cases continues

/-- **A cancel comes too late** if there is no slot, or during a run that it cannot end. -/
theorem Scheduler.Sound.tooLate_iff {s : Scheduler ν} (sound : s.Sound) (id : TaskId) :
    (s.barrier.cancel id).answer = .tooLate ↔ s.barrier.slotted? id = none ∨
      ∃ task slot, s.barrier.slotted? id = some (task, slot) ∧ task.phase = .running ∧
        (task.periodic = false ∨ slot.doomed = true) := by
  unfold Barrier.cancel
  cases slotted : s.barrier.slotted? id with
  | none => exact iff_of_true rfl (.inl rfl)
  | some found =>
      obtain ⟨task, slot⟩ := found
      have continues := sound.isTerminal_of_slotted? slotted
      have only : (some (task, slot) = none ∨ ∃ task' slot', some (task, slot) = some (task', slot') ∧
          task'.phase = .running ∧ (task'.periodic = false ∨ slot'.doomed = true)) ↔
          task.phase = .running ∧ (task.periodic = false ∨ slot.doomed = true) := by
        constructor
        · intro found
          obtain ⟨_, _, ⟨⟩, late⟩ := found.resolve_left (by simp)
          exact late
        · intro late
          exact .inr ⟨task, slot, rfl, late⟩
      rw [only]
      dsimp only
      cases phase : task.phase with
      | live | held => simp [Barrier.withdraw]
      | running => cases task.periodic <;> cases slot.doomed <;> simp
      | ran | cancelled =>
          rw [phase] at continues
          cases continues

end Slots

/-! ## Lifecycle -/

/-- The lives of the tasks of a scheduler that has come to the state `s` by the steps of
`history`. -/
structure Lifecycle (history : History ν) (s : Scheduler ν) : Prop where
  /-- Every step takes every task along one of the ways, or leaves it in its phase. -/
  goesOn : ∀ stride ∈ history, ∀ id task, stride.before.barrier.task? id = some task →
    ∃ task', stride.turn.scheduler.barrier.task? id = some task' ∧ task.GoesOn task'
  /-- A task that appears is live. -/
  begins : ∀ stride ∈ history, ∀ id task, stride.before.barrier.task? id = none →
    stride.turn.scheduler.barrier.task? id = some task → task.phase = .live
  /-- A task that has ended stays as it is. -/
  ends : ∀ id phase, s.barrier.phase? id = some phase → phase.isTerminal = true →
    ∀ later s', Path s later s' → s'.barrier.phase? id = some phase
  /-- A task that has ran is a one-shot task whose body has been started and executed. -/
  ran : ∀ task ∈ s.barrier.tasks, task.phase = .ran → task.periodic = false ∧
    history.starts task.id = 1 ∧ history.executions task.id = 1
  /-- A task has a slot until it has ended. -/
  slotted : ∀ task ∈ s.barrier.tasks, task.slot.isSome = true ↔ task.phase.isTerminal = false
  /-- What a section finds through a slot has not ended. -/
  found : ∀ id task slot, s.barrier.slotted? id = some (task, slot) → task.phase.isTerminal = false
  /-- A firing is ignored only if there is no slot. -/
  ignored : ∀ id, (s.barrier.fire id).answer = .ignored ↔ s.barrier.slotted? id = none
  /-- A cancel comes too late only if there is no slot, or during a run that it cannot end. -/
  tooLate : ∀ id, (s.barrier.cancel id).answer = .tooLate ↔ s.barrier.slotted? id = none ∨
    ∃ task slot, s.barrier.slotted? id = some (task, slot) ∧ task.phase = .running ∧
      (task.periodic = false ∨ slot.doomed = true)
  /-- A reset leaves a task that has ended as it is. -/
  reset : ∀ task ∈ s.barrier.tasks, task.phase.isTerminal = true →
    task.isDropped = false ∧ task.reset = task

/-- **Every task goes through its life**, in every run. -/
theorem lifecycle_of_run {history : History ν} {s : Scheduler ν} (run : Run history s) :
    Lifecycle history s where
  goesOn := by
    intro stride member id task found
    obtain ⟨later, earlier, rfl⟩ := List.append_of_mem member
    obtain ⟨before, taken⟩ := run.stride
    exact before.sound.goesOn (Scheduler.follows_of_step taken) found
  begins := by
    intro stride member id task absent found
    obtain ⟨later, earlier, rfl⟩ := List.append_of_mem member
    obtain ⟨before, taken⟩ := run.stride
    have course := before.sound.course (Scheduler.follows_of_step taken) id
    rw [absent, found] at course
    exact course.begins
  ends := fun _ _ ended terminal _ _ path => (path.phase?_of_isTerminal run.sound ended terminal).2
  ran := by
    intro task member ran
    have once := run.once_of_ran task.id task (run.sound.coherent.task?_of_mem member) ran
    obtain ⟨stage, -, -, ledger⟩ := run.ledger_eq member once
    rw [ran] at ledger
    obtain ⟨starts, executions, -⟩ := History.ledger_eq_iff.mp ledger
    exact ⟨once, starts, executions⟩
  slotted := by
    intro task member
    obtain ⟨stage, -, fits⟩ := run.sound.fits_of_found (run.sound.coherent.task?_of_mem member)
    rw [fits.slotted]
    simp
  found := fun _ _ _ slotted => run.sound.isTerminal_of_slotted? slotted
  ignored := run.sound.ignored_iff
  tooLate := run.sound.tooLate_iff
  reset := by
    intro task member terminal
    obtain ⟨stage, -, fits⟩ := run.sound.fits_of_found (run.sound.coherent.task?_of_mem member)
    exact fits.reset_of_isTerminal terminal

/-- After `replayedMoves` the only task has ran: it was executed once, and a cancel of it comes too
late. -/
theorem lifecycle_of_replayed : ∃ (history : History Unit) (s : Scheduler Unit) (task : Task Unit),
    Run history s ∧ Lifecycle history s ∧ task ∈ s.barrier.tasks ∧ task.phase = .ran ∧
      history.executions task.id = 1 ∧ (s.barrier.cancel task.id).answer = .tooLate := by
  obtain ⟨history, s, task, played, member, ran, unslotted⟩ : ∃ history s task,
      (Scheduler.start 0 .default (.byHand .empty) none).play replayedMoves = some (history, s) ∧
        task ∈ s.barrier.tasks ∧ task.phase = .ran ∧ s.barrier.slotted? task.id = none :=
    ⟨_, _, _, rfl, .head _, rfl, rfl⟩
  have lives := lifecycle_of_run (Run.of_play played)
  exact ⟨history, s, task, .of_play played, lives, member, ran, (lives.ran task member ran).2.2,
    (lives.tooLate task.id).mpr (.inl unslotted)⟩

end TaskBarrier
