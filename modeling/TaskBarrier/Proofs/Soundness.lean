import TaskBarrier.Proofs.Coherence
import TaskBarrier.Proofs.Course
import TaskBarrier.Proofs.Shape

/-!
# Sound states

A state of a scheduler is *sound* if the barrier and the stacks of all threads tell the same
story.  Every state of a run is sound, as `Preservation` shows; what the other modules say about
runs is said about sound states first.

The heart of it is the *stage* of a task, which is how far the run in progress has come, if there
is one.

* A task is running if and only if it has a stage, that is, if and only if some thread has a frame
  for a run of it; and there is never more than one such frame, on whatever thread.
* The stage says whether the body is being executed, and what is left of the body.
* A task keeps its slot until it has ended.  It is counted while it is held, and while it is a live
  one-shot task.

## Main Definitions

* `Scheduler.Staged`: the runs of a task on the stacks of all threads.
* `Task.Fits`, `Fits`: the record of a task goes with its stage.
* `Scheduler.Sound`.

The main statement is `Sound.course`: every step from a sound state takes a course, for each task.
-/

namespace TaskBarrier

variable {ν : Type}

/-! ## The stage of a task -/

namespace Scheduler

/-- The runs of the task that are in progress, on the stacks of all threads: none, or a single one
that has come to the given stage. -/
def Staged (s : Scheduler ν) (id : TaskId) : Option RunStage → Prop
  | none => ∀ thread, Stack.stages id (s.stack thread) = []
  | some stage => ∃ thread, Stack.stages id (s.stack thread) = [stage] ∧
      ∀ other, other ≠ thread → Stack.stages id (s.stack other) = []

namespace Staged

variable {s s' : Scheduler ν} {thread : ThreadId} {id : TaskId}

/-- The runs on one thread are none, or the one there is. -/
theorem stages_eq {stage : Option RunStage} (staged : s.Staged id stage) (thread : ThreadId) :
    Stack.stages id (s.stack thread) = [] ∨
      ∃ here, stage = some here ∧ Stack.stages id (s.stack thread) = [here] ∧
        ∀ other, other ≠ thread → Stack.stages id (s.stack other) = [] := by
  cases stage with
  | none => exact .inl (staged thread)
  | some stage =>
      obtain ⟨runner, one, others⟩ := staged
      by_cases same : thread = runner
      · subst same
        exact .inr ⟨stage, rfl, one, others⟩
      · exact .inl (others thread same)

/-- A run that is on the stack of a thread is the only one. -/
theorem of_cons {stage : Option RunStage} (staged : s.Staged id stage) {here : RunStage}
    {rest : List RunStage} (top : Stack.stages id (s.stack thread) = here :: rest) :
    stage = some here ∧ rest = [] ∧
      ∀ other, other ≠ thread → Stack.stages id (s.stack other) = [] := by
  rcases staged.stages_eq thread with empty | ⟨here', eq, one, others⟩
  · rw [empty] at top
    cases top
  · obtain ⟨rfl, rfl⟩ := List.cons.inj (one.symm.trans top)
    exact ⟨eq, rfl, others⟩

/-- Nothing happens to the runs of the task. -/
theorem keep {stage : Option RunStage} (staged : s.Staged id stage)
    (own : Stack.stages id (s'.stack thread) = Stack.stages id (s.stack thread))
    (others : ∀ other, other ≠ thread → s'.stack other = s.stack other) : s'.Staged id stage := by
  have same : ∀ any, Stack.stages id (s'.stack any) = Stack.stages id (s.stack any) := by
    intro any
    by_cases at_thread : any = thread
    · rw [at_thread, own]
    · rw [others any at_thread]
  cases stage with
  | none => exact fun any => (same any).trans (staged any)
  | some stage =>
      obtain ⟨runner, one, rest⟩ := staged
      exact ⟨runner, (same runner).trans one, fun any ne => (same any).trans (rest any ne)⟩

/-- A run begins. -/
theorem push (staged : s.Staged id none) {stage : RunStage}
    (own : Stack.stages id (s'.stack thread) = stage :: Stack.stages id (s.stack thread))
    (others : ∀ other, other ≠ thread → s'.stack other = s.stack other) :
    s'.Staged id (some stage) := by
  refine ⟨thread, by rw [own, staged thread], fun other ne => ?_⟩
  rw [others other ne]
  exact staged other

/-- A run comes to its next stage. -/
theorem advance {stage : Option RunStage} (staged : s.Staged id stage) {here next : RunStage}
    {rest : List RunStage} (top : Stack.stages id (s.stack thread) = here :: rest)
    (own : Stack.stages id (s'.stack thread) = next :: rest)
    (others : ∀ other, other ≠ thread → s'.stack other = s.stack other) :
    s'.Staged id (some next) := by
  obtain ⟨-, rfl, elsewhere⟩ := staged.of_cons top
  refine ⟨thread, own, fun other ne => ?_⟩
  rw [others other ne]
  exact elsewhere other ne

/-- A run is over. -/
theorem pop {stage : Option RunStage} (staged : s.Staged id stage) {here : RunStage}
    (top : Stack.stages id (s.stack thread) = here :: Stack.stages id (s'.stack thread))
    (others : ∀ other, other ≠ thread → s'.stack other = s.stack other) :
    s'.Staged id none := by
  obtain ⟨-, empty, elsewhere⟩ := staged.of_cons top
  intro any
  by_cases at_thread : any = thread
  · rw [at_thread, empty]
  · rw [others any at_thread]
    exact elsewhere any at_thread

end Staged

end Scheduler

/-- The record of a task goes with the stage of its run. -/
structure Task.Fits (task : Task ν) (stage : Option RunStage) : Prop where
  /-- A task is running while there is a run of it. -/
  running : task.phase = .running ↔ stage ≠ none
  /-- A task has a slot until it has ended. -/
  slotted : task.slot.isSome = !task.phase.isTerminal
  /-- A held task and a live one-shot task are counted. -/
  counted : task.phase = .held ∨ task.phase = .live ∧ task.periodic = false →
    task.isCounted = true
  /-- Only a periodic task that is running is ever doomed. -/
  doomed : task.isDoomed = true → task.phase = .running ∧ task.periodic = true
  /-- The lock of the body is held while the body is executed. -/
  executing : task.executing = true ↔ stage = some .executing
  /-- What is left of the body. -/
  body : task.slot.isSome = true →
    task.body = if stage = some .executing ∨ stage = some .finishing then task.usedBody
      else task.intactBody

/-- What is found under a number goes with the stage of the runs under that number. -/
inductive Fits : Option (Task ν) → Option RunStage → Prop
  | absent : Fits none none
  | present {task : Task ν} {stage : Option RunStage} (fits : task.Fits stage) :
      Fits (some task) stage

/-- The record of a task that is found goes with its stage. -/
theorem Fits.of_some {task : Task ν} {stage : Option RunStage} (fits : Fits (some task) stage) :
    task.Fits stage := by
  cases fits with
  | present fits => exact fits

/-- The tasks whose bodies a frame has to throw away. -/
def Frame.discards : Frame ν → List TaskId
  | .dropping tasks | .discarding tasks => tasks
  | _ => []

namespace Frame

/-- A frame with which a request begins throws nothing away. -/
theorem discards_of_isOpening {frame : Frame ν} (opens : frame.isOpening = true) :
    frame.discards = [] := by
  cases frame <;> first | rfl | cases opens

/-- A frame with which a call returns throws nothing away. -/
theorem discards_of_isReturning {frame : Frame ν} (returns : frame.isReturning = true) :
    frame.discards = [] := by
  cases frame <;> first | rfl | cases returns

/-- A frame of a call that comes to its end throws nothing away. -/
theorem discards_of_isEnding {frame : Frame ν} (ends : frame.isEnding = true) :
    frame.discards = [] := by
  cases frame <;> first | rfl | cases ends

end Frame

/-- The tasks whose bodies are to be thrown away on a stack. -/
def Stack.discards (stack : Stack ν) : List TaskId := stack.flatMap Frame.discards

namespace Stack

@[simp] theorem discards_cons (frame : Frame ν) (rest : Stack ν) :
    Stack.discards (frame :: rest) = frame.discards ++ Stack.discards rest := rfl

theorem discards_append (top rest : Stack ν) :
    Stack.discards (top ++ rest) = Stack.discards top ++ Stack.discards rest :=
  List.flatMap_append

/-- Frames that throw nothing away add nothing. -/
theorem discards_append_of_nil {top : Stack ν} (nothing : ∀ frame ∈ top, frame.discards = [])
    (rest : Stack ν) : Stack.discards (top ++ rest) = Stack.discards rest := by
  rw [discards_append, Stack.discards, List.flatMap_eq_nil_iff.mpr nothing, List.nil_append]

end Stack

namespace Scheduler

/-- **A state in which the barrier and the stacks of all threads tell the same story.** -/
structure Sound (s : Scheduler ν) : Prop where
  /-- The counter agrees with the flags, and numbers tell tasks apart. -/
  coherent : s.barrier.Coherent
  /-- No task is held twice. -/
  held_nodup : s.barrier.held.Nodup
  /-- The hold queue lists the held tasks. -/
  mem_held : ∀ id, id ∈ s.barrier.held ↔ s.barrier.phase? id = some .held
  /-- Every task goes with its stage. -/
  staged : ∀ id, ∃ stage, s.Staged id stage ∧ Fits (s.barrier.task? id) stage
  /-- Bodies are thrown away only of cancelled tasks. -/
  discards : ∀ thread, ∀ id ∈ Stack.discards (s.stack thread),
    s.barrier.phase? id = some .cancelled
  /-- Stacks are in shape. -/
  shaped : ∀ thread, (s.stack thread).isShaped = true

namespace Sound

variable {s s' : Scheduler ν} {thread : ThreadId} {deed : Deed}

/-- The task of a run in progress is there, and its record goes with the stage of the run. -/
theorem of_stages (sound : s.Sound) {id : TaskId} {here : RunStage} {rest : List RunStage}
    (top : Stack.stages id (s.stack thread) = here :: rest) :
    ∃ task, s.barrier.task? id = some task ∧ task.Fits (some here) := by
  obtain ⟨stage, staged, fits⟩ := sound.staged id
  obtain ⟨rfl, -, -⟩ := staged.of_cons top
  generalize found : s.barrier.task? id = record at fits
  cases fits with
  | present fits => exact ⟨_, rfl, fits⟩

/-- The task of the run on top of a stack. -/
theorem of_run (sound : s.Sound) {id : TaskId} {here : RunStage} {rest : Stack ν}
    (top : s.stack thread = .run id here :: rest) :
    ∃ task, s.barrier.task? id = some task ∧ task.Fits (some here) := by
  have stages : Stack.stages id (s.stack thread) = here :: Stack.stages id rest := by
    rw [top, Stack.stages_run_self]
  exact sound.of_stages stages

/-- The front of the hold queue is a held task, so it is never passed over. -/
theorem phase?_front (sound : s.Sound) {id : TaskId} {rest : List TaskId}
    (held : s.barrier.held = id :: rest) : s.barrier.phase? id = some .held :=
  (sound.mem_held id).mp (held ▸ List.mem_cons_self)

/-- A task that is found fits some stage. -/
theorem fits_of_found (sound : s.Sound) {id : TaskId} {task : Task ν}
    (found : s.barrier.task? id = some task) : ∃ stage, s.Staged id stage ∧ task.Fits stage := by
  obtain ⟨stage, staged, fits⟩ := sound.staged id
  rw [found] at fits
  exact ⟨stage, staged, fits.of_some⟩

end Sound

end Scheduler

/-- The record of a running task has a slot. -/
theorem Task.Fits.exists_slot {task : Task ν} {stage : Option RunStage} (fits : task.Fits stage)
    (continues : task.phase.isTerminal = false) : ∃ slot, task.slot = some slot := by
  rw [← Option.isSome_iff_exists, fits.slotted, continues]
  rfl

/-- A task is running while there is a run of it. -/
theorem Task.Fits.phase_of_some {task : Task ν} {stage : RunStage} (fits : task.Fits (some stage)) :
    task.phase = .running :=
  fits.running.mpr (by simp)

/-- A task that a reset drops is counted. -/
theorem Task.Fits.isCounted_of_isDropped {task : Task ν} {stage : Option RunStage}
    (fits : task.Fits stage) (isDropped : task.isDropped = true) : task.isCounted = true := by
  have slotted := fits.slotted
  refine fits.counted ?_
  unfold Task.isDropped at isDropped
  rw [slotted] at isDropped
  cases phase : task.phase <;> simp_all [Phase.isTerminal]

/-- A task whose run is about to begin has a body to execute. -/
theorem Task.Fits.enterBody? {b : Barrier ν} {id : TaskId} {task : Task ν} {replayed : Bool}
    (fits : task.Fits (some (.starting replayed))) (coherent : b.Coherent)
    (found : b.task? id = some task) : b.enterBody? id = some (true, b.modify id (·.entered)) := by
  refine enterBody?_of_intact coherent found ?_ ?_
  · by_contra executing
    have stage := fits.executing.mp (by simpa using executing)
    cases stage
  · obtain ⟨slot, has⟩ := fits.exists_slot (by rw [fits.phase_of_some]; rfl)
    simpa using fits.body (by rw [has]; rfl)

namespace Scheduler.Sound

variable {s s' : Scheduler ν} {thread : ThreadId} {deed : Deed}

/-- While nothing is outstanding, no task is counted. -/
theorem isCounted_of_outstanding (sound : s.Sound) (settled : s.barrier.outstanding = 0)
    {task : Task ν} (member : task ∈ s.barrier.tasks) : task.isCounted = false := by
  have none : s.barrier.counted = 0 := sound.coherent.balanced.symm.trans settled
  simpa using List.countP_eq_zero.mp none task member

/-- While nothing is outstanding, a reset drops nothing. -/
theorem dropped_of_outstanding (sound : s.Sound) (settled : s.barrier.outstanding = 0) :
    s.barrier.dropped = [] := by
  have kept : ∀ task ∈ s.barrier.tasks, ¬ task.isDropped = true := by
    intro task member isDropped
    obtain ⟨stage, -, fits⟩ := sound.fits_of_found (sound.coherent.task?_of_mem member)
    have uncounted := sound.isCounted_of_outstanding settled member
    rw [fits.isCounted_of_isDropped isDropped] at uncounted
    cases uncounted
  rw [Barrier.dropped, List.filter_eq_nil_iff.mpr kept]
  rfl

/-- A task that has not ended has a slot. -/
theorem slotted?_of_phase? (sound : s.Sound) {id : TaskId} {phase : Phase}
    (phased : s.barrier.phase? id = some phase) (continues : phase.isTerminal = false) :
    ∃ task slot, s.barrier.slotted? id = some (task, slot) ∧ task.phase = phase := by
  obtain ⟨task, found, rfl⟩ := Option.map_eq_some_iff.mp phased
  obtain ⟨stage, -, fits⟩ := sound.fits_of_found found
  obtain ⟨slot, has⟩ := fits.exists_slot continues
  exact ⟨task, slot, Barrier.slotted?_of_task? found has, rfl⟩

/-- The task at the front of the hold queue has a slot, so that no await passes it over. -/
theorem answer_popHeld_ne (sound : s.Sound) : s.barrier.popHeld.answer ≠ .skipped := by
  intro answer
  obtain ⟨front, rest, held, gone⟩ := Barrier.popHeld_of_skipped answer
  obtain ⟨task, slot, has, -⟩ := sound.slotted?_of_phase? (sound.phase?_front held) rfl
  rw [gone] at has
  cases has

/-- A body that has to be thrown away is that of a cancelled task, and is not being executed. -/
theorem discard?_eq (sound : s.Sound) {id : TaskId}
    (discards : id ∈ Stack.discards (s.stack thread)) :
    ∃ task, s.barrier.task? id = some task ∧ task.phase = .cancelled ∧
      s.barrier.discard? id = some (s.barrier.modify id (·.discard)) := by
  obtain ⟨task, found, cancelled⟩ := Option.map_eq_some_iff.mp (sound.discards thread id discards)
  obtain ⟨stage, -, fits⟩ := sound.fits_of_found found
  refine ⟨task, found, cancelled, discard?_of_idle found ?_⟩
  by_contra executing
  have stage := fits.executing.mp (by simpa using executing)
  have running := fits.running.mpr (by simp [stage])
  rw [cancelled] at running
  cases running

/-- The task of a run on top of a stack has a slot. -/
theorem slot_of_run (sound : s.Sound) {id : TaskId} {here : RunStage} {rest : Stack ν}
    (top : s.stack thread = .run id here :: rest) :
    ∃ task slot, s.barrier.task? id = some task ∧ task.slot = some slot ∧
      task.phase = .running := by
  obtain ⟨task, found, fits⟩ := sound.of_run top
  obtain ⟨slot, has⟩ := fits.exists_slot (by rw [fits.phase_of_some]; rfl)
  exact ⟨task, slot, found, has, fits.phase_of_some⟩

/-- A run that is about to begin executes the body of its task. -/
theorem of_enterBody? (sound : s.Sound) {id : TaskId} {replayed executes : Bool} {rest : Stack ν}
    {b' : Barrier ν} (top : s.stack thread = .run id (.starting replayed) :: rest)
    (entered : s.barrier.enterBody? id = some (executes, b')) :
    executes = true ∧ b' = s.barrier.modify id (·.entered) ∧
      ∃ task, s.barrier.task? id = some task := by
  obtain ⟨task, found, fits⟩ := sound.of_run top
  have same := entered.symm.trans (fits.enterBody? sound.coherent found)
  obtain ⟨rfl, rfl⟩ := Prod.mk.inj (Option.some.inj same)
  exact ⟨rfl, rfl, task, found⟩

/-- A body that is thrown away is that of a cancelled task. -/
theorem of_discard? (sound : s.Sound) {id : TaskId} {others : List TaskId} {rest : Stack ν}
    {b' : Barrier ν} (top : s.stack thread = .discarding (id :: others) :: rest)
    (discarded : s.barrier.discard? id = some b') :
    b' = s.barrier.modify id (·.discard) ∧
      ∃ task, s.barrier.task? id = some task ∧ task.phase = .cancelled := by
  have discards : id ∈ Stack.discards (s.stack thread) := by
    rw [top]
    exact List.mem_cons_self
  obtain ⟨task, found, cancelled, same⟩ := sound.discard?_eq discards
  exact ⟨Option.some.inj (discarded.symm.trans same), task, found, cancelled⟩

/-- **Every step from a sound state takes a course**, for each task. -/
theorem course (sound : s.Sound) (follows : s.Follows thread deed s') (id : TaskId) :
    Course id deed (s.barrier.task? id) (Stack.stages id (s.stack thread))
      (s'.barrier.task? id) (Stack.stages id (s'.stack thread)) := by
  have transition := follows.transition
  generalize before : s.stack thread = stack at transition ⊢
  generalize s'.barrier = barrier, s'.stack thread = stack' at transition ⊢
  cases transition with
  | aside | await | wait | overflow | look | escape | announce | work => exact .keep rfl
  | accept _ answer => exact course_of_accept sound.coherent answer _ id
  | refuse _ _ fails =>
      rw [Stack.stages_cons_of_none rfl,
        Stack.stages_cons_of_none (Frame.stage?_of_isEnding (Frame.isEnding_of_isFailing fails) id)]
      exact .keep rfl
  | read => exact course_of_readValue _ (Stack.stages · stack) id
  | ask _ opens _ returns =>
      have opening := Stack.stages_append_of_none (fun frame member =>
        Frame.stage?_of_isOpening (opens frame member) id)
      rw [opening, Stack.stages_cons_of_none (Frame.stage?_of_isReturning returns id)]
      exact .keep rfl
  | @withdraw _ task _ answer =>
      have course := course_of_cancel s.barrier task (Stack.stages · stack) id
      rwa [answer] at course
  | cancel => exact course_of_cancel s.barrier _ (Stack.stages · stack) id
  | @returned task result rest =>
      obtain ⟨found, present, -⟩ := sound.of_run before
      refine course_of_leaveBody present result (Stack.stages · (.run task .executing :: rest))
        (Stack.stages · (.run task .finishing :: rest)) (Stack.stages_run_self ..)
        (Stack.stages_run_self ..) (fun other ne => ?_) id
      rw [Stack.stages_run_of_ne ne, Stack.stages_run_of_ne ne]
  | @panicked task panic rest =>
      obtain ⟨found, present, -⟩ := sound.of_run before
      refine course_of_leaveBody present none (Stack.stages · (.run task .executing :: rest))
        (Stack.stages · (.run task .finishing :: .raising panic :: rest))
        (Stack.stages_run_self ..) (Stack.stages_run_self ..) (fun other ne => ?_) id
      rw [Stack.stages_run_of_ne ne, Stack.stages_run_of_ne ne, Stack.stages_cons_of_none rfl]
  | @run task rest answer =>
      exact course_of_fire_run answer (Stack.stages · rest)
        (Stack.stages · (.run task (.starting false) :: rest)) (Stack.stages_run_self ..)
        (fun other ne => Stack.stages_run_of_ne ne ..) id
  | pass answer => exact course_of_fire_pass answer (Stack.stages · _) id
  | @enter task replayed rest _ entered =>
      obtain ⟨-, rfl, found, present⟩ := sound.of_enterBody? before entered
      refine course_of_enter present (Stack.stages · (.run task (.starting replayed) :: rest))
        (Stack.stages · (.run task .executing :: rest)) (Stack.stages_run_self ..)
        (Stack.stages_run_self ..) (fun other ne => ?_) id
      rw [Stack.stages_run_of_ne ne, Stack.stages_run_of_ne ne]
  | skip entered =>
      -- The body of a task that is about to be executed is intact.
      obtain ⟨executes, -⟩ := sound.of_enterBody? before entered
      cases executes
  | @finish task rest top after =>
      obtain ⟨found, slot, present, has, running⟩ := sound.slot_of_run before
      have own : ∀ other, Stack.stages other (top ++ rest) = Stack.stages other rest := by
        intro other
        rcases after with rfl | rfl <;> rfl
      rw [own]
      exact course_of_finish present has running
        (Stack.stages · (.run task .finishing :: rest)) (Stack.stages · rest)
        (Stack.stages_run_self ..) (fun other ne => (Stack.stages_run_of_ne ne ..).symm) id
  | @replay task start manner rest answer =>
      obtain ⟨_, _, held, -⟩ := Barrier.popHeld_of_run answer
      exact course_of_replay answer (sound.phase?_front held) (Stack.stages · rest)
        (Stack.stages · (.run task (.starting true) :: .awaiting start manner .replaying :: rest))
        (Stack.stages_run_self ..) (fun other ne => Stack.stages_run_of_ne ne ..) id
  | passOver answer => exact absurd answer sound.answer_popHeld_ne
  | settle settled =>
      -- Nothing is counted where nothing is outstanding.
      rw [Stack.stages_cons_of_none rfl, List.cons_append, Stack.stages_cons_of_none rfl,
        Stack.stages_append_of_none fun frame member =>
          Frame.stage?_of_isEnding (Manner.isEnding_of_mem_succeeding member) id]
      refine course_of_reset sound.coherent (fun task member counted => ?_) _ id
      rw [sound.isCounted_of_outstanding settled member] at counted
      cases counted
  | expire =>
      rw [Stack.stages_cons_of_none rfl, List.cons_append, Stack.stages_cons_of_none rfl,
        Stack.stages_append_of_none fun frame member =>
          Frame.stage?_of_isEnding (Manner.isEnding_of_mem_failing member) id]
      exact course_of_reset sound.coherent (fun _ _ _ => rfl) _ id
  | guard | unwind => exact course_of_reset sound.coherent (fun _ _ _ => rfl) _ id
  | @discard task others rest _ discarded =>
      obtain ⟨rfl, found, present, cancelled⟩ := sound.of_discard? before discarded
      exact course_of_discard present cancelled (Stack.stages · rest) id
  | close closing =>
      rw [Stack.stages_cons_of_none (Frame.stage?_of_isClosing closing id)]
      exact .keep rfl

end Scheduler.Sound

end TaskBarrier
