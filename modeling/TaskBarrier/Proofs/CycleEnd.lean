import TaskBarrier.Proofs.Agreement
import TaskBarrier.Proofs.Cancelling

/-!
# What the end of a cycle does to tasks

A reset does not ask why the cycle ends.  It looks at every task: a one-shot task that waits is
cancelled, a periodic task that waits is live, a running task goes on, and a task that has ended
stays as it is.  Nothing is counted afterwards.  An await that has succeeded finds nothing to
cancel; one that has failed may find tasks of all kinds.

What follows from it lasts.  A task that the reset has cancelled never runs, whoever calls its
callback later.  A task that it has left running comes to its end as if there had been no reset.

## Main Definitions

* `Task.Resolved`: what a reset does to one task.
* `CycleEnd`: what a reset does to a barrier.
* `RunsOn`: what becomes of a running task.

The main statements are `Run.cycleEnd`, `Path.never_of_cancelled` and `Run.runsOn`.
-/

namespace TaskBarrier

variable {ν : Type}

/-! ## One task -/

namespace Task

/-- **What a reset does to a task.** -/
inductive Resolved (task : Task ν) : Task ν → Prop
  /-- A one-shot task that waits has been counted, and is cancelled. -/
  | dropped (once : task.periodic = false) (waiting : task.phase = .live ∨ task.phase = .held)
      (counted : task.isCounted = true) : Resolved task (task.retire .cancelled)
  /-- A periodic task that waits is live. -/
  | relived (repeats : task.periodic = true)
      (waiting : task.phase = .live ∨ task.phase = .held) :
      Resolved task ((task.setCounted false).setPhase .live)
  /-- A running task goes on. -/
  | goesOn (running : task.phase = .running) : Resolved task (task.setCounted false)
  /-- A task that has ended stays as it is. -/
  | ended (terminal : task.phase.isTerminal = true) : Resolved task task

/-- A running task is not counted any more. -/
theorem Resolved.of_running {task task' : Task ν} (resolved : task.Resolved task')
    (running : task.phase = .running) : task' = task.setCounted false := by
  cases resolved with
  | goesOn => rfl
  | dropped _ waiting | relived _ waiting => simp [running] at waiting
  | ended terminal => simp [running, Phase.isTerminal] at terminal

/-- A periodic task that waits is live. -/
theorem Resolved.of_waiting {task task' : Task ν} (resolved : task.Resolved task')
    (repeats : task.periodic = true) (waiting : task.phase = .live ∨ task.phase = .held) :
    task' = (task.setCounted false).setPhase .live := by
  cases resolved with
  | relived => rfl
  | dropped once => simp [repeats] at once
  | goesOn running => simp [running] at waiting
  | ended terminal =>
      rcases waiting with phase | phase <;> simp [phase, Phase.isTerminal] at terminal

/-- A task that has ended stays as it is. -/
theorem Resolved.of_isTerminal {task task' : Task ν} (resolved : task.Resolved task')
    (terminal : task.phase.isTerminal = true) : task' = task := by
  cases resolved with
  | ended => rfl
  | goesOn running => simp [running, Phase.isTerminal] at terminal
  | dropped _ waiting | relived _ waiting =>
      rcases waiting with phase | phase <;> simp [phase, Phase.isTerminal] at terminal

/-- Whether the task is counted because of a run in progress. -/
def isCountedRun (task : Task ν) : Bool := task.isCounted && task.phase == .running

/-- Whether the task is counted, and a reset does not end it. -/
def isCountedRepeat (task : Task ν) : Bool :=
  task.isCounted && task.periodic && (task.phase == .live || task.phase == .held)

namespace Fits

variable {task : Task ν} {stage : Option RunStage}

/-- A reset drops the one-shot tasks that wait. -/
theorem isDropped_iff (fits : task.Fits stage) : task.isDropped = true ↔
    task.periodic = false ∧ (task.phase = .live ∨ task.phase = .held) := by
  have slotted := fits.slotted
  unfold isDropped
  cases phase : task.phase <;> simp_all [Phase.isTerminal]

/-- A reset resolves every task. -/
theorem resolved (fits : task.Fits stage) : task.Resolved task.reset := by
  rcases fits.reset_cases with ⟨isDropped, waiting, once, eq⟩ | ⟨-, held, repeats, eq⟩ |
    ⟨-, resting, repeats, eq⟩
  · rw [eq]
    exact .dropped once waiting (fits.isCounted_of_isDropped isDropped)
  · rw [eq]
    exact .relived repeats (.inr held)
  · rw [eq]
    cases phase : task.phase with
    | live =>
        have same : (task.setCounted false).setPhase .live = task.setCounted false := by
          rw [← phase]
          rfl
        rw [← same]
        exact .relived (repeats phase) (.inl phase)
    | held => exact absurd phase resting
    | running => exact .goesOn phase
    | ran | cancelled =>
        have unslotted : task.slot = none := by
          have slotted := fits.slotted
          rw [phase] at slotted
          simpa [Phase.isTerminal] using slotted
        rw [setCounted_of_none unslotted]
        exact .ended (by rw [phase]; rfl)

/-- **Why a task is counted**: a reset drops it, or it is running, or it is a periodic task that
waits. -/
theorem counted_eq (fits : task.Fits stage) :
    (if task.isCounted then 1 else 0) = (if task.isDropped then 1 else 0) +
      (if task.isCountedRun then 1 else 0) + if task.isCountedRepeat then 1 else 0 := by
  have iff := fits.isDropped_iff
  have counted := fits.isCounted_of_isDropped
  have slotted := fits.slotted
  cases phase : task.phase <;> cases periodic : task.periodic <;>
    cases flag : task.isCounted <;>
      simp_all [isCountedRun, isCountedRepeat, isCounted, Phase.isTerminal]

end Fits

end Task

/-! ## All tasks -/

/-- **What the end of a cycle does to a barrier.** -/
structure CycleEnd (b : Barrier ν) : Prop where
  /-- Every task is resolved. -/
  resolved : ∀ id, Option.Rel Task.Resolved (b.task? id) (b.reset.task? id)
  /-- The one-shot tasks that wait are dropped, and no others. -/
  dropped_iff : ∀ id, id ∈ b.dropped ↔ ∃ task, b.task? id = some task ∧ task.periodic = false ∧
    (task.phase = .live ∨ task.phase = .held)
  /-- These are the tasks that it cancels. -/
  cancelled_iff : ∀ id, b.phase? id ≠ some .cancelled →
    (b.reset.phase? id = some .cancelled ↔ id ∈ b.dropped)
  /-- What was outstanding is told apart: tasks that are dropped, runs that go on, and periodic
  tasks that waited. -/
  outstanding_eq : b.outstanding = b.dropped.length + b.tasks.countP (·.isCountedRun) +
    b.tasks.countP (·.isCountedRepeat)
  /-- The entries of live one-shot tasks are disarmed, and no others. -/
  armed_iff : ∀ key, key ∈ b.reset.facility.armedKeys ↔ key ∈ b.facility.armedKeys ∧
    ∀ task ∈ b.tasks, task.periodic = false → task.phase = .live → task.key? ≠ some key
  /-- In particular, no entry of a periodic task is. -/
  spared : ∀ task ∈ b.tasks, task.periodic = true → ∀ key, task.key? = some key →
    (key ∈ b.reset.facility.armedKeys ↔ key ∈ b.facility.armedKeys)
  /-- Nothing is outstanding afterwards. -/
  outstanding : b.reset.outstanding = 0
  /-- Nothing is held. -/
  held : b.reset.held = []
  /-- Nobody awaits. -/
  draining : b.reset.draining = false
  /-- No task is counted. -/
  uncounted : ∀ task ∈ b.reset.tasks, task.isCounted = false

/-- What is counted as a whole is counted in its parts. -/
theorem Barrier.counted_eq {b : Barrier ν}
    (fits : ∀ task ∈ b.tasks, ∃ stage, task.Fits stage) :
    b.counted = b.dropped.length + b.tasks.countP (·.isCountedRun) +
      b.tasks.countP (·.isCountedRepeat) := by
  rw [counted, dropped, List.length_map, ← List.countP_eq_length_filter]
  generalize b.tasks = tasks at fits
  induction tasks with
  | nil => rfl
  | cons task tasks ih =>
      obtain ⟨⟨stage, fits⟩, others⟩ := List.forall_mem_cons.mp fits
      have one := fits.counted_eq
      have rest := ih others
      simp only [List.countP_cons]
      omega

/-- What is armed after a reset was armed before, and not for a live task which is dropped. -/
theorem Barrier.mem_armedKeys_reset {b : Barrier ν} {key : TimerKey} :
    key ∈ b.reset.facility.armedKeys ↔ key ∈ b.facility.armedKeys ∧
      ∀ task ∈ b.tasks, task.isDropped = true → task.phase = .live → task.key? ≠ some key := by
  have spared : key ∉ b.tasks.filterMap (·.droppedKey?) ↔
      ∀ task ∈ b.tasks, task.isDropped = true → task.phase = .live → task.key? ≠ some key := by
    simp only [List.mem_filterMap, Task.droppedKey?_eq_some_iff, not_exists, not_and]
  rw [Facility.armedKeys_eq, Facility.armedKeys_eq, List.mem_map, List.mem_map, ← spared]
  constructor
  · rintro ⟨entry, listed, rfl⟩
    obtain ⟨listed, kept⟩ := mem_entries_reset.mp listed
    exact ⟨⟨entry, listed, rfl⟩, kept⟩
  · rintro ⟨⟨entry, listed, rfl⟩, kept⟩
    exact ⟨entry, mem_entries_reset.mpr ⟨listed, kept⟩, rfl⟩

/-- The phase in which a reset leaves a task says whether it has dropped the task. -/
theorem Task.Fits.phase_reset_iff {task : Task ν} {stage : Option RunStage}
    (fits : task.Fits stage) (other : task.phase ≠ .cancelled) :
    task.reset.phase = .cancelled ↔ task.isDropped = true := by
  rcases fits.reset_cases with ⟨isDropped, -, -, eq⟩ | ⟨isDropped, -, -, eq⟩ |
    ⟨isDropped, -, -, eq⟩
  · simp [eq, isDropped, retire]
  · simp [eq, isDropped, setPhase]
  · rw [eq, isDropped]
    exact iff_of_false other Bool.false_ne_true

/-- **The end of a cycle**, in any state of a run. -/
theorem Run.cycleEnd {history : History ν} {s : Scheduler ν} (run : Run history s) :
    CycleEnd s.barrier where
  resolved := by
    intro id
    rw [Barrier.task?_reset]
    cases found : s.barrier.task? id with
    | none => exact .none
    | some task =>
        obtain ⟨stage, -, fits⟩ := run.sound.fits_of_found found
        exact .some fits.resolved
  cancelled_iff := by
    intro id other
    rw [Barrier.phase?] at other ⊢
    rw [Barrier.task?_reset]
    cases found : s.barrier.task? id with
    | none =>
        refine iff_of_false (by simp) fun listed => ?_
        obtain ⟨task, member, rfl⟩ := List.mem_map.mp listed
        rw [run.sound.coherent.task?_of_mem (List.mem_of_mem_filter member)] at found
        cases found
    | some task =>
        obtain ⟨stage, -, fits⟩ := run.sound.fits_of_found found
        rw [run.sound.coherent.mem_dropped_iff found, ← fits.phase_reset_iff]
        · simp
        · simpa [found] using other
  dropped_iff := by
    intro id
    constructor
    · intro listed
      obtain ⟨task, member, rfl⟩ := List.mem_map.mp listed
      obtain ⟨member, isDropped⟩ := List.mem_filter.mp member
      have found := run.sound.coherent.task?_of_mem member
      obtain ⟨stage, -, fits⟩ := run.sound.fits_of_found found
      exact ⟨task, found, fits.isDropped_iff.mp isDropped⟩
    · rintro ⟨task, found, waits⟩
      obtain ⟨stage, -, fits⟩ := run.sound.fits_of_found found
      exact (run.sound.coherent.mem_dropped_iff found).mpr (fits.isDropped_iff.mpr waits)
  outstanding_eq := by
    rw [run.sound.coherent.balanced]
    refine Barrier.counted_eq fun task member => ?_
    obtain ⟨stage, -, fits⟩ := run.sound.fits_of_found (run.sound.coherent.task?_of_mem member)
    exact ⟨stage, fits⟩
  armed_iff := by
    intro key
    refine Barrier.mem_armedKeys_reset.trans (and_congr_right fun _ => ?_)
    refine forall₂_congr fun task member => ?_
    obtain ⟨stage, -, fits⟩ := run.sound.fits_of_found (run.sound.coherent.task?_of_mem member)
    rw [fits.isDropped_iff]
    exact ⟨fun spares once live => spares ⟨once, .inl live⟩ live, fun spares drops live =>
      spares drops.1 live⟩
  spared := by
    intro task member repeats key has
    refine Barrier.mem_armedKeys_reset.trans (and_iff_left fun other listed isDropped _ same => ?_)
    -- The task that is dropped would be this one, which is periodic.
    have found := run.sound.coherent.task?_of_mem member
    have found' := run.sound.coherent.task?_of_mem listed
    have ids := run.keyed.distinct ((Barrier.key?_of_found found).trans has)
      ((Barrier.key?_of_found found').trans same)
    rw [← ids, found] at found'
    obtain rfl := Option.some.inj found'
    obtain ⟨stage, -, fits⟩ := run.sound.fits_of_found found
    cases repeats.symm.trans (fits.isDropped_iff.mp isDropped).1
  outstanding := rfl
  held := rfl
  draining := rfl
  uncounted := by
    intro task member
    obtain ⟨before, -, rfl⟩ := List.mem_map.mp member
    exact before.isCounted_reset

namespace CycleEnd

variable {b : Barrier ν} {id : TaskId}

/-- What the reset drops is cancelled. -/
theorem phase?_of_mem (ends : CycleEnd b) (listed : id ∈ b.dropped) :
    b.reset.phase? id = some .cancelled := by
  obtain ⟨task, found, -, waiting⟩ := (ends.dropped_iff id).mp listed
  refine (ends.cancelled_iff id ?_).mpr listed
  rw [Barrier.phase?, found]
  rcases waiting with phase | phase <;> simp [phase]

/-- What a reset makes of a task that is found. -/
theorem of_found (ends : CycleEnd b) {task : Task ν} (found : b.task? id = some task) :
    ∃ task', b.reset.task? id = some task' ∧ task.Resolved task' := by
  have resolved := ends.resolved id
  rw [found] at resolved
  generalize b.reset.task? id = after at resolved
  cases resolved with
  | some resolved => exact ⟨_, rfl, resolved⟩

end CycleEnd

/-! ## Tasks that have been cancelled -/

/-- The body of a cancelled task is not executed. -/
theorem Course.executesTask_of_cancelled {s : Scheduler ν} (sound : s.Sound) {thread : ThreadId}
    {id : TaskId} {deed : Deed} {after : Option (Task ν)} {stages' : List RunStage}
    (course : Course id deed (s.barrier.task? id) (Stack.stages id (s.stack thread)) after stages')
    (cancelled : s.barrier.phase? id = some .cancelled) : deed.executesTask id = false := by
  -- A body is executed in a run, and a task with a run is running.
  have resting : Stack.stages id (s.stack thread) = [] := by
    refine List.eq_nil_iff_forall_not_mem.mpr fun stage member => ?_
    obtain ⟨here, rest, stages⟩ := List.exists_cons_of_ne_nil (List.ne_nil_of_mem member)
    obtain ⟨task, found, fits⟩ := sound.of_stages stages
    rw [Barrier.phase?, found, Option.map_some, fits.phase_of_some] at cancelled
    cases cancelled
  rw [resting] at course
  generalize s.barrier.task? id = before at course
  cases course with
  | keep apart => exact Deed.executesTask_of_apart apart
  | _ => rfl

/-- **A task that is cancelled never runs**, whatever happens afterwards. -/
theorem Path.never_of_cancelled {s s' : Scheduler ν} {later : History ν} {id : TaskId}
    (path : Path s later s') (sound : s.Sound)
    (cancelled : s.barrier.phase? id = some .cancelled) :
    s'.barrier.phase? id = some .cancelled ∧ later.starts id = 0 ∧ later.executions id = 0 := by
  induction path with
  | start => exact ⟨cancelled, rfl, rfl⟩
  | @step history middle thread now move turn path taken ih =>
      obtain ⟨still, -, unexecuted⟩ := ih
      obtain ⟨middleSound, -, -⟩ := path.starts_of_cancelled sound cancelled
      obtain ⟨-, stays, unstarted⟩ := (path.step taken).starts_of_cancelled sound cancelled
      have course := middleSound.course (Scheduler.follows_of_step taken) id
      have idle := course.executesTask_of_cancelled middleSound still
      refine ⟨stays, unstarted, ?_⟩
      rw [History.executions_cons, unexecuted, Stride.deed, idle]
      rfl

/-! ## Tasks that are running -/

/-- The phase in which a run leaves a task that has been cancelled the given number of times. -/
def Task.phaseAfterRun (task : Task ν) (cancels : Nat) : Phase :=
  if task.periodic then if cancels = 0 then .live else .cancelled else .ran

/-- **What becomes of a running task**, after the given steps have led to the given state. -/
structure RunsOn (history : History ν) (s : Scheduler ν) (task : Task ν) : Prop where
  /-- The task is running until its run is finished, and one thread runs it. -/
  stays : ∀ later s', Path s later s' → History.finishes later task.id = 0 →
    s'.barrier.phase? task.id = some .running ∧
      ∃! thread, ∃ stage, Frame.run task.id stage ∈ s'.stack thread
  /-- A body without calls in progress can end, in whatever way, and once the lock is free its run
  is finished. -/
  ends : ∀ later s' thread rest, Path s later s' →
    s'.stack thread = .run task.id .executing :: rest → ∃ given middle, s'.GivesBack given middle ∧
      ∀ how ended finished, ∃ last first s'',
        middle.play [(thread, ended, .endBody how), (thread, finished, .proceed)] =
          some ([last, first], s'') ∧ last.deed = .finish task.id
  /-- When its run is finished, the task has ran, or is live again if it is periodic, or cancelled
  if somebody has cancelled it. -/
  completes : ∀ last later s', Path s (last :: later) s' → History.finishes later task.id = 0 →
    last.deed = .finish task.id →
      s'.barrier.phase? task.id =
        some (task.phaseAfterRun (History.cancels (later ++ history) task.id))

/-- A running task goes on running, or its run is over. -/
theorem Course.of_running {id : TaskId} {deed : Deed} {task : Task ν} {after : Option (Task ν)}
    {stages stages' : List RunStage} {stage : Option RunStage}
    (course : Course id deed (some task) stages after stages') (fits : task.Fits stage)
    (running : task.phase = .running) (unfinished : deed.finishesTask id = false) :
    ∃ task', after = some task' ∧ task'.phase = .running ∧ task'.periodic = task.periodic := by
  cases course with
  | run _ phase | hold _ phase | replay _ phase | discard phase =>
      rw [running] at phase
      cases phase
  | withdraw waiting => simp [running] at waiting
  | enter | leave | doom | read | keep => exact ⟨_, rfl, running, rfl⟩
  | finish => simp [Deed.finishesTask] at unfinished
  | reset =>
      refine ⟨_, rfl, ?_, task.periodic_reset⟩
      rcases fits.reset_cases with ⟨-, waiting, -, -⟩ | ⟨-, held, -, -⟩ | ⟨-, -, -, eq⟩
      · simp [running] at waiting
      · simp [running] at held
      · rw [eq]
        exact running

/-- A running task is running until its run is over. -/
theorem Path.of_running {s s' : Scheduler ν} {later : History ν} {id : TaskId} {task : Task ν}
    (path : Path s later s') (sound : s.Sound) (found : s.barrier.task? id = some task)
    (running : task.phase = .running) (unfinished : later.finishes id = 0) :
    s'.Sound ∧ ∃ task', s'.barrier.task? id = some task' ∧ task'.phase = .running ∧
      task'.periodic = task.periodic := by
  induction path with
  | start => exact ⟨sound, task, found, running, rfl⟩
  | @step history middle thread now move turn path taken ih =>
      rw [History.finishes_cons, Nat.add_eq_zero_iff] at unfinished
      obtain ⟨sound, record, known, still, periodic⟩ := ih unfinished.1
      have follows := Scheduler.follows_of_step taken
      have course := sound.course follows id
      obtain ⟨stage, -, fits⟩ := sound.fits_of_found known
      rw [known] at course
      have goesOn : (middle.deed thread now move).finishesTask id = false :=
        Bool.eq_false_iff.mpr fun finishes => by simp [Stride.deed, finishes] at unfinished
      obtain ⟨after, known', still', periodic'⟩ := course.of_running fits still goesOn
      exact ⟨sound.step follows, after, known', still', periodic'.trans periodic⟩

/-- The phase of a task after its run. -/
theorem Task.Fits.phase_afterRun {task : Task ν} {stage : Option RunStage} {cancels : Nat}
    (fits : task.Fits stage) (iff : task.isDoomed = false ↔ cancels = 0) :
    (Barrier.afterRun (task.setCounted false)).phase = task.phaseAfterRun cancels := by
  cases periodic : task.periodic with
  | false =>
      rw [fits.afterRun_of_once periodic, phaseAfterRun, if_neg (by simp [periodic])]
      rfl
  | true =>
      rw [phaseAfterRun, if_pos periodic]
      cases doomed : task.isDoomed with
      | false =>
          have periodic : (task.setCounted false).periodic = true := periodic
          rw [if_pos (iff.mp doomed), Barrier.afterRun, isDoomed_setCounted, doomed]
          simp [periodic, setPhase]
      | true =>
          rw [if_neg fun none => by simp [iff.mpr none] at doomed]
          exact afterRun_of_doomed ((isDoomed_setCounted ..).trans doomed)

/-- **A running task comes to its end**, whatever else happens. -/
theorem Run.runsOn {history : History ν} {s : Scheduler ν} {id : TaskId} {task : Task ν}
    (run : Run history s) (found : s.barrier.task? id = some task)
    (running : task.phase = .running) : RunsOn history s task := by
  obtain rfl := Barrier.task?_id found
  refine ⟨fun later s' path unfinished => ?_,
    fun later s' thread rest path top => ?_,
    fun last later s' path unfinished finishes => ?_⟩
  · obtain ⟨sound, task', found', running', -⟩ :=
      path.of_running run.sound found running unfinished
    have phase : s'.barrier.phase? task.id = some .running := by
      rw [Barrier.phase?, found', Option.map_some, running']
    obtain ⟨stage, thread, one, others⟩ := (sound.running_iff task.id).mp phase
    refine ⟨phase, thread, ⟨stage, Stack.mem_stages_iff.mp (one ▸ .head _)⟩, ?_⟩
    rintro other ⟨stage', member⟩
    by_contra ne
    have none := others other ne
    rw [← Stack.mem_stages_iff, none] at member
    cases member
  · have run' := run.append path
    obtain ⟨given, middle, gives⟩ := run'.exists_givesBack
    refine ⟨given, middle, gives, fun how ended closes => ?_⟩
    have top : middle.stack thread = .run task.id .executing :: rest := by
      rw [gives.others thread fun locked => ?_, top]
      obtain ⟨_, refuses⟩ := (run'.lock_iff thread).mp locked
      cases top.symm.trans refuses
    obtain ⟨turn, below, left, stands, free⟩ : ∃ turn below,
        middle.step thread ended (.endBody how) = some turn ∧
          turn.scheduler.stack thread = .run task.id .finishing :: below ∧
          turn.scheduler.lock = none := by
      rw [Scheduler.step_of_free gives.free, Scheduler.attempt, Scheduler.endBody, top]
      exact ⟨_, _, rfl, Scheduler.stack_turn_self .., gives.free⟩
    have proceeds : turn.scheduler.step thread closes .proceed =
        some (turn.scheduler.proceedFinishing thread task.id below) := by
      rw [Scheduler.step_of_free free, Scheduler.attempt, Scheduler.proceed, stands]
    have finishes : turn.scheduler.deed thread closes .proceed = .finish task.id := by
      simp only [Scheduler.deed, Scheduler.frameDeed, stands]
    have done : (turn.scheduler.proceedFinishing thread task.id below).scheduler.play [] =
      some ([], _) := rfl
    exact ⟨⟨turn.scheduler, thread, closes, .proceed, _⟩, _, _,
      Scheduler.play_cons left (Scheduler.play_cons proceeds done), finishes⟩
  · cases path with
    | @step _ middle thread now move turn path taken =>
        obtain ⟨sound, task', found', running', periodic⟩ :=
          path.of_running run.sound found running unfinished
        have follows := Scheduler.follows_of_step taken
        have course := sound.course follows task.id
        rw [show middle.deed thread now move = .finish task.id from finishes] at course
        obtain ⟨record, known, -, after⟩ := course.of_finish
        obtain rfl := Option.some.inj (found'.symm.trans known)
        obtain ⟨stage, -, fits⟩ := sound.fits_of_found found'
        have revoked := (run.append path).revoked task.id
        rw [found'] at revoked
        rw [Barrier.phase?, after, Option.map_some,
          fits.phase_afterRun (revoked.isDoomed_iff running'), Task.phaseAfterRun, periodic]
        rfl

end TaskBarrier
