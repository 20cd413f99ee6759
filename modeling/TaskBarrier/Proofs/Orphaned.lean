import TaskBarrier.Proofs.Delivery
import TaskBarrier.Proofs.OwnSteps

/-!
# Values that never come

Whoever waits for a value is told that it is abandoned once it cannot come any more, and most tasks
that never run lead to this: a task that is cancelled has its body thrown away, and a body that
panics is left without a value.  There is one end that throws nothing away.  When a scheduler has
been dropped and no call is in progress, nothing that is asked of it has any effect.  So a task that
was live or held then stays so for ever, its body is neither run nor thrown away, and whoever asks
for its value is told for ever that it is pending.

## Main Definitions

* `Dead`: a scheduler that has been dropped, with nothing left to keep it alive.
* `Prospects`: what becomes of the value of a task that never runs.

The main statements are `Path.dead` and `prospects_of_scheduled`.
-/

namespace TaskBarrier

variable {ν : Type}

/-! ## Dead schedulers -/

/-- The scheduler has been dropped, and no call in progress keeps it alive. -/
structure Scheduler.Dead (s : Scheduler ν) : Prop where
  dropped : s.dropped = true
  idle : s.calls.keepAlive = false

/-- A scheduler is dead if it is not alive. -/
theorem Scheduler.dead_iff {s : Scheduler ν} : s.Dead ↔ s.isAlive = false := by
  unfold isAlive
  constructor
  · rintro ⟨dropped, idle⟩
    simp [dropped, idle]
  · intro gone
    obtain ⟨dropped, idle⟩ : s.dropped = true ∧ s.calls.keepAlive = false := by simpa using gone
    exact ⟨dropped, idle⟩

namespace Stacks

/-- Stacks keep nothing alive if the one that is replaced does not. -/
theorem keepAlive_set {calls : Stacks ν} (idle : calls.keepAlive = false) (thread : ThreadId)
    {stack : Stack ν} (light : stack.any (·.keepsAlive) = false) :
    (calls.set thread stack).keepAlive = false := by
  unfold keepAlive at idle ⊢
  rw [List.any_eq_false] at idle ⊢
  intro entry member
  rcases List.mem_cons.mp member with rfl | old
  · simp [light]
  · exact idle entry (List.mem_of_mem_filter old)

/-- No stack keeps anything alive if all together do not. -/
theorem any_get {calls : Stacks ν} (idle : calls.keepAlive = false) (thread : ThreadId) :
    (calls.get thread).any (·.keepsAlive) = false := by
  rcases calls.get_cases thread with none | ⟨entry, listed, same⟩
  · rw [none]
    rfl
  · rw [same]
    unfold keepAlive at idle
    rw [List.any_eq_false] at idle
    simpa using idle entry listed

end Stacks

namespace Scheduler

variable {s : Scheduler ν} {thread : ThreadId} {now : Instant} {move : Move ν} {turn : Turn ν}

/-- A turn that leaves frames behind which keep nothing alive. -/
theorem Dead.turned (dead : s.Dead) (barrier : Barrier ν) (thread : ThreadId) {stack : Stack ν}
    (signal : Signal ν) (events : List Event) (light : stack.any (·.keepsAlive) = false) :
    (s.turn barrier thread stack signal events).scheduler.Dead :=
  ⟨dead.dropped, Stacks.keepAlive_set dead.idle thread light⟩

/-- Nothing comes of a call of a callback. -/
theorem Dead.calling_eq (dead : s.Dead) (task : TaskId) : s.calling task = [] := by
  unfold calling
  rw [dead_iff.mp dead]
  rfl

/-- The owner cannot ask for anything any more. -/
theorem Dead.whileOwned_eq (dead : s.Dead) (turn : Turn ν) : s.whileOwned turn = none := by
  unfold whileOwned
  rw [if_pos dead.dropped]

/-- The stack of a thread keeps nothing alive. -/
theorem Dead.light (dead : s.Dead) (thread : ThreadId) :
    (s.stack thread).any (·.keepsAlive) = false :=
  Stacks.any_get dead.idle thread

/-- Whatever is asked of a dead scheduler leads nowhere. -/
theorem Dead.request (dead : s.Dead) {request : Request}
    (taken : s.request thread now request = some turn) :
    turn.scheduler.Dead ∧ s.requestDeed now request = .aside := by
  have light := dead.light thread
  simp only [Scheduler.request] at taken
  split at taken
  · cases taken
  · cases request with
    | accept | cancel | await | shutdown | drop =>
        simp only [dead.whileOwned_eq] at taken
        cases taken
    | fire key =>
        obtain rfl := Option.some.inj taken
        refine ⟨?_, rfl⟩
        unfold requestFire
        split
        · exact dead
        · split
          · exact dead
          · refine dead.turned _ thread _ _ ?_
            rw [dead.calling_eq]
            exact light
    | call task =>
        obtain rfl := Option.some.inj taken
        refine ⟨dead.turned _ thread _ _ ?_, rfl⟩
        rw [dead.calling_eq]
        exact light
    | cancelByHandle task =>
        simp only [dead_iff.mp dead] at taken
        obtain rfl := Option.some.inj taken
        refine ⟨dead, ?_⟩
        simp only [requestDeed, dead_iff.mp dead]
        rfl
    | read task =>
        obtain rfl := Option.some.inj taken
        exact ⟨dead.turned _ thread _ _ light, rfl⟩

/-- All that is left to do on any thread is to return, or to let a panic out. -/
theorem Dead.proceed (dead : s.Dead) (taken : s.proceed thread now = some turn) :
    turn.scheduler.Dead ∧ s.frameDeed now (s.stack thread) = .aside := by
  have light := dead.light thread
  unfold Scheduler.proceed at taken
  split at taken
  · cases taken
  · next frame rest top =>
    rw [top] at light ⊢
    rw [List.any_cons, Bool.or_eq_false_iff] at light
    obtain ⟨lets, light⟩ := light
    cases frame with
    | answering answer =>
        obtain rfl := Option.some.inj taken
        exact ⟨dead.turned _ thread _ _ light, rfl⟩
    | raising panic =>
        obtain rfl := Option.some.inj taken
        cases rest with
        | nil =>
            refine ⟨?_, rfl⟩
            unfold proceedRaising
            simp only
            split
            · exact dead.turned _ thread _ _ rfl
            · exact dead.turned _ thread _ _ rfl
        | cons below rest =>
            cases below with
            | answering answer => exact ⟨dead.turned _ thread _ _ light, rfl⟩
            | raising other => exact ⟨dead.turned _ thread _ _ light, rfl⟩
            | _ => cases light
    | _ => cases lets

/-- The worker of the timer finds callbacks that lead nowhere. -/
theorem Dead.work (dead : s.Dead) (taken : s.work thread now = some turn) :
    turn.scheduler.Dead := by
  unfold Scheduler.work at taken
  split at taken
  · next timer _ _ =>
    have other : ∀ timer, (s.withTimer timer).Dead := fun _ => ⟨dead.dropped, dead.idle⟩
    split at taken
    · cases taken
    · split at taken
      · cases taken
      · cases taken
      · obtain rfl := Option.some.inj taken
        exact other _
      · split at taken
        · obtain rfl := Option.some.inj taken
          exact other _
        · obtain rfl := Option.some.inj taken
          exact other _
        · next key task timer polled =>
          obtain rfl := Option.some.inj taken
          refine (other timer).turned _ thread _ _ ?_
          rw [(other timer).calling_eq]
          rfl
  · cases taken

/-- **A dead scheduler stays dead**, and nothing happens to its tasks. -/
theorem Dead.step (dead : s.Dead) (taken : s.step thread now move = some turn) :
    turn.scheduler.Dead ∧ s.deed thread now move = .aside := by
  have taken := attempt_of_step taken
  cases move with
  | request request => exact dead.request taken
  | endBody how =>
      -- No body is being executed, for that would keep the scheduler alive.
      have light := dead.light thread
      simp only [attempt, endBody] at taken
      split at taken
      · next top =>
        rw [top] at light
        cases light
      · cases taken
  | proceed => exact dead.proceed taken
  | work => exact ⟨dead.work taken, rfl⟩

end Scheduler

/-- What a step that concerns no task leaves of it. -/
theorem Course.phase_of_aside {id : TaskId} {before after : Option (Task ν)}
    {stages stages' : List RunStage} (course : Course id .aside before stages after stages') :
    after.map (·.phase) = before.map (·.phase) := by
  cases course with
  | read => rfl
  | keep => rfl

/-- **After a scheduler has died, no task comes any further.** -/
theorem Path.dead {s s' : Scheduler ν} {later : History ν} (path : Path s later s')
    (sound : s.Sound) (dead : s.Dead) : s'.Sound ∧ s'.Dead ∧
      (∀ id, s'.barrier.phase? id = s.barrier.phase? id) ∧
      ∀ stride ∈ later, stride.deed = .aside := by
  induction path with
  | start => exact ⟨sound, dead, fun _ => rfl, List.forall_mem_nil _⟩
  | step _ taken ih =>
      obtain ⟨sound, dead, phases, asides⟩ := ih
      have follows := Scheduler.follows_of_step taken
      obtain ⟨dead', aside⟩ := dead.step taken
      refine ⟨sound.step follows, dead', fun id => ?_, fun stride member => ?_⟩
      · have course := sound.course follows id
        rw [aside] at course
        exact course.phase_of_aside.trans (phases id)
      · rcases List.mem_cons.mp member with rfl | member
        · exact aside
        · exact asides stride member

/-! ## Values that never come -/

/-- **What becomes of the value of a task that never runs**, in the given state. -/
structure Prospects (s : Scheduler ν) (id : TaskId) (task : Task ν) : Prop where
  /-- If the task runs in no state that is still to come, and nobody has its body to throw away,
  then its value is pending if the task is live or held, and only then. -/
  pending_iff : (∀ later s', Path s later s' → s'.barrier.phase? id ≠ some .running) →
    (∀ thread, id ∉ Stack.discards (s.stack thread)) →
      (s.reading id = .pending ↔ task.phase = .live ∨ task.phase = .held)
  /-- If the task is live or held when the scheduler has been dropped, and no call is in progress,
  then it stays so for ever, and never runs; and everybody who asks is told that the value is
  pending. -/
  orphaned : s.isAlive = false → task.phase = .live ∨ task.phase = .held →
    ∀ later s', Path s later s' → s'.isAlive = false ∧
      s'.barrier.phase? id = some task.phase ∧ s'.reading id = .pending ∧
      ∀ reading ∈ History.readings later id, reading = .pending

/-- **After the scheduler has died, a value that is pending stays so.** -/
theorem Run.reading_of_dead {history later : History ν} {s s' : Scheduler ν} (run : Run history s)
    {id : TaskId} {task : Task ν} (found : s.barrier.task? id = some task)
    (scheduled : task.IsScheduled) (dead : s.Dead)
    (waiting : task.phase = .live ∨ task.phase = .held) (path : Path s later s') :
    s'.Dead ∧ s'.barrier.phase? id = some task.phase ∧ s'.reading id = .pending := by
  obtain ⟨-, dead, phases, -⟩ := path.dead run.sound dead
  obtain ⟨-, task', found', scheduled⟩ := path.isScheduled run.sound found scheduled
  have same : s'.barrier.phase? id = some task.phase := by
    rw [phases id, Barrier.phase?, found]
    rfl
  have phase : task'.phase = task.phase := by
    rw [Barrier.phase?, found'] at same
    exact Option.some.inj same
  rw [← phase] at waiting
  exact ⟨dead, same, (run.append path).reading_of_waiting found' scheduled waiting⟩

/-- Whoever asks after the scheduler has died is told that the value is pending. -/
theorem Run.readings_of_dead {history later : History ν} {s s' : Scheduler ν} (run : Run history s)
    {id : TaskId} {task : Task ν} (found : s.barrier.task? id = some task)
    (scheduled : task.IsScheduled) (dead : s.Dead)
    (waiting : task.phase = .live ∨ task.phase = .held) (path : Path s later s') :
    ∀ reading ∈ later.readings id, reading = .pending := by
  induction path with
  | start => exact List.forall_mem_nil _
  | @step later middle thread now move turn path taken ih =>
      have pending := (run.reading_of_dead found scheduled dead waiting path).2.2
      intro reading member
      rw [History.readings_cons] at member
      rcases List.mem_append.mp member with member | last
      · exact ih reading member
      · have told := Option.mem_toList.mp last
        obtain ⟨-, -, rfl⟩ := (Stride.reading?_eq_some_iff taken).mp told
        exact pending

/-- **A value that never comes** is abandoned, unless its task is live or held; then it is pending,
and stays so for ever if the scheduler is dead. -/
theorem prospects_of_scheduled {history : History ν} {s : Scheduler ν} (run : Run history s)
    {id : TaskId} {task : Task ν} (found : s.barrier.task? id = some task)
    (scheduled : task.IsScheduled) : Prospects s id task where
  pending_iff := by
    intro never thrown
    refine ⟨fun pending => ?_, run.reading_of_waiting found scheduled⟩
    cases phase : task.phase with
    | live => exact .inl rfl
    | held => exact .inr rfl
    | running =>
        refine absurd ?_ (never [] s .start)
        rw [Barrier.phase?, found, Option.map_some, phase]
    | ran | cancelled =>
        have ended : task.phase.isTerminal = true := by
          rw [phase]
          rfl
        rcases run.reading_of_ended found scheduled ended thrown with
          ⟨value, -, -, told⟩ | ⟨-, told⟩
        · rw [told] at pending
          cases pending
        · rw [told] at pending
          cases pending
  orphaned := by
    intro gone waiting later s' path
    have dead := Scheduler.dead_iff.mpr gone
    obtain ⟨dead', phase, pending⟩ := run.reading_of_dead found scheduled dead waiting path
    exact ⟨Scheduler.dead_iff.mp dead', phase, pending,
      run.readings_of_dead found scheduled dead waiting path⟩

/-- The moves of a task that is to produce a value, and of an owner who drops the scheduler while
the task is live. -/
def orphanedMoves : List (ThreadId × Instant × Move Nat) :=
  [(0, ⟨0⟩, .request (.accept ⟨0⟩ .once true)), (0, ⟨0⟩, .request .drop), (0, ⟨0⟩, .proceed)]

/-- What `orphanedMoves` lead to: a live task of a dead scheduler. -/
theorem exists_orphaned : ∃ (history : History Nat) (s : Scheduler Nat) (task : Task Nat),
    Run history s ∧ s.barrier.task? ⟨0⟩ = some task ∧ task.IsScheduled ∧ task.phase = .live ∧
      s.isAlive = false ∧ ∀ thread, s.stack thread = [] := by
  obtain ⟨history, s, task, played, found, scheduled, live, gone, idle⟩ : ∃ history s task,
      (Scheduler.start 0 .default (.byHand .empty) none).play orphanedMoves = some (history, s) ∧
        s.barrier.task? ⟨0⟩ = some task ∧ task.IsScheduled ∧ task.phase = .live ∧
          s.isAlive = false ∧ s.calls.entries = [(0, [])] :=
    ⟨_, _, _, rfl, rfl, ⟨rfl, rfl⟩, rfl, rfl, rfl⟩
  refine ⟨history, s, task, .of_play played, found, scheduled, live, gone, fun thread => ?_⟩
  show s.calls.get thread = []
  rcases s.calls.get_cases thread with none | ⟨entry, listed, same⟩
  · exact none
  · rw [idle] at listed
    rw [same, List.mem_singleton.mp listed]

/-- The value of `orphanedMoves` stays pending for ever. -/
theorem prospects_of_orphaned : ∃ (history : History Nat) (s : Scheduler Nat) (task : Task Nat),
    Run history s ∧ s.barrier.task? ⟨0⟩ = some task ∧ task.IsScheduled ∧ task.phase = .live ∧
      s.isAlive = false ∧ Prospects s ⟨0⟩ task := by
  obtain ⟨history, s, task, run, found, scheduled, live, gone, -⟩ := exists_orphaned
  exact ⟨history, s, task, run, found, scheduled, live, gone,
    prospects_of_scheduled run found scheduled⟩

/-- **A task that can never run any more may leave its value pending**, although its scheduler has
been dropped and no call is in progress. -/
theorem pending_of_dropped : ¬ ∀ (history : History Nat) (s : Scheduler Nat) (id : TaskId)
    (task : Task Nat), Run history s → s.barrier.task? id = some task → task.IsScheduled →
    s.dropped = true → (∀ thread, s.stack thread = []) →
    (∀ later s', Path s later s' → s'.barrier.phase? id ≠ some .running) →
      s.reading id ≠ .pending := by
  intro abandons
  obtain ⟨history, s, task, run, found, scheduled, live, gone, idle⟩ := exists_orphaned
  have dead := Scheduler.dead_iff.mpr gone
  refine abandons history s ⟨0⟩ task run found scheduled dead.dropped idle ?_
    (run.reading_of_waiting found scheduled (.inl live))
  intro later s' path running
  obtain ⟨-, phase, -⟩ := run.reading_of_dead found scheduled dead (.inl live) path
  rw [running, live] at phase
  cases phase

end TaskBarrier
