import TaskBarrier.Proofs.Locking

/-!
# Running means executing

A thread *runs* a task from the decision to run it until the run is finished.  This module shows
that the phase of a task says whether any thread does, that there is never more than one, and that
no thread runs a task twice over.  Two things follow about code that runs on behalf of a barrier.

* It never waits for a lock that it holds itself: a task that fires again from within its own body
  is coalesced, and bodies are thrown away only while nobody runs them.
* A panic finishes what it leaves: a thread that unwinds starts nothing, and finishes every run it
  was in, each once.

The link between runs and stacks is a balance: on every thread, the runs that were started are the
runs that are finished and the runs that are in progress.

## Main Definitions

* `History.Runs`: a thread is between the decision to run a task and the end of that run.
* `Move.unwinds`: what a thread does that is being left by a panic.
* `Stack.isUnwinding`: a panic is on its way through the stack, or user code may raise one.

The main statement is `running_means_executing`.
-/

namespace TaskBarrier

variable {ν : Type}

/-! ## The balance of starts and finishes -/

namespace History

/-- Whether the thread is between the decision to run the task and the end of that run: it has
started the task more often than it has finished it. -/
def Runs (history : History ν) (thread : ThreadId) (id : TaskId) : Prop :=
  (history.byThread thread).finishes id < (history.byThread thread).starts id

theorem byThread_cons (stride : Stride ν) (history : History ν) (thread : ThreadId) :
    History.byThread (stride :: history) thread =
      if stride.thread = thread then stride :: history.byThread thread
      else history.byThread thread := by
  simp [byThread, List.filter_cons]

end History

/-- A step starts a run, finishes one, or leaves their number as it is. -/
theorem Course.balance {id : TaskId} {deed : Deed} {before after : Option (Task ν)}
    {stages stages' : List RunStage} (course : Course id deed before stages after stages') :
    stages'.length + (if deed.finishesTask id then 1 else 0) =
      stages.length + if deed.startsTask id then 1 else 0 := by
  cases course with
  | run | replay | finish => simp [Deed.finishesTask, Deed.startsTask]
  | keep apart => simp [Deed.finishesTask_of_apart apart, Deed.startsTask_of_apart apart]
  | _ => rfl

/-- **On every thread, starts and finishes balance.** -/
theorem Path.balance {s s' : Scheduler ν} {later : History ν} (path : Path s later s')
    (sound : s.Sound) (thread : ThreadId) (id : TaskId) :
    s'.Sound ∧
      (later.byThread thread).starts id + (Stack.stages id (s.stack thread)).length =
        (later.byThread thread).finishes id + (Stack.stages id (s'.stack thread)).length := by
  induction path with
  | start => exact ⟨sound, rfl⟩
  | @step history middle stepping now move turn path taken ih =>
      obtain ⟨sound, balance⟩ := ih
      have follows := Scheduler.follows_of_step taken
      refine ⟨sound.step follows, ?_⟩
      rw [History.byThread_cons]
      by_cases own : stepping = thread
      · subst own
        have step := (sound.course follows id).balance
        have deed : (⟨middle, stepping, now, move, turn⟩ : Stride ν).deed =
          middle.deed stepping now move := rfl
        rw [if_pos rfl, History.starts_cons, History.finishes_cons, deed]
        omega
      · -- What other threads do counts on neither side.
        rw [if_neg own, follows.others thread (Ne.symm own)]
        exact balance

/-- The runs that a thread has started are the runs that it has finished and those in progress. -/
theorem Run.balance {history : History ν} {s : Scheduler ν} (run : Run history s)
    (thread : ThreadId) (id : TaskId) :
    (history.byThread thread).starts id =
      (history.byThread thread).finishes id + (Stack.stages id (s.stack thread)).length := by
  obtain ⟨number, config, facility, worker, path⟩ := run
  simpa using (path.balance (Scheduler.Sound.start ..) thread id).2

/-- A thread runs a task if and only if a run is in progress on its stack. -/
theorem Run.runs_iff {history : History ν} {s : Scheduler ν} (run : Run history s)
    (thread : ThreadId) (id : TaskId) :
    history.Runs thread id ↔ Stack.stages id (s.stack thread) ≠ [] := by
  rw [History.Runs, run.balance thread id, ← List.length_pos_iff]
  omega

namespace Scheduler

/-- A task is running if and only if a run of it is in progress. -/
theorem Sound.running_iff {s : Scheduler ν} (sound : s.Sound) (id : TaskId) :
    s.barrier.phase? id = some .running ↔ ∃ stage, s.Staged id (some stage) := by
  obtain ⟨stage, staged, fits⟩ := sound.staged id
  unfold Barrier.phase?
  generalize s.barrier.task? id = record at fits
  cases fits with
  | absent =>
      refine iff_of_false (Option.some_ne_none _).symm ?_
      rintro ⟨here, thread, one, -⟩
      rw [staged thread] at one
      cases one
  | present fits =>
      rw [Option.map_some, Option.some.injEq, fits.running]
      constructor
      · intro some
        obtain ⟨here, rfl⟩ := Option.ne_none_iff_exists'.mp some
        exact ⟨here, staged⟩
      · rintro ⟨here, thread, one, -⟩
        obtain ⟨rfl, -, -⟩ := staged.of_cons one
        simp

end Scheduler

/-- A running task is run by one thread, and no other. -/
theorem Run.running_iff {history : History ν} {s : Scheduler ν} (run : Run history s)
    (id : TaskId) :
    s.barrier.phase? id = some .running ↔ ∃! thread, history.Runs thread id := by
  rw [run.sound.running_iff]
  constructor
  · rintro ⟨stage, thread, one, others⟩
    refine ⟨thread, (run.runs_iff thread id).mpr (by simp [one]), fun other runs => ?_⟩
    by_contra ne
    exact (run.runs_iff other id).mp runs (others other ne)
  · rintro ⟨thread, runs, -⟩
    obtain ⟨stage, staged, -⟩ := run.sound.staged id
    rcases staged.stages_eq thread with empty | ⟨here, rfl, -⟩
    · exact absurd empty ((run.runs_iff thread id).mp runs)
    · exact ⟨here, staged⟩

/-- A thread that runs a task finds it running. -/
theorem Run.running_of_runs {history : History ν} {s : Scheduler ν} (run : Run history s)
    {thread : ThreadId} {id : TaskId} (runs : history.Runs thread id) :
    s.barrier.phase? id = some .running := by
  obtain ⟨stage, staged, -⟩ := run.sound.staged id
  rcases staged.stages_eq thread with empty | ⟨here, rfl, -⟩
  · exact absurd empty ((run.runs_iff thread id).mp runs)
  · exact (run.sound.running_iff id).mpr ⟨here, staged⟩

/-! ## Unwinding -/

/-- Whether a thread that makes the move is being left by a panic: it does what it owes on the way,
and what it executes panics in its turn. -/
def Move.unwinds : Move ν → Bool
  | .proceed | .endBody (.panicked _) => true
  | .endBody (.returned _) | .request _ | .work => false

/-- Whether a panic is on its way through the stack, or may be raised by user code on top of it. -/
def Stack.isUnwinding : Stack ν → Bool
  | [] | .run _ .executing :: _ | .raising _ :: _ | .run _ .finishing :: .raising _ :: _
  | .dropping _ :: .raising _ :: _ | .discarding _ :: .raising _ :: _ => true
  | _ => false

/-- User code may raise a panic. -/
theorem Stack.isUnwinding_of_isUser {stack : Stack ν} (isUser : stack.isUser = true) :
    stack.isUnwinding = true := by
  unfold Stack.isUser at isUser
  split at isUser
  · rfl
  · rfl
  · cases isUser

namespace Scheduler

variable {s : Scheduler ν} {thread : ThreadId}

/-- A thread that unwinds starts nothing. -/
theorem startsTask_of_isUnwinding (unwinding : (s.stack thread).isUnwinding = true)
    {move : Move ν} (unwinds : move.unwinds = true) (now : Instant) (id : TaskId) :
    (s.deed thread now move).startsTask id = false := by
  cases move with
  | request | work => cases unwinds
  | endBody how =>
      simp only [deed]
      split
      · rfl
      · rfl
  | proceed =>
      show (s.frameDeed now (s.stack thread)).startsTask id = false
      generalize s.stack thread = stack at unwinding
      unfold Stack.isUnwinding at unwinding
      split at unwinding
      · rfl
      · rfl
      · next rest =>
        unfold frameDeed
        split <;> first | rfl | cases ‹_ = _›
      · rfl
      · rfl
      · next tasks _ _ => cases tasks <;> rfl
      · cases unwinding

/-- Where a panic takes a thread: into the reset of an await, or to user code. -/
theorem stack_proceedRaising (s : Scheduler ν) (thread : ThreadId) {panic : Panic} {rest : Stack ν}
    (shaped : Stack.isShaped (.raising panic :: rest) = true) :
    (∃ start manner stage below, rest = .awaiting start manner stage :: below ∧
      (s.proceedRaising thread panic rest).scheduler.stack thread =
        .dropping s.barrier.dropped :: .raising panic :: below) ∨
    (((s.proceedRaising thread panic rest).scheduler.stack thread).isUser = true ∧
      ((s.proceedRaising thread panic rest).scheduler.stack thread).length ≤ rest.length) := by
  have sits : (Stack.isCaller rest || Stack.isUser rest) = true := Stack.sits_of_cons shaped
  unfold proceedRaising
  split
  · next start manner stage below =>
    exact .inl ⟨start, manner, stage, below, rfl, stack_turn_self ..⟩
  · next answer below =>
    have isUser := Stack.sits_of_cons (Stack.isShaped_of_cons shaped)
    rw [stack_turn_self]
    exact .inr ⟨isUser, Nat.le_succ _⟩
  · split
    · rw [stack_turn_self]
      exact .inr ⟨rfl, Nat.le_refl _⟩
    · rw [stack_turn_self]
      exact .inr ⟨rfl, Nat.le_refl _⟩
  · next frame below not_await not_answer =>
    rw [stack_turn_self]
    refine .inr ⟨?_, Nat.le_refl _⟩
    cases frame with
    | answering => exact absurd rfl (not_answer _)
    | awaiting => exact absurd rfl (not_await _ _ _)
    | run task stage => cases stage <;> first | rfl | cases sits
    | _ => cases sits

/-- **A panic goes on its way**, until it has left all calls. -/
theorem isUnwinding_step (shaped : (s.stack thread).isShaped = true)
    (unwinding : (s.stack thread).isUnwinding = true) {move : Move ν}
    (unwinds : move.unwinds = true) {now : Instant} {turn : Turn ν}
    (taken : s.step thread now move = some turn) :
    (turn.scheduler.stack thread).isUnwinding = true := by
  have taken := attempt_of_step taken
  generalize top : s.stack thread = stack at shaped unwinding
  cases move with
  | request | work => cases unwinds
  | endBody how =>
      cases how with
      | returned => cases unwinds
      | panicked panic =>
          simp only [attempt, endBody] at taken
          split at taken
          · obtain rfl := Option.some.inj taken
            rw [stack_turn_self]
            rfl
          · cases taken
  | proceed =>
      simp only [attempt, proceed, top] at taken
      unfold Stack.isUnwinding at unwinding
      split at unwinding
      · cases taken
      · cases taken
      · obtain rfl := Option.some.inj taken
        rcases s.stack_proceedRaising thread shaped with
          ⟨_, _, _, _, -, eq⟩ | ⟨isUser, -⟩
        · rw [eq]
          rfl
        · exact Stack.isUnwinding_of_isUser isUser
      · obtain rfl := Option.some.inj taken
        simp only [proceedFinishing]
        rw [stack_turn_self]
        split <;> rfl
      · obtain rfl := Option.some.inj taken
        rw [stack_turn_self]
        rfl
      · next tasks _ _ =>
        cases tasks with
        | nil =>
            obtain rfl := Option.some.inj taken
            rw [stack_turn_self]
            rfl
        | cons task others =>
            obtain ⟨barrier, -, rfl⟩ := Option.map_eq_some_iff.mp taken
            rw [stack_turn_self]
            rfl
      · cases unwinding

end Scheduler

/-- **A thread that unwinds starts nothing on its way**, whatever other threads do meanwhile. -/
theorem Path.isUnwinding {s s' : Scheduler ν} {later : History ν} (path : Path s later s')
    (sound : s.Sound) {thread : ThreadId} (unwinding : (s.stack thread).isUnwinding = true)
    (unwinds : ∀ stride ∈ later, stride.thread = thread → stride.move.unwinds = true)
    (id : TaskId) :
    s'.Sound ∧ (s'.stack thread).isUnwinding = true ∧ (later.byThread thread).starts id = 0 := by
  induction path with
  | start => exact ⟨sound, unwinding, rfl⟩
  | @step history middle stepping now move turn path taken ih =>
      obtain ⟨sound, unwinding, none⟩ := ih fun stride member => unwinds stride (.tail _ member)
      have follows := Scheduler.follows_of_step taken
      have sound' := sound.step follows
      rw [History.byThread_cons]
      by_cases own : stepping = thread
      · subst own
        have unwinds : move.unwinds = true := unwinds _ (.head _) rfl
        have deed : (⟨middle, stepping, now, move, turn⟩ : Stride ν).deed =
          middle.deed stepping now move := rfl
        refine ⟨sound', Scheduler.isUnwinding_step (sound.shaped _) unwinding unwinds taken, ?_⟩
        rw [if_pos rfl, History.starts_cons, none, deed,
          Scheduler.startsTask_of_isUnwinding unwinding unwinds]
        rfl
      · rw [if_neg own, follows.others thread (Ne.symm own)]
        exact ⟨sound', unwinding, none⟩

/-! ## A panic comes to its end -/

namespace Scheduler

/-- A sound state in which nobody holds the lock. -/
structure SoundAndFree (s : Scheduler ν) : Prop where
  sound : s.Sound
  free : s.lock = none

/-- A thread that unwinds leaves the lock free. -/
theorem SoundAndFree.step {s : Scheduler ν} {thread : ThreadId} (clear : s.SoundAndFree)
    {now : Instant} {move : Move ν} {turn : Turn ν} (unwinds : move.unwinds = true)
    (taken : s.step thread now move = some turn) : turn.scheduler.SoundAndFree where
  sound := clear.sound.step (follows_of_step taken)
  free := lock_of_free clear.free taken fun _ _ _ asks => by
    rw [asks] at unwinds
    cases unwinds

/-- The thread can unwind on its own until what is left on its stack is as `target` tells. -/
def UnwindsTo (s : Scheduler ν) (thread : ThreadId) (target : Stack ν → Prop) : Prop :=
  ∃ later s', Path s later s' ∧ s'.SoundAndFree ∧ target (s'.stack thread) ∧
    ∀ stride ∈ later, stride.thread = thread ∧ stride.move.unwinds = true

namespace UnwindsTo

variable {s : Scheduler ν} {thread : ThreadId} {target next : Stack ν → Prop}

/-- Nothing is left to do. -/
theorem here (clear : s.SoundAndFree) (holds : target (s.stack thread)) :
    s.UnwindsTo thread target :=
  ⟨[], s, .start, clear, holds, fun _ member => absurd member List.not_mem_nil⟩

/-- One way to unwind after another. -/
theorem trans (first : s.UnwindsTo thread target)
    (second : ∀ s' : Scheduler ν, s'.SoundAndFree → target (s'.stack thread) →
      s'.UnwindsTo thread next) : s.UnwindsTo thread next := by
  obtain ⟨earlier, middle, path, clear, holds, own⟩ := first
  obtain ⟨later, s', path', clear', holds', own'⟩ := second middle clear holds
  refine ⟨later ++ earlier, s', path.append path', clear', holds', fun stride member => ?_⟩
  rcases List.mem_append.mp member with member | member
  · exact own' stride member
  · exact own stride member

/-- One step, and what follows it. -/
theorem step (clear : s.SoundAndFree) {now : Instant} {move : Move ν} {turn : Turn ν}
    (unwinds : move.unwinds = true) (taken : s.step thread now move = some turn)
    (further : turn.scheduler.SoundAndFree → turn.scheduler.UnwindsTo thread target) :
    s.UnwindsTo thread target := by
  obtain ⟨later, s', path, clear', holds, own⟩ := further (clear.step unwinds taken)
  refine ⟨later ++ [⟨s, thread, now, move, turn⟩], s', (Path.start.step taken).append path, clear',
    holds, fun stride member => ?_⟩
  rcases List.mem_append.mp member with member | member
  · exact own stride member
  · obtain rfl := List.mem_singleton.mp member
    exact ⟨rfl, unwinds⟩

/-- What is reached may be said with fewer words. -/
theorem imp (unwinds : s.UnwindsTo thread target) (weaker : ∀ stack, target stack → next stack) :
    s.UnwindsTo thread next := by
  obtain ⟨later, s', path, clear, holds, own⟩ := unwinds
  exact ⟨later, s', path, clear, weaker _ holds, own⟩

end UnwindsTo

section Unwinding

variable {s : Scheduler ν} {thread : ThreadId} {rest : Stack ν}

/-- All bodies that have to be thrown away can be. -/
theorem SoundAndFree.unwindsTo_discarding (clear : s.SoundAndFree) {tasks : List TaskId}
    (top : s.stack thread = .discarding tasks :: rest) (now : Instant) :
    s.UnwindsTo thread (· = rest) := by
  induction tasks generalizing s with
  | nil =>
      have taken : s.step thread now .proceed =
          some (s.turn s.barrier thread rest .working []) := by
        simp only [step_of_free clear.free, attempt, proceed, top, proceedDiscarding]
      exact .step clear rfl taken fun clear' => .here clear' (stack_turn_self ..)
  | cons task others ih =>
      exact .step clear rfl (clear.sound.step_discarding top now) fun clear' =>
        ih clear' (stack_turn_self ..)

/-- The end of a cycle is announced, and what it drops is thrown away. -/
theorem SoundAndFree.unwindsTo_dropping (clear : s.SoundAndFree) {tasks : List TaskId}
    (top : s.stack thread = .dropping tasks :: rest) (now : Instant) :
    s.UnwindsTo thread (· = rest) := by
  have taken : s.step thread now .proceed =
      some (s.turn s.barrier thread (.discarding tasks :: rest) .working
        (if tasks.isEmpty then [] else [.resetDropped tasks.length])) := by
    simp only [step_of_free clear.free, attempt, proceed, top]
  exact .step clear rfl taken fun clear' =>
    clear'.unwindsTo_discarding (stack_turn_self ..) now

/-- A run is finished, and its body is thrown away if it has to be. -/
theorem SoundAndFree.unwindsTo_finishing (clear : s.SoundAndFree) {task : TaskId}
    (top : s.stack thread = .run task .finishing :: rest) (now : Instant) :
    s.UnwindsTo thread (· = rest) := by
  have taken : s.step thread now .proceed = some (s.proceedFinishing thread task rest) := by
    simp only [step_of_free clear.free, attempt, proceed, top]
  refine .step clear rfl taken fun clear' => ?_
  have top' : (s.proceedFinishing thread task rest).scheduler.stack thread =
      if (s.barrier.finish task).answer then .discarding [task] :: rest else rest :=
    stack_turn_self ..
  split at top'
  · exact clear'.unwindsTo_discarding top' now
  · exact .here clear' top'

/-- A panic comes to user code, and resets every await on its way. -/
theorem SoundAndFree.unwindsTo_raising (clear : s.SoundAndFree) {panic : Panic}
    (top : s.stack thread = .raising panic :: rest) (now : Instant) :
    s.UnwindsTo thread fun stack => stack.isUser = true ∧ stack.length ≤ rest.length := by
  induction rest generalizing s with
  | nil =>
      have taken : s.step thread now .proceed = some (s.proceedRaising thread panic []) := by
        simp only [step_of_free clear.free, attempt, proceed, top]
      refine .step clear rfl taken fun clear' => ?_
      rcases s.stack_proceedRaising thread (top ▸ clear.sound.shaped thread) with
        ⟨_, _, _, _, eq, -⟩ | user
      · cases eq
      · exact .here clear' user
  | cons frame below ih =>
      have taken : s.step thread now .proceed =
          some (s.proceedRaising thread panic (frame :: below)) := by
        simp only [step_of_free clear.free, attempt, proceed, top]
      refine .step clear rfl taken fun clear' => ?_
      rcases s.stack_proceedRaising thread (top ▸ clear.sound.shaped thread) with
        ⟨_, _, _, _, eq, reset⟩ | user
      · -- The await below has reset the barrier, and the panic goes on from where it stood.
        obtain ⟨-, rfl⟩ := List.cons.inj eq
        refine .trans (clear'.unwindsTo_dropping reset now) fun s'' clear'' top'' => ?_
        exact (ih clear'' top'').imp fun stack ended =>
          ⟨ended.1, Nat.le_succ_of_le ended.2⟩
      · exact .here clear' user

/-- Where user code comes next, the panics of all bodies leave all calls. -/
theorem SoundAndFree.unwindsTo_of_isUser (clear : s.SoundAndFree) (panic : Panic) (now : Instant)
    (isUser : (s.stack thread).isUser = true) : s.UnwindsTo thread (· = []) := by
  -- Each body that panics leaves a shorter stack, on whose length the induction is.
  generalize size : (s.stack thread).length = n
  induction n using Nat.strongRecOn generalizing s with
  | ind n ih =>
      generalize top : s.stack thread = stack at isUser size
      unfold Stack.isUser at isUser
      split at isUser
      · exact .here clear top
      · next task rest =>
        have taken : s.step thread now (.endBody (.panicked panic)) =
            some (s.turn (s.barrier.leaveBody task none) thread
              (.run task .finishing :: .raising panic :: rest) .working []) := by
          simp only [step_of_free clear.free, attempt, endBody, top]
        refine .step clear rfl taken fun clear₁ => ?_
        refine .trans (clear₁.unwindsTo_finishing (stack_turn_self ..) now)
          fun s₂ clear₂ top₂ => ?_
        refine .trans (clear₂.unwindsTo_raising top₂ now) fun s₃ clear₃ ended => ?_
        obtain ⟨isUser₃, short⟩ := ended
        have shorter : rest.length < n := by
          rw [← size]
          exact Nat.lt_succ_self _
        exact ih _ (Nat.lt_of_le_of_lt short shorter) clear₃ isUser₃ rfl
      · cases isUser

/-- **A panic can always come to its end.**  A thread that unwinds is kept from going on by nothing
but the lock, and has nothing left to do in the end. -/
theorem SoundAndFree.unwindsTo_nil (clear : s.SoundAndFree) (panic : Panic) (now : Instant)
    (unwinding : (s.stack thread).isUnwinding = true) : s.UnwindsTo thread (· = []) := by
  generalize top : s.stack thread = stack at unwinding
  have raising : ∀ {s : Scheduler ν} {panic rest}, s.SoundAndFree →
      s.stack thread = .raising panic :: rest → s.UnwindsTo thread (· = []) :=
    fun clear top => .trans (clear.unwindsTo_raising top now) fun _ clear ended =>
      clear.unwindsTo_of_isUser panic now ended.1
  unfold Stack.isUnwinding at unwinding
  split at unwinding
  · exact .here clear top
  · exact clear.unwindsTo_of_isUser panic now (by rw [top]; rfl)
  · exact raising clear top
  · exact .trans (clear.unwindsTo_finishing top now) fun _ => raising
  · exact .trans (clear.unwindsTo_dropping top now) fun _ => raising
  · exact .trans (clear.unwindsTo_discarding top now) fun _ => raising
  · cases unwinding

end Unwinding

end Scheduler

/-! ## What running means -/

/-- **What the phase of a task says about threads**, after the given steps have led to the given
state, and what follows for the code that threads execute. -/
structure RunningMeansExecuting (history : History ν) (s : Scheduler ν) : Prop where
  /-- A task is running if and only if exactly one thread runs it. -/
  running_iff : ∀ id, s.barrier.phase? id = some .running ↔ ∃! thread, history.Runs thread id
  /-- A running task has a slot. -/
  slotted : ∀ id, s.barrier.phase? id = some .running → (s.barrier.slotted? id).isSome = true
  /-- Two runs of a task never overlap. -/
  apart : ∀ id thread other, history.Runs thread id → history.Runs other id → thread = other
  /-- Two runs of a task never nest. -/
  unnested : ∀ id thread,
    (history.byThread thread).starts id ≤ (history.byThread thread).finishes id + 1
  /-- A task that fires while it is run, on whatever thread, is coalesced, as soon as the lock is
  free. -/
  coalesced : ∀ id runner thread rest now, history.Runs runner id →
    s.stack thread = .deciding id :: rest →
      s.step thread now .proceed = if s.lock.isSome then none else
        some (s.turn s.barrier thread rest .working [.coalesced id])
  /-- The body of a run that is about to begin is free, and is executed. -/
  begins : ∀ id thread replayed rest now, s.stack thread = .run id (.starting replayed) :: rest →
    ∃ turn, s.step thread now .proceed = some turn ∧
      turn.scheduler.stack thread = .run id .executing :: rest
  /-- A body is thrown away only while nobody runs it, and nothing has to be waited for then. -/
  discarded : ∀ id others thread rest now, s.stack thread = .discarding (id :: others) :: rest →
    (∀ runner, ¬ history.Runs runner id) ∧
      ∃ turn, s.step thread now .proceed = some turn ∧
        turn.scheduler.stack thread = .discarding others :: rest
  /-- While a panic leaves the runs of a thread, the thread starts none of them again and finishes
  each of them once, whatever other threads do meanwhile. -/
  unwinds : ∀ id thread later s', history.Runs thread id → (s.stack thread).isUnwinding = true →
    Path s later s' → (∀ stride ∈ later, stride.thread = thread → stride.move.unwinds = true) →
      (later.byThread thread).starts id = 0 ∧ (later.byThread thread).finishes id ≤ 1 ∧
        (History.Runs (later ++ history) thread id ↔ (later.byThread thread).finishes id = 0) ∧
        (s'.stack thread = [] → (later.byThread thread).finishes id = 1)
  /-- A panic can always come to its end, where none of the tasks that the thread ran is running.
  It depends on no other thread, unless one holds the lock, which has to give it back. -/
  ends : ∀ thread, (s.stack thread).isUnwinding = true →
    ∃ later s', Path s later s' ∧ s'.stack thread = [] ∧
      (∀ stride ∈ later, (stride.thread = thread ∧ stride.move.unwinds = true) ∨
        stride.before.lock = some stride.thread) ∧
      ∀ id, history.Runs thread id →
        later.finishes id = 1 ∧ s'.barrier.phase? id ≠ some .running

/-- On one thread there is at most one run of a task. -/
theorem Scheduler.Sound.length_stages {s : Scheduler ν} (sound : s.Sound) (thread : ThreadId)
    (id : TaskId) : (Stack.stages id (s.stack thread)).length ≤ 1 := by
  obtain ⟨stage, staged, -⟩ := sound.staged id
  rcases staged.stages_eq thread with empty | ⟨here, -, one, -⟩
  · simp [empty]
  · simp [one]

/-- A task that is running is coalesced with its run when it fires. -/
theorem Scheduler.Sound.fire_of_running {s : Scheduler ν} (sound : s.Sound) {id : TaskId}
    (running : s.barrier.phase? id = some .running) :
    s.barrier.fire id = ⟨.coalesced, s.barrier, [.coalesced id]⟩ := by
  obtain ⟨task, slot, has, phase⟩ := sound.slotted?_of_phase? running rfl
  simp [Barrier.fire, has, phase]

/-- A task that fires while it is running starts nothing. -/
theorem Scheduler.Sound.step_deciding {s : Scheduler ν} (sound : s.Sound) {id : TaskId}
    (running : s.barrier.phase? id = some .running) {thread : ThreadId} {rest : Stack ν}
    (top : s.stack thread = .deciding id :: rest) (now : Instant) :
    s.step thread now .proceed = if s.lock.isSome then none else
      some (s.turn s.barrier thread rest .working [.coalesced id]) := by
  have takes : s.takesLock thread .proceed = true := by
    simp only [takesLock, top]
    rfl
  have coalesces : s.attempt thread now .proceed =
      some (s.turn s.barrier thread rest .working [.coalesced id]) := by
    simp only [attempt, proceed, top, proceedDeciding, sound.fire_of_running running]
    rfl
  rw [Scheduler.step, takes, coalesces, Bool.and_true]

/-- A run that is about to begin executes the body of its task. -/
theorem Scheduler.Sound.step_starting {s : Scheduler ν} (sound : s.Sound) {id : TaskId}
    {thread : ThreadId} {replayed : Bool} {rest : Stack ν}
    (top : s.stack thread = .run id (.starting replayed) :: rest) (now : Instant) :
    s.step thread now .proceed =
      some (s.turn (s.barrier.modify id (·.entered)) thread (.run id .executing :: rest) (.body id)
        [if replayed then .startedByReplay id else .startedByFiring id]) := by
  obtain ⟨task, found, fits⟩ := sound.of_run top
  rw [step_of_lockless (by simp only [takesLock, top]; rfl)]
  simp only [attempt, proceed, top, proceedStarting, fits.enterBody? sound.coherent found]

/-- Nobody runs a task whose body has to be thrown away. -/
theorem Run.not_runs_of_discards {history : History ν} {s : Scheduler ν} (run : Run history s)
    {thread : ThreadId} {id : TaskId} (discards : id ∈ Stack.discards (s.stack thread))
    (runner : ThreadId) : ¬ history.Runs runner id := by
  intro runs
  have cancelled := run.sound.discards thread id discards
  rw [run.running_of_runs runs] at cancelled
  cases cancelled

/-- A thread that runs a task has one run of it in progress. -/
theorem Run.length_stages_of_runs {history : History ν} {s : Scheduler ν} (run : Run history s)
    {thread : ThreadId} {id : TaskId} (runs : history.Runs thread id) :
    (Stack.stages id (s.stack thread)).length = 1 := by
  have some := List.length_pos_iff.mpr ((run.runs_iff thread id).mp runs)
  have one := run.sound.length_stages thread id
  omega

/-- While a thread unwinds, it finishes each run that it was in once. -/
theorem Run.unwinds {history later : History ν} {s s' : Scheduler ν} (run : Run history s)
    {thread : ThreadId} {id : TaskId} (runs : history.Runs thread id)
    (unwinding : (s.stack thread).isUnwinding = true) (path : Path s later s')
    (unwinds : ∀ stride ∈ later, stride.thread = thread → stride.move.unwinds = true) :
    (later.byThread thread).starts id = 0 ∧
      (later.byThread thread).finishes id + (Stack.stages id (s'.stack thread)).length = 1 := by
  have one := run.length_stages_of_runs runs
  obtain ⟨-, -, none⟩ := path.isUnwinding run.sound unwinding unwinds id
  obtain ⟨-, balance⟩ := path.balance run.sound thread id
  exact ⟨none, by omega⟩

/-- Steps of one thread leave the stacks of all others alone. -/
theorem Path.stack_of_ne {s s' : Scheduler ν} {later : History ν} (path : Path s later s')
    {thread : ThreadId} (own : ∀ stride ∈ later, stride.thread = thread) {other : ThreadId}
    (ne : other ≠ thread) : s'.stack other = s.stack other := by
  induction path with
  | start => rfl
  | @step history middle stepping now move turn path taken ih =>
      obtain rfl : stepping = thread := own _ (.head _)
      rw [(Scheduler.follows_of_step taken).others other ne]
      exact ih fun stride member => own stride (.tail _ member)

/-- A history of one thread. -/
theorem History.byThread_eq_self {history : History ν} {thread : ThreadId}
    (own : ∀ stride ∈ history, stride.thread = thread) : history.byThread thread = history :=
  List.filter_eq_self.mpr fun stride member => by simpa using own stride member

/-- While nobody holds the lock, a thread brings a panic to its end on its own, and finishes every
run that it leaves. -/
theorem Run.ends_of_free {history : History ν} {s : Scheduler ν} (run : Run history s)
    (free : s.lock = none) {thread : ThreadId} (unwinding : (s.stack thread).isUnwinding = true) :
    ∃ later s', Path s later s' ∧ s'.stack thread = [] ∧
      (∀ stride ∈ later, stride.thread = thread ∧ stride.move.unwinds = true) ∧
      ∀ id, history.Runs thread id →
        later.finishes id = 1 ∧ s'.barrier.phase? id ≠ some .running := by
  have clear : s.SoundAndFree := ⟨run.sound, free⟩
  obtain ⟨later, s', path, ⟨sound, -⟩, empty, own⟩ :=
    clear.unwindsTo_nil .instantOverflow ⟨0⟩ unwinding
  refine ⟨later, s', path, empty, own, fun id runs => ?_⟩
  obtain ⟨-, finished⟩ := run.unwinds runs unwinding path fun stride member _ =>
    (own stride member).2
  rw [History.byThread_eq_self fun stride member => (own stride member).1, empty] at finished
  refine ⟨finished, fun running => ?_⟩
  -- No other thread runs the task now, since none did before.
  obtain ⟨stage, runner, one, -⟩ := (sound.running_iff id).mp running
  by_cases same : runner = thread
  · rw [same, empty] at one
    cases one
  · rw [path.stack_of_ne (fun stride member => (own stride member).1) same] at one
    have runs' : history.Runs runner id := (run.runs_iff runner id).mpr (by simp [one])
    obtain ⟨_, -, only⟩ := (run.running_iff id).mp (run.running_of_runs runs)
    exact same ((only runner runs').trans (only thread runs).symm)

/-- A panic can be brought to its end, once the lock has been given back. -/
theorem Run.ends {history : History ν} {s : Scheduler ν} (run : Run history s) {thread : ThreadId}
    (unwinding : (s.stack thread).isUnwinding = true) :
    ∃ later s', Path s later s' ∧ s'.stack thread = [] ∧
      (∀ stride ∈ later, (stride.thread = thread ∧ stride.move.unwinds = true) ∨
        stride.before.lock = some stride.thread) ∧
      ∀ id, history.Runs thread id →
        later.finishes id = 1 ∧ s'.barrier.phase? id ≠ some .running := by
  obtain ⟨given, middle, gives⟩ := run.exists_givesBack
  have run' := run.append gives.path
  have others : middle.stack thread = s.stack thread := by
    refine gives.others thread fun locked => ?_
    obtain ⟨rest, top⟩ := (run.lock_iff thread).mp locked
    rw [top] at unwinding
    cases unwinding
  rw [← others] at unwinding
  obtain ⟨later, s', path, empty, own, finished⟩ := run'.ends_of_free gives.free unwinding
  refine ⟨later ++ given, s', gives.path.append path, empty, ?_, fun id runs => ?_⟩
  · intro stride member
    rcases List.mem_append.mp member with member | member
    · exact .inl (own stride member)
    · exact .inr (gives.holder stride member).1
  · rw [run.runs_iff, ← others, ← run'.runs_iff] at runs
    obtain ⟨once, ended⟩ := finished id runs
    refine ⟨?_, ended⟩
    have nothing : given.finishes id = 0 :=
      List.countP_eq_zero.mpr fun stride member => by simp [(gives.holder stride member).2,
        Deed.finishesTask]
    rw [History.finishes, History.tally, List.countP_append]
    exact congrArg₂ (· + ·) once nothing

/-- **Running means executing.** -/
theorem running_means_executing {history : History ν} {s : Scheduler ν} (run : Run history s) :
    RunningMeansExecuting history s where
  running_iff := run.running_iff
  slotted := by
    intro id running
    obtain ⟨task, slot, has, -⟩ := run.sound.slotted?_of_phase? running rfl
    rw [has]
    rfl
  apart := by
    intro id thread other runs runs'
    obtain ⟨runner, -, only⟩ := (run.running_iff id).mp (run.running_of_runs runs)
    rw [only thread runs, only other runs']
  unnested := by
    intro id thread
    have one := run.sound.length_stages thread id
    have balance := run.balance thread id
    omega
  coalesced := fun id runner thread rest now runs top =>
    run.sound.step_deciding (run.running_of_runs runs) top now
  begins := fun id thread replayed rest now top =>
    ⟨_, run.sound.step_starting top now, Scheduler.stack_turn_self ..⟩
  discarded := by
    intro id others thread rest now top
    have discards : id ∈ Stack.discards (s.stack thread) := by
      rw [top]
      exact List.mem_cons_self
    exact ⟨run.not_runs_of_discards discards, _, run.sound.step_discarding top now,
      Scheduler.stack_turn_self ..⟩
  unwinds := by
    intro id thread later s' runs unwinding path unwinds
    obtain ⟨none, finished⟩ := run.unwinds runs unwinding path unwinds
    refine ⟨none, by omega, ?_, fun empty => ?_⟩
    · rw [(run.append path).runs_iff, ← List.length_pos_iff]
      omega
    · rw [empty] at finished
      exact finished
  ends := fun thread unwinding => run.ends unwinding

/-- While an await replays the task of `replayedMoves`, one thread runs it. -/
theorem existsUnique_runs_of_replayed : ∃ (history : History Unit) (s : Scheduler Unit),
    Run history s ∧ s.barrier.phase? ⟨0⟩ = some .running ∧ ∃! thread, history.Runs thread ⟨0⟩ := by
  obtain ⟨history, s, played, running⟩ : ∃ history s,
      (Scheduler.start 0 .default (.byHand .empty) none).play (replayedMoves.take 7) =
        some (history, s) ∧ s.barrier.phase? ⟨0⟩ = some .running :=
    ⟨_, _, rfl, rfl⟩
  have run := Run.of_play played
  exact ⟨history, s, run, running, ((running_means_executing run).running_iff ⟨0⟩).mp running⟩

end TaskBarrier
