import TaskBarrier.Proofs.Execution

/-!
# Draining, and the awaits in progress

Whether a firing runs or is held depends on a single flag, which every await sets and every reset
clears.  An await is *in progress* from its first section to its reset, whichever way it comes to
it; what is left of the call after that is to report, and, if a panic is on its way through the
thread, a second reset by the guard of the await.  This module relates the flag to the awaits in
progress.

* The flag is set only while some await is in progress.  So nothing starts outside of an await.
* The flag belongs to no await in particular.  While several overlap, the first reset clears it for
  all of them, and a task that fires then is held although somebody is waiting for it.

The link between awaits and stacks is a balance, like that of starts and finishes: on every thread,
the awaits that have begun are the awaits that were reset and the awaits that are on the stack.

## Main Definitions

* `Deed.isAwait`, `Deed.drain`: what a deed means for the flag.
* `Stack.awaits`: how many awaits are on a stack.
* `History.Awaits`: an await of a thread is in progress.
* `overlappedMoves`: an await is reset inside another one.

The main statements are `nothing_starts_outside_awaits` and `undisturbed_of_drained`.
-/

namespace TaskBarrier

variable {ν : Type}

/-! ## The flag -/

namespace Deed

/-- Whether the deed is the beginning of an await. -/
def isAwait : Deed → Bool
  | await => true
  | _ => false

/-- What a deed makes of the flag. -/
def drain : Deed → Bool → Bool
  | await, _ => true
  | reset _ _, _ => false
  | _, draining => draining

/-- Only awaits set the flag, and only resets clear it. -/
theorem drain_of_apart {deed : Deed} (begins : deed.isAwait = false) (ends : deed.isReset = false)
    (draining : Bool) : deed.drain draining = draining := by
  cases deed with
  | await => cases begins
  | reset => cases ends
  | _ => rfl

/-- An await sets the flag. -/
theorem drain_of_isAwait {deed : Deed} (begins : deed.isAwait = true) (draining : Bool) :
    deed.drain draining = true := by
  cases deed <;> first | rfl | cases begins

/-- A reset clears the flag. -/
theorem drain_of_isReset {deed : Deed} (ends : deed.isReset = true) (draining : Bool) :
    deed.drain draining = false := by
  cases deed <;> first | rfl | cases ends

/-- Whether the deed ends an await.  Every reset does, except that of a guard, whose await has come
to its end before. -/
def endsAwait : Deed → Bool
  | reset ending _ => ending != .guarded
  | _ => false

/-- Whether the deed is the reset of a guard. -/
def isGuarded : Deed → Bool
  | reset ending _ => ending == .guarded
  | _ => false

/-- Guards act with resets. -/
theorem isGuarded_of_apart {deed : Deed} (apart : deed.isReset = false) :
    deed.isGuarded = false := by
  cases deed <;> first | rfl | cases apart

/-- No deed begins an await and ends one. -/
theorem endsAwait_of_isAwait {deed : Deed} (begins : deed.isAwait = true) :
    deed.endsAwait = false := by
  cases deed <;> first | rfl | cases begins

/-- Awaits end with resets. -/
theorem endsAwait_of_apart {deed : Deed} (apart : deed.isReset = false) :
    deed.endsAwait = false := by
  cases deed <;> first | rfl | cases apart

end Deed

/-- **What a step leaves alone**: besides the counter, the hold queue and the tasks it changes no
more than the facility, uses up numbers, and does to the flag what its deed says. -/
theorem Transition.stays {b b' : Barrier ν} {stack stack' : Stack ν} {deed : Deed}
    (transition : Transition b stack deed b' stack') :
    ∃ facility nextId, b.nextId.number ≤ nextId.number ∧
      Barrier.Stays { b with
        facility := facility
        nextId := nextId
        draining := deed.drain b.draining } b' := by
  cases transition with
  | aside later | refuse _ later => exact ⟨_, _, later, .refl _⟩
  | accept _ answer =>
      obtain ⟨-, key, facility, eq⟩ := Barrier.accept_of_accepted answer
      rw [eq]
      exact ⟨_, _, Nat.le_succ _, rfl, rfl, rfl, rfl⟩
  | read => exact ⟨_, _, Nat.le_refl _, b.stays_readValue _⟩
  | withdraw | cancel => exact ⟨_, _, Nat.le_refl _, b.stays_cancel _⟩
  | run | pass => exact ⟨_, _, Nat.le_refl _, b.stays_fire _⟩
  | enter entered | skip entered =>
      exact ⟨_, _, Nat.le_refl _, Barrier.stays_enterBody? entered⟩
  | finish => exact ⟨_, _, Nat.le_refl _, b.stays_finish _⟩
  | replay | passOver => exact ⟨_, _, Nat.le_refl _, b.stays_popHeld⟩
  | discard discarded => exact ⟨_, _, Nat.le_refl _, Barrier.stays_discard? discarded⟩
  | _ => exact ⟨_, _, Nat.le_refl _, rfl, rfl, rfl, rfl⟩

/-- **A step does to the flag what its deed says.** -/
theorem Transition.draining {b b' : Barrier ν} {stack stack' : Stack ν} {deed : Deed}
    (transition : Transition b stack deed b' stack') :
    b'.draining = deed.drain b.draining := by
  obtain ⟨_, _, -, stays⟩ := transition.stays
  exact stays.draining

/-- Numbers of tasks are drawn in ascending order. -/
theorem Transition.nextId_le {b b' : Barrier ν} {stack stack' : Stack ν} {deed : Deed}
    (transition : Transition b stack deed b' stack') : b.nextId.number ≤ b'.nextId.number := by
  obtain ⟨_, _, later, stays⟩ := transition.stays
  rwa [stays.nextId]

/-- No step changes the config. -/
theorem Transition.config {b b' : Barrier ν} {stack stack' : Stack ν} {deed : Deed}
    (transition : Transition b stack deed b' stack') : b'.config = b.config := by
  obtain ⟨_, _, -, stays⟩ := transition.stays
  exact stays.config

/-! ## The awaits on a stack -/

/-- Whether the frame is an await. -/
def Frame.isAwaiting : Frame ν → Bool
  | awaiting _ _ _ => true
  | _ => false

/-- How many awaits are on a stack. -/
def Stack.awaits (stack : Stack ν) : Nat := (stack.filter Frame.isAwaiting).length

namespace Frame

/-- A frame with which a request begins is no await. -/
theorem isAwaiting_of_isOpening {frame : Frame ν} (opens : frame.isOpening = true) :
    frame.isAwaiting = false := by
  cases frame <;> first | rfl | cases opens

/-- A frame with which a call returns is no await. -/
theorem isAwaiting_of_isReturning {frame : Frame ν} (returns : frame.isReturning = true) :
    frame.isAwaiting = false := by
  cases frame <;> first | rfl | cases returns

/-- A call that comes to its end is no await any more. -/
theorem isAwaiting_of_isEnding {frame : Frame ν} (ends : frame.isEnding = true) :
    frame.isAwaiting = false := by
  cases frame <;> first | rfl | cases ends

/-- A frame with nothing left to do is no await. -/
theorem isAwaiting_of_isClosing {frame : Frame ν} (closing : frame.isClosing = true) :
    frame.isAwaiting = false := by
  cases frame <;> first | rfl | cases closing

end Frame

namespace Stack

@[simp] theorem awaits_nil : Stack.awaits ([] : Stack ν) = 0 := rfl

theorem awaits_cons (frame : Frame ν) (rest : Stack ν) :
    Stack.awaits (frame :: rest) = Stack.awaits rest + if frame.isAwaiting then 1 else 0 := by
  rw [awaits, List.filter_cons]
  split <;> rfl

@[simp] theorem awaits_awaiting (start : Instant) (manner : Manner) (stage : AwaitStage)
    (rest : Stack ν) :
    Stack.awaits (.awaiting start manner stage :: rest) = Stack.awaits rest + 1 := rfl

/-- A frame that is no await adds none. -/
theorem awaits_cons_of_not {frame : Frame ν} (other : frame.isAwaiting = false) (rest : Stack ν) :
    Stack.awaits (frame :: rest) = Stack.awaits rest := by
  rw [awaits_cons, other]
  rfl

/-- Frames that are no awaits add none. -/
theorem awaits_append_of_not {top : Stack ν} (others : ∀ frame ∈ top, frame.isAwaiting = false)
    (rest : Stack ν) : Stack.awaits (top ++ rest) = Stack.awaits rest := by
  have none : top.filter Frame.isAwaiting = [] :=
    List.filter_eq_nil_iff.mpr fun frame member => by simp [others frame member]
  rw [awaits, List.filter_append, none, List.nil_append]
  rfl

end Stack

/-- **A step begins an await, ends one, or leaves their number as it is.** -/
theorem Transition.awaits {b b' : Barrier ν} {stack stack' : Stack ν} {deed : Deed}
    (transition : Transition b stack deed b' stack') :
    stack'.awaits + (if deed.endsAwait then 1 else 0) =
      stack.awaits + if deed.isAwait then 1 else 0 := by
  cases transition with
  | refuse _ _ fails =>
      rw [Stack.awaits_cons_of_not rfl, Stack.awaits_cons_of_not
        (Frame.isAwaiting_of_isEnding (Frame.isEnding_of_isFailing fails))]
      rfl
  | ask _ opens _ returns =>
      rw [Stack.awaits_append_of_not fun frame member =>
          Frame.isAwaiting_of_isOpening (opens frame member),
        Stack.awaits_cons_of_not (Frame.isAwaiting_of_isReturning returns)]
      rfl
  | finish after =>
      rcases after with rfl | rfl <;> rfl
  | settle =>
      rw [List.cons_append, Stack.awaits_cons_of_not rfl, Stack.awaits_append_of_not
        fun frame member =>
          Frame.isAwaiting_of_isEnding (Manner.isEnding_of_mem_succeeding member)]
      rfl
  | expire =>
      rw [List.cons_append, Stack.awaits_cons_of_not rfl, Stack.awaits_append_of_not
        fun frame member =>
          Frame.isAwaiting_of_isEnding (Manner.isEnding_of_mem_failing member)]
      rfl
  | close closing =>
      rw [Stack.awaits_cons_of_not (Frame.isAwaiting_of_isClosing closing)]
      rfl
  | _ => rfl

/-! ## The awaits in progress -/

namespace History

/-- How many awaits have begun. -/
def awaits (history : History ν) : Nat := history.tally Deed.isAwait

/-- How many awaits have come to their reset. -/
def ended (history : History ν) : Nat := history.tally Deed.endsAwait

/-- Whether an await of the thread is in progress: the thread has begun more awaits than have come
to their reset. -/
def Awaits (history : History ν) (thread : ThreadId) : Prop :=
  (history.byThread thread).ended < (history.byThread thread).awaits

theorem awaits_cons (stride : Stride ν) (history : History ν) :
    History.awaits (stride :: history) =
      history.awaits + if stride.deed.isAwait then 1 else 0 :=
  tally_cons ..

theorem ended_cons (stride : Stride ν) (history : History ν) :
    History.ended (stride :: history) =
      history.ended + if stride.deed.endsAwait then 1 else 0 :=
  tally_cons ..

/-- What neither begins an await nor ends one leaves the awaits in progress as they are. -/
theorem awaits_cons_iff {stride : Stride ν} (begins : stride.deed.isAwait = false)
    (ends : stride.deed.endsAwait = false) (history : History ν) (thread : ThreadId) :
    History.Awaits (stride :: history) thread ↔ history.Awaits thread := by
  unfold Awaits
  rw [byThread_cons]
  split
  · rw [awaits_cons, ended_cons, begins, ends]
    rfl
  · rfl

end History

/-- The awaits that a thread has begun are those that have come to their reset and those on its
stack. -/
theorem Run.awaits_balance {history : History ν} {s : Scheduler ν} (run : Run history s)
    (thread : ThreadId) :
    (history.byThread thread).awaits =
      (history.byThread thread).ended + (s.stack thread).awaits := by
  refine run.induct (motive := fun history s => (history.byThread thread).awaits =
    (history.byThread thread).ended + (s.stack thread).awaits) ?_ ?_
  · intro number config facility worker
    rfl
  · intro history s stepping now move turn _ taken balance
    have follows := Scheduler.follows_of_step taken
    rw [History.byThread_cons]
    by_cases own : stepping = thread
    · subst own
      have step := follows.transition.awaits
      have deed : (⟨s, stepping, now, move, turn⟩ : Stride ν).deed = s.deed stepping now move := rfl
      rw [if_pos rfl, History.awaits_cons, History.ended_cons, deed]
      omega
    · rw [if_neg own, follows.others thread (Ne.symm own)]
      exact balance

/-- An await of a thread is in progress if and only if it is on the stack of the thread. -/
theorem Run.awaits_iff {history : History ν} {s : Scheduler ν} (run : Run history s)
    (thread : ThreadId) : history.Awaits thread ↔ 0 < (s.stack thread).awaits := by
  rw [History.Awaits, run.awaits_balance thread]
  omega

/-- While the flag is set, some await is in progress. -/
theorem Run.exists_awaits {history : History ν} {s : Scheduler ν} (run : Run history s)
    (draining : s.barrier.draining = true) : ∃ thread, history.Awaits thread := by
  refine run.induct (motive := fun history s => s.barrier.draining = true →
    ∃ thread, history.Awaits thread) ?_ ?_ draining
  · intro number config facility worker draining
    cases draining
  · intro history s thread now move turn run taken ih draining
    have deed : (⟨s, thread, now, move, turn⟩ : Stride ν).deed = s.deed thread now move := rfl
    rw [(Scheduler.follows_of_step taken).transition.draining] at draining
    cases begins : (s.deed thread now move).isAwait with
    | true =>
        -- Before this await began, the thread had not reset more awaits than it had begun.
        refine ⟨thread, ?_⟩
        have balance := run.awaits_balance thread
        rw [History.Awaits, History.byThread_cons, if_pos rfl, History.awaits_cons,
          History.ended_cons, deed, begins, Deed.endsAwait_of_isAwait begins]
        simp only [if_true, Bool.false_eq_true, if_false]
        omega
    | false =>
        cases ends : (s.deed thread now move).isReset with
        | true =>
            rw [Deed.drain_of_isReset ends] at draining
            cases draining
        | false =>
            rw [Deed.drain_of_apart begins ends] at draining
            obtain ⟨awaiter, awaits⟩ := ih draining
            exact ⟨awaiter, (History.awaits_cons_iff (deed ▸ begins)
              (deed ▸ Deed.endsAwait_of_apart ends) ..).mpr awaits⟩

/-! ## Nothing starts outside of an await -/

/-- A task that is running after a step was running before, unless the step has started it. -/
theorem Course.phase_of_running {id : TaskId} {deed : Deed} {before after : Option (Task ν)}
    {stages stages' : List RunStage} {stage : Option RunStage}
    (course : Course id deed before stages after stages') (fits : Fits before stage)
    (unstarted : deed.startsTask id = false) (running : after.map (·.phase) = some .running) :
    before.map (·.phase) = some .running := by
  cases course with
  | accept => simp [Task.accepted] at running
  | run | replay => simp [Deed.startsTask] at unstarted
  | hold => simp [Task.setPhase] at running
  | enter | leave | doom | read => exact running
  | finish phase => simp [phase]
  | withdraw => simp [Task.retire] at running
  | reset =>
      have phase := fits.of_some.phase_of_reset_running (Option.some.inj running)
      simp [phase]
  | absent => cases running
  | discard =>
      rename_i task _
      obtain ⟨body, promise, eq⟩ := task.discard_eq
      rw [eq] at running
      exact running
  | keep => exact running

/-- What comes of a firing while nobody awaits. -/
theorem Barrier.fire_of_idle {b : Barrier ν} (idle : b.draining = false) (id : TaskId) :
    (b.fire id).answer = .held ∨
      ((b.fire id).answer = .coalesced ∨ (b.fire id).answer = .ignored) ∧
        (b.fire id).barrier = b := by
  rcases b.fire_cases id with ⟨_, _, _, _, eq⟩ | ⟨same, answer⟩
  · rw [eq, b.answer_fireLive, idle]
    exact .inl rfl
  · exact .inr ⟨answer.symm, same⟩

namespace Scheduler

variable {s : Scheduler ν}

/-- Where nothing drains and no await is on a stack, no step starts a task. -/
theorem startsTask_of_idle {thread : ThreadId} {now : Instant} {move : Move ν} {turn : Turn ν}
    (idle : s.barrier.draining = false) (none : (s.stack thread).awaits = 0)
    (taken : s.step thread now move = some turn) (id : TaskId) :
    (s.deed thread now move).startsTask id = false := by
  have transition := (follows_of_step taken).transition
  generalize s.stack thread = stack at transition none
  generalize s.deed thread now move = deed at transition ⊢
  generalize turn.scheduler.barrier = barrier, turn.scheduler.stack thread = stack' at transition
  cases transition with
  | run answer =>
      rcases Barrier.fire_of_idle idle _ with held | ⟨coalesced | ignored, -⟩
      · cases answer.symm.trans held
      · cases answer.symm.trans coalesced
      · cases answer.symm.trans ignored
  | @pass task _ answer =>
      show Deed.startsTask id (.call task (s.barrier.fire task).answer) = false
      unfold Deed.startsTask
      split
      · next same => exact absurd (Deed.call.inj same).2 answer
      · next same => cases same
      · rfl
  | replay => cases none
  | _ => rfl

end Scheduler

/-- **Nothing starts outside of an await.**  While the barrier drains, an await is in progress.
While none is, a firing holds its task or changes nothing, no step decides to run a task, and
whatever is running after a step was running before it. -/
theorem nothing_starts_outside_awaits {history : History ν} {s : Scheduler ν}
    (run : Run history s) :
    (s.barrier.draining = true → ∃ thread, history.Awaits thread) ∧
      ((∀ thread, ¬ history.Awaits thread) →
        (∀ id, (s.barrier.fire id).answer = .held ∨
          ((s.barrier.fire id).answer = .coalesced ∨ (s.barrier.fire id).answer = .ignored) ∧
            (s.barrier.fire id).barrier = s.barrier) ∧
        ∀ thread now move turn, s.step thread now move = some turn → ∀ id,
          (s.deed thread now move).startsTask id = false ∧
            (turn.scheduler.barrier.phase? id = some .running →
              s.barrier.phase? id = some .running)) := by
  refine ⟨run.exists_awaits, fun nobody => ?_⟩
  have idle : s.barrier.draining = false := by
    by_contra draining
    obtain ⟨thread, awaits⟩ := run.exists_awaits (by simpa using draining)
    exact nobody thread awaits
  refine ⟨Barrier.fire_of_idle idle, fun thread now move turn taken id => ?_⟩
  have none : (s.stack thread).awaits = 0 := by
    have absent := nobody thread
    rw [run.awaits_iff] at absent
    omega
  have unstarted := Scheduler.startsTask_of_idle idle none taken id
  obtain ⟨stage, -, fits⟩ := run.sound.staged id
  have course := run.sound.course (Scheduler.follows_of_step taken) id
  exact ⟨unstarted, course.phase_of_running fits unstarted⟩

/-- Before the await of `replayedMoves` no await is in progress, and no move starts its task. -/
theorem nothing_starts_of_held : ∃ (history : History Unit) (s : Scheduler Unit),
    Run history s ∧ s.barrier.phase? ⟨0⟩ = some .held ∧ (∀ thread, ¬ history.Awaits thread) ∧
      ∀ thread now move turn, s.step thread now move = some turn →
        (s.deed thread now move).startsTask ⟨0⟩ = false := by
  obtain ⟨history, s, played, held, idle⟩ : ∃ history s,
      (Scheduler.start 0 .default (.byHand .empty) none).play (replayedMoves.take 4) =
        some (history, s) ∧ s.barrier.phase? ⟨0⟩ = some .held ∧
        (∀ stride ∈ history, stride.deed.isAwait = false) :=
    ⟨_, _, rfl, rfl, by decide⟩
  have run := Run.of_play played
  have nobody : ∀ thread, ¬ history.Awaits thread := by
    intro thread awaits
    have none : (history.byThread thread).awaits = 0 :=
      List.countP_eq_zero.mpr fun stride member => by
        simp [idle stride (List.mem_of_mem_filter member)]
    rw [History.Awaits, none] at awaits
    exact Nat.not_lt_zero _ awaits
  obtain ⟨-, outside⟩ := nothing_starts_outside_awaits run
  exact ⟨history, s, run, held, nobody, fun thread now move turn taken =>
    ((outside nobody).2 thread now move turn taken ⟨0⟩).1⟩

/-! ## A reset among overlapping awaits -/

/-- **While an await of a thread is in progress, the flag is set**, unless there was a reset during
that await and no await has begun after the reset. -/
theorem Run.draining_or_reset {history : History ν} {s : Scheduler ν} (run : Run history s)
    {thread : ThreadId} (awaits : history.Awaits thread) :
    s.barrier.draining = true ∨
      ∃ later reset before, history = later ++ reset :: before ∧ reset.deed.isReset = true ∧
        History.Awaits (reset :: before) thread ∧
        ∀ stride ∈ later, stride.deed.isAwait = false := by
  refine run.induct (motive := fun history s => history.Awaits thread →
    s.barrier.draining = true ∨
      ∃ later reset before, history = later ++ reset :: before ∧ reset.deed.isReset = true ∧
        History.Awaits (reset :: before) thread ∧
        ∀ stride ∈ later, stride.deed.isAwait = false) ?_ ?_ awaits
  · intro number config facility worker awaits
    exact absurd awaits (Nat.lt_irrefl 0)
  · intro history s stepping now move turn _ taken ih awaits
    have deed : (⟨s, stepping, now, move, turn⟩ : Stride ν).deed = s.deed stepping now move := rfl
    rw [(Scheduler.follows_of_step taken).transition.draining]
    cases begins : (s.deed stepping now move).isAwait with
    | true => exact .inl (Deed.drain_of_isAwait begins _)
    | false =>
        cases ends : (s.deed stepping now move).isReset with
        | true => exact .inr ⟨[], _, history, rfl, deed ▸ ends, awaits, by simp⟩
        | false =>
            rw [Deed.drain_of_apart begins ends]
            rw [History.awaits_cons_iff (deed ▸ begins)
              (deed ▸ Deed.endsAwait_of_apart ends)] at awaits
            refine (ih awaits).imp_right ?_
            rintro ⟨later, reset, before, rfl, resets, during, none⟩
            refine ⟨_ :: later, reset, before, rfl, resets, during, fun stride member => ?_⟩
            rcases List.mem_cons.mp member with rfl | member
            · exact deed ▸ begins
            · exact none stride member

/-- A task is held only while the barrier is not draining. -/
theorem Transition.draining_of_hold {b b' : Barrier ν} {stack stack' : Stack ν} {id : TaskId}
    (transition : Transition b stack (.call id .held) b' stack') : b.draining = false := by
  generalize hold : Deed.call id .held = deed at transition
  cases transition with
  | @pass task _ answer =>
      have held : (b.fire task).answer = .held := (Deed.call.inj hold).2.symm
      rcases b.fire_cases task with ⟨_, _, _, _, eq⟩ | ⟨-, ignored | coalesced⟩
      · rw [eq, b.answer_fireLive] at held
        by_contra draining
        simp [draining] at held
      · cases held.symm.trans ignored
      · cases held.symm.trans coalesced
  | _ => cases hold

/-- Only a firing that holds its task brings something into an empty hold queue. -/
theorem Deed.requeue_nil {deed : Deed} (unheld : ∀ id, deed ≠ .call id .held) :
    deed.requeue [] = [] := by
  cases deed with
  | call id firing =>
      cases firing with
      | held => exact absurd rfl (unheld id)
      | _ => rfl
  | replay replay => cases replay <;> rfl
  | cancel id answer => cases answer <;> rfl
  | _ => rfl

/-- **As long as nobody resets the barrier, it goes on draining**, and a hold queue that is empty
stays so. -/
theorem Path.held_of_draining {s s' : Scheduler ν} {later : History ν} (path : Path s later s')
    (sound : s.Sound) (draining : s.barrier.draining = true) (empty : s.barrier.held = [])
    (undisturbed : ∀ stride ∈ later, stride.deed.isReset = false) :
    s'.Sound ∧ s'.barrier.draining = true ∧ s'.barrier.held = [] := by
  induction path with
  | start => exact ⟨sound, draining, empty⟩
  | @step history middle thread now move turn path taken ih =>
      obtain ⟨sound, draining, empty⟩ := ih fun stride member => undisturbed stride (.tail _ member)
      have follows := Scheduler.follows_of_step taken
      have ends : (middle.deed thread now move).isReset = false := undisturbed _ (.head _)
      refine ⟨sound.step follows, ?_, ?_⟩
      · rw [follows.transition.draining]
        cases begins : (middle.deed thread now move).isAwait with
        | true => exact Deed.drain_of_isAwait begins _
        | false => rw [Deed.drain_of_apart begins ends, draining]
      · rw [sound.requeue follows, empty]
        refine Deed.requeue_nil fun id hold => ?_
        have transition := follows.transition
        rw [hold] at transition
        rw [transition.draining_of_hold] at draining
        cases draining

/-- The thread that takes the last task off the hold queue is in an await. -/
theorem Run.awaits_of_replay {history : History ν} {s : Scheduler ν} (run : Run history s)
    {thread : ThreadId} {now : Instant} {move : Move ν} {turn : Turn ν} {replay : Replay}
    (taken : s.step thread now move = some turn)
    (replays : s.deed thread now move = .replay replay) : history.Awaits thread := by
  rw [run.awaits_iff]
  have transition := (Scheduler.follows_of_step taken).transition
  rw [replays] at transition
  generalize s.stack thread = stack at transition ⊢
  generalize turn.scheduler.barrier = barrier, turn.scheduler.stack thread = stack' at transition
  cases transition <;> exact Nat.succ_pos _

/-- **A task is parked behind a waiting await only after a reset by another await.**  When an await
call has found the hold queue empty and has not come to its own reset, the barrier drains and the
hold queue is empty, with two exceptions: another call has reset the barrier since; or there had
been a reset during the call already, and no await had begun between that reset and the moment at
which the queue was found empty. -/
theorem undisturbed_of_drained {since earlier : History ν} {drained : Stride ν} {s : Scheduler ν}
    (run : Run (since ++ drained :: earlier) s) (done : drained.deed = .replay .done)
    (unended : ∀ stride ∈ since, stride.thread = drained.thread → stride.deed.isReset = false) :
    (s.barrier.draining = true ∧ s.barrier.held = []) ∨
      (∃ reset ∈ since, reset.deed.isReset = true ∧ reset.thread ≠ drained.thread) ∨
      ∃ later reset before, earlier = later ++ reset :: before ∧ reset.deed.isReset = true ∧
        History.Awaits (reset :: before) drained.thread ∧
        ∀ stride ∈ later, stride.deed.isAwait = false := by
  by_cases disturbed : ∃ reset ∈ since, reset.deed.isReset = true
  · obtain ⟨reset, member, resets⟩ := disturbed
    refine .inr (.inl ⟨reset, member, resets, fun own => ?_⟩)
    rw [unended reset member own] at resets
    cases resets
  · obtain ⟨before, taken⟩ := run.stride
    rcases before.draining_or_reset (before.awaits_of_replay taken done) with draining | reset
    · obtain ⟨middle, front, path⟩ := run.split
      obtain ⟨-, -, rfl⟩ := front.of_cons
      have transition := (Scheduler.follows_of_step taken).transition
      rw [show drained.before.deed drained.thread drained.now drained.move = .replay .done
        from done] at transition
      have emptied : drained.turn.scheduler.barrier = drained.before.barrier ∧
          drained.before.barrier.held = [] := by
        generalize drained.before.stack drained.thread = stack at transition
        generalize drained.turn.scheduler.barrier = barrier,
          drained.turn.scheduler.stack drained.thread = stack' at transition ⊢
        cases transition with
        | wait empty | overflow empty => exact ⟨rfl, empty⟩
      rw [← emptied.1] at draining
      obtain ⟨-, drains, empty⟩ := path.held_of_draining front.sound draining
        (by rw [emptied.1, emptied.2]) fun stride member => by
          by_contra resets
          exact disturbed ⟨stride, member, by simpa using resets⟩
      exact .inl ⟨drains, empty⟩
    · exact .inr (.inr reset)

/-- Nobody else resets the barrier while the await of `replayedMoves` waits, even if another thread
hands in a second task and the await goes on waiting for that. -/
theorem undisturbed_of_replayed : ∃ (since earlier : History Unit) (drained : Stride Unit)
    (s : Scheduler Unit), Run (since ++ drained :: earlier) s ∧ drained.deed = .replay .done ∧
    since.length = 2 ∧ s.barrier.outstanding = 1 ∧
    s.barrier.draining = true ∧ s.barrier.held = [] := by
  obtain ⟨since, earlier, drained, s, played, done, two, unended, undisturbed, waiting⟩ :
      ∃ since earlier drained s,
        (Scheduler.start 0 .default (.byHand .empty) none).play (replayedMoves.take 10 ++
          [(1, ⟨0⟩, .request (.accept ⟨0⟩ .once false)), (0, ⟨0⟩, .proceed)]) =
            some (since ++ drained :: earlier, s) ∧ drained.deed = .replay .done ∧
        since.length = 2 ∧
        (∀ stride ∈ since, stride.deed.isReset = false) ∧
        (∀ stride ∈ earlier, stride.deed.isReset = false) ∧ s.barrier.outstanding = 1 :=
    ⟨[_, _], _, _, _, rfl, rfl, rfl, by decide, by decide, rfl⟩
  have run : Run (since ++ drained :: earlier) s := Run.of_play played
  rcases undisturbed_of_drained run done (fun stride member _ => unended stride member) with
    ⟨drains, empty⟩ | ⟨reset, member, resets, -⟩ | ⟨later, reset, before, rfl, resets, -⟩
  · exact ⟨since, earlier, drained, s, run, done, two, waiting, drains, empty⟩
  · rw [unended reset member] at resets
    cases resets
  · rw [undisturbed reset (by simp)] at resets
    cases resets

/-- The moves of an await that is reset inside another one.  Two tasks are held; the first await
replays them, and the body of the one awaits again and is left by the panic of the other.  That
body then hands in a third task and returns, and the first await begins to wait for it.  When the
third task fires, it is held. -/
def overlappedMoves : List (ThreadId × Instant × Move Unit) :=
  [(0, ⟨0⟩, .request (.accept ⟨0⟩ .once false)), (0, ⟨0⟩, .request (.accept ⟨0⟩ .once false)),
    (0, ⟨0⟩, .request (.fire ⟨0⟩)), (0, ⟨0⟩, .proceed), (0, ⟨0⟩, .proceed),
    (0, ⟨0⟩, .request (.fire ⟨1⟩)), (0, ⟨0⟩, .proceed), (0, ⟨0⟩, .proceed),
    (0, ⟨0⟩, .request (.await .plain)), (0, ⟨0⟩, .proceed), (0, ⟨0⟩, .proceed),
    (0, ⟨0⟩, .request (.await .plain)), (0, ⟨0⟩, .proceed), (0, ⟨0⟩, .proceed),
    (0, ⟨0⟩, .endBody (.panicked (.message "boom"))), (0, ⟨0⟩, .proceed),
    (0, ⟨0⟩, .proceed), (0, ⟨0⟩, .proceed), (0, ⟨0⟩, .proceed), (0, ⟨0⟩, .proceed),
    (0, ⟨0⟩, .request (.accept ⟨0⟩ .once false)), (0, ⟨0⟩, .endBody (.returned none)),
    (0, ⟨0⟩, .proceed), (0, ⟨0⟩, .proceed),
    (1, ⟨0⟩, .request (.fire ⟨2⟩)), (1, ⟨0⟩, .proceed)]

/-- A task can be parked behind an await that waits for it: the third task of `overlappedMoves` is
held while the first await goes on. -/
theorem exists_parked_of_overlapped : ¬ ∀ (since earlier : History Unit) (drained : Stride Unit)
    (s : Scheduler Unit), Run (since ++ drained :: earlier) s → drained.deed = .replay .done →
    (∀ stride ∈ since, stride.thread = drained.thread → stride.deed.isReset = false) →
      s.barrier.draining = true ∧ s.barrier.held = [] := by
  intro parks
  obtain ⟨since, drained, earlier, s, played, done, unended, idle, held⟩ :
      ∃ since drained earlier s,
        (Scheduler.start 0 .default (.byHand .empty) none).play overlappedMoves =
          some (since ++ drained :: earlier, s) ∧ drained.deed = .replay .done ∧
        (∀ stride ∈ since, stride.thread = drained.thread → stride.deed.isReset = false) ∧
        s.barrier.draining = false ∧ s.barrier.held = [⟨2⟩] :=
    ⟨[_, _], _, _, _, rfl, rfl, by decide, rfl, rfl⟩
  obtain ⟨drains, -⟩ := parks since earlier drained s (Run.of_play played) done unended
  rw [idle] at drains
  cases drains

end TaskBarrier
