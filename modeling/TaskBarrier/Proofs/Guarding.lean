import TaskBarrier.Proofs.Preservation

/-!
# Awaits on a thread that is unwinding

The guard of an await resets the barrier once more when the await has come to a regular end, if a
panic is on its way through the thread.  Such a reset can drop tasks that were accepted after the
await had seen that nothing was outstanding.  It needs a cause outside of the scheduler: code that
cleans up on a thread that is unwinding, and calls an await.

Every frame of an await, and every guard, goes back to the call that has put it on the stack, which
says in which manner it was made.

## Main Definitions

* `History.Called`: a thread has called an await in some manner.
* `History.CalledUnwinding`: a thread has called an await while a panic was on its way through it.
* `History.Fails`: why a reset counts as that of a failure.
* `Frame.Accounted`: the call that has put the frame on the stack.

The main statements are `Run.accounted` and `Run.fails`: without such a call no guard resets the
barrier.
-/

namespace TaskBarrier

variable {ν : Type}

namespace History

/-- The thread has called an await at `start`, in the given manner. -/
def Called (history : History ν) (thread : ThreadId) (start : Instant) (manner : Manner) : Prop :=
  ∃ call ∈ history, call.thread = thread ∧ call.now = start ∧ call.move = .request (.await manner)

/-- The thread has called an await while a panic was on its way through it. -/
def CalledUnwinding (history : History ν) (thread : ThreadId) : Prop :=
  ∃ start manner, history.Called thread start manner ∧ manner.unwinding = true

/-- What has been called has been called. -/
theorem Called.mono {history : History ν} {thread : ThreadId} {start : Instant} {manner : Manner}
    (called : history.Called thread start manner) {history' : History ν}
    (sub : history ⊆ history') : history'.Called thread start manner := by
  obtain ⟨call, member, made⟩ := called
  exact ⟨call, sub member, made⟩

theorem CalledUnwinding.mono {history : History ν} {thread : ThreadId}
    (called : history.CalledUnwinding thread) {history' : History ν} (sub : history ⊆ history') :
    history'.CalledUnwinding thread := by
  obtain ⟨start, manner, called, unwinding⟩ := called
  exact ⟨start, manner, called.mono sub, unwinding⟩

/-- **Why a reset counts as that of a failure**: the budget of an await was used up, or its guard
has found a panic on its way through the thread.  The guard cannot tell whether that panic has left
the await, or was there before it. -/
inductive Fails (history : History ν) (reset : Stride ν) : Prop
  /-- The budget of the await was used up. -/
  | timedOut {dropped : List TaskId} (deed : reset.deed = .reset .timedOut dropped)
  /-- A panic has left the await. -/
  | unwound {dropped : List TaskId} (deed : reset.deed = .reset .unwound dropped)
  /-- A panic was on its way through the thread already when it called the await. -/
  | guarded {dropped : List TaskId} (deed : reset.deed = .reset .guarded dropped)
      (called : history.CalledUnwinding reset.thread)

end History

/-! ## Where frames come from -/

/-- The frame of an await has been put on the stack by a call in its manner, and that of a guard by
a call that was made while the thread was unwinding. -/
def Frame.Accounted (history : History ν) (thread : ThreadId) : Frame ν → Prop
  | awaiting start manner _ => history.Called thread start manner
  | guarding => history.CalledUnwinding thread
  | _ => True

namespace Frame

variable {history : History ν} {thread : ThreadId} {frame : Frame ν}

/-- What a frame goes back to has happened. -/
theorem Accounted.mono (accounted : frame.Accounted history thread) {history' : History ν}
    (sub : history ⊆ history') : frame.Accounted history' thread := by
  cases frame with
  | awaiting => exact History.Called.mono accounted sub
  | guarding => exact History.CalledUnwinding.mono accounted sub
  | _ => trivial

/-- A call that is no await needs no account. -/
theorem accounted_of_isOpening (opens : frame.isOpening = true) :
    frame.Accounted history thread := by
  cases frame with
  | awaiting | guarding => cases opens
  | _ => trivial

theorem accounted_of_isReturning (returns : frame.isReturning = true) :
    frame.Accounted history thread := by
  cases frame with
  | awaiting | guarding => cases returns
  | _ => trivial

theorem accounted_of_isFailing (fails : frame.isFailing = true) :
    frame.Accounted history thread := by
  cases frame with
  | awaiting | guarding => cases fails
  | _ => trivial

end Frame

namespace Manner

variable {history : History ν} {thread : ThreadId} {start : Instant} {manner : Manner}
  {frame : Frame ν}

/-- An await that succeeds leaves a guard behind where its thread is unwinding. -/
theorem accounted_succeeding (called : history.Called thread start manner)
    (member : frame ∈ manner.succeeding) : frame.Accounted history thread := by
  unfold succeeding at member
  split at member
  · next unwinding =>
    obtain rfl | rfl | rfl := by simpa using member
    · trivial
    · exact ⟨start, manner, called, unwinding⟩
    · trivial
  · obtain rfl := List.mem_singleton.mp member
    trivial

/-- So does one that fails. -/
theorem accounted_failing (called : history.Called thread start manner) {failure : Failure}
    (member : frame ∈ manner.failing failure) : frame.Accounted history thread := by
  have last : Frame.Accounted history thread
      (if manner.strict then .raising (.ofFailure failure) else .answering (.failed failure)) := by
    split <;> trivial
  unfold failing at member
  dsimp only at member
  split at member
  · next unwinding =>
    rcases List.mem_cons.mp member with rfl | member
    · exact ⟨start, manner, called, unwinding⟩
    · obtain rfl := List.mem_singleton.mp member
      exact last
  · obtain rfl := List.mem_singleton.mp member
    exact last

end Manner

/-- **A step puts nothing on a stack that goes back to nothing**, if the await that it begins,
should it begin one, has been called. -/
theorem Transition.accounted {b b' : Barrier ν} {stack stack' : Stack ν} {deed : Deed}
    {history : History ν} {thread : ThreadId} (transition : Transition b stack deed b' stack')
    (begins : deed = .await → ∀ start manner stage,
      stack' = .awaiting start manner stage :: stack → history.Called thread start manner)
    (accounted : ∀ frame ∈ stack, frame.Accounted history thread) :
    ∀ frame ∈ stack', frame.Accounted history thread := by
  cases transition with
  | aside | accept | read => exact accounted
  | refuse _ _ fails =>
      exact List.forall_mem_cons.mpr ⟨trivial, List.forall_mem_cons.mpr
        ⟨Frame.accounted_of_isFailing fails, accounted⟩⟩
  | ask _ opens _ returns =>
      exact List.forall_mem_append.mpr
        ⟨fun frame member => Frame.accounted_of_isOpening (opens frame member),
          List.forall_mem_cons.mpr ⟨Frame.accounted_of_isReturning returns, accounted⟩⟩
  | withdraw =>
      exact List.forall_mem_cons.mpr ⟨trivial, List.forall_mem_cons.mpr ⟨trivial, accounted⟩⟩
  | cancel => exact List.forall_mem_cons.mpr ⟨trivial, accounted⟩
  | await => exact List.forall_mem_cons.mpr ⟨begins rfl _ _ _ rfl, accounted⟩
  | work => exact List.forall_mem_singleton.mpr trivial
  | returned | run | enter | skip | announce | discard =>
      exact List.forall_mem_cons.mpr ⟨trivial, (List.forall_mem_cons.mp accounted).2⟩
  | panicked =>
      exact List.forall_mem_cons.mpr ⟨trivial, List.forall_mem_cons.mpr
        ⟨trivial, (List.forall_mem_cons.mp accounted).2⟩⟩
  | pass | close => exact (List.forall_mem_cons.mp accounted).2
  | finish after =>
      have below := (List.forall_mem_cons.mp accounted).2
      rcases after with rfl | rfl
      · exact below
      · exact List.forall_mem_cons.mpr ⟨trivial, below⟩
  | replay | overflow => exact List.forall_mem_cons.mpr ⟨trivial, accounted⟩
  | passOver => exact accounted
  | wait | look =>
      obtain ⟨called, below⟩ := List.forall_mem_cons.mp accounted
      exact List.forall_mem_cons.mpr ⟨called, below⟩
  | settle =>
      obtain ⟨called, below⟩ := List.forall_mem_cons.mp accounted
      exact List.forall_mem_cons.mpr ⟨trivial, List.forall_mem_append.mpr
        ⟨fun _ member => Manner.accounted_succeeding called member, below⟩⟩
  | expire =>
      obtain ⟨called, below⟩ := List.forall_mem_cons.mp accounted
      exact List.forall_mem_cons.mpr ⟨trivial, List.forall_mem_append.mpr
        ⟨fun _ member => Manner.accounted_failing called member, below⟩⟩
  | guard => exact List.forall_mem_cons.mpr ⟨trivial, (List.forall_mem_cons.mp accounted).2⟩
  | unwind =>
      obtain ⟨-, below⟩ := List.forall_mem_cons.mp (List.forall_mem_cons.mp accounted).2
      exact List.forall_mem_cons.mpr ⟨trivial, List.forall_mem_cons.mpr ⟨trivial, below⟩⟩
  | escape => exact (List.forall_mem_cons.mp (List.forall_mem_cons.mp accounted).2).2

namespace Scheduler

variable {s : Scheduler ν} {thread : ThreadId} {now : Instant} {move : Move ν} {turn : Turn ν}

/-- An await begins with a request for it. -/
theorem eq_of_deed_await (deed : s.deed thread now move = .await) :
    ∃ manner, move = .request (.await manner) := by
  cases move with
  | request request =>
      cases request with
      | await manner => exact ⟨manner, rfl⟩
      | accept | cancel | cancelByHandle =>
          simp only [Scheduler.deed, requestDeed] at deed
          split at deed <;> cases deed
      | _ => cases deed
  | endBody =>
      simp only [Scheduler.deed] at deed
      split at deed <;> cases deed
  | proceed =>
      simp only [Scheduler.deed] at deed
      unfold frameDeed at deed
      split at deed
      all_goals first | cases deed | (split at deed <;> cases deed)
  | work => cases deed

/-- A request for an await puts it on the stack. -/
theorem stack_of_await {manner : Manner}
    (taken : s.step thread now (.request (.await manner)) = some turn) :
    turn.scheduler.stack thread = .awaiting now manner .replaying :: s.stack thread := by
  have taken := attempt_of_step taken
  simp only [attempt, Scheduler.request] at taken
  split at taken
  · cases taken
  · obtain ⟨-, rfl⟩ := by simpa [whileOwned] using taken
    rw [requestAwait, stack_turn_self]

end Scheduler

/-- **Every await and every guard on a stack goes back to a call.** -/
theorem Run.accounted {history : History ν} {s : Scheduler ν} (run : Run history s) :
    ∀ thread, ∀ frame ∈ s.stack thread, frame.Accounted history thread := by
  refine run.induct (motive := fun history s => ∀ thread, ∀ frame ∈ s.stack thread,
    frame.Accounted history thread) ?_ ?_
  · intro number config facility worker thread
    exact List.forall_mem_nil _
  · intro history s stepping now move turn _ taken accounted thread
    have follows := Scheduler.follows_of_step taken
    have kept : ∀ frame ∈ s.stack thread,
        frame.Accounted (⟨s, stepping, now, move, turn⟩ :: history) thread :=
      fun frame member => (accounted thread frame member).mono (List.subset_cons_self _ _)
    by_cases own : thread = stepping
    · subst own
      refine follows.transition.accounted (fun deed start manner stage eq => ?_) kept
      obtain ⟨manner', rfl⟩ := Scheduler.eq_of_deed_await deed
      have begun := (Scheduler.stack_of_await taken).symm.trans eq
      obtain ⟨rfl, rfl, -⟩ := Frame.awaiting.inj (List.cons.inj begun).1
      exact ⟨_, .head _, rfl, rfl, rfl⟩
    · rw [follows.others thread own]
      exact kept

/-- The reset of a guard is made by the frame of the guard. -/
theorem Transition.of_guarded {b b' : Barrier ν} {stack stack' : Stack ν} {dropped : List TaskId}
    (transition : Transition b stack (.reset .guarded dropped) b' stack') :
    ∃ rest, stack = .guarding :: rest := by
  cases transition with
  | guard => exact ⟨_, rfl⟩

/-- Without an await that was called on an unwinding thread, no guard resets the barrier. -/
theorem Run.calledUnwinding_of_guarded {history : History ν} {s : Scheduler ν}
    (run : Run history s) {reset : Stride ν} (member : reset ∈ history) {dropped : List TaskId}
    (guarded : reset.deed = .reset .guarded dropped) : history.CalledUnwinding reset.thread := by
  obtain ⟨later, earlier, rfl⟩ := List.append_of_mem member
  obtain ⟨run, taken⟩ := run.stride
  have transition := (Scheduler.follows_of_step taken).transition
  have done : reset.before.deed reset.thread reset.now reset.move = .reset .guarded dropped :=
    guarded
  rw [done] at transition
  obtain ⟨rest, top⟩ := transition.of_guarded
  have called : History.CalledUnwinding earlier reset.thread :=
    run.accounted reset.thread .guarding (by rw [top]; exact .head _)
  exact called.mono fun call member => List.mem_append_right _ (.tail _ member)

/-- **Where a reset counts as that of a failure, something has failed**: an await, or what the
thread was doing when it called one. -/
theorem Run.fails {history : History ν} {s : Scheduler ν} (run : Run history s) {reset : Stride ν}
    (member : reset ∈ history) (failed : reset.deed.isFailedReset = true) :
    history.Fails reset := by
  cases deed : reset.deed with
  | reset ending dropped =>
      cases ending with
      | settled =>
          rw [deed] at failed
          cases failed
      | timedOut => exact .timedOut deed
      | unwound => exact .unwound deed
      | guarded => exact .guarded deed (run.calledUnwinding_of_guarded member deed)
  | _ =>
      rw [deed] at failed
      cases failed

/-- An await is called on a thread that is unwinding, and sees that nothing is outstanding.  Before
it is back, another thread submits a task.  The guard of the await drops the task, and the call
succeeds. -/
example : ∃ (history : History Unit) (s : Scheduler Unit),
    (Scheduler.start 0 .default (.byHand .empty) none).play
      ([(0, ⟨0⟩, .request (.await ⟨false, true⟩)), (0, ⟨0⟩, .proceed), (0, ⟨0⟩, .proceed),
        (1, ⟨0⟩, .request (.accept ⟨0⟩ .once false))] ++ List.replicate 8 (0, ⟨0⟩, .proceed)) =
      some (history, s) ∧
    history.drops ⟨0⟩ = 1 ∧ s.barrier.phase? ⟨0⟩ = some .cancelled ∧
    history.head?.map (·.turn.signal) = some (.answer .settled) :=
  ⟨_, _, rfl, rfl, rfl, rfl⟩

end TaskBarrier
