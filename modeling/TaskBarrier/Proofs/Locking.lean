import TaskBarrier.Proofs.Preservation

/-!
# Who holds the lock

Between two steps the lock is free, unless a thread is throwing away the body of a task that has
been refused.  It took the lock to accept the task, and gives it back when the destructor of the
body has come to its end.  Nobody enters a critical section meanwhile, so no second thread gets
there.

## Main Definitions

* `Stack.isRefusing`: the body of a refused task is being thrown away.
* `Scheduler.LockAgrees`: the lock is held where that is so, and nowhere else.
* `Scheduler.GivesBack`: steps with which the lock is given back.

The main statements are `lock_of_step`, which says what a step can do to the lock, `Run.lock_iff`
and `Run.exists_givesBack`.
-/

namespace TaskBarrier

variable {ν : Type}

/-- Whether the body of a refused task is being thrown away. -/
def Stack.isRefusing : Stack ν → Bool
  | .refusing :: _ => true
  | _ => false

namespace Stack

theorem isRefusing_iff {stack : Stack ν} :
    stack.isRefusing = true ↔ ∃ rest, stack = .refusing :: rest := by
  constructor
  · intro refusing
    unfold isRefusing at refusing
    split at refusing
    · exact ⟨_, rfl⟩
    · cases refusing
  · rintro ⟨rest, rfl⟩
    rfl

/-- User code is not in the middle of a call. -/
theorem isRefusing_of_isUser {stack : Stack ν} (isUser : stack.isUser = true) :
    stack.isRefusing = false := by
  unfold Stack.isUser at isUser
  split at isUser
  · rfl
  · rfl
  · cases isUser

/-- Nothing stands on a refusal. -/
theorem isRefusing_of_isShaped {frame : Frame ν} {rest : Stack ν}
    (shaped : Stack.isShaped (frame :: rest) = true) : rest.isRefusing = false := by
  have sits := sits_of_cons shaped
  by_contra refusing
  obtain ⟨below, rfl⟩ := isRefusing_iff.mp (by simpa using refusing)
  cases frame with
  | run task stage => cases stage <;> cases sits
  | _ => cases sits

/-- A refusal is on top of its stack. -/
theorem isRefusing_of_mem {stack : Stack ν} (shaped : stack.isShaped = true)
    (member : Frame.refusing ∈ stack) : stack.isRefusing = true := by
  induction stack with
  | nil => cases member
  | cons frame rest ih =>
      rcases List.mem_cons.mp member with rfl | below
      · rfl
      · have refusing := ih (isShaped_of_cons shaped) below
        rw [isRefusing_of_isShaped shaped] at refusing
        cases refusing

end Stack

/-- No step in the middle of a call refuses a task. -/
theorem Transition.isRefusing {b b' : Barrier ν} {stack stack' : Stack ν} {deed : Deed}
    (transition : Transition b stack deed b' stack') (shaped : stack.isShaped = true)
    (busy : stack.isUser = false) (before : stack.isRefusing = false) :
    stack'.isRefusing = false := by
  cases transition with
  | aside | read => exact before
  | accept isUser | refuse isUser | ask isUser | withdraw isUser | cancel isUser | await isUser =>
      rw [isUser] at busy
      cases busy
  | pass => exact Stack.isRefusing_of_isShaped shaped
  | finish after =>
      rcases after with rfl | rfl
      · exact Stack.isRefusing_of_isShaped shaped
      · rfl
  | escape => exact Stack.isRefusing_of_isShaped (Stack.isShaped_of_cons shaped)
  | close => exact Stack.isRefusing_of_isShaped shaped
  | _ => rfl

namespace Scheduler

variable {s : Scheduler ν} {thread : ThreadId} {now : Instant} {move : Move ν} {turn : Turn ν}

/-! ## What a step does to the lock -/

/-- A task is refused under the lock, and the turn begins to throw its body away. -/
def Declines (s : Scheduler ν) (thread : ThreadId) (now : Instant) (move : Move ν)
    (turn : Turn ν) : Prop :=
  ∃ delay cadence produces, ∃ last : Frame ν, move = .request (.accept delay cadence produces) ∧
    cadence.isDegenerate = false ∧ last.isFailing = true ∧
    turn = s.declining thread (s.barrier.accept now delay cadence produces).barrier last

/-- The body of a refused task has been thrown away, and the turn gives the lock back. -/
def Releases (s : Scheduler ν) (thread : ThreadId) (move : Move ν) (turn : Turn ν) : Prop :=
  ∃ rest, move = .proceed ∧ s.stack thread = .refusing :: rest ∧
    turn = s.proceedRefusing thread rest

theorem isRefusing_requestCancel (s : Scheduler ν) (thread : ThreadId) (task : TaskId) :
    Stack.isRefusing ((s.requestCancel thread task).scheduler.stack thread) = false := by
  rw [requestCancel, stack_turn_self]
  cases (s.barrier.cancel task).answer <;> rfl

theorem isRefusing_requestShutdown (s : Scheduler ν) (thread : ThreadId) :
    Stack.isRefusing ((s.requestShutdown thread).scheduler.stack thread) = false := by
  unfold requestShutdown
  rw [stack_turn_self]
  cases s.barrier.facility.shutdown.1 with
  | none => rfl
  | some shutdown => cases shutdown <;> rfl

/-- A call of a task has nothing to throw away before it comes to its outcome. -/
theorem isRefusing_calling (s : Scheduler ν) (task : TaskId) {rest : Stack ν}
    (below : rest.isRefusing = false) : Stack.isRefusing (s.calling task ++ rest) = false := by
  rcases s.calling_cases task with none | one
  · rw [none]
    exact below
  · rw [one]
    rfl

/-- An accept leaves the lock alone and has nothing to throw away, unless it refuses a task under
the lock. -/
theorem lock_of_requestAccept (user : (s.stack thread).isRefusing = false) (now : Instant)
    (delay : Duration) (cadence : Cadence) (produces : Bool) :
    let turn := s.requestAccept thread now delay cadence produces
    (turn.scheduler.lock = s.lock ∧ (turn.scheduler.stack thread).isRefusing = false) ∨
      s.Declines thread now (.request (.accept delay cadence produces)) turn := by
  intro turn
  subst turn
  cases answer : (s.barrier.accept now delay cadence produces).answer with
  | accepted id =>
      rw [s.requestAccept_of_accepted thread answer]
      exact .inl ⟨rfl, by rwa [stack_turn_self]⟩
  | unwound panic =>
      refine .inr ⟨delay, cadence, produces, _, rfl, ?_, rfl,
        s.requestAccept_of_unwound thread answer⟩
      by_contra degenerate
      rw [s.barrier.accept_of_isDegenerate now delay (by simpa using degenerate)] at answer
      cases answer
  | refused failure =>
      cases proper : cadence.isDegenerate with
      | true =>
          rw [s.requestAccept_of_isDegenerate thread proper]
          exact .inl ⟨rfl, by rwa [stack_turn_self]⟩
      | false =>
          exact .inr ⟨delay, cadence, produces, _, rfl, proper, rfl,
            s.requestAccept_of_refused thread proper answer⟩

/-- A request leaves the lock alone and has nothing to throw away, unless it refuses a task. -/
theorem lock_of_request {request : Request} (taken : s.request thread now request = some turn) :
    (turn.scheduler.lock = s.lock ∧ (turn.scheduler.stack thread).isRefusing = false) ∨
      s.Declines thread now (.request request) turn := by
  unfold Scheduler.request at taken
  split at taken
  · cases taken
  · next userCode =>
    have user : (s.stack thread).isRefusing = false :=
      Stack.isRefusing_of_isUser (isUser_of_isUserCode (by simpa using userCode))
    cases request with
    | accept delay cadence produces =>
        obtain ⟨-, rfl⟩ := by simpa [whileOwned] using taken
        exact lock_of_requestAccept user now delay cadence produces
    | fire key =>
        obtain rfl := Option.some.inj taken
        refine .inl ?_
        unfold requestFire
        split
        · exact ⟨rfl, user⟩
        · split
          · exact ⟨rfl, user⟩
          · exact ⟨rfl, by rw [stack_turn_self]; exact s.isRefusing_calling _ rfl⟩
    | call task =>
        obtain rfl := Option.some.inj taken
        exact .inl ⟨rfl, by rw [requestCall, stack_turn_self]; exact s.isRefusing_calling _ rfl⟩
    | cancel handle =>
        obtain ⟨-, rfl⟩ := by simpa [whileOwned] using taken
        split
        · exact .inl ⟨rfl, s.isRefusing_requestCancel thread handle.task⟩
        · exact .inl ⟨rfl, user⟩
    | cancelByHandle task =>
        obtain rfl := Option.some.inj taken
        split
        · exact .inl ⟨rfl, s.isRefusing_requestCancel thread task⟩
        · exact .inl ⟨rfl, user⟩
    | read task =>
        obtain rfl := Option.some.inj taken
        exact .inl ⟨rfl, by rwa [requestRead, stack_turn_self]⟩
    | await manner =>
        obtain ⟨-, rfl⟩ := by simpa [whileOwned] using taken
        exact .inl ⟨rfl, by rw [requestAwait, stack_turn_self]; rfl⟩
    | shutdown =>
        obtain ⟨-, rfl⟩ := by simpa [whileOwned] using taken
        exact .inl ⟨rfl, s.isRefusing_requestShutdown thread⟩
    | drop =>
        obtain ⟨-, rfl⟩ := by simpa [whileOwned] using taken
        exact .inl ⟨rfl, isRefusing_requestShutdown { s with dropped := true } thread⟩

theorem lock_of_proceed (taken : s.proceed thread now = some turn) :
    turn.scheduler.lock = s.lock ∨ s.Releases thread .proceed turn := by
  unfold proceed at taken
  split at taken
  · cases taken
  · next frame rest top =>
    split at taken
    case h_2 task replayed =>
      unfold proceedStarting at taken
      cases entered : s.barrier.enterBody? task with
      | none => simp [entered] at taken
      | some entry =>
          obtain ⟨executes, barrier⟩ := entry
          cases executes <;>
            obtain rfl := by simpa [entered] using taken
          all_goals exact .inl rfl
    case h_3 => cases taken
    case h_8 tasks =>
      cases tasks with
      | nil =>
          obtain rfl := Option.some.inj taken
          exact .inl rfl
      | cons task others =>
          obtain ⟨barrier, -, rfl⟩ := Option.map_eq_some_iff.mp taken
          exact .inl rfl
    case h_11 =>
      obtain rfl := Option.some.inj taken
      exact .inr ⟨rest, rfl, top, rfl⟩
    case h_12 =>
      unfold proceedJoining at taken
      split at taken
      · obtain rfl := Option.some.inj taken
        exact .inl rfl
      · split at taken
        all_goals
          cases taken
          try exact .inl rfl
    case h_14 =>
      obtain rfl := Option.some.inj taken
      refine .inl ?_
      unfold proceedRaising
      split
      · rfl
      · rfl
      · split <;> rfl
      · rfl
    all_goals
      obtain rfl := Option.some.inj taken
      exact .inl rfl

theorem lock_of_endBody {how : BodyEnd ν} (taken : s.endBody thread how = some turn) :
    turn.scheduler.lock = s.lock ∧ (turn.scheduler.stack thread).isRefusing = false := by
  unfold endBody at taken
  split at taken
  · obtain rfl := Option.some.inj taken
    exact ⟨rfl, by rw [stack_turn_self]; rfl⟩
  · cases taken

theorem lock_of_work (taken : s.work thread now = some turn) :
    turn.scheduler.lock = s.lock ∧ (turn.scheduler.stack thread).isRefusing = false := by
  unfold work at taken
  split at taken
  · next timer _ idle =>
    have idle : ∀ timer, ((s.withTimer timer).stack thread).isRefusing = false := by
      intro timer
      rw [show (s.withTimer timer).stack thread = [] from idle]
      rfl
    split at taken
    · cases taken
    · split at taken
      · cases taken
      · cases taken
      · obtain rfl := Option.some.inj taken
        exact ⟨rfl, idle _⟩
      · split at taken
        · obtain rfl := Option.some.inj taken
          exact ⟨rfl, idle _⟩
        · obtain rfl := Option.some.inj taken
          exact ⟨rfl, idle _⟩
        · next task timer _ =>
          obtain rfl := Option.some.inj taken
          refine ⟨rfl, ?_⟩
          rw [stack_turn_self, ← List.append_nil (Scheduler.calling _ task)]
          exact isRefusing_calling _ task rfl
  · cases taken

/-- **What a step does to the lock**: it leaves it alone, or refuses a task and keeps it, or gives
it back. -/
theorem lock_of_step (taken : s.step thread now move = some turn) :
    turn.scheduler.lock = s.lock ∨ s.Declines thread now move turn ∨
      s.Releases thread move turn := by
  have taken := attempt_of_step taken
  cases move with
  | request request => exact (lock_of_request taken).imp And.left .inl
  | proceed => exact (lock_of_proceed taken).imp_right .inr
  | endBody how => exact .inl (lock_of_endBody taken).1
  | work => exact .inl (lock_of_work taken).1

/-- A task is refused by a thread that has found the lock free. -/
theorem Declines.lock_eq_none (declines : s.Declines thread now move turn)
    (taken : s.step thread now move = some turn) : s.lock = none := by
  obtain ⟨_, cadence, _, _, rfl, proper, -⟩ := declines
  exact lock_of_entered taken (by simp [takesLock, proper])

/-- As long as nothing is refused under the lock, a free lock stays free. -/
theorem lock_of_free (free : s.lock = none) (taken : s.step thread now move = some turn)
    (asks : ∀ delay cadence produces, move ≠ .request (.accept delay cadence produces)) :
    turn.scheduler.lock = none := by
  rcases lock_of_step taken with same | ⟨delay, cadence, produces, _, accepts, -⟩ |
    ⟨_, -, -, rfl⟩
  · rw [same, free]
  · exact absurd accepts (asks delay cadence produces)
  · rfl

/-- A critical section in which nothing is refused leaves the lock free. -/
theorem lock_of_takesLock (taken : s.step thread now move = some turn)
    (takes : s.takesLock thread move = true)
    (asks : ∀ delay cadence produces, move ≠ .request (.accept delay cadence produces)) :
    turn.scheduler.lock = none :=
  lock_of_free (lock_of_entered taken takes) taken asks

/-- A reset is a critical section. -/
theorem takesLock_of_isReset (resets : (s.deed thread now move).isReset = true) :
    s.takesLock thread move = true := by
  cases move with
  | request request =>
      exfalso
      cases request with
      | accept | cancel | cancelByHandle =>
          simp only [deed, requestDeed] at resets
          split at resets <;> cases resets
      | _ => cases resets
  | endBody | work =>
      exfalso
      simp only [deed] at resets
      first
      | cases resets
      | split at resets <;> cases resets
  | proceed =>
      show Stack.takesLock (s.stack thread) = true
      have resets : (s.frameDeed now (s.stack thread)).isReset = true := resets
      generalize s.stack thread = stack at resets ⊢
      unfold frameDeed at resets
      split at resets
      all_goals first | rfl | cases resets | (split at resets <;> cases resets)

/-- A reset leaves the lock free. -/
theorem lock_of_isReset (taken : s.step thread now move = some turn)
    (resets : (s.deed thread now move).isReset = true) : turn.scheduler.lock = none := by
  refine lock_of_takesLock taken (takesLock_of_isReset resets) fun delay cadence produces asks => ?_
  rw [asks] at resets
  simp only [deed, requestDeed] at resets
  split at resets <;> cases resets

/-- A thread that has to throw a body away can do so, whoever holds the lock. -/
theorem Sound.step_discarding (sound : s.Sound) {task : TaskId} {others : List TaskId}
    {rest : Stack ν}
    (top : s.stack thread = .discarding (task :: others) :: rest) (now : Instant) :
    s.step thread now .proceed =
      some (s.turn (s.barrier.modify task (·.discard)) thread (.discarding others :: rest)
        .working []) := by
  have discards : task ∈ Stack.discards (s.stack thread) := by
    rw [top]
    exact List.mem_cons_self
  obtain ⟨_, -, -, discarded⟩ := sound.discard?_eq discards
  rw [step_of_lockless (by simp only [takesLock, top]; rfl)]
  simp only [attempt, proceed, top, proceedDiscarding, discarded, Option.map_some]

/-! ## Who holds it -/

/-- The lock is held by the thread that throws a refused body away, and by no other. -/
def LockAgrees (s : Scheduler ν) : Prop :=
  ∀ thread, s.lock = some thread ↔ (s.stack thread).isRefusing = true

/-- A thread that throws a refused body away does nothing else before it gives the lock back. -/
theorem releases_of_isRefusing (refusing : (s.stack thread).isRefusing = true)
    (taken : s.step thread now move = some turn) : s.Releases thread move turn := by
  obtain ⟨rest, top⟩ := Stack.isRefusing_iff.mp refusing
  obtain rfl := eq_proceed taken (by rw [top]; rfl)
  have taken := attempt_of_step taken
  simp only [attempt, proceed, top] at taken
  obtain rfl := Option.some.inj taken
  exact ⟨rest, rfl, top, rfl⟩

/-- Whoever begins to throw a refused body away has taken the lock. -/
theorem declines_of_isRefusing (shaped : (s.stack thread).isShaped = true)
    (before : (s.stack thread).isRefusing = false)
    (taken : s.step thread now move = some turn)
    (after : (turn.scheduler.stack thread).isRefusing = true) :
    s.Declines thread now move turn := by
  have attempted := attempt_of_step taken
  cases move with
  | request request =>
      rcases lock_of_request attempted with ⟨-, apart⟩ | declines
      · rw [apart] at after
        cases after
      · exact declines
  | endBody how =>
      rw [(lock_of_endBody attempted).2] at after
      cases after
  | work =>
      rw [(lock_of_work attempted).2] at after
      cases after
  | proceed =>
      have busy : (s.stack thread).isUser = false := by
        by_contra isUser
        unfold Stack.isUser at isUser
        split at isUser
        · next idle => simp [attempt, proceed, idle] at attempted
        · next top => simp [attempt, proceed, top] at attempted
        · exact isUser rfl
      rw [(follows_of_step taken).transition.isRefusing shaped busy before] at after
      cases after

/-- The steps of `given`, made by the thread that holds the lock, give it back and do nothing
else. -/
structure GivesBack (s : Scheduler ν) (given : History ν) (s' : Scheduler ν) : Prop where
  path : Path s given s'
  free : s'.lock = none
  barrier : s'.barrier = s.barrier
  holder : ∀ stride ∈ given, stride.before.lock = some stride.thread ∧ stride.deed = .aside
  others : ∀ thread, s.lock ≠ some thread → s'.stack thread = s.stack thread

namespace LockAgrees

/-- **A step keeps the lock with the thread that throws a refused body away.** -/
theorem step (agrees : s.LockAgrees) (sound : s.Sound)
    (taken : s.step thread now move = some turn) : turn.scheduler.LockAgrees := by
  have follows := follows_of_step taken
  intro other
  cases refusing : (s.stack thread).isRefusing with
  | true =>
      -- The thread gives the lock back, and nobody else had it.
      have locked := (agrees thread).mpr refusing
      obtain ⟨rest, -, top, rfl⟩ := releases_of_isRefusing refusing taken
      refine iff_of_false (Option.some_ne_none _).symm ?_
      by_cases same : other = thread
      · subst same
        rw [proceedRefusing, stack_turn_self,
          Stack.isRefusing_of_isShaped (top ▸ sound.shaped other)]
        exact Bool.false_ne_true
      · rw [follows.others other same, ← agrees other, locked]
        exact fun eq => same (Option.some.inj eq).symm
  | false =>
      cases refuses : (turn.scheduler.stack thread).isRefusing with
      | true =>
          -- The thread has found the lock free, so nobody else was throwing anything away.
          have declines := declines_of_isRefusing (sound.shaped thread) refusing taken refuses
          have free := declines.lock_eq_none taken
          obtain ⟨_, _, _, _, -, -, -, rfl⟩ := declines
          by_cases same : other = thread
          · subst same
            exact iff_of_true rfl refuses
          · rw [follows.others other same, ← agrees other, free]
            exact iff_of_false (fun eq => same (Option.some.inj eq).symm)
              (Option.some_ne_none _).symm
      | false =>
          have kept : turn.scheduler.lock = s.lock := by
            rcases lock_of_step taken with kept | ⟨_, _, _, _, -, -, -, rfl⟩ | ⟨rest, -, top, -⟩
            · exact kept
            · rw [declining, stack_turn_self] at refuses
              cases refuses
            · rw [top] at refusing
              cases refusing
          rw [kept, agrees other]
          by_cases same : other = thread
          · subst same
            rw [refusing, refuses]
          · rw [follows.others other same]

theorem start (number : Nat) (config : Config) (facility : Facility TaskId)
    (worker : Option ThreadId) :
    (start number config facility worker : Scheduler ν).LockAgrees := fun _ =>
  iff_of_false (Option.some_ne_none _).symm Bool.false_ne_true

end LockAgrees

end Scheduler

/-- The lock agrees with the stacks in every state of a run. -/
theorem Run.lockAgrees {history : History ν} {s : Scheduler ν} (run : Run history s) :
    s.LockAgrees := by
  refine run.induct (motive := fun _ s => s.LockAgrees) ?_ ?_
  · exact Scheduler.LockAgrees.start
  · intro history s thread now move turn run taken agrees
    exact agrees.step run.sound taken

/-- **The lock is held by the thread that throws a refused body away, and by no other.** -/
theorem Run.lock_iff {history : History ν} {s : Scheduler ν} (run : Run history s)
    (thread : ThreadId) :
    s.lock = some thread ↔ ∃ rest, s.stack thread = .refusing :: rest := by
  rw [run.lockAgrees thread, Stack.isRefusing_iff]

/-- **The lock can be given back**, if anybody holds it.  The thread that holds it needs one step,
once the destructor of the refused body has come to its end. -/
theorem Run.exists_givesBack {history : History ν} {s : Scheduler ν} (run : Run history s) :
    ∃ given s', s.GivesBack given s' := by
  cases locked : s.lock with
  | none =>
      exact ⟨[], s, .start, locked, rfl, List.forall_mem_nil _, fun _ _ => rfl⟩
  | some holder =>
      obtain ⟨rest, top⟩ := (run.lock_iff holder).mp locked
      have taken : s.step holder ⟨0⟩ .proceed = some (s.proceedRefusing holder rest) := by
        rw [Scheduler.step_of_lockless (by simp only [Scheduler.takesLock, top]; rfl)]
        simp only [Scheduler.attempt, Scheduler.proceed, top]
      refine ⟨_, _, Path.start.step taken, rfl, rfl, ?_, fun thread other => ?_⟩
      · refine List.forall_mem_singleton.mpr ⟨locked, ?_⟩
        show s.frameDeed ⟨0⟩ (s.stack holder) = .aside
        rw [top]
        rfl
      · refine Scheduler.stack_turn_of_ne _ _ _ _ _ ?_
        rintro rfl
        exact other locked

end TaskBarrier
