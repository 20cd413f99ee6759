import TaskBarrier.Proofs.Execution
import TaskBarrier.Proofs.Renamed

/-!
# A refused call beside other threads

A call that is refused under the lock takes two more steps.  In the first of them the thread has
thrown the body away and gives the lock back, and in the second the call comes to its end.  Other
threads go on meanwhile, and they cannot tell that the call is being made.  While the lock is held,
they make steps that need no lock, and these are the same with the call and without it.  Once the
lock is free, all that is left of the call is a frame on a stack that is not theirs.

So the scheduler in which the call is in progress stays *beside* one in which it has not been made,
up to the numbers that the call has drawn, and becomes a renamed one when the call is back.  The one
thing that others could see is that a call in progress keeps the state of a dropped scheduler alive.
The owner cannot drop it before the call is back.

## Main Definitions

* `refusal`: what is left to do of a call that is refused.
* `Refusal`: what is left to do of it at some time.
* `Frame.told`: what a step of it tells.
* `Scheduler.Beside`: one scheduler is beside the other.

The main statements are `Beside.step` for the steps of others, `Refuses.step_own` for those of the
call, and `Beside.path` for many steps of all threads.
-/

namespace TaskBarrier

variable {ν : Type}

/-! ## What is left to do of a refused call -/

/-- What is left to do of a call that is refused and comes to its end with the given frame, if it
is not answered at once. -/
def refusal : Option (Frame ν) → Stack ν
  | none => []
  | some last => [.refusing, last]

/-- What is left to do of a call that is refused, at some time. -/
inductive Refusal : Stack ν → Prop
  | throwing {last : Frame ν} (fails : last.isFailing = true) : Refusal [.refusing, last]
  | ending {last : Frame ν} (fails : last.isFailing = true) : Refusal [last]
  | back : Refusal []

/-- What is told when the frame is left. -/
def Frame.told : Frame ν → Signal ν
  | answering answer => .answer answer
  | raising panic => .unwound panic
  | _ => .working

/-- What has been done of the call is not done again. -/
theorem Refusal.tail {frame : Frame ν} {rest : Stack ν} (refusal : Refusal (frame :: rest)) :
    Refusal rest := by
  cases refusal with
  | throwing fails => exact .ending fails
  | ending => exact .back

/-- Once the lock has been given back, nothing of the call keeps the scheduler alive. -/
theorem Refusal.keepsAlive {call : Stack ν} (refusal : Refusal call)
    (released : call.isRefusing = false) : ∀ frame ∈ call, frame.keepsAlive = false := by
  cases refusal with
  | throwing => cases released
  | back => exact List.forall_mem_nil _
  | @ending last fails =>
      refine List.forall_mem_singleton.mpr ?_
      cases last with
      | answering | raising => rfl
      | _ => cases fails

/-- User code comes next in the call, or below it. -/
theorem Refusal.isRefusing_append {call user : Stack ν} (refusal : Refusal call)
    (isUser : user.isUser = true) : (call ++ user).isRefusing = call.isRefusing := by
  cases refusal with
  | throwing => rfl
  | back => exact Stack.isRefusing_of_isUser isUser
  | @ending last fails =>
      cases last with
      | answering | raising => rfl
      | _ => cases fails

theorem Renaming.isRefusing_stack (ρ : Renaming) (stack : Stack ν) :
    (ρ.stack stack).isRefusing = stack.isRefusing := by
  cases stack with
  | nil => rfl
  | cons frame rest => cases frame <;> rfl

/-! ## A thread whose call is refused -/

/-- The turn in which a thread leaves a frame of such a call, and goes on with what is below.  It
leaves everything but the lock alone. -/
def Scheduler.leaving (t : Scheduler ν) (thread : ThreadId) (frame : Frame ν) (below : Stack ν) :
    Turn ν :=
  let lock := match frame with
    | .refusing => none
    | _ => t.lock
  { t with lock := lock }.turn t.barrier thread below frame.told []

/-- **A call of the thread is being refused**: it has `call` left to do before it comes back to
`user`, where user code comes next. -/
structure Scheduler.Refuses (t : Scheduler ν) (thread : ThreadId) (call user : Stack ν) :
    Prop where
  own : t.stack thread = call ++ user
  refusal : Refusal call
  isUser : user.isUser = true
  /-- Outside of its callbacks the worker of the timer executes no user code. -/
  outside : user = [] → t.worker ≠ some thread

namespace Scheduler.Refuses

variable {t : Scheduler ν} {thread : ThreadId} {frame : Frame ν} {call rest user : Stack ν}
  {now : Instant} {move : Move ν} {turn : Turn ν}

/-- Steps of other threads have no part in it. -/
theorem step_of_ne (refuses : t.Refuses thread call user) {other : ThreadId}
    (apart : other ≠ thread) (taken : t.step other now move = some turn) :
    turn.scheduler.Refuses thread call user := by
  have follows := follows_of_step taken
  exact { refuses with
    own := (follows.others thread apart.symm).trans refuses.own
    outside := follows.worker ▸ refuses.outside }

theorem isRefusing (refuses : t.Refuses thread call user) :
    (t.stack thread).isRefusing = call.isRefusing := by
  rw [refuses.own, refuses.refusal.isRefusing_append refuses.isUser]

/-- The thread holds the lock until it has thrown the body away. -/
theorem lock_iff (refuses : t.Refuses thread call user) (agrees : t.LockAgrees) :
    t.lock = some thread ↔ call.isRefusing = true := by
  rw [agrees thread, refuses.isRefusing]

/-- The thread leaves the first frame of the call. -/
theorem leaving (refuses : t.Refuses thread (frame :: rest) user) :
    (t.leaving thread frame (rest ++ user)).scheduler.Refuses thread rest user :=
  { refuses with
    own := stack_turn_self ..
    refusal := refuses.refusal.tail }

/-- **The thread can go on with the call** at any time. -/
theorem step_own (refuses : t.Refuses thread (frame :: rest) user) (now : Instant) :
    t.step thread now .proceed = some (t.leaving thread frame (rest ++ user)) := by
  obtain ⟨own, refusal, isUser, outside⟩ := refuses
  cases refusal with
  | throwing fails =>
      rw [step_of_lockless (by rw [takesLock, own]; rfl)]
      simp only [attempt, proceed, own, List.cons_append]
      rfl
  | ending fails =>
      cases frame with
      | answering answer =>
          rw [step_of_lockless (by rw [takesLock, own]; rfl)]
          simp only [attempt, proceed, own, List.cons_append]
          rfl
      | raising panic =>
          unfold Stack.isUser at isUser
          split at isUser
          · rw [step_of_lockless (by rw [takesLock, own]; rfl)]
            simp only [attempt, proceed, own, List.cons_append, List.nil_append, proceedRaising,
              firingKey?, if_neg (outside rfl)]
            rfl
          · rw [step_of_lockless (by rw [takesLock, own]; rfl)]
            simp only [attempt, proceed, own, List.cons_append, List.nil_append, proceedRaising]
            rfl
          · cases isUser
      | _ => cases fails

/-- It has no other move before the call is back. -/
theorem of_step_own (refuses : t.Refuses thread (frame :: rest) user)
    (taken : t.step thread now move = some turn) :
    move = .proceed ∧ turn = t.leaving thread frame (rest ++ user) := by
  have busy : (t.stack thread).isUser = false := by
    rw [refuses.own]
    cases refuses.refusal with
    | throwing => rfl
    | ending fails =>
        cases frame with
        | answering | raising => rfl
        | _ => cases fails
  obtain rfl := eq_proceed taken busy
  exact ⟨rfl, Option.some.inj (taken.symm.trans (refuses.step_own now))⟩

/-- **Many steps of all threads**, of which the call makes no more than it has to.  In each of these
the thread leaves one frame of the call, and is told what there is to tell. -/
theorem path (refuses : t.Refuses thread call user) {since : History ν} {u : Scheduler ν}
    (path : Path t since u) (few : (since.byThread thread).length ≤ call.length) :
    u.Refuses thread (call.drop (since.byThread thread).length) user ∧
      (∀ stride ∈ since.byThread thread, stride.move = .proceed ∧
        ∃ frame below, stride.turn = stride.before.leaving thread frame below) ∧
      (since.byThread thread).map (·.turn.signal) =
        ((call.take (since.byThread thread).length).map Frame.told).reverse := by
  induction path with
  | start => exact ⟨refuses, List.forall_mem_nil _, rfl⟩
  | @step since u stepping now move turn path taken ih =>
      rw [History.byThread_cons] at few ⊢
      by_cases same : stepping = thread
      · subst same
        rw [if_pos rfl] at few ⊢
        obtain ⟨refuses, own, told⟩ := ih (Nat.le_of_succ_le few)
        rw [List.drop_eq_getElem_cons few] at refuses
        obtain ⟨proceeds, leaves⟩ := refuses.of_step_own taken
        refine ⟨leaves ▸ refuses.leaving, ?_, ?_⟩
        · exact List.forall_mem_cons.mpr ⟨⟨proceeds, _, _, leaves⟩, own⟩
        · rw [List.length_cons, List.take_succ_eq_append_getElem few, List.map_append,
            List.reverse_append, List.map_cons, told, leaves]
          rfl
      · rw [if_neg same] at few ⊢
        obtain ⟨refuses, own, told⟩ := ih few
        exact ⟨refuses.step_of_ne same taken, own, told⟩

end Scheduler.Refuses

/-! ## One beside the other -/

/-- **The scheduler `t` is the scheduler `s` under a renaming, but for a call** of one thread, which
is being refused in `t` and has not been made in `s`. -/
structure Scheduler.Beside (ρ : Renaming) (thread : ThreadId) (call : Stack ν)
    (s t : Scheduler ν) : Prop where
  number : t.number = s.number
  worker : t.worker = s.worker
  dropped : t.dropped = s.dropped
  barrier : t.barrier = ρ.barrier s.barrier
  others : ∀ other, other ≠ thread → t.stack other = ρ.stack (s.stack other)
  refuses : t.Refuses thread call (ρ.stack (s.stack thread))
  /-- No thread has two stacks, in either. -/
  tidy : s.calls.Tidy ∧ t.calls.Tidy

namespace Scheduler.Beside

variable {ρ : Renaming} {thread : ThreadId} {call : Stack ν} {s t : Scheduler ν}

section Locks

variable (beside : Beside ρ thread call s t) (agrees : s.LockAgrees ∧ t.LockAgrees)
include beside

/-- Where user code comes next, nothing is being refused. -/
theorem isRefusing_user : (s.stack thread).isRefusing = false := by
  rw [← ρ.isRefusing_stack]
  exact Stack.isRefusing_of_isUser beside.refuses.isUser

include agrees

/-- **While the body is being thrown away**, the thread holds the lock, which would be free if the
call had not been made. -/
theorem locked (refusing : call.isRefusing = true) : t.lock = some thread ∧ s.lock = none := by
  have held : t.lock = some thread := (beside.refuses.lock_iff agrees.2).mpr refusing
  refine ⟨held, ?_⟩
  by_contra locked
  obtain ⟨holder, locked⟩ := Option.ne_none_iff_exists'.mp locked
  have refuses := (agrees.1 holder).mp locked
  by_cases same : holder = thread
  · rw [same, beside.isRefusing_user] at refuses
    cases refuses
  · rw [← ρ.isRefusing_stack, ← beside.others holder same, ← agrees.2 holder, held] at refuses
    exact same (Option.some.inj refuses).symm

/-- Once it has been thrown away, the same thread holds the lock in both. -/
theorem lock_eq (released : call.isRefusing = false) : t.lock = s.lock := by
  have same : ∀ holder, (t.stack holder).isRefusing = (s.stack holder).isRefusing := by
    intro holder
    by_cases same : holder = thread
    · rw [same, beside.refuses.isRefusing, beside.isRefusing_user, released]
    · rw [beside.others holder same, ρ.isRefusing_stack]
  refine Option.ext fun holder => ?_
  rw [agrees.1 holder, agrees.2 holder, same]

omit agrees in
/-- **Both are alive, or neither is**, unless a dropped scheduler is kept alive by the call. -/
theorem isAlive (owned : call.isRefusing = true → t.dropped = false) : t.isAlive = s.isAlive := by
  unfold Scheduler.isAlive
  rw [beside.dropped] at owned ⊢
  cases dropped : s.dropped with
  | false => rfl
  | true =>
      have released : call.isRefusing = false := by
        by_contra refusing
        rw [owned (by simpa using refusing)] at dropped
        cases dropped
      have light := beside.refuses.refusal.keepsAlive released
      have keeps : t.calls.keepAlive = s.calls.keepAlive := by
        rw [Bool.eq_iff_iff, beside.tidy.1.keepAlive_iff, beside.tidy.2.keepAlive_iff]
        refine exists_congr fun other => ?_
        show (∃ frame ∈ t.stack other, _) ↔ ∃ frame ∈ s.stack other, _
        by_cases same : other = thread
        · rw [same, beside.refuses.own]
          simp only [List.mem_append, Renaming.stack, List.mem_map]
          constructor
          · rintro ⟨_, member | ⟨frame, member, rfl⟩, keeps⟩
            · rw [light _ member] at keeps
              cases keeps
            · exact ⟨frame, member, by rwa [ρ.keepsAlive_frame] at keeps⟩
          · rintro ⟨frame, member, keeps⟩
            exact ⟨_, .inr ⟨frame, member, rfl⟩, by rwa [ρ.keepsAlive_frame]⟩
        · rw [beside.others other same]
          simp [Renaming.stack]
      rw [keeps]

end Locks

/-! ## Steps of other threads -/

section Steps

variable (beside : Beside ρ thread call s t) (agrees : s.LockAgrees ∧ t.LockAgrees)
include beside

/-- Any other thread sees the one as the other. -/
theorem renamedAt {other : ThreadId} (apart : other ≠ thread) : RenamedAt ρ other s t :=
  { beside with stack := beside.others other apart }

include agrees in
/-- **A step of another thread** could be made just as well if the call had not been made, and would
have the same outcome, under the renaming. -/
theorem step {other : ThreadId} (apart : other ≠ thread)
    (owned : call.isRefusing = true → t.dropped = false) {move : Move ν}
    (counts : ∀ delay cadence produces, move = .request (.accept delay cadence produces) →
      ρ.Counts s.barrier) {now : Instant} {turn : Turn ν}
    (taken : t.step other now (ρ.move move) = some turn) :
    ∃ one, s.step other now move = some one ∧ Turn.RenamedAt ρ other s t one turn := by
  have renamed := beside.renamedAt apart
  have alive := beside.isAlive owned
  have seen : Option.Rel (Turn.RenamedAt ρ other s t) (s.step other now move) (some turn) := by
    cases refusing : call.isRefusing with
    | true =>
        -- The lock would be free, so all that matters is that the step is made.
        rw [step_of_free (beside.locked agrees refusing).2, ← attempt_of_step taken]
        exact renamed.attempt alive counts now
    | false =>
        rw [← taken]
        exact renamed.step alive (beside.lock_eq agrees refusing) counts now
  generalize s.step other now move = answer at seen ⊢
  cases seen with
  | some turns => exact ⟨_, rfl, turns⟩

/-- After such a step the one is still beside the other. -/
theorem onward {other : ThreadId} (apart : other ≠ thread) {now now' : Instant}
    {move move' : Move ν} {one turn : Turn ν} (taken : s.step other now move = some one)
    (taken' : t.step other now' move' = some turn) (turns : Turn.RenamedAt ρ other s t one turn) :
    Beside ρ thread call one.scheduler turn.scheduler := by
  have follows := follows_of_step taken
  have follows' := follows_of_step taken'
  have same := follows.others thread apart.symm
  exact
    { turns.scheduler with
      others := by
        intro another elsewhere
        by_cases stepping : another = other
        · exact stepping ▸ turns.scheduler.stack
        · rw [follows.others another stepping, follows'.others another stepping,
            beside.others another elsewhere]
      refuses := same ▸ beside.refuses.step_of_ne apart taken'
      tidy := ⟨follows.tidy beside.tidy.1, follows'.tidy beside.tidy.2⟩ }

end Steps

/-! ## Steps of the call -/

/-- **A step of the call** leaves it beside the scheduler in which it has not been made. -/
theorem leaving {frame : Frame ν} {rest : Stack ν} (beside : Beside ρ thread (frame :: rest) s t) :
    Beside ρ thread rest s
      (t.leaving thread frame (rest ++ ρ.stack (s.stack thread))).scheduler :=
  { beside with
    others := by
      intro other apart
      exact (stack_turn_of_ne _ _ _ _ _ apart).trans (beside.others other apart)
    refuses := beside.refuses.leaving
    tidy := ⟨beside.tidy.1, beside.tidy.2.set ..⟩ }

/-- **When the call is back**, nothing but the renaming is left of it. -/
theorem renamed (beside : Beside ρ thread [] s t) (agrees : s.LockAgrees ∧ t.LockAgrees) :
    Renamed ρ s t :=
  { beside with
    lock := beside.lock_eq agrees rfl
    stack := by
      intro other
      by_cases same : other = thread
      · rw [same, beside.refuses.own, List.nil_append]
      · exact beside.others other same }

/-! ## Many steps -/

/-- **Many steps of all threads**, of which the call makes no more than it has to.  The steps of all
others could be made just as well if the call had not been made, and would have the same outcomes,
under the renaming.  One thing is asked of the moves: that they name what the renaming leads to. -/
theorem path {earlier earlier' : History ν} (run : Run earlier s) (run' : Run earlier' t)
    (beside : Beside ρ thread call s t)
    (counts : ∀ later s', Path s later s' → ρ.Counts s'.barrier) {since : History ν}
    {u : Scheduler ν} (path : Path t since u)
    (names : ∀ stride ∈ since, ∃ move, stride.move = ρ.move move)
    (owned : ∀ stride ∈ since, stride.before.lock = some thread → stride.before.dropped = false)
    (few : (since.byThread thread).length ≤ call.length) :
    ∃ since' s', Path s since' s' ∧
      List.Forall₂ (Stride.Renamed ρ) since' (since.filter (·.thread != thread)) ∧
      Beside ρ thread (call.drop (since.byThread thread).length) s' u := by
  induction path with
  | start => exact ⟨[], s, .start, .nil, beside⟩
  | @step since u stepping now move turn path taken ih =>
      rw [History.byThread_cons] at few ⊢
      have earlierFew : (since.byThread thread).length ≤ call.length := by
        split at few
        · exact Nat.le_of_succ_le few
        · exact few
      obtain ⟨since', s', path', strides, beside'⟩ :=
        ih (fun stride member => names stride (.tail _ member))
          (fun stride member => owned stride (.tail _ member)) earlierFew
      by_cases same : stepping = thread
      · -- The call goes on, and nothing happens on the other side.
        subst same
        rw [if_pos rfl] at few ⊢
        rw [List.drop_eq_getElem_cons few] at beside'
        obtain ⟨-, leaves⟩ := beside'.refuses.of_step_own taken
        refine ⟨since', s', path', ?_, leaves ▸ beside'.leaving⟩
        rw [List.filter_cons_of_neg (by simp)]
        exact strides
      · rw [if_neg same] at few ⊢
        have agrees := And.intro (run.append path').lockAgrees (run'.append path).lockAgrees
        obtain ⟨move, rfl⟩ : ∃ move', move = ρ.move move' := names _ (.head _)
        obtain ⟨one, taken', turns⟩ := beside'.step agrees same
          (fun refusing => owned _ (.head _) (beside'.locked agrees refusing).1)
          (fun _ _ _ _ => counts since' s' path') taken
        refine ⟨_, _, path'.step taken', ?_, beside'.onward same taken' taken turns⟩
        rw [List.filter_cons_of_pos (by simpa using same)]
        exact .cons ⟨rfl, rfl, rfl, turns.signal, turns.events⟩ strides

end Scheduler.Beside

end TaskBarrier
