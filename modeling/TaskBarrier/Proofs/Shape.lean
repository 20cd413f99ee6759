import TaskBarrier.Proofs.Transition

/-!
# The shape of a stack

Not every list of frames occurs on a stack.  User code makes calls, so every call stands on user
code: on nothing, or on a body that is being executed.  A body is executed because a callback was
called, which has to answer its caller afterwards, or because an await replays the hold queue, or,
on the worker of a timer, for no other reason than that its entry was due.  A waiting await has
nothing above it.

Whether a frame may stand where it stands depends only on the frame below, so the shape of a stack
is a condition on neighbours.

## Main Definitions

* `Stack.isCaller`: where a run may have come from.
* `Frame.sits`: whether a frame may stand on the given stack.
* `Stack.isShaped`: every frame of the stack may stand where it stands.

The main statement is `Transition.isShaped`: steps keep stacks in shape.
-/

namespace TaskBarrier

variable {ν : Type}

namespace Stack

/-- Whether a run may have been started from here: by the worker, by a callback that was called
and has to answer, or by an await that replays. -/
def isCaller : Stack ν → Bool
  | [] | .answering _ :: _ | .awaiting _ _ .replaying :: _ => true
  | _ => false

/-- Whether a call is about to return here. -/
def isAnswering : Stack ν → Bool
  | .answering _ :: _ => true
  | _ => false

/-- Whether a panic is on its way. -/
def isRaising : Stack ν → Bool
  | .raising _ :: _ => true
  | _ => false

/-- Whether an await is about to succeed. -/
def isSettling : Stack ν → Bool
  | .settling :: _ => true
  | _ => false

/-- Whether the guard of an await is about to reset the barrier. -/
def isGuarding : Stack ν → Bool
  | .guarding :: _ => true
  | _ => false

end Stack

/-- Whether the frame may stand on the given stack. -/
def Frame.sits : Frame ν → Stack ν → Bool
  | .deciding _, rest => rest.isCaller
  | .run _ .finishing, rest => rest.isCaller || rest.isRaising
  | .run _ _, rest => rest.isCaller
  | .awaiting _ _ _, rest => rest.isUser
  | .dropping _, rest => rest.isSettling || rest.isGuarding || rest.isRaising || rest.isAnswering
  | .discarding _, rest => rest.isSettling || rest.isGuarding || rest.isRaising || rest.isCaller
  | .settling, rest => rest.isGuarding || rest.isUser
  | .guarding, rest | .refusing, rest => rest.isRaising || rest.isAnswering
  | .joining, rest => rest.isAnswering
  | .answering _, rest => rest.isUser
  | .raising _, rest => rest.isCaller || rest.isUser

/-- Whether every frame of the stack may stand where it stands. -/
def Stack.isShaped : Stack ν → Bool
  | [] => true
  | frame :: rest => frame.sits rest && Stack.isShaped rest

namespace Stack

@[simp] theorem isShaped_cons (frame : Frame ν) (rest : Stack ν) :
    Stack.isShaped (frame :: rest) = (frame.sits rest && Stack.isShaped rest) := rfl

/-- What is left of a stack in shape is in shape. -/
theorem isShaped_of_cons {frame : Frame ν} {rest : Stack ν}
    (shaped : Stack.isShaped (frame :: rest) = true) : Stack.isShaped rest = true :=
  (Bool.and_eq_true_iff.mp shaped).2

/-- The first frame of a stack in shape may stand where it stands. -/
theorem sits_of_cons {frame : Frame ν} {rest : Stack ν}
    (shaped : Stack.isShaped (frame :: rest) = true) : frame.sits rest = true :=
  (Bool.and_eq_true_iff.mp shaped).1

end Stack

/-- A returning frame may stand on user code. -/
theorem Frame.sits_of_isReturning {answer : Frame ν} {user : Stack ν}
    (returns : answer.isReturning = true) (isUser : user.isUser = true) :
    answer.sits user = true := by
  cases answer with
  | answering => exact isUser
  | _ => cases returns

/-- A call that has failed may stand on user code. -/
theorem Frame.sits_of_isFailing {last : Frame ν} {user : Stack ν} (fails : last.isFailing = true)
    (isUser : user.isUser = true) :
    last.sits user = true ∧
      (Stack.isRaising (last :: user) || Stack.isAnswering (last :: user)) := by
  cases last with
  | raising => exact ⟨by simp [Frame.sits, isUser], rfl⟩
  | answering => exact ⟨isUser, rfl⟩
  | _ => cases fails

/-- An opening frame may stand on one that returns. -/
theorem Frame.sits_of_isOpening {opening answer : Frame ν} {user : Stack ν}
    (opens : opening.isOpening = true) (returns : answer.isReturning = true) :
    opening.sits (answer :: user) = true := by
  cases answer with
  | answering answer => cases opening <;> first | rfl | cases opens
  | _ => cases returns

section Regular

variable (manner : Manner) {tasks : List TaskId} {rest : Stack ν} (isUser : rest.isUser = true)
  (shaped : rest.isShaped = true)

include isUser shaped

/-- An await that succeeds leaves a stack in shape. -/
theorem Manner.isShaped_succeeding :
    Stack.isShaped (.dropping tasks :: manner.succeeding ++ rest) = true := by
  unfold Manner.succeeding
  split <;>
    simp [Frame.sits, Stack.isSettling, Stack.isGuarding, Stack.isAnswering, isUser, shaped]

/-- An await that fails leaves a stack in shape. -/
theorem Manner.isShaped_failing (failure : Failure) :
    Stack.isShaped (.dropping tasks :: manner.failing failure ++ rest) = true := by
  unfold Manner.failing
  cases manner.strict <;> cases manner.unwinding <;>
    simp [Frame.sits, Stack.isGuarding, Stack.isAnswering, Stack.isRaising, isUser, shaped]

end Regular

/-- **Steps keep stacks in shape.** -/
theorem Transition.isShaped {b b' : Barrier ν} {stack stack' : Stack ν} {deed : Deed}
    (transition : Transition b stack deed b' stack') (shaped : stack.isShaped = true) :
    stack'.isShaped = true := by
  cases transition with
  | aside | accept | read => exact shaped
  | ask isUser opens short returns =>
      have answers := Frame.sits_of_isReturning returns isUser
      rename_i opening answer _
      rcases opening with - | ⟨frame, - | ⟨another, more⟩⟩
      · simp [answers, shaped]
      · have opened : frame.sits (answer :: stack) = true :=
          Frame.sits_of_isOpening (opens frame (by simp)) returns
        simp [opened, answers, shaped]
      · simp at short
  | withdraw isUser | cancel isUser | await isUser =>
      simp [Frame.sits, Stack.isCaller, Stack.isSettling, Stack.isRaising, isUser, shaped]
  | returned | enter | skip | run =>
      obtain ⟨called, below⟩ := Bool.and_eq_true_iff.mp shaped
      have called : Stack.isCaller _ = true := called
      simp [Frame.sits, called, below]
  | panicked =>
      obtain ⟨called, below⟩ := Bool.and_eq_true_iff.mp shaped
      have called : Stack.isCaller _ = true := called
      simp [Frame.sits, Stack.isRaising, called, below]
  | pass => exact Stack.isShaped_of_cons shaped
  | finish after =>
      obtain ⟨called, below⟩ := Bool.and_eq_true_iff.mp shaped
      have called : (Stack.isCaller _ || Stack.isRaising _) = true := called
      rcases after with rfl | rfl
      · exact below
      · rw [Bool.or_eq_true_iff] at called
        rcases called with called | raising
        · simp [Frame.sits, called, below]
        · simp [Frame.sits, raising, below]
  | replay => simpa [Frame.sits, Stack.isCaller] using shaped
  | passOver => exact shaped
  | wait => exact shaped
  | overflow => simpa [Frame.sits, Stack.isCaller] using shaped
  | look => exact shaped
  | refuse isUser later fails =>
      obtain ⟨sits, ends⟩ := Frame.sits_of_isFailing fails isUser
      rw [Stack.isShaped_cons, Stack.isShaped_cons, sits, shaped]
      exact Bool.and_eq_true_iff.mpr ⟨ends, rfl⟩
  | @settle _ _ _ manner _ settled =>
      obtain ⟨isUser, below⟩ := Bool.and_eq_true_iff.mp shaped
      exact manner.isShaped_succeeding isUser below
  | @expire _ _ _ manner failure _ outstanding =>
      obtain ⟨isUser, below⟩ := Bool.and_eq_true_iff.mp shaped
      exact manner.isShaped_failing isUser below failure
  | guard =>
      obtain ⟨ends, below⟩ := Bool.and_eq_true_iff.mp shaped
      have ends : (Stack.isRaising _ || Stack.isAnswering _) = true := ends
      simp only [Stack.isShaped_cons, Frame.sits, below, Bool.and_true, Bool.or_assoc, ends,
        Bool.or_true]
  | unwind =>
      -- The panic stays on top of what the await stood on.
      have awaiting := Stack.isShaped_of_cons shaped
      obtain ⟨isUser, below⟩ := Bool.and_eq_true_iff.mp awaiting
      have isUser : Stack.isUser _ = true := isUser
      simp [Frame.sits, Stack.isRaising, isUser, below]
  | escape => exact Stack.isShaped_of_cons (Stack.isShaped_of_cons shaped)
  | announce =>
      rename_i tasks rest
      obtain ⟨sits, below⟩ := Bool.and_eq_true_iff.mp shaped
      have sits : (rest.isSettling || rest.isGuarding || rest.isRaising || rest.isAnswering) =
        true := sits
      -- Bodies are thrown away where their number was announced: what answers is a caller.
      have answers : rest.isAnswering = true → rest.isCaller = true := by
        intro answering
        cases rest with
        | nil => cases answering
        | cons frame rest => cases frame <;> first | rfl | cases answering
      simp only [Stack.isShaped_cons, Frame.sits, below, Bool.and_true]
      rw [Bool.or_eq_true_iff] at sits ⊢
      exact sits.imp_right answers
  | discard => exact shaped
  | close => exact Stack.isShaped_of_cons shaped
  | work => rfl

/-- Only an await that throws bodies away stands on a settling frame. -/
theorem Stack.settling_of_mem_tail {frame : Frame ν} {rest : Stack ν}
    (shaped : Stack.isShaped (frame :: rest) = true) (settling : Frame.settling ∈ rest) :
    ∃ below, rest = .settling :: below ∧
      ∃ tasks, frame = .dropping tasks ∨ frame = .discarding tasks := by
  induction rest generalizing frame with
  | nil => cases settling
  | cons next below ih =>
      have sits := Stack.sits_of_cons shaped
      rcases List.mem_cons.mp settling with here | deeper
      · subst here
        cases frame with
        | dropping tasks => exact ⟨below, rfl, tasks, .inl rfl⟩
        | discarding tasks => exact ⟨below, rfl, tasks, .inr rfl⟩
        | run task stage => cases stage <;> cases sits
        | answering answer => cases answer <;> cases sits
        | _ => cases sits
      · -- Nothing stands on a frame that throws bodies away.
        obtain ⟨_, -, tasks, rfl | rfl⟩ := ih (Stack.isShaped_of_cons shaped) deeper
        all_goals
          cases frame with
          | run task stage => cases stage <;> cases sits
          | answering answer => cases answer <;> cases sits
          | _ => cases sits

end TaskBarrier
