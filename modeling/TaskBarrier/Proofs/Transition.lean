import TaskBarrier.Proofs.Run

/-!
# Everything that one step can do

`Scheduler.step` is a program: it looks at the move, at the frame on top of a stack, and at what a
critical section answers.  `Transition` lists what comes out, one constructor for each way in which
a step can go.  A statement about all steps is proved from that list and never from the program.

A transition speaks of the barrier and of the stack of *one* thread, before and after, and of the
deed in between.  The stacks of all other threads stay as they are.

## Main Definitions

* `Stack.isUser`: user code comes next.
* `Frame.isClosing`, `Frame.isOpening`, `Frame.isEnding`: frames that concern no task.
* `Transition`: what a step can do.

The main statement is `follows_of_step`: every step is a transition.
-/

namespace TaskBarrier

variable {ν : Type}

/-- Whether user code comes next on a stack, were it not that of a worker. -/
def Stack.isUser : Stack ν → Bool
  | [] | .run _ .executing :: _ => true
  | _ => false

namespace Frame

/-- Whether all that is left to do for the frame is to go away. -/
def isClosing : Frame ν → Bool
  | discarding [] | settling | refusing | joining | answering _ | raising _ => true
  | _ => false

/-- Whether a request begins with the frame and is not an await. -/
def isOpening : Frame ν → Bool
  | deciding _ | joining => true
  | _ => false

/-- Whether a call that has failed ends with the frame. -/
def isFailing : Frame ν → Bool
  | raising _ | answering (.failed _) => true
  | _ => false

/-- Whether a call returns with the frame, and is not an await that has succeeded. -/
def isReturning : Frame ν → Bool
  | answering .settled => false
  | answering _ => true
  | _ => false

/-- Whether the frame belongs to a call that comes to its end. -/
def isEnding : Frame ν → Bool
  | settling | guarding | refusing | answering _ | raising _ => true
  | _ => false

/-- A call that has failed comes to its end. -/
theorem isEnding_of_isFailing {frame : Frame ν} (fails : frame.isFailing = true) :
    frame.isEnding = true := by
  cases frame <;> first | rfl | cases fails

end Frame

namespace Manner

/-- An await that succeeds comes to its end. -/
theorem isEnding_of_mem_succeeding {manner : Manner} {frame : Frame ν}
    (member : frame ∈ manner.succeeding) : frame.isEnding = true := by
  unfold succeeding at member
  split at member
  · obtain rfl | rfl | rfl := by simpa using member
    all_goals rfl
  · obtain rfl := List.mem_singleton.mp member
    rfl

/-- An await that fails comes to its end. -/
theorem isEnding_of_mem_failing {manner : Manner} {failure : Failure} {frame : Frame ν}
    (member : frame ∈ manner.failing failure) : frame.isEnding = true := by
  obtain ⟨strict, unwinding⟩ := manner
  cases strict <;> cases unwinding <;> simp only [failing] at member <;>
    (simp at member; first | (obtain rfl := member; rfl) | (obtain rfl | rfl := member <;> rfl))

end Manner

/-- **What one step can do** to the barrier `b` and to the stack of the thread that makes it. -/
inductive Transition (b : Barrier ν) : Stack ν → Deed → Barrier ν → Stack ν → Prop
  /-- The facility alone is changed, or numbers are used up. -/
  | aside {stack : Stack ν} {facility : Facility TaskId} {nextId : TaskId}
      (later : b.nextId.number ≤ nextId.number) :
      Transition b stack .aside { b with facility := facility, nextId := nextId } stack
  /-- A task is accepted. -/
  | accept {user : Stack ν} {now : Instant} {delay : Duration} {cadence : Cadence}
      {produces : Bool} {id : TaskId}
      (isUser : Stack.isUser user = true)
      (answer : (b.accept now delay cadence produces).answer = .accepted id) :
      Transition b user (.accept id) (b.accept now delay cadence produces).barrier user
  /-- A task is refused under the lock, where numbers have been used up. -/
  | refuse {user : Stack ν} {last : Frame ν} {facility : Facility TaskId} {nextId : TaskId}
      (isUser : Stack.isUser user = true) (later : b.nextId.number ≤ nextId.number)
      (fails : last.isFailing = true) :
      Transition b user .aside { b with facility := facility, nextId := nextId }
        (.refusing :: last :: user)
  /-- A value is read. -/
  | read {stack : Stack ν} {task : TaskId} :
      Transition b stack .aside (b.readValue task).2 stack
  /-- A call begins that is neither a cancel nor an await. -/
  | ask {user opening : Stack ν} {answer : Frame ν} {facility : Facility TaskId}
      (isUser : Stack.isUser user = true) (opens : ∀ frame ∈ opening, frame.isOpening = true)
      (short : opening.length ≤ 1) (returns : answer.isReturning = true) :
      Transition b user .aside { b with facility := facility } (opening ++ answer :: user)
  /-- A task is cancelled, so that its body has to be thrown away. -/
  | withdraw {user : Stack ν} {task : TaskId} (isUser : Stack.isUser user = true)
      (answer : (b.cancel task).answer = .cancelled) :
      Transition b user (.cancel task .cancelled) (b.cancel task).barrier
        (.discarding [task] :: .answering (.flag true) :: user)
  /-- A task is doomed, or cancelled too late. -/
  | cancel {user : Stack ν} {task : TaskId} (isUser : Stack.isUser user = true)
      (answer : (b.cancel task).answer ≠ .cancelled) :
      Transition b user (.cancel task (b.cancel task).answer) (b.cancel task).barrier
        (.answering (.flag (b.cancel task).answer.succeeded) :: user)
  /-- An await begins. -/
  | await {user : Stack ν} {start : Instant} {manner : Manner} (isUser : Stack.isUser user = true) :
      Transition b user .await b.beginAwait.barrier (.awaiting start manner .replaying :: user)
  /-- A body returns. -/
  | returned {task : TaskId} {result : Option ν} {rest : Stack ν} :
      Transition b (.run task .executing :: rest) (.leave task) (b.leaveBody task result)
        (.run task .finishing :: rest)
  /-- A body panics. -/
  | panicked {task : TaskId} {panic : Panic} {rest : Stack ν} :
      Transition b (.run task .executing :: rest) (.leave task) (b.leaveBody task none)
        (.run task .finishing :: .raising panic :: rest)
  /-- A firing starts a run. -/
  | run {task : TaskId} {rest : Stack ν} (answer : (b.fire task).answer = .run) :
      Transition b (.deciding task :: rest) (.call task .run) (b.fire task).barrier
        (.run task (.starting false) :: rest)
  /-- A firing starts no run. -/
  | pass {task : TaskId} {rest : Stack ν} (answer : (b.fire task).answer ≠ .run) :
      Transition b (.deciding task :: rest) (.call task (b.fire task).answer)
        (b.fire task).barrier rest
  /-- The execution of a body begins. -/
  | enter {task : TaskId} {replayed : Bool} {rest : Stack ν} {b' : Barrier ν}
      (entered : b.enterBody? task = some (true, b')) :
      Transition b (.run task (.starting replayed) :: rest) (.enter task true) b'
        (.run task .executing :: rest)
  /-- A body turns out to be used up. -/
  | skip {task : TaskId} {replayed : Bool} {rest : Stack ν} {b' : Barrier ν}
      (entered : b.enterBody? task = some (false, b')) :
      Transition b (.run task (.starting replayed) :: rest) (.enter task false) b'
        (.run task .finishing :: rest)
  /-- A run is over, and with it, perhaps, a doomed task. -/
  | finish {task : TaskId} {rest top : Stack ν} (after : top = [] ∨ top = [.discarding [task]])
      (doomed : (b.finish task).answer = true ↔ top ≠ []) :
      Transition b (.run task .finishing :: rest) (.finish task) (b.finish task).barrier
        (top ++ rest)
  /-- A held task is replayed. -/
  | replay {task : TaskId} {start : Instant} {manner : Manner} {rest : Stack ν}
      (answer : b.popHeld.answer = .run task) :
      Transition b (.awaiting start manner .replaying :: rest) (.replay (.run task))
        b.popHeld.barrier
        (.run task (.starting true) :: .awaiting start manner .replaying :: rest)
  /-- A task at the front of the hold queue has no slot. -/
  | passOver {start : Instant} {manner : Manner} {rest : Stack ν}
      (answer : b.popHeld.answer = .skipped) :
      Transition b (.awaiting start manner .replaying :: rest) (.replay .skipped)
        b.popHeld.barrier (.awaiting start manner .replaying :: rest)
  /-- The hold queue is empty, and the wait begins. -/
  | wait {start deadline wake : Instant} {manner : Manner} {rest : Stack ν}
      (empty : b.held = []) :
      Transition b (.awaiting start manner .replaying :: rest) (.replay .done) b
        (.awaiting start manner (.waiting deadline wake) :: rest)
  /-- The hold queue is empty, and there is no deadline to wait for. -/
  | overflow {start : Instant} {manner : Manner} {panic : Panic} {rest : Stack ν}
      (empty : b.held = []) :
      Transition b (.awaiting start manner .replaying :: rest) (.replay .done) b
        (.raising panic :: .awaiting start manner .replaying :: rest)
  /-- An await goes on waiting. -/
  | look {start deadline wake wake' : Instant} {manner : Manner} {rest : Stack ν} :
      Transition b (.awaiting start manner (.waiting deadline wake) :: rest) .aside b
        (.awaiting start manner (.waiting deadline wake') :: rest)
  /-- An await finds nothing outstanding. -/
  | settle {start deadline wake : Instant} {manner : Manner} {rest : Stack ν}
      (settled : b.outstanding = 0) :
      Transition b (.awaiting start manner (.waiting deadline wake) :: rest)
        (.reset .settled b.dropped) b.reset (.dropping b.dropped :: manner.succeeding ++ rest)
  /-- The deadline of an await has come. -/
  | expire {start deadline wake : Instant} {manner : Manner} {failure : Failure} {rest : Stack ν}
      (outstanding : b.outstanding ≠ 0) :
      Transition b (.awaiting start manner (.waiting deadline wake) :: rest)
        (.reset .timedOut b.dropped) b.reset (.dropping b.dropped :: manner.failing failure ++ rest)
  /-- The guard of an await finds a panic on its way through the thread. -/
  | guard {rest : Stack ν} :
      Transition b (.guarding :: rest) (.reset .guarded b.dropped) b.reset
        (.dropping b.dropped :: rest)
  /-- A panic leaves an await. -/
  | unwind {panic : Panic} {start : Instant} {manner : Manner} {stage : AwaitStage}
      {rest : Stack ν} :
      Transition b (.raising panic :: .awaiting start manner stage :: rest)
        (.reset .unwound b.dropped) b.reset (.dropping b.dropped :: .raising panic :: rest)
  /-- A panic leaves a call. -/
  | escape {panic : Panic} {answer : Answer ν} {rest : Stack ν} :
      Transition b (.raising panic :: .answering answer :: rest) .aside b rest
  /-- The end of a cycle is announced. -/
  | announce {tasks : List TaskId} {rest : Stack ν} :
      Transition b (.dropping tasks :: rest) .aside b (.discarding tasks :: rest)
  /-- A body is thrown away. -/
  | discard {task : TaskId} {others : List TaskId} {rest : Stack ν} {b' : Barrier ν}
      (discarded : b.discard? task = some b') :
      Transition b (.discarding (task :: others) :: rest) (.discard task) b'
        (.discarding others :: rest)
  /-- A frame with nothing left to do goes away. -/
  | close {frame : Frame ν} {rest : Stack ν} (closing : frame.isClosing = true) :
      Transition b (frame :: rest) .aside b rest
  /-- The worker of the timer calls a callback. -/
  | work {task : TaskId} {facility : Facility TaskId} :
      Transition b [] .aside { b with facility := facility } [.deciding task]

namespace Scheduler

/-! ## What a turn leaves behind -/

@[simp] theorem barrier_turn (s : Scheduler ν) (barrier : Barrier ν) (thread : ThreadId)
    (stack : Stack ν) (signal : Signal ν) (events : List Event) :
    (s.turn barrier thread stack signal events).scheduler.barrier = barrier := rfl

@[simp] theorem stack_turn_self (s : Scheduler ν) (barrier : Barrier ν) (thread : ThreadId)
    (stack : Stack ν) (signal : Signal ν) (events : List Event) :
    (s.turn barrier thread stack signal events).scheduler.stack thread = stack :=
  s.stack_update_self barrier thread stack

theorem stack_turn_of_ne (s : Scheduler ν) (barrier : Barrier ν) {thread other : ThreadId}
    (stack : Stack ν) (signal : Signal ν) (events : List Event) (ne : other ≠ thread) :
    (s.turn barrier thread stack signal events).scheduler.stack other = s.stack other :=
  s.calls.get_set_of_ne stack ne

/-- A step of `thread` from `s` to `s'` that is a transition with the given deed. -/
structure Follows (s : Scheduler ν) (thread : ThreadId) (deed : Deed) (s' : Scheduler ν) :
    Prop where
  /-- The barrier and the thread's own stack make a transition. -/
  transition : Transition s.barrier (s.stack thread) deed s'.barrier (s'.stack thread)
  /-- No other thread takes part. -/
  others : ∀ other, other ≠ thread → s'.stack other = s.stack other
  /-- At most one stack is replaced. -/
  calls : s'.calls = s.calls ∨ ∃ stack, s'.calls = s.calls.set thread stack
  number : s'.number = s.number
  worker : s'.worker = s.worker

/-- A turn that changes the barrier and one stack follows if the two make a transition. -/
theorem follows_turn {s : Scheduler ν} {thread : ThreadId} {deed : Deed} {barrier : Barrier ν}
    {stack : Stack ν} {signal : Signal ν} {events : List Event}
    (transition : Transition s.barrier (s.stack thread) deed barrier stack) :
    s.Follows thread deed (s.turn barrier thread stack signal events).scheduler where
  transition := by rwa [barrier_turn, stack_turn_self]
  others := fun _ ne => s.stack_turn_of_ne barrier stack signal events ne
  calls := .inr ⟨stack, rfl⟩
  number := rfl
  worker := rfl

/-! ## Requests -/

/-- An accept that fails uses up numbers and nothing else. -/
theorem accept_of_fails (b : Barrier ν) (now : Instant) (delay : Duration) (cadence : Cadence)
    (produces : Bool)
    (fails : ∀ id, (b.accept now delay cadence produces).answer ≠ .accepted id) :
    ∃ (facility : Facility TaskId) (nextId : TaskId), b.nextId.number ≤ nextId.number ∧
      (b.accept now delay cadence produces).barrier =
        { b with facility := facility, nextId := nextId } := by
  by_cases degenerate : cadence.isDegenerate = true
  · rw [b.accept_of_isDegenerate now delay degenerate]
    exact ⟨b.facility, b.nextId, Nat.le_refl _, rfl⟩
  · have drawn : b.nextId.number ≤ b.nextId.next.number := Nat.le_succ _
    cases arming : b.facility.arm now delay cadence b.nextId with
    | mk answer facility =>
        cases answer with
        | armed key => exact absurd (by simp [Barrier.accept, degenerate, arming]) (fails b.nextId)
        | refused => exact ⟨facility, _, drawn, by simp [Barrier.accept, degenerate, arming]⟩
        | overflow => exact ⟨facility, _, drawn, by simp [Barrier.accept, degenerate, arming]⟩

/-- An accept that fails concerns no task. -/
theorem requestDeed_of_fails {s : Scheduler ν} {now : Instant} {delay : Duration}
    {cadence : Cadence} {produces : Bool}
    (fails : ∀ id, (s.barrier.accept now delay cadence produces).answer ≠ .accepted id) :
    s.requestDeed now (.accept delay cadence produces) = .aside := by
  simp only [requestDeed]
  split
  · next id answer => exact absurd answer (fails id)
  · rfl
  · rfl

/-- A turn with which the lock is taken or given back follows if the rest of it does. -/
theorem Follows.of_lock {s s' : Scheduler ν} {lock : Option ThreadId} {thread : ThreadId}
    {deed : Deed} (follows : { s with lock := lock }.Follows thread deed s') :
    s.Follows thread deed s' :=
  ⟨follows.transition, follows.others, follows.calls, follows.number, follows.worker⟩

@[simp] theorem barrier_requestAccept (s : Scheduler ν) (thread : ThreadId) (now : Instant)
    (delay : Duration) (cadence : Cadence) (produces : Bool) :
    (s.requestAccept thread now delay cadence produces).scheduler.barrier =
      (s.barrier.accept now delay cadence produces).barrier := by
  rcases s.requestAccept_cases thread now delay cadence produces with
    ⟨id, -, eq⟩ | ⟨degenerate, eq⟩ | ⟨-, last, -, eq⟩
  · rw [eq, barrier_turn]
  · rw [eq, barrier_turn, s.barrier.accept_of_isDegenerate now delay degenerate]
  · rw [eq, declining, barrier_turn]

theorem follows_requestAccept (s : Scheduler ν) (thread : ThreadId) (now : Instant)
    (delay : Duration) (cadence : Cadence) (produces : Bool)
    (isUser : Stack.isUser (s.stack thread) = true) :
    s.Follows thread (s.requestDeed now (.accept delay cadence produces))
      (s.requestAccept thread now delay cadence produces).scheduler := by
  rcases s.requestAccept_cases thread now delay cadence produces with
    ⟨id, answer, eq⟩ | ⟨degenerate, eq⟩ | ⟨fails, last, failing, eq⟩
  · simp only [eq, requestDeed, answer]
    exact follows_turn (.accept isUser answer)
  · simp only [eq, requestDeed, s.barrier.accept_of_isDegenerate now delay degenerate]
    exact follows_turn (.aside (Nat.le_refl _))
  · obtain ⟨facility, nextId, later, same⟩ :=
      accept_of_fails s.barrier now delay cadence produces fails
    have failing : last.isFailing = true := by
      rcases failing with ⟨failure, rfl⟩ | ⟨panic, rfl⟩
      · rfl
      · rfl
    rw [eq, requestDeed_of_fails fails, same]
    exact .of_lock (follows_turn (.refuse isUser later failing))

/-- What a call of a callback leaves on a stack: at most one frame, which decides. -/
theorem calling_cases (s : Scheduler ν) (task : TaskId) :
    s.calling task = [] ∨ s.calling task = [.deciding task] := by
  unfold calling
  split <;> simp

theorem transition_calling (s : Scheduler ν) (task : TaskId) {user : Stack ν}
    (isUser : Stack.isUser user = true) (facility : Facility TaskId) :
    Transition s.barrier user .aside { s.barrier with facility := facility }
      (s.calling task ++ .answering (.flag true) :: user) := by
  rcases s.calling_cases task with none | one
  · rw [none]
    exact .ask isUser (by simp) (by simp) rfl
  · rw [one]
    exact .ask isUser (by simp [Frame.isOpening]) (by simp) rfl

theorem follows_refuse (s : Scheduler ν) (thread : ThreadId) :
    s.Follows thread .aside s.refuse.scheduler where
  transition := .aside (Nat.le_refl _)
  others := fun _ _ => rfl
  calls := .inl rfl
  number := rfl
  worker := rfl

theorem follows_requestFire (s : Scheduler ν) (thread : ThreadId) (key : TimerKey)
    (isUser : Stack.isUser (s.stack thread) = true) :
    s.Follows thread .aside (s.requestFire thread key).scheduler := by
  unfold requestFire
  split
  · exact s.follows_refuse thread
  · split
    · exact s.follows_refuse thread
    · exact follows_turn (s.transition_calling _ isUser _)

theorem follows_requestCancel (s : Scheduler ν) (thread : ThreadId) (task : TaskId)
    (isUser : Stack.isUser (s.stack thread) = true) :
    s.Follows thread (.cancel task (s.barrier.cancel task).answer)
      (s.requestCancel thread task).scheduler := by
  refine follows_turn ?_
  cases answer : (s.barrier.cancel task).answer with
  | cancelled => exact .withdraw isUser answer
  | tooLate | doomed =>
      have transition : Transition s.barrier (s.stack thread) _ _ _ :=
        .cancel isUser (show (s.barrier.cancel task).answer ≠ .cancelled by simp [answer])
      rwa [answer] at transition

theorem follows_requestShutdown (s : Scheduler ν) (thread : ThreadId)
    (isUser : Stack.isUser (s.stack thread) = true) :
    s.Follows thread .aside (s.requestShutdown thread).scheduler := by
  refine follows_turn (.ask isUser ?_ ?_ rfl)
  · split <;> simp [Frame.isOpening]
  · split <;> simp

theorem isUser_of_isUserCode {s : Scheduler ν} {thread : ThreadId}
    (userCode : s.isUserCode thread = true) : Stack.isUser (s.stack thread) = true := by
  unfold isUserCode at userCode
  split at userCode <;> simp_all [Stack.isUser]

/-- Where no user code comes next, a thread goes on with what is left to do. -/
theorem eq_proceed {s : Scheduler ν} {thread : ThreadId} {now : Instant} {move : Move ν}
    {turn : Turn ν} (taken : s.step thread now move = some turn)
    (busy : Stack.isUser (s.stack thread) = false) : move = .proceed := by
  have taken := attempt_of_step taken
  cases move with
  | proceed => rfl
  | request request =>
      simp only [attempt, Scheduler.request] at taken
      split at taken
      · cases taken
      · next userCode =>
        rw [isUser_of_isUserCode (by simpa using userCode)] at busy
        cases busy
  | endBody how =>
      simp only [attempt, endBody] at taken
      split at taken
      · next top =>
        rw [top] at busy
        cases busy
      · cases taken
  | work =>
      simp only [attempt, work] at taken
      split at taken
      · next empty =>
        rw [empty] at busy
        cases busy
      · cases taken

theorem follows_request {s : Scheduler ν} {thread : ThreadId} {now : Instant}
    {request : Request} {turn : Turn ν} (taken : s.request thread now request = some turn) :
    s.Follows thread (s.requestDeed now request) turn.scheduler := by
  unfold Scheduler.request at taken
  split at taken
  · cases taken
  · next userCode =>
    have isUser := isUser_of_isUserCode (by simpa using userCode)
    cases request with
    | accept delay cadence produces =>
        obtain ⟨-, rfl⟩ := by simpa [whileOwned] using taken
        exact s.follows_requestAccept thread now delay cadence produces isUser
    | fire key =>
        obtain rfl := Option.some.inj taken
        exact s.follows_requestFire thread key isUser
    | call task =>
        obtain rfl := Option.some.inj taken
        exact follows_turn (s.transition_calling task isUser s.barrier.facility)
    | cancel handle =>
        obtain ⟨-, rfl⟩ := by simpa [whileOwned] using taken
        simp only [requestDeed]
        split
        · exact s.follows_requestCancel thread handle.task isUser
        · exact s.follows_refuse thread
    | cancelByHandle task =>
        obtain rfl := Option.some.inj taken
        simp only [requestDeed]
        split
        · exact s.follows_requestCancel thread task isUser
        · exact s.follows_refuse thread
    | await manner =>
        obtain ⟨-, rfl⟩ := by simpa [whileOwned] using taken
        exact follows_turn (.await isUser)
    | read task =>
        obtain rfl := Option.some.inj taken
        exact follows_turn .read
    | shutdown =>
        obtain ⟨-, rfl⟩ := by simpa [whileOwned] using taken
        exact s.follows_requestShutdown thread isUser
    | drop =>
        obtain ⟨-, rfl⟩ := by simpa [whileOwned] using taken
        -- That the scheduler has been dropped is no part of a transition.
        have shutdown := follows_requestShutdown { s with dropped := true } thread isUser
        exact ⟨shutdown.transition, shutdown.others, shutdown.calls, shutdown.number,
          shutdown.worker⟩

/-! ## Bodies and frames -/

theorem follows_endBody {s : Scheduler ν} {thread : ThreadId} {now : Instant} {how : BodyEnd ν}
    {turn : Turn ν} (taken : s.endBody thread how = some turn) :
    s.Follows thread (s.deed thread now (.endBody how)) turn.scheduler := by
  unfold endBody at taken
  split at taken
  · next task rest top =>
      have leaves : s.deed thread now (.endBody how) = .leave task := by simp [deed, top]
      cases how with
      | returned value =>
          obtain rfl := Option.some.inj taken
          rw [leaves]
          exact follows_turn (by rw [top]; exact .returned)
      | panicked panic =>
          obtain rfl := Option.some.inj taken
          rw [leaves]
          exact follows_turn (by rw [top]; exact .panicked)
  · cases taken

theorem follows_proceedDeciding {s : Scheduler ν} {thread : ThreadId} {task : TaskId}
    {rest : Stack ν} (top : s.stack thread = .deciding task :: rest) :
    s.Follows thread (.call task (s.barrier.fire task).answer)
      (s.proceedDeciding thread task rest).scheduler := by
  refine follows_turn ?_
  rw [top]
  cases answer : (s.barrier.fire task).answer with
  | run => exact .run answer
  | ignored | coalesced | held =>
      have transition : Transition s.barrier (.deciding task :: rest) _ _ _ :=
        .pass (show (s.barrier.fire task).answer ≠ .run by simp [answer])
      rwa [answer] at transition

theorem follows_proceedStarting {s : Scheduler ν} {thread : ThreadId} {now : Instant}
    {task : TaskId} {replayed : Bool} {rest : Stack ν} {turn : Turn ν}
    (top : s.stack thread = .run task (.starting replayed) :: rest)
    (taken : s.proceedStarting thread task replayed rest = some turn) :
    s.Follows thread (s.frameDeed now (s.stack thread)) turn.scheduler := by
  unfold proceedStarting at taken
  cases entered : s.barrier.enterBody? task with
  | none => simp [entered] at taken
  | some entry =>
      obtain ⟨executes, barrier⟩ := entry
      have enters : s.frameDeed now (s.stack thread) = .enter task executes := by
        simp [frameDeed, top, entered]
      rw [enters]
      cases executes with
      | true =>
          obtain rfl := by simpa [entered] using taken
          exact follows_turn (by rw [top]; exact .enter entered)
      | false =>
          obtain rfl := by simpa [entered] using taken
          exact follows_turn (by rw [top]; exact .skip entered)

theorem follows_proceedFinishing {s : Scheduler ν} {thread : ThreadId} {task : TaskId}
    {rest : Stack ν} (top : s.stack thread = .run task .finishing :: rest) :
    s.Follows thread (.finish task) (s.proceedFinishing thread task rest).scheduler := by
  refine follows_turn ?_
  rw [top]
  cases doomed : (s.barrier.finish task).answer with
  | true =>
      have buried : [Frame.discarding [task]] = ([] : Stack ν) ∨ [Frame.discarding [task]] =
          ([.discarding [task]] : Stack ν) := .inr rfl
      exact .finish buried (by simp [doomed])
  | false =>
      have lasting : ([] : Stack ν) = [] ∨ [] = ([.discarding [task]] : Stack ν) := .inl rfl
      exact .finish lasting (by simp [doomed])

/-- An empty hold queue is left alone. -/
theorem popHeld_of_done {b : Barrier ν} (done : b.popHeld.answer = .done) :
    b.held = [] ∧ b.popHeld.barrier = b := by
  unfold Barrier.popHeld at done ⊢
  split
  · next empty => exact ⟨empty, rfl⟩
  · next held =>
      rw [held] at done
      simp only at done
      split at done <;> cases done

theorem follows_proceedReplaying {s : Scheduler ν} {thread : ThreadId} {now start : Instant}
    {manner : Manner} {rest : Stack ν}
    (top : s.stack thread = .awaiting start manner .replaying :: rest) :
    s.Follows thread (.replay s.barrier.popHeld.answer)
      (s.proceedReplaying thread now start manner rest).scheduler := by
  refine follows_turn ?_
  rw [top]
  cases answer : s.barrier.popHeld.answer with
  | run task => exact .replay answer
  | skipped => exact .passOver answer
  | done =>
      obtain ⟨empty, same⟩ := popHeld_of_done answer
      rw [same]
      simp only
      split
      · exact .wait empty
      · exact .overflow empty

theorem follows_proceedWaiting {s : Scheduler ν} {thread : ThreadId}
    {now start deadline wake : Instant} {manner : Manner} {rest : Stack ν}
    (top : s.stack thread = .awaiting start manner (.waiting deadline wake) :: rest) :
    s.Follows thread (s.frameDeed now (s.stack thread))
      (s.proceedWaiting thread now start manner deadline rest).scheduler := by
  refine follows_turn ?_
  rw [top]
  by_cases settled : s.barrier.outstanding = 0
  · simp only [frameDeed, Barrier.check, settled, if_pos]
    exact .settle settled
  · by_cases reached : now.reached deadline = true
    · simp only [frameDeed, Barrier.check, settled, reached, if_false, if_true]
      exact .expire settled
    · simp only [frameDeed, Barrier.check, settled, reached, if_false]
      exact .look

theorem follows_proceedRaising {s : Scheduler ν} {thread : ThreadId} {now : Instant}
    {panic : Panic} {rest : Stack ν} (top : s.stack thread = .raising panic :: rest) :
    s.Follows thread (s.frameDeed now (s.stack thread))
      (s.proceedRaising thread panic rest).scheduler := by
  unfold proceedRaising
  split
  · refine follows_turn ?_
    rw [top]
    exact .unwind
  · refine follows_turn ?_
    rw [top]
    exact .escape
  · split
    all_goals
      refine follows_turn ?_
      rw [top]
      exact .close rfl
  · next frame below notAwaiting notAnswering =>
      -- The panic comes to user code, which gets to see it.
      have nothing : s.frameDeed now (s.stack thread) = .aside := by
        rw [top]
        cases frame <;> simp_all [frameDeed]
      rw [nothing]
      refine follows_turn ?_
      rw [top]
      exact .close rfl

theorem follows_proceedDiscarding {s : Scheduler ν} {thread : ThreadId} {now : Instant}
    {tasks : List TaskId} {rest : Stack ν} {turn : Turn ν}
    (top : s.stack thread = .discarding tasks :: rest)
    (taken : s.proceedDiscarding thread tasks rest = some turn) :
    s.Follows thread (s.frameDeed now (s.stack thread)) turn.scheduler := by
  rw [top]
  cases tasks with
  | nil =>
      obtain rfl := Option.some.inj taken
      exact follows_turn (by rw [top]; exact .close rfl)
  | cons task others =>
      obtain ⟨barrier, discarded, rfl⟩ := Option.map_eq_some_iff.mp taken
      exact follows_turn (by rw [top]; exact .discard discarded)

theorem follows_proceedJoining {s : Scheduler ν} {thread : ThreadId} {rest : Stack ν}
    {turn : Turn ν} (top : s.stack thread = .joining :: rest)
    (taken : s.proceedJoining thread rest = some turn) :
    s.Follows thread .aside turn.scheduler := by
  unfold proceedJoining at taken
  split at taken
  · obtain rfl := Option.some.inj taken
    exact follows_turn (by rw [top]; exact .close rfl)
  · split at taken
    · obtain rfl := Option.some.inj taken
      exact follows_turn (by rw [top]; exact .close rfl)
    · obtain rfl := Option.some.inj taken
      exact follows_turn (by rw [top]; exact .close rfl)
    all_goals cases taken

theorem follows_proceed {s : Scheduler ν} {thread : ThreadId} {now : Instant} {turn : Turn ν}
    (taken : s.proceed thread now = some turn) :
    s.Follows thread (s.frameDeed now (s.stack thread)) turn.scheduler := by
  unfold proceed at taken
  split at taken
  · cases taken
  · next frame rest top =>
    split at taken
    · obtain rfl := Option.some.inj taken
      rw [top]
      exact follows_proceedDeciding top
    · exact follows_proceedStarting top taken
    · cases taken
    · obtain rfl := Option.some.inj taken
      rw [top]
      exact follows_proceedFinishing top
    · obtain rfl := Option.some.inj taken
      rw [top]
      exact follows_proceedReplaying top
    · obtain rfl := Option.some.inj taken
      exact follows_proceedWaiting top
    · obtain rfl := Option.some.inj taken
      rw [top]
      exact follows_turn (by rw [top]; exact .announce)
    · exact follows_proceedDiscarding top taken
    · obtain rfl := Option.some.inj taken
      rw [top]
      exact follows_turn (by rw [top]; exact .close rfl)
    · obtain rfl := Option.some.inj taken
      rw [top]
      exact follows_turn (by rw [top]; exact .guard)
    · obtain rfl := Option.some.inj taken
      rw [top]
      have top' : { s with lock := none }.stack thread = .refusing :: rest := top
      exact .of_lock (follows_turn (by rw [top']; exact .close rfl))
    · rw [top]
      exact follows_proceedJoining top taken
    · obtain rfl := Option.some.inj taken
      rw [top]
      exact follows_turn (by rw [top]; exact .close rfl)
    · obtain rfl := Option.some.inj taken
      exact follows_proceedRaising top

/-! ## The worker of the timer -/

theorem follows_withTimer (s : Scheduler ν) (thread : ThreadId) (timer : Timer TaskId) :
    s.Follows thread .aside (s.withTimer timer) where
  transition := .aside (Nat.le_refl _)
  others := fun _ _ => rfl
  calls := .inl rfl
  number := rfl
  worker := rfl

theorem follows_work {s : Scheduler ν} {thread : ThreadId} {now : Instant} {turn : Turn ν}
    (taken : s.work thread now = some turn) : s.Follows thread .aside turn.scheduler := by
  unfold work at taken
  split at taken
  · next timer _ idle =>
    split at taken
    · cases taken
    · split at taken
      · cases taken
      · cases taken
      · obtain rfl := Option.some.inj taken
        exact s.follows_withTimer thread _
      · split at taken
        · obtain rfl := Option.some.inj taken
          exact s.follows_withTimer thread _
        · obtain rfl := Option.some.inj taken
          exact s.follows_withTimer thread _
        · next key task timer polled =>
          obtain rfl := Option.some.inj taken
          -- The callback of a dropped scheduler leads nowhere, and its entry is used up.
          have transition : Transition s.barrier [] .aside (s.withTimer timer).barrier
              ((s.withTimer timer).calling task) := by
            rcases (s.withTimer timer).calling_cases task with none | one
            · rw [none]
              exact .aside (Nat.le_refl _)
            · rw [one]
              exact .work
          refine ⟨?_, fun _ ne => (s.withTimer timer).stack_turn_of_ne _ _ _ _ ne,
            .inr ⟨_, rfl⟩, rfl, rfl⟩
          rwa [barrier_turn, stack_turn_self, idle]
  · cases taken

/-- **Every step is a transition** of the thread that makes it. -/
theorem follows_of_step {s : Scheduler ν} {thread : ThreadId} {now : Instant} {move : Move ν}
    {turn : Turn ν} (taken : s.step thread now move = some turn) :
    s.Follows thread (s.deed thread now move) turn.scheduler := by
  have taken := attempt_of_step taken
  cases move with
  | request request => exact follows_request taken
  | endBody how => exact follows_endBody taken
  | proceed => exact follows_proceed taken
  | work => exact follows_work taken

end Scheduler

end TaskBarrier
