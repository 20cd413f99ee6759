import TaskBarrier.Proofs.CleanSlate
import TaskBarrier.Proofs.Execution
import TaskBarrier.Proofs.Plan

/-!
# The stations of an await

From the request on which it begins to the step with which it returns, the call of an await stands
at one *station* after another.  It replays the hold queue, one task at a time, each of them decided
upon, executed and finished; it waits; its reset drops tasks, whose bodies are thrown away one by
one; and it returns.  A panic takes it out of the replay.  On a thread that is unwinding already,
the guard of the call comes before the return, with a second reset.

A replayed body is user code, and may make any calls of its own, awaits included.  They stand on the
body, and the await below stays where it is until the body comes to its end.

## Main Definitions

* `Await`, `Await.Outcome`: a call, and how it comes to its end.
* `Await.Station`, `Await.frames`: where a call stands, and what its thread has left to do then.
* `Await.Next`: from one station to the next.
* `Await.Progress`: what is known of the steps of a call that stands at a station.

The main statements are `Await.next` about one step, and `Await.progress` about all that can happen
after the request.
-/

namespace TaskBarrier

variable {ν : Type}

/-- One call of an await. -/
structure Await (ν : Type) where
  thread : ThreadId
  /-- When the call was made. -/
  start : Instant
  manner : Manner
  /-- What the call stands on. -/
  base : Stack ν

namespace Await

/-- How the call of an await comes to its end. -/
inductive Outcome where
  /-- Nothing was outstanding. -/
  | settled
  /-- The budget was used up. -/
  | timedOut (remaining : Nat) (budget : Duration)
  /-- A panic has left the call. -/
  | unwound (panic : Panic)
  deriving DecidableEq

/-- How the cycle ends with the call. -/
def Outcome.ending : Outcome → Ending
  | settled => .settled
  | timedOut _ _ => .timedOut
  | unwound _ => .unwound

/-- The panic that has left the call. -/
def Outcome.panic? : Outcome → Option Panic
  | settled | timedOut _ _ => none
  | unwound panic => some panic

/-- What a call still does that has come to its outcome and reset the barrier. -/
inductive Exit where
  /-- A success has to be logged, and where the thread is unwinding the guard has to look. -/
  | whole
  /-- The guard has to reset the barrier. -/
  | guard
  /-- The call only has to return. -/
  | last
  deriving DecidableEq

/-- Where the call of an await stands. -/
inductive Station (ν : Type) where
  /-- The hold queue is replayed, or a panic that leaves the replay comes to the await. -/
  | replaying (panic : Option Panic)
  /-- A replayed task is about to be executed. -/
  | starting (task : TaskId)
  /-- Its body is being executed, and has calls in progress itself. -/
  | executing (inner : Stack ν) (task : TaskId)
  /-- The body has ended, possibly with a panic. -/
  | finishing (task : TaskId) (panic : Option Panic)
  /-- The body of a task that was doomed has to be thrown away. -/
  | burying (tasks : List TaskId) (panic : Option Panic)
  /-- The hold queue is empty, and the await looks from time to time whether it can end. -/
  | waiting (deadline wake : Instant)
  /-- The barrier has been reset, which has to be announced. -/
  | dropping (tasks : List TaskId) (outcome : Outcome) (exit : Exit)
  /-- The bodies of the dropped tasks have to be thrown away. -/
  | discarding (tasks : List TaskId) (outcome : Outcome) (exit : Exit)
  /-- The call is about to be over. -/
  | ending (outcome : Outcome) (exit : Exit)

/-- The outcome of a call that has come to one. -/
def Station.outcome? : Station ν → Option Outcome
  | dropping _ outcome _ | discarding _ outcome _ | ending outcome _ => some outcome
  | _ => none

/-- What a call that has come to its outcome still does. -/
def Station.exit? : Station ν → Option Exit
  | dropping _ _ exit | discarding _ _ exit | ending _ exit => some exit
  | _ => none

/-- The panic that leaves the replay. -/
def Station.panic? : Station ν → Option Panic
  | replaying panic | finishing _ panic | burying _ panic => panic
  | dropping _ outcome _ | discarding _ outcome _ | ending outcome _ => outcome.panic?
  | _ => none

/-- Whether user code decides what comes next. -/
def Station.isUser : Station ν → Bool
  | executing _ _ => true
  | _ => false

variable (await : Await ν)

/-- The stack of a call that replays, and of one that a panic is about to leave. -/
def replay : Option Panic → Stack ν
  | none => .awaiting await.start await.manner .replaying :: await.base
  | some panic => .raising panic :: .awaiting await.start await.manner .replaying :: await.base

/-- The frame with which a call returns. -/
def verdict : Outcome → Frame ν
  | .settled => .answering .settled
  | .timedOut remaining budget =>
      let failure := Failure.timedOut remaining budget
      if await.manner.strict then .raising (.ofFailure failure) else .answering (.failed failure)
  | .unwound panic => .raising panic

/-- What is left to do of a call on its way out. -/
def exit (outcome : Outcome) : Exit → Stack ν
  | .whole =>
      match outcome with
      | .settled => await.manner.succeeding
      | .timedOut remaining budget => await.manner.failing (.timedOut remaining budget)
      | .unwound panic => [.raising panic]
  | .guard => [.guarding, await.verdict outcome]
  | .last => [await.verdict outcome]

/-- What the caller gets to know in the end. -/
def signal : Outcome → Signal ν
  | .settled => .answer .settled
  | .timedOut remaining budget =>
      let failure := Failure.timedOut remaining budget
      if await.manner.strict then .unwound (.ofFailure failure) else .answer (.failed failure)
  | .unwound panic => .unwound panic

/-- What is left to do on the thread of a call. -/
def frames : Station ν → Stack ν
  | .replaying panic => await.replay panic
  | .starting task => .run task (.starting true) :: await.replay none
  | .executing inner task => inner ++ .run task .executing :: await.replay none
  | .finishing task panic => .run task .finishing :: await.replay panic
  | .burying tasks panic => .discarding tasks :: await.replay panic
  | .waiting deadline wake =>
      .awaiting await.start await.manner (.waiting deadline wake) :: await.base
  | .dropping tasks outcome exit => .dropping tasks :: await.exit outcome exit ++ await.base
  | .discarding tasks outcome exit => .discarding tasks :: await.exit outcome exit ++ await.base
  | .ending outcome exit => await.exit outcome exit ++ await.base

/-- What is left to do on the thread of a call, which may be over. -/
def stack : Option (Station ν) → Stack ν
  | some station => await.frames station
  | none => await.base

/-! ## One step -/

/-- **From one station to the next**, with a step of the call's thread.  There is none behind the
last, with which the call is over. -/
inductive Next (await : Await ν) (now : Instant) (b : Barrier ν) :
    Station ν → Move ν → Deed → Barrier ν → Option (Station ν) → Prop
  /-- A held task is replayed. -/
  | replay {task : TaskId} (answer : b.popHeld.answer = .run task) :
      Next await now b (.replaying none) .proceed (.replay (.run task)) b.popHeld.barrier
        (some (.starting task))
  /-- The hold queue is empty, and the wait begins. -/
  | drained {deadline : Instant} (empty : b.held = [])
      (affords : await.start.after? b.config.awaitBudget = some deadline) :
      Next await now b (.replaying none) .proceed (.replay .done) b (some (.waiting deadline now))
  /-- The hold queue is empty, and no clock can show the deadline. -/
  | overflow (empty : b.held = []) (beyond : await.start.after? b.config.awaitBudget = none) :
      Next await now b (.replaying none) .proceed (.replay .done) b
        (some (.replaying (some .instantOverflow)))
  /-- A panic leaves the await. -/
  | unwind {panic : Panic} :
      Next await now b (.replaying (some panic)) .proceed (.reset .unwound b.dropped) b.reset
        (some (.dropping b.dropped (.unwound panic) .whole))
  /-- The execution of a replayed body begins. -/
  | enter {task : TaskId} :
      Next await now b (.starting task) .proceed (.enter task true) (b.modify task (·.entered))
        (some (.executing [] task))
  /-- A replayed body makes a call. -/
  | call {inner : Stack ν} {task : TaskId} {request : Request} {deed : Deed} {b' : Barrier ν}
      (continues : deed.isReset = false) :
      Next await now b (.executing [] task) (.request request) deed b'
        (some (.executing inner task))
  /-- A call that a replayed body has made goes on. -/
  | inner {inner inner' : Stack ν} {task : TaskId} {move : Move ν} {deed : Deed} {b' : Barrier ν}
      (calls : inner ≠ []) :
      Next await now b (.executing inner task) move deed b' (some (.executing inner' task))
  /-- A replayed body returns. -/
  | returned {task : TaskId} {value : Option ν} :
      Next await now b (.executing [] task) (.endBody (.returned value)) (.leave task)
        (b.leaveBody task value) (some (.finishing task none))
  /-- A replayed body panics. -/
  | panicked {task : TaskId} {panic : Panic} :
      Next await now b (.executing [] task) (.endBody (.panicked panic)) (.leave task)
        (b.leaveBody task none) (some (.finishing task (some panic)))
  /-- A replayed task is finished. -/
  | finish {task : TaskId} {panic : Option Panic} (intact : (b.finish task).answer = false) :
      Next await now b (.finishing task panic) .proceed (.finish task) (b.finish task).barrier
        (some (.replaying panic))
  /-- A replayed task is finished, and it was doomed. -/
  | doomed {task : TaskId} {panic : Option Panic} (doomed : (b.finish task).answer = true) :
      Next await now b (.finishing task panic) .proceed (.finish task) (b.finish task).barrier
        (some (.burying [task] panic))
  /-- The body of a doomed task is thrown away. -/
  | bury {task : TaskId} {others : List TaskId} {panic : Option Panic} :
      Next await now b (.burying (task :: others) panic) .proceed (.discard task)
        (b.modify task (·.discard)) (some (.burying others panic))
  /-- No body is left to be thrown away. -/
  | buried {panic : Option Panic} :
      Next await now b (.burying [] panic) .proceed .aside b (some (.replaying panic))
  /-- The await goes on waiting. -/
  | look {deadline wake wake' : Instant} (outstanding : 0 < b.outstanding)
      (early : now.nanos < deadline.nanos) :
      Next await now b (.waiting deadline wake) .proceed .aside b (some (.waiting deadline wake'))
  /-- Nothing is outstanding. -/
  | settle {deadline wake : Instant} (settled : b.outstanding = 0) :
      Next await now b (.waiting deadline wake) .proceed (.reset .settled b.dropped) b.reset
        (some (.dropping b.dropped .settled .whole))
  /-- The deadline has come. -/
  | expire {deadline wake : Instant} (outstanding : 0 < b.outstanding)
      (reached : deadline.nanos ≤ now.nanos) :
      Next await now b (.waiting deadline wake) .proceed (.reset .timedOut b.dropped) b.reset
        (some (.dropping b.dropped (.timedOut b.outstanding b.config.awaitBudget) .whole))
  /-- The end of the cycle is announced. -/
  | announce {tasks : List TaskId} {outcome : Outcome} {exit : Exit} :
      Next await now b (.dropping tasks outcome exit) .proceed .aside b
        (some (.discarding tasks outcome exit))
  /-- The body of a dropped task is thrown away. -/
  | discard {task : TaskId} {others : List TaskId} {outcome : Outcome} {exit : Exit} :
      Next await now b (.discarding (task :: others) outcome exit) .proceed (.discard task)
        (b.modify task (·.discard)) (some (.discarding others outcome exit))
  /-- No body is left to be thrown away. -/
  | discarded {outcome : Outcome} {exit : Exit} :
      Next await now b (.discarding [] outcome exit) .proceed .aside b
        (some (.ending outcome exit))
  /-- A success is logged where the guard has to look afterwards. -/
  | log (unwinding : await.manner.unwinding = true) :
      Next await now b (.ending .settled .whole) .proceed .aside b (some (.ending .settled .guard))
  /-- The guard finds the thread unwinding. -/
  | guard {outcome : Outcome} {exit : Exit}
      (looks : exit = .guard ∨ exit = .whole ∧ await.manner.unwinding = true ∧
        ∃ remaining budget, outcome = .timedOut remaining budget) :
      Next await now b (.ending outcome exit) .proceed (.reset .guarded b.dropped) b.reset
        (some (.dropping b.dropped outcome .last))
  /-- The call is over. -/
  | answer {outcome : Outcome} {exit : Exit}
      (exits : exit = .last ∨ exit = .whole ∧
        (await.manner.unwinding = true → ∃ panic, outcome = .unwound panic)) :
      Next await now b (.ending outcome exit) .proceed .aside b none

namespace Next

variable {await} {now : Instant} {b b' : Barrier ν} {station : Station ν} {move : Move ν}
  {deed : Deed}

/-- A call is over with the step that lets it return. -/
theorem of_none (next : await.Next now b station move deed b' none) :
    ∃ outcome exit, station = .ending outcome exit ∧ b' = b ∧ deed = .aside := by
  cases next with
  | answer => exact ⟨_, _, rfl, rfl, rfl⟩

end Next

end Await

/-- What is below a body that is being executed stays there while calls of the body are in
progress. -/
theorem Transition.of_inner {b b' : Barrier ν} {inner below stack' : Stack ν} {task : TaskId}
    {deed : Deed}
    (transition : Transition b (inner ++ .run task .executing :: below) deed b' stack')
    (calls : inner ≠ []) : ∃ inner', stack' = inner' ++ .run task .executing :: below := by
  obtain ⟨top, inner, rfl⟩ := List.exists_cons_of_ne_nil calls
  generalize whole : top :: inner ++ .run task .executing :: below = stack at transition
  cases transition with
  | aside | accept | read => exact ⟨top :: inner, whole.symm⟩
  | @ask _ opening answer =>
      exact ⟨opening ++ answer :: top :: inner, by rw [← whole]; simp⟩
  | withdraw | cancel | await =>
      rw [← whole]
      first
      | exact ⟨_ :: _ :: top :: inner, rfl⟩
      | exact ⟨_ :: top :: inner, rfl⟩
  | refuse =>
      rw [← whole]
      exact ⟨_ :: _ :: top :: inner, rfl⟩
  | returned | run | enter | skip | passOver | wait | look | guard | announce | discard =>
      obtain ⟨-, rfl⟩ := List.cons.inj whole
      exact ⟨_ :: inner, rfl⟩
  | panicked | replay | overflow =>
      obtain ⟨-, rfl⟩ := List.cons.inj whole
      exact ⟨_ :: _ :: inner, rfl⟩
  | settle | expire =>
      obtain ⟨-, rfl⟩ := List.cons.inj whole
      exact ⟨_ :: (_ ++ inner), (List.append_assoc ..).symm⟩
  | pass | close =>
      obtain ⟨-, rfl⟩ := List.cons.inj whole
      exact ⟨inner, rfl⟩
  | @finish _ _ above =>
      obtain ⟨-, rfl⟩ := List.cons.inj whole
      exact ⟨above ++ inner, (List.append_assoc ..).symm⟩
  | unwind | escape =>
      -- The panic leaves a frame of a call of the body, since the body itself does not await.
      obtain ⟨-, beneath⟩ := List.cons.inj whole
      cases inner with
      | nil => cases beneath
      | cons next inner =>
          obtain ⟨-, rfl⟩ := List.cons.inj beneath
          first
          | exact ⟨_ :: _ :: inner, rfl⟩
          | exact ⟨inner, rfl⟩
  | work => cases whole

/-- What user code can do in a body that has no calls in progress: end it, or make a call. -/
theorem Transition.of_executing {b b' : Barrier ν} {below stack' : Stack ν} {task : TaskId}
    {deed : Deed} (transition : Transition b (.run task .executing :: below) deed b' stack') :
    (∃ inner, stack' = inner ++ .run task .executing :: below ∧ deed.isReset = false) ∨
      deed = .leave task := by
  cases transition with
  | aside | accept | read => exact .inl ⟨[], rfl, rfl⟩
  | @ask _ opening answer =>
      exact .inl ⟨opening ++ [answer], by simp, rfl⟩
  | refuse | withdraw => exact .inl ⟨[_, _], rfl, rfl⟩
  | cancel | await => exact .inl ⟨[_], rfl, rfl⟩
  | returned | panicked => exact .inr rfl
  | close closing => cases closing

namespace Await

variable {await : Await ν} {s : Scheduler ν} {now : Instant} {turn : Turn ν}

/-- The call was made by user code, and not by the worker of the timer. -/
structure Called (await : Await ν) (s : Scheduler ν) : Prop where
  isUser : Stack.isUser await.base = true
  unworked : await.base = [] → s.worker ≠ some await.thread

/-- Who has made a call does not change. -/
theorem Called.of_path (called : await.Called s) {later : History ν} {s' : Scheduler ν}
    (path : Path s later s') : await.Called s' :=
  ⟨called.isUser, fun empty => path.keeps.2.1.symm ▸ called.unworked empty⟩

/-- A panic that comes to the caller is one that the caller gets to see. -/
theorem Called.proceedRaising_eq (called : await.Called s) (panic : Panic) :
    s.proceedRaising await.thread panic await.base =
      s.turn s.barrier await.thread await.base (.unwound panic) [] := by
  obtain ⟨isUser, unworked⟩ := called
  unfold Stack.isUser at isUser
  split at isUser
  · next empty =>
    have nobody : s.firingKey? await.thread = none := if_neg (unworked empty)
    simp only [Scheduler.proceedRaising, empty, nobody]
  · next body =>
    simp only [Scheduler.proceedRaising, body]
  · cases isUser

/-- A request leaves no body. -/
theorem requestDeed_ne_leave (s : Scheduler ν) (now : Instant) (request : Request)
    (task : TaskId) : s.requestDeed now request ≠ .leave task := by
  intro leave
  cases request with
  | accept | cancel | cancelByHandle =>
      simp only [Scheduler.requestDeed] at leave
      split at leave <;> cases leave
  | _ => cases leave

/-- What user code does in a replayed body. -/
theorem next_of_isUser {inner : Stack ν} {task : TaskId} {move : Move ν}
    (stands : s.stack await.thread = await.frames (.executing inner task))
    (taken : s.step await.thread now move = some turn) :
    ∃ after, await.Next now s.barrier (.executing inner task) move (s.deed await.thread now move)
        turn.scheduler.barrier (some after) ∧
      turn.scheduler.stack await.thread = await.frames after := by
  have transition := (Scheduler.follows_of_step taken).transition
  rw [show s.stack await.thread = _ from stands] at transition
  by_cases calls : inner = []
  · subst calls
    have top : s.stack await.thread = .run task .executing :: await.replay none := stands
    cases move with
    | request request =>
        rcases transition.of_executing with ⟨inner', eq, quiet⟩ | leave
        · exact ⟨.executing inner' task, .call quiet, eq⟩
        · exact absurd leave (requestDeed_ne_leave s now request task)
    | endBody how =>
        have leave : s.deed await.thread now (.endBody how) = .leave task := by
          simp [Scheduler.deed, top]
        have taken := Scheduler.attempt_of_step taken
        simp only [Scheduler.attempt, Scheduler.endBody, top] at taken
        obtain rfl := Option.some.inj taken
        rw [leave, Scheduler.stack_turn_self]
        cases how with
        | returned value => exact ⟨.finishing task none, .returned, rfl⟩
        | panicked panic => exact ⟨.finishing task (some panic), .panicked, rfl⟩
    | proceed =>
        have taken := Scheduler.attempt_of_step taken
        simp only [Scheduler.attempt, Scheduler.proceed, top] at taken
        cases taken
    | work =>
        have taken := Scheduler.attempt_of_step taken
        simp only [Scheduler.attempt, Scheduler.work] at taken
        split at taken
        · next empty =>
          rw [top] at empty
          cases empty
        · cases taken
  · obtain ⟨inner', eq⟩ := transition.of_inner calls
    exact ⟨.executing inner' task, .inner calls, eq⟩

/-- What a call does on its way out is no user code. -/
theorem isUser_exit (await : Await ν) (outcome : Outcome) (exit : Exit) :
    Stack.isUser (await.exit outcome exit ++ await.base) = false := by
  have verdict (rest : Stack ν) : Stack.isUser (await.verdict outcome :: rest) = false := by
    unfold Await.verdict
    split
    · rfl
    · dsimp only
      split <;> rfl
    · rfl
  cases exit with
  | guard => rfl
  | last => exact verdict _
  | whole =>
      cases outcome with
      | settled =>
          simp only [Await.exit, Manner.succeeding]
          split <;> rfl
      | timedOut =>
          simp only [Await.exit, Manner.failing]
          split
          · rfl
          · exact verdict _
      | unwound => rfl

/-- On its way out a call has something left to do. -/
theorem exit_ne_nil (await : Await ν) (outcome : Outcome) (exit : Exit) :
    await.exit outcome exit ≠ [] := by
  cases exit with
  | guard | last => exact List.cons_ne_nil _ _
  | whole =>
      cases outcome with
      | settled =>
          simp only [Await.exit, Manner.succeeding]
          split <;> exact List.cons_ne_nil _ _
      | timedOut =>
          simp only [Await.exit, Manner.failing]
          split <;> exact List.cons_ne_nil _ _
      | unwound => exact List.cons_ne_nil _ _

/-- Where a call does not wait for user code, none comes next. -/
theorem isUser_frames {station : Station ν} (busy : station.isUser = false) :
    Stack.isUser (await.frames station) = false := by
  cases station with
  | replaying panic => cases panic <;> rfl
  | executing => cases busy
  | ending outcome exit => exact await.isUser_exit outcome exit
  | _ => rfl

/-- What the step of a call comes to leads to the next station. -/
structure Leads (await : Await ν) (s : Scheduler ν) (now : Instant) (station : Station ν)
    (move : Move ν) (deed : Deed) (turn : Turn ν) (after : Option (Station ν)) : Prop where
  next : await.Next now s.barrier station move deed turn.scheduler.barrier after
  stack : turn.scheduler.stack await.thread = await.stack after
  /-- The caller gets to know the outcome. -/
  told : after = none → ∀ outcome exit, station = .ending outcome exit →
    turn.signal = await.signal outcome

/-- A call that goes on has nothing to tell. -/
theorem leads_on {station after : Station ν} {move : Move ν} {deed : Deed}
    (next : await.Next now s.barrier station move deed turn.scheduler.barrier (some after))
    (stack : turn.scheduler.stack await.thread = await.frames after) :
    await.Leads s now station move deed turn (some after) :=
  ⟨next, stack, nofun⟩

/-- A turn that leaves the stack of the next station behind leads there. -/
theorem leads_turn {station : Station ν} {move : Move ν} {deed : Deed} {barrier : Barrier ν}
    {signal : Signal ν} {events : List Event} (after : Station ν)
    (next : await.Next now s.barrier station move deed barrier (some after)) :
    await.Leads s now station move deed
      (s.turn barrier await.thread (await.frames after) signal events) (some after) :=
  leads_on next (s.stack_turn_self ..)

/-- A turn with which the call returns tells the outcome. -/
theorem leads_home (await : Await ν) (s : Scheduler ν) (now : Instant) {outcome : Outcome}
    {exit : Exit}
    (exits : exit = .last ∨ exit = .whole ∧
      (await.manner.unwinding = true → ∃ panic, outcome = .unwound panic))
    {signal : Signal ν} (events : List Event) (told : signal = await.signal outcome) :
    await.Leads s now (.ending outcome exit) .proceed .aside
      (s.turn s.barrier await.thread await.base signal events) none :=
  ⟨.answer exits, s.stack_turn_self .., fun _ _ _ same => (Station.ending.inj same).1 ▸ told⟩

/-- The replay goes on, or comes to its end. -/
theorem leads_of_replaying (sound : s.Sound) (now : Instant) :
    ∃ after, await.Leads s now (.replaying none) .proceed (.replay s.barrier.popHeld.answer)
      (s.proceedReplaying await.thread now await.start await.manner await.base) after := by
  simp only [Scheduler.proceedReplaying]
  cases answer : s.barrier.popHeld.answer with
  | run task => exact ⟨_, leads_turn (.starting task) (.replay answer)⟩
  | skipped => exact absurd answer sound.answer_popHeld_ne
  | done =>
      obtain ⟨empty, same⟩ := Scheduler.popHeld_of_done answer
      rw [same]
      cases affords : await.start.after? s.barrier.config.awaitBudget with
      | some deadline =>
          exact ⟨_, leads_turn (.waiting deadline now) (.drained empty affords)⟩
      | none =>
          exact ⟨_, leads_turn (.replaying (some .instantOverflow))
            (.overflow empty affords)⟩

/-- The wait goes on, or comes to its end. -/
theorem leads_of_waiting (await : Await ν) (s : Scheduler ν) (deadline wake now : Instant) :
    ∃ after, await.Leads s now (.waiting deadline wake) .proceed
      (s.frameDeed now (await.frames (.waiting deadline wake)))
      (s.proceedWaiting await.thread now await.start await.manner deadline await.base) after := by
  simp only [frames, Scheduler.frameDeed, Scheduler.proceedWaiting]
  by_cases settled : s.barrier.outstanding = 0
  · simp only [Barrier.check, if_pos settled]
    exact ⟨_, leads_turn (.dropping _ .settled .whole) (.settle settled)⟩
  · have outstanding := Nat.pos_of_ne_zero settled
    by_cases reached : now.reached deadline = true
    · simp only [Barrier.check, if_neg settled, if_pos reached]
      exact ⟨_, leads_turn (.dropping _ (.timedOut _ _) .whole)
        (.expire outstanding (Instant.reached_iff.mp reached))⟩
    · have early := Nat.lt_of_not_le (Instant.reached_iff.not.mp reached)
      simp only [Barrier.check, if_neg settled, if_neg reached]
      exact ⟨_, leads_turn (.waiting deadline _) (.look outstanding early)⟩

/-- A run that an await has replayed is finished. -/
theorem leads_of_finishing (await : Await ν) (s : Scheduler ν) (now : Instant) (task : TaskId)
    (panic : Option Panic) :
    ∃ after, await.Leads s now (.finishing task panic) .proceed (.finish task)
      (s.proceedFinishing await.thread task (await.replay panic)) after := by
  simp only [Scheduler.proceedFinishing]
  cases doomed : (s.barrier.finish task).answer with
  | false => exact ⟨_, leads_turn (.replaying panic) (.finish doomed)⟩
  | true => exact ⟨_, leads_turn (.burying [task] panic) (.doomed doomed)⟩

/-- A call that only has to return does so, or is left by a panic. -/
theorem leads_of_verdict (called : await.Called s) (now : Instant) {outcome : Outcome} {exit : Exit}
    (exits : exit = .last ∨ exit = .whole ∧
      (await.manner.unwinding = true → ∃ panic, outcome = .unwound panic))
    (top : s.stack await.thread = await.verdict outcome :: await.base) :
    ∃ turn after, s.attempt await.thread now .proceed = some turn ∧
      await.Leads s now (.ending outcome exit) .proceed (s.deed await.thread now .proceed) turn
        after := by
  have raised (panic : Panic) (top : s.stack await.thread = .raising panic :: await.base)
      (told : await.signal outcome = .unwound panic) : ∃ turn after,
        s.attempt await.thread now .proceed = some turn ∧ await.Leads s now (.ending outcome exit)
          .proceed (s.deed await.thread now .proceed) turn after := by
    have aside : s.deed await.thread now .proceed = .aside := by
      -- A panic would reset an await below, but the call stands on user code.
      simp only [Scheduler.deed, top]
      have isUser := called.isUser
      unfold Stack.isUser at isUser
      split at isUser
      · next empty => rw [empty]; rfl
      · next body => rw [body]; rfl
      · cases isUser
    rw [aside]
    refine ⟨_, none, ?_, await.leads_home s now exits [] told.symm⟩
    simp only [Scheduler.attempt, Scheduler.proceed, top, called.proceedRaising_eq]
  have answered (answer : Answer ν) (top : s.stack await.thread = .answering answer :: await.base)
      (told : await.signal outcome = .answer answer) : ∃ turn after,
        s.attempt await.thread now .proceed = some turn ∧ await.Leads s now (.ending outcome exit)
          .proceed (s.deed await.thread now .proceed) turn after := by
    have aside : s.deed await.thread now .proceed = .aside := by
      simp only [Scheduler.deed, top]
      rfl
    rw [aside]
    refine ⟨_, none, ?_, await.leads_home s now exits [] told.symm⟩
    simp only [Scheduler.attempt, Scheduler.proceed, top]
  cases outcome with
  | settled => exact answered .settled top rfl
  | unwound panic => exact raised panic top rfl
  | timedOut remaining budget =>
      cases strict : await.manner.strict with
      | true => exact raised _ (by simpa [verdict, strict] using top) (by simp [signal, strict])
      | false => exact answered _ (by simpa [verdict, strict] using top) (by simp [signal, strict])

/-- The guard of a call resets the barrier. -/
theorem leads_of_guard (now : Instant) {outcome : Outcome} {exit : Exit}
    (top : s.stack await.thread = .guarding :: await.verdict outcome :: await.base)
    (looks : exit = .guard ∨ exit = .whole ∧ await.manner.unwinding = true ∧
      ∃ remaining budget, outcome = .timedOut remaining budget) :
    ∃ turn after, s.attempt await.thread now .proceed = some turn ∧
      await.Leads s now (.ending outcome exit) .proceed (s.deed await.thread now .proceed) turn
        after := by
  have resets : s.deed await.thread now .proceed = .reset .guarded s.barrier.dropped := by
    simp only [Scheduler.deed, top]
    rfl
  rw [resets]
  refine ⟨s.proceedGuarding await.thread (await.verdict outcome :: await.base), _, ?_,
    leads_turn (.dropping s.barrier.dropped outcome .last) (.guard looks)⟩
  simp only [Scheduler.attempt, Scheduler.proceed, top]

/-- That an await has succeeded is logged.  The call returns with that, unless its guard has to
look. -/
theorem leads_of_settling (called : await.Called s) (now : Instant)
    (top : s.stack await.thread = await.manner.succeeding ++ await.base) :
    ∃ turn after, s.attempt await.thread now .proceed = some turn ∧
      await.Leads s now (.ending .settled .whole) .proceed (s.deed await.thread now .proceed) turn
        after := by
  have settles {rest : Stack ν} (top : s.stack await.thread = .settling :: rest) :
      s.deed await.thread now .proceed = .aside ∧
        s.attempt await.thread now .proceed = some (s.proceedSettling await.thread rest) := by
    simp only [Scheduler.deed, Scheduler.attempt, Scheduler.proceed, top]
    exact ⟨rfl, trivial⟩
  cases unwinding : await.manner.unwinding with
  | true =>
      have top : s.stack await.thread =
          .settling :: await.frames (.ending .settled .guard) := by
        simpa [Manner.succeeding, unwinding, frames, exit, verdict] using top
      obtain ⟨aside, attempted⟩ := settles top
      rw [aside, attempted]
      exact ⟨_, _, rfl, leads_turn (.ending .settled .guard) (.log unwinding)⟩
  | false =>
      have top : s.stack await.thread = .settling :: await.base := by
        simpa [Manner.succeeding, unwinding] using top
      obtain ⟨aside, attempted⟩ := settles top
      rw [aside, attempted]
      refine ⟨_, none, rfl, await.leads_home s now (.inr ⟨rfl, by simp [unwinding]⟩) [.settled] ?_⟩
      have isUser := called.isUser
      split
      · next guarded =>
        rw [guarded] at isUser
        cases isUser
      · rfl

/-- The call goes on on its way out, or is over. -/
theorem leads_of_ending (called : await.Called s) (now : Instant) {outcome : Outcome} {exit : Exit}
    (stands : s.stack await.thread = await.frames (.ending outcome exit)) :
    ∃ turn after, s.attempt await.thread now .proceed = some turn ∧
      await.Leads s now (.ending outcome exit) .proceed (s.deed await.thread now .proceed) turn
        after := by
  cases exit with
  | last => exact leads_of_verdict called now (.inl rfl) stands
  | guard => exact leads_of_guard now stands (.inl rfl)
  | whole =>
      cases outcome with
      | settled => exact leads_of_settling called now stands
      | unwound panic =>
          exact leads_of_verdict called now (.inr ⟨rfl, fun _ => ⟨panic, rfl⟩⟩) stands
      | timedOut remaining budget =>
          cases unwinding : await.manner.unwinding with
          | true =>
              refine leads_of_guard now ?_ (.inr ⟨rfl, unwinding, remaining, budget, rfl⟩)
              simpa [frames, Await.exit, Manner.failing, unwinding, verdict] using stands
          | false =>
              refine leads_of_verdict called now (.inr ⟨rfl, by simp [unwinding]⟩) ?_
              simpa [frames, Await.exit, Manner.failing, unwinding, verdict] using stands

/-- **A call is never kept from going on** but by user code, and by the lock. -/
theorem proceeds {station : Station ν} (sound : s.Sound) (called : await.Called s)
    (stands : s.stack await.thread = await.frames station) (busy : station.isUser = false)
    (now : Instant) : ∃ turn after, s.attempt await.thread now .proceed = some turn ∧
      await.Leads s now station .proceed (s.deed await.thread now .proceed) turn after := by
  have deed : s.deed await.thread now .proceed = s.frameDeed now (await.frames station) := by
    rw [← stands]
    rfl
  have step : s.attempt await.thread now .proceed = s.proceed await.thread now := rfl
  cases station with
  | executing => cases busy
  | ending outcome exit => exact leads_of_ending called now stands
  | replaying panic =>
      rw [deed]
      cases panic with
      | none =>
          obtain ⟨after, leads⟩ := await.leads_of_replaying sound now
          exact ⟨_, after, by simp only [step, Scheduler.proceed, stands, frames, replay], leads⟩
      | some panic =>
          exact ⟨_, _, by simp only [step, Scheduler.proceed, stands, frames, replay]; rfl,
            leads_turn (.dropping _ (.unwound panic) .whole) .unwind⟩
  | starting task =>
      have entered := Scheduler.attempt_of_step (sound.step_starting stands now)
      have enters : s.frameDeed now (await.frames (.starting task)) = .enter task true := by
        obtain ⟨found, present, fits⟩ := sound.of_run stands
        simp only [frames, Scheduler.frameDeed, fits.enterBody? sound.coherent present]
      rw [deed, enters]
      exact ⟨_, _, entered, leads_turn (.executing [] task) .enter⟩
  | finishing task panic =>
      rw [deed]
      obtain ⟨after, leads⟩ := await.leads_of_finishing s now task panic
      exact ⟨_, after, by simp only [step, Scheduler.proceed, stands, frames], leads⟩
  | burying tasks panic =>
      rw [deed]
      cases tasks with
      | nil =>
          exact ⟨_, _, by
            simp only [step, Scheduler.proceed, stands, frames, Scheduler.proceedDiscarding]; rfl,
            leads_turn (.replaying panic) .buried⟩
      | cons task others =>
          exact ⟨_, _, Scheduler.attempt_of_step (sound.step_discarding stands now),
            leads_turn (.burying others panic) .bury⟩
  | waiting deadline wake =>
      rw [deed]
      obtain ⟨after, leads⟩ := await.leads_of_waiting s deadline wake now
      exact ⟨_, after, by simp only [step, Scheduler.proceed, stands, frames], leads⟩
  | dropping tasks outcome exit =>
      rw [deed]
      exact ⟨_, _, by simp only [step, Scheduler.proceed, stands, frames, List.cons_append]; rfl,
        leads_turn (.discarding tasks outcome exit) .announce⟩
  | discarding tasks outcome exit =>
      rw [deed]
      cases tasks with
      | nil =>
          exact ⟨_, _, by
            simp only [step, Scheduler.proceed, stands, frames, List.cons_append,
              Scheduler.proceedDiscarding]; rfl,
            leads_turn (.ending outcome exit) .discarded⟩
      | cons task others =>
          exact ⟨_, _, Scheduler.attempt_of_step (sound.step_discarding stands now),
            leads_turn (.discarding others outcome exit) .discard⟩

/-- **From one station to the next.**  Every step that the thread of a call makes leads to the next
station, or lets the call return. -/
theorem next {station : Station ν} (sound : s.Sound) (called : await.Called s)
    (stands : s.stack await.thread = await.frames station) {move : Move ν}
    (taken : s.step await.thread now move = some turn) :
    ∃ after, await.Leads s now station move (s.deed await.thread now move) turn after := by
  cases user : station.isUser with
  | true =>
      cases station with
      | executing inner task =>
          obtain ⟨after, next, eq⟩ := next_of_isUser stands taken
          exact ⟨some after, leads_on next eq⟩
      | _ => cases user
  | false =>
      obtain rfl := Scheduler.eq_proceed taken (stands ▸ await.isUser_frames user)
      obtain ⟨_, after, attempted, leads⟩ := proceeds sound called stands user now
      obtain rfl := Option.some.inj ((Scheduler.attempt_of_step taken).symm.trans attempted)
      exact ⟨after, leads⟩

end Await

/-! ## All steps of a call -/

namespace Await

variable (await : Await ν)

/-- Whether a step is made by the call itself or its guard, if it is a reset.  The awaits of
replayed bodies stand higher on the stack. -/
def isOwn (stride : Stride ν) : Bool :=
  stride.thread == await.thread &&
    decide ((stride.before.stack await.thread).length ≤ await.base.length + 2)

/-- Whether a step is the reset with which the call itself ends its cycle. -/
def ends (stride : Stride ν) : Bool := await.isOwn stride && stride.deed.endsAwait

/-- Whether a step is the reset of the guard of the call. -/
def guards (stride : Stride ν) : Bool := await.isOwn stride && stride.deed.isGuarded

/-- What a call has seen whose reset leads to the given outcome. -/
inductive Saw (reset : Stride ν) : Outcome → Prop
  /-- The call has waited until nothing was outstanding. -/
  | settled {deadline wake : Instant}
      (waited : reset.before.stack await.thread = await.frames (.waiting deadline wake))
      (affords : await.start.after? reset.before.barrier.config.awaitBudget = some deadline)
      (settled : reset.before.barrier.outstanding = 0) : Saw reset .settled
  /-- The call has waited until its deadline. -/
  | timedOut {deadline wake : Instant}
      (waited : reset.before.stack await.thread = await.frames (.waiting deadline wake))
      (affords : await.start.after? reset.before.barrier.config.awaitBudget = some deadline)
      (outstanding : 0 < reset.before.barrier.outstanding)
      (reached : deadline.nanos ≤ reset.now.nanos) :
      Saw reset (.timedOut reset.before.barrier.outstanding
        reset.before.barrier.config.awaitBudget)
  /-- A panic has left the replay. -/
  | unwound {panic : Panic}
      (raising : reset.before.stack await.thread = await.frames (.replaying (some panic))) :
      Saw reset (.unwound panic)

/-- The call has reset the barrier once, which leads to the given outcome. -/
structure Resets (reset : Stride ν) (outcome : Outcome) : Prop where
  own : reset.thread = await.thread
  deed : reset.deed = .reset outcome.ending reset.before.barrier.dropped
  barrier : reset.turn.scheduler.barrier = reset.before.barrier.reset
  saw : await.Saw reset outcome

/-- The call has ended its cycle with one of the steps, and with no other. -/
def EndedWith (since : History ν) (outcome : Outcome) : Prop :=
  ∃ between reset before, since = between ++ reset :: before ∧ await.Resets reset outcome ∧
    ∀ stride ∈ between ++ before, await.ends stride = false

/-- Why a panic has left the replay: no clock can show the deadline, or a body has panicked. -/
def Raised (config : Config) (since : History ν) (panic : Panic) : Prop :=
  await.start.after? config.awaitBudget = none ∧ panic = .instantOverflow ∨
    ∃ stride ∈ since, stride.thread = await.thread ∧ stride.move = .endBody (.panicked panic)

/-- **What is known of the steps of a call** that stands at the given station. -/
structure Progress (config : Config) (since : History ν) (station : Station ν) : Prop where
  /-- The cycle goes on until the call comes to its outcome. -/
  unended : station.outcome? = none → ∀ stride ∈ since, await.ends stride = false
  /-- The outcome is that of a reset. -/
  ended : ∀ outcome, station.outcome? = some outcome → await.EndedWith since outcome
  /-- A panic has come from somewhere. -/
  raised : ∀ panic, station.panic? = some panic → await.Raised config since panic
  /-- The call waits until its budget is used up. -/
  affords : ∀ deadline wake, station = .waiting deadline wake →
    await.start.after? config.awaitBudget = some deadline
  /-- The guard resets the barrier only where the thread is unwinding, -/
  guarded : ∀ stride ∈ since, await.guards stride = true → await.manner.unwinding = true
  /-- and not where a panic has left the call. -/
  exits : (station.exit? = none ∨ station.exit? = some .whole) ∨
    await.manner.unwinding = true ∧ station.panic? = none

variable {await} {config : Config} {since : History ν} {station : Station ν} {stride : Stride ν}

/-- What has ended with one of the steps stays so while the call does not end another cycle. -/
theorem EndedWith.cons {outcome : Outcome} (ended : await.EndedWith since outcome)
    (continues : await.ends stride = false) : await.EndedWith (stride :: since) outcome := by
  obtain ⟨between, reset, before, rfl, resets, others⟩ := ended
  exact ⟨stride :: between, reset, before, rfl, resets,
    List.forall_mem_cons.mpr ⟨continues, others⟩⟩

/-- A reset with which a call ends its cycle is one of the call itself. -/
theorem Resets.ends {reset : Stride ν} {outcome : Outcome} (resets : await.Resets reset outcome) :
    await.ends reset = true := by
  obtain ⟨own, deed, -, saw⟩ := resets
  have endsAwait : reset.deed.endsAwait = true := by
    rw [deed]
    cases outcome <;> rfl
  have low : (reset.before.stack await.thread).length ≤ await.base.length + 2 := by
    cases saw with
    | settled waited | timedOut waited =>
        rw [waited]
        exact Nat.le_succ _
    | unwound raising =>
        rw [raising]
        exact Nat.le_refl _
  simp [Await.ends, isOwn, own, endsAwait, low]

/-- It is no reset of a guard. -/
theorem Resets.not_guards {reset : Stride ν} {outcome : Outcome}
    (resets : await.Resets reset outcome) : await.guards reset = false := by
  have calm : reset.deed.isGuarded = false := by
    rw [resets.deed]
    cases outcome <;> rfl
  simp [guards, calm]

/-- A call resets the barrier once. -/
theorem EndedWith.of_ends {outcome : Outcome} (ended : await.EndedWith since outcome)
    {reset : Stride ν} (member : reset ∈ since) (ends : await.ends reset = true) :
    await.Resets reset outcome := by
  obtain ⟨between, only, before, rfl, resets, others⟩ := ended
  rcases List.mem_append.mp member with early | late
  · cases ends.symm.trans (others reset (List.mem_append_left _ early))
  · rcases List.mem_cons.mp late with rfl | late
    · exact resets
    · cases ends.symm.trans (others reset (List.mem_append_right _ late))

/-- A panic that has been raised has been raised. -/
theorem Raised.cons {panic : Panic} (raised : await.Raised config since panic)
    (stride : Stride ν) : await.Raised config (stride :: since) panic :=
  raised.imp_right fun ⟨origin, member, own, panics⟩ => ⟨origin, .tail _ member, own, panics⟩

/-- A step that does not end the cycle of the call leaves its outcome as it is. -/
theorem Progress.goOn {station' : Station ν} (progress : await.Progress config since station)
    (continues : await.ends stride = false ∧
      (await.guards stride = true → await.manner.unwinding = true))
    (same : station'.outcome? = station.outcome?)
    (raised : ∀ panic, station'.panic? = some panic → station.panic? = some panic ∨
      await.Raised config (stride :: since) panic)
    (affords : ∀ deadline wake, station' = .waiting deadline wake →
      await.start.after? config.awaitBudget = some deadline)
    (exits : (station'.exit? = none ∨ station'.exit? = some .whole) ∨
      await.manner.unwinding = true ∧ station'.panic? = none) :
    await.Progress config (stride :: since) station' := by
  refine ⟨fun none => ?_, fun outcome some => ?_, fun panic some => ?_, affords,
    List.forall_mem_cons.mpr ⟨continues.2, progress.guarded⟩, exits⟩
  · exact List.forall_mem_cons.mpr ⟨continues.1, progress.unended (same ▸ none)⟩
  · exact (progress.ended outcome (same ▸ some)).cons continues.1
  · rcases raised panic some with before | now
    · exact (progress.raised panic before).cons stride
    · exact now

/-- A step that ends the cycle of the call leads to its outcome. -/
theorem Progress.comeTo {station' : Station ν} {outcome : Outcome}
    (progress : await.Progress config since station) (none : station.outcome? = none)
    (resets : await.Resets stride outcome) (some : station'.outcome? = some outcome)
    (raised : ∀ panic, station'.panic? = .some panic → station.panic? = .some panic)
    (whole : station'.exit? = .some .whole) :
    await.Progress config (stride :: since) station' := by
  refine ⟨fun none' => ?_, fun outcome' some' => ?_, fun panic raises => ?_, ?_,
    List.forall_mem_cons.mpr ⟨fun guards => ?_, progress.guarded⟩, .inl (.inr whole)⟩
  · cases none'.symm.trans some
  · obtain rfl := Option.some.inj (some.symm.trans some')
    exact ⟨[], stride, since, rfl, resets, progress.unended none⟩
  · exact (progress.raised panic (raised panic raises)).cons stride
  · rintro deadline wake rfl
    cases some
  · cases guards.symm.trans resets.not_guards

/-- A step of another thread changes nothing about the call. -/
theorem Progress.cons (progress : await.Progress config since station)
    (other : stride.thread ≠ await.thread) :
    await.Progress config (stride :: since) station :=
  progress.goOn (by simp [ends, guards, isOwn, other]) rfl (fun _ => .inl) progress.affords
    progress.exits

/-- A step that does not reset the barrier does not end the cycle, and is not one of the guard. -/
theorem ends_of_continues (stride : Stride ν) (continues : stride.deed.isReset = false) :
    await.ends stride = false ∧
      (await.guards stride = true → await.manner.unwinding = true) := by
  simp [ends, guards, Deed.endsAwait_of_apart continues, Deed.isGuarded_of_apart continues]

/-- A call that a replayed body has made stands higher on the stack. -/
theorem ends_of_inner {inner : Stack ν} {task : TaskId} (calls : inner ≠ [])
    (stands : stride.before.stack await.thread = await.frames (.executing inner task)) :
    await.ends stride = false ∧
      (await.guards stride = true → await.manner.unwinding = true) := by
  have high : await.base.length + 2 < (stride.before.stack await.thread).length := by
    have some := List.length_pos_iff.mpr calls
    rw [stands]
    simp only [frames, replay, List.length_append, List.length_cons]
    omega
  simp [ends, guards, isOwn, Nat.not_le.mpr high]

/-- **A step of the call's own thread takes it on.** -/
theorem Progress.step {station' : Station ν} {s : Scheduler ν} {now : Instant} {move : Move ν}
    {turn : Turn ν} (progress : await.Progress s.barrier.config since station)
    (stands : s.stack await.thread = await.frames station)
    (next : await.Next now s.barrier station move (s.deed await.thread now move)
      turn.scheduler.barrier (some station')) :
    await.Progress s.barrier.config (⟨s, await.thread, now, move, turn⟩ :: since) station' := by
  have continues : (s.deed await.thread now move).isReset = false →
      await.ends ⟨s, await.thread, now, move, turn⟩ = false ∧
        (await.guards ⟨s, await.thread, now, move, turn⟩ = true →
          await.manner.unwinding = true) :=
    ends_of_continues ⟨s, await.thread, now, move, turn⟩
  have guards (isGuarded : (s.deed await.thread now move).endsAwait = false)
      (unwinding : await.manner.unwinding = true) :
      await.ends ⟨s, await.thread, now, move, turn⟩ = false ∧
        (await.guards ⟨s, await.thread, now, move, turn⟩ = true →
          await.manner.unwinding = true) :=
    ⟨by simp [ends, Stride.deed, isGuarded], fun _ => unwinding⟩
  generalize done : s.deed await.thread now move = deed at next continues guards
  generalize left : turn.scheduler.barrier = b' at next
  cases next with
  | replay | enter | returned | finish | doomed | bury | buried =>
      exact progress.goOn (continues rfl) rfl (fun _ => .inl) nofun (.inl (.inl rfl))
  | announce | discard | discarded =>
      exact progress.goOn (continues rfl) rfl (fun _ => .inl) nofun progress.exits
  | drained _ affords =>
      refine progress.goOn (continues rfl) rfl (fun _ => .inl) ?_ (.inl (.inl rfl))
      rintro _ _ ⟨⟩
      exact affords
  | overflow _ beyond =>
      refine progress.goOn (continues rfl) rfl ?_ nofun (.inl (.inl rfl))
      rintro _ ⟨⟩
      exact .inr (.inl ⟨beyond, rfl⟩)
  | call quiet => exact progress.goOn (continues quiet) rfl (fun _ => .inl) nofun (.inl (.inl rfl))
  | inner calls =>
      exact progress.goOn (ends_of_inner calls stands) rfl (fun _ => .inl) nofun (.inl (.inl rfl))
  | panicked =>
      refine progress.goOn (continues rfl) rfl ?_ nofun (.inl (.inl rfl))
      rintro _ ⟨⟩
      exact .inr (.inr ⟨_, .head _, rfl, rfl⟩)
  | look =>
      refine progress.goOn (continues rfl) rfl (fun _ => .inl) ?_ (.inl (.inl rfl))
      rintro _ _ ⟨⟩
      exact progress.affords _ _ rfl
  | log unwinding =>
      exact progress.goOn (continues rfl) rfl (fun _ => .inl) nofun (.inr ⟨unwinding, rfl⟩)
  | @guard outcome exit looks =>
      obtain ⟨unwinding, calm⟩ :
          await.manner.unwinding = true ∧ outcome.panic? = none := by
        rcases looks with rfl | ⟨-, unwinding, remaining, budget, rfl⟩
        · rcases progress.exits with (none | whole) | exits
          · cases none
          · cases whole
          · exact exits
        · exact ⟨unwinding, rfl⟩
      exact progress.goOn (guards rfl unwinding) rfl (fun _ => .inl) nofun
        (.inr ⟨unwinding, calm⟩)
  | @unwind panic =>
      have resets : await.Resets ⟨s, await.thread, now, .proceed, turn⟩ (.unwound panic) :=
        ⟨rfl, done, left, .unwound stands⟩
      exact progress.comeTo rfl resets rfl (fun _ => id) rfl
  | settle settled =>
      have resets : await.Resets ⟨s, await.thread, now, .proceed, turn⟩ .settled :=
        ⟨rfl, done, left, .settled stands (progress.affords _ _ rfl) settled⟩
      exact progress.comeTo rfl resets rfl nofun rfl
  | expire outstanding reached =>
      have resets : await.Resets ⟨s, await.thread, now, .proceed, turn⟩ (.timedOut _ _) :=
        ⟨rfl, done, left, .timedOut stands (progress.affords _ _ rfl) outstanding reached⟩
      exact progress.comeTo rfl resets rfl nofun rfl

/-- The call has not returned with any of the steps. -/
def Lasts (await : Await ν) (since : History ν) : Prop :=
  ∀ stride ∈ since, stride.thread = await.thread →
    stride.turn.scheduler.stack await.thread ≠ await.base

/-- A call from outside of all others has not returned while its thread has something left to
do. -/
theorem Lasts.of_base_nil (base : await.base = [])
    (busy : since.all (fun stride => !(stride.turn.scheduler.stack await.thread).isEmpty) = true) :
    await.Lasts since := by
  intro stride member _ home
  have some := List.all_eq_true.mp busy stride member
  rw [home, base] at some
  cases some

/-- A call that has not returned has something left to do. -/
theorem frames_ne (await : Await ν) (station : Station ν) : await.frames station ≠ await.base := by
  intro home
  have same := congrArg List.length home
  cases station with
  | replaying panic | finishing _ panic | burying _ panic =>
      cases panic <;> simp [frames, replay] at same <;> omega
  | executing =>
      simp only [frames, replay, List.length_append, List.length_cons] at same
      omega
  | ending outcome exit =>
      exact await.exit_ne_nil outcome exit (by simpa [frames] using home)
  | _ => simp [frames, replay] at same <;> omega

section Calls

variable {earlier : History ν} {s s' : Scheduler ν} {turn : Turn ν}

/-- A request that begins an await is made by user code, and leaves the call at its first
station. -/
theorem of_request (base : s.stack await.thread = await.base)
    (asked : s.step await.thread await.start (.request (.await await.manner)) = some turn) :
    await.Called s ∧ turn.scheduler.stack await.thread = await.frames (.replaying none) ∧
      turn.scheduler.barrier = s.barrier.beginAwait.barrier := by
  have asked := Scheduler.attempt_of_step asked
  simp only [Scheduler.attempt, Scheduler.request] at asked
  split at asked
  · cases asked
  · next userCode =>
    have userCode : s.isUserCode await.thread = true := by simpa using userCode
    obtain ⟨-, rfl⟩ := by simpa [Scheduler.whileOwned] using asked
    have isUser := Scheduler.isUser_of_isUserCode userCode
    rw [base] at isUser
    refine ⟨⟨isUser, fun empty => ?_⟩, ?_, rfl⟩
    · rw [Scheduler.isUserCode, base, empty] at userCode
      simpa using userCode
    · rw [Scheduler.requestAwait, Scheduler.stack_turn_self, base]
      rfl

/-- **Until it returns, a call stands at some station**, with all that is known of its steps. -/
theorem progress (run : Run earlier s) (base : s.stack await.thread = await.base)
    (asked : s.step await.thread await.start (.request (.await await.manner)) = some turn)
    (path : Path turn.scheduler since s')
    (lasting : await.Lasts since) :
    ∃ station, s'.stack await.thread = await.frames station ∧
      await.Progress s.barrier.config since station := by
  obtain ⟨called, stands, -⟩ := of_request base asked
  have whole : Path s [⟨s, await.thread, await.start, _, turn⟩] turn.scheduler :=
    .step .start asked
  induction path with
  | start =>
      exact ⟨_, stands, fun _ => List.forall_mem_nil _, nofun, nofun, nofun,
        List.forall_mem_nil _, .inl (.inl rfl)⟩
  | @step since middle thread now move turn' path taken ih =>
      obtain ⟨station, stands, progress⟩ := ih fun stride member => lasting stride (.tail _ member)
      have whole := whole.append path
      by_cases own : thread = await.thread
      · subst own
        obtain ⟨after, leads⟩ := next (run.append whole).sound (called.of_path whole) stands taken
        cases after with
        | none => exact absurd leads.stack (lasting _ (.head _) rfl)
        | some station' =>
            refine ⟨station', leads.stack, ?_⟩
            rw [← whole.keeps.2.2] at progress ⊢
            exact progress.step stands leads.next
      · rw [(Scheduler.follows_of_step taken).others await.thread (Ne.symm own)]
        exact ⟨station, stands, progress.cons own⟩

/-- **When a call returns, it has come to an outcome**, and its caller gets to know it. -/
theorem returns (run : Run earlier s) (base : s.stack await.thread = await.base)
    (asked : s.step await.thread await.start (.request (.await await.manner)) = some turn)
    {last : Stride ν} (path : Path turn.scheduler (last :: since) s')
    (lasting : await.Lasts since)
    (own : last.thread = await.thread)
    (home : last.turn.scheduler.stack await.thread = await.base) :
    ∃ outcome exit, last.turn.signal = await.signal outcome ∧
      await.Progress s.barrier.config since (.ending outcome exit) := by
  cases path with
  | step path taken =>
      obtain ⟨station, stands, progress⟩ := progress run base asked path lasting
      obtain ⟨called, -, -⟩ := of_request base asked
      have whole : Path s _ _ := (Path.start.step asked).append path
      obtain rfl : _ = await.thread := own
      obtain ⟨after, leads⟩ := next (run.append whole).sound (called.of_path whole) stands taken
      cases after with
      | some station' => exact absurd (leads.stack.symm.trans home) (await.frames_ne station')
      | none =>
          obtain ⟨outcome, exit, rfl, -⟩ := leads.next.of_none
          exact ⟨outcome, exit, leads.told rfl outcome exit rfl, progress⟩

end Calls

end Await

end TaskBarrier
