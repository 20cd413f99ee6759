import TaskBarrier.Proofs.Awaiting
import TaskBarrier.Proofs.Lineup

/-!
# A cycle that goes according to plan

A *plan* says in which order a list of one-shot tasks fire, how many of them fire before they are
awaited, and who awaits them when.  The tasks that fire early are held and replayed by the await.
The others fire after the replay, each when the one before it has run.  Nobody else asks for
anything, and no body panics.

A plan is a condition on histories, made one step at a time.  It leaves open which threads fire the
tasks, whether through the registry, a callback or the worker of a timer, what the clock shows, how
often the await looks, and how the steps of the threads interleave.  A task may also fire more often
than the plan says, as long as this has no effect.

## Main Definitions

* `History.fired`, `History.executed`, `History.drained`: what of a history a plan is about.
* `Plan`, `Plan.Ready`, `Plan.Permits`, `Plan.Follows`.
* `Plan.stepsLeft`: how far the awaiting thread is from its answer.
* `Barrier.outcome`: the barrier after the cycle.

### The two design decisions

**The budget is an instant.**  That all tasks have run before the budget ends means that the await
does not look at or after its deadline before they have.  Steps of other threads may be made at any
reading of the clock.

**A value is no observation of the cycle.**  Values are given by the plan for each task.  A body
whose value depended on when it is executed would tell the difference between two plans itself.
-/

namespace TaskBarrier

variable {ν : Type}

/-! ## What of a history a plan is about -/

namespace Deed

/-- The task that has fired, for a firing that had an effect. -/
def fires? : Deed → Option TaskId
  | call id .run | call id .held => some id
  | _ => none

/-- The task whose body begins to be executed. -/
def executes? : Deed → Option TaskId
  | enter id true => some id
  | _ => none

/-- The task whose body has ended. -/
def leaves? : Deed → Option TaskId
  | leave id => some id
  | _ => none

/-- Whether an await has found the hold queue empty. -/
def endsReplay : Deed → Bool
  | replay .done => true
  | _ => false

/-- Whether the deed is a firing that starts a run. -/
def runsAtOnce : Deed → Bool
  | call _ .run => true
  | _ => false

/-- Whether no task fires, no body begins to be executed, and no await begins. -/
def isStill (deed : Deed) : Bool :=
  deed.fires?.isNone && deed.executes?.isNone && !deed.isAwait

/-- Whether the deed is none that a plan is about. -/
def isUnplanned (deed : Deed) : Bool := deed.isStill && !deed.endsReplay

end Deed

namespace History

/-- The tasks that have fired, in the order of the firings that had an effect. -/
def fired (history : History ν) : List TaskId := (history.filterMap (·.deed.fires?)).reverse

/-- The tasks whose bodies have been executed, in the order in which the executions began. -/
def executed (history : History ν) : List TaskId :=
  (history.filterMap (·.deed.executes?)).reverse

/-- Whether an await has replayed the hold queue to its end. -/
def drained (history : History ν) : Bool := history.any (·.deed.endsReplay)

theorem fired_cons (stride : Stride ν) (history : History ν) :
    History.fired (stride :: history) = history.fired ++ stride.deed.fires?.toList := by
  cases fires : stride.deed.fires? <;> simp [fired, fires]

theorem executed_cons (stride : Stride ν) (history : History ν) :
    History.executed (stride :: history) = history.executed ++ stride.deed.executes?.toList := by
  cases executes : stride.deed.executes? <;> simp [executed, executes]

theorem drained_cons (stride : Stride ν) (history : History ν) :
    History.drained (stride :: history) = (stride.deed.endsReplay || history.drained) := by
  simp [drained]

end History

/-! ## Plans -/

/-- How many steps are left of a run. -/
def RunStage.stepsLeft : RunStage → Nat
  | starting _ => 3
  | executing => 2
  | finishing => 1

/-- How many steps are left of an await that has succeeded and has no body to drop. -/
def Stack.stepsOut : Stack ν → Nat
  | .dropping _ :: rest => stepsOut rest + 2
  | .guarding :: rest => stepsOut rest + 3
  | .discarding _ :: rest | .settling :: rest | .answering .settled :: rest => stepsOut rest + 1
  | _ => 0

/-- The order in which one-shot tasks fire, and who awaits them when. -/
structure Plan (ν : Type) where
  order : List TaskId
  /-- The values that the bodies return. -/
  values : TaskId → Option ν
  /-- How many tasks fire before the await. -/
  early : Nat
  /-- The thread that awaits. -/
  home : ThreadId
  /-- When the await begins. -/
  start : Instant
  /-- How the await is called. -/
  manner : Manner

namespace Plan

/-- **The plan can begin**: nothing is in progress, and the tasks of the plan are the live one-shot
tasks, and all that is counted. -/
structure Ready (plan : Plan ν) (s : Scheduler ν) : Prop where
  idle : ∀ thread, s.stack thread = []
  distinct : plan.order.Nodup
  live : ∀ id ∈ plan.order, ∃ task, s.barrier.task? id = some task ∧ task.periodic = false ∧
    task.phase = .live
  all : ∀ task ∈ s.barrier.tasks, task.isCounted = true → task.id ∈ plan.order

/-- What user code may do.  Outside of all calls it may make a task fire, and, once and when the
early tasks have fired, await them.  In a body it may return the value of the task. -/
def Allows (plan : Plan ν) (earlier : History ν) (stride : Stride ν) : Move ν → Prop
  | .request (.fire _) | .request (.call _) =>
      (stride.before.stack stride.thread).isEmpty = true
  | .request (.await manner) =>
      (stride.before.stack stride.thread).isEmpty = true ∧ manner = plan.manner ∧
        stride.thread = plan.home ∧ stride.now = plan.start ∧ earlier.awaits = 0 ∧
        earlier.fired = plan.order.take plan.early
  | .endBody (.returned value) => ∀ id ∈ stride.deed.leaves?, value = plan.values id
  | .request _ | .endBody (.panicked _) => False
  | .proceed | .work => True

/-- The budget has not ended too early: when the replay is over and the deadline has come, all tasks
have run. -/
def InTime (plan : Plan ν) (earlier : History ν) (s : Scheduler ν) (now : Instant) : Prop :=
  ∀ deadline ∈ plan.start.after? s.barrier.config.awaitBudget, earlier.drained = true →
    now.reached deadline = true → ∀ id ∈ plan.order, s.barrier.phase? id = some .ran

/-- **The plan permits a step**, after the earlier ones. -/
structure Permits (plan : Plan ν) (earlier : History ν) (stride : Stride ν) : Prop where
  /-- User code does what it may. -/
  allowed : plan.Allows earlier stride stride.move
  /-- The tasks fire in order. -/
  inOrder : History.fired (stride :: earlier) <+: plan.order
  /-- A task that fires during the await does so after the replay, and after the runs of those that
  have fired before. -/
  oneByOne : stride.deed.runsAtOnce = true → earlier.drained = true ∧
    ∀ id ∈ earlier.fired, stride.before.barrier.phase? id = some .ran
  /-- When the await sees that its deadline has come, all tasks have run. -/
  inTime : stride.thread = plan.home → plan.InTime earlier stride.before stride.now

/-- The plan permits each step of a history. -/
def Follows (plan : Plan ν) : History ν → Prop
  | [] => True
  | stride :: earlier => plan.Permits earlier stride ∧ Follows plan earlier

section Decidable

variable (plan : Plan ν) (earlier : History ν) (stride : Stride ν)

instance [DecidableEq ν] : (move : Move ν) → Decidable (plan.Allows earlier stride move)
  | .request (.fire _) | .request (.call _) => inferInstanceAs (Decidable (_ = true))
  | .request (.await _) => inferInstanceAs (Decidable (_ ∧ _))
  | .endBody (.returned value) =>
      inferInstanceAs (Decidable (∀ id ∈ stride.deed.leaves?, value = plan.values id))
  | .request (.accept _ _ _) | .request (.cancel _) | .request (.cancelByHandle _)
  | .request (.read _) | .request .shutdown | .request .drop | .endBody (.panicked _) =>
      inferInstanceAs (Decidable False)
  | .proceed | .work => inferInstanceAs (Decidable True)

instance (s : Scheduler ν) (now : Instant) : Decidable (plan.InTime earlier s now) :=
  inferInstanceAs (Decidable (∀ deadline ∈ plan.start.after? s.barrier.config.awaitBudget,
    earlier.drained = true → now.reached deadline = true →
      ∀ id ∈ plan.order, s.barrier.phase? id = some .ran))

instance [DecidableEq ν] : Decidable (plan.Permits earlier stride) :=
  decidable_of_iff (plan.Allows earlier stride stride.move ∧
      History.fired (stride :: earlier) <+: plan.order ∧
      (stride.deed.runsAtOnce = true → earlier.drained = true ∧
        ∀ id ∈ earlier.fired, stride.before.barrier.phase? id = some .ran) ∧
      (stride.thread = plan.home → plan.InTime earlier stride.before stride.now))
    ⟨fun ⟨allowed, inOrder, oneByOne, inTime⟩ => ⟨allowed, inOrder, oneByOne, inTime⟩,
      fun ⟨allowed, inOrder, oneByOne, inTime⟩ => ⟨allowed, inOrder, oneByOne, inTime⟩⟩

instance decidableFollows [DecidableEq ν] : (history : History ν) → Decidable (plan.Follows history)
  | [] => inferInstanceAs (Decidable True)
  | stride :: earlier =>
      have := decidableFollows earlier
      inferInstanceAs (Decidable (plan.Permits earlier stride ∧ plan.Follows earlier))

end Decidable

/-- How many steps the await takes once it has seen that nothing is outstanding. -/
def stepsOut (plan : Plan ν) : Nat := (Stack.stepsOut (plan.manner.succeeding : Stack ν)) + 2

/-- How many steps the awaiting thread is away from its answer, not counting those with which it
looks in vain.  Each task that is held takes four steps. -/
def stepsLeft (plan : Plan ν) (s : Scheduler ν) : Nat :=
  match s.stack plan.home with
  | .run _ stage :: _ => 4 * s.barrier.held.length + 2 + plan.stepsOut + stage.stepsLeft
  | .awaiting _ _ .replaying :: _ => 4 * s.barrier.held.length + 2 + plan.stepsOut
  | .awaiting _ _ (.waiting _ _) :: _ => 1 + plan.stepsOut
  | left => Stack.stepsOut left

/-- **A step brings the await nearer to its answer.** -/
structure Nears (plan : Plan ν) (stride : Stride ν) : Prop where
  /-- Every step of the awaiting thread does, unless it looks in vain. -/
  own : stride.thread = plan.home → 0 < plan.stepsLeft stride.before →
    plan.stepsLeft stride.turn.scheduler < plan.stepsLeft stride.before ∨
      plan.stepsLeft stride.turn.scheduler = plan.stepsLeft stride.before ∧
        ∃ id ∈ plan.order, stride.before.barrier.phase? id ≠ some .ran
  /-- No step of another thread takes it further away. -/
  others : stride.thread ≠ plan.home →
    plan.stepsLeft stride.turn.scheduler = plan.stepsLeft stride.before

/-- The deadline of the await is one that the clock can show. -/
def Affords (plan : Plan ν) (s : Scheduler ν) : Prop :=
  (plan.start.after? s.barrier.config.awaitBudget).isSome = true

/-- The await has begun, and the thread that awaits has nothing left to do for it. -/
def Awaited (plan : Plan ν) (later : History ν) (s : Scheduler ν) : Prop :=
  later.awaits ≠ 0 ∧ plan.stepsLeft s = 0

end Plan

/-- **The barrier after a cycle** in which the given tasks have run.  It does not depend on when
they were awaited. -/
def Barrier.outcome (b : Barrier ν) (order : List TaskId) (values : TaskId → Option ν) :
    Barrier ν :=
  { b with
    draining := false
    outstanding := 0
    held := []
    tasks := b.tasks.map fun task =>
      if task.id ∈ order then task.completed (values task.id) else task }

/-- Whether a step tells user code nothing but that a call goes on, that a body comes next, whether
a firing has led anywhere, or that an await has succeeded. -/
def Signal.isTame : Signal ν → Bool
  | working | body _ | idle _ | answer (.flag _) | answer .settled => true
  | answer _ | unwound _ => false

/-! ## Steps that change little -/

namespace Stack

/-- Whether nothing is in progress but, perhaps, one firing that has not been decided upon or that
returns. -/
def isBrief : Stack ν → Bool
  | [] | [.answering (.flag _)] | [.deciding _] | [.deciding _, .answering (.flag _)] => true
  | _ => false

end Stack

namespace Scheduler

/-- **A step with which nothing happens to the tasks**: the facility may change, and what is left to
do on the thread is brief. -/
structure Quick (s : Scheduler ν) (thread : ThreadId) (turn : Turn ν) : Prop where
  barrier : ∃ facility, turn.scheduler.barrier = { s.barrier with facility := facility }
  brief : (turn.scheduler.stack thread).isBrief = true
  tame : turn.signal.isTame = true

variable {s : Scheduler ν} {thread : ThreadId} {now : Instant} {turn : Turn ν}

/-- The call of a callback leaves a brief stack. -/
theorem isBrief_calling (s : Scheduler ν) (task : TaskId) :
    Stack.isBrief (s.calling task) = true ∧
      Stack.isBrief (s.calling task ++ [.answering (.flag true)]) = true := by
  rcases s.calling_cases task with none | one
  · simp [none, Stack.isBrief]
  · simp [one, Stack.isBrief]

theorem quick_refuse (empty : s.stack thread = []) : s.Quick thread s.refuse where
  barrier := ⟨s.barrier.facility, rfl⟩
  brief := by
    show (s.stack thread).isBrief = true
    rw [empty]
    rfl
  tame := rfl

/-- Whoever makes a task fire changes little at first. -/
theorem quick_of_request {request : Request} (empty : s.stack thread = [])
    (fires : (∃ key, request = .fire key) ∨ ∃ task, request = .call task)
    (taken : s.step thread now (.request request) = some turn) :
    s.deed thread now (.request request) = .aside ∧ s.Quick thread turn := by
  have taken := attempt_of_step taken
  simp only [attempt, Scheduler.request] at taken
  split at taken
  · cases taken
  · rcases fires with ⟨key, rfl⟩ | ⟨task, rfl⟩
    · obtain rfl := Option.some.inj taken
      refine ⟨rfl, ?_⟩
      unfold requestFire
      split
      · exact quick_refuse empty
      · split
        · exact quick_refuse empty
        · refine ⟨⟨_, rfl⟩, ?_, rfl⟩
          rw [stack_turn_self, empty]
          exact (s.isBrief_calling _).2
    · obtain rfl := Option.some.inj taken
      refine ⟨rfl, ⟨s.barrier.facility, rfl⟩, ?_, rfl⟩
      simp only [requestCall, stack_turn_self, empty]
      exact (s.isBrief_calling task).2

/-- A firing that returns tells whether it has led anywhere. -/
theorem quick_of_answering (s : Scheduler ν) (thread : ThreadId) {answer : Answer ν}
    {rest : Stack ν} (brief : Stack.isBrief (.answering answer :: rest) = true) :
    s.Quick thread (s.turn s.barrier thread rest (.answer answer) []) := by
  refine ⟨⟨_, rfl⟩, ?_, ?_⟩
  · rw [stack_turn_self]
    cases rest with
    | nil => rfl
    | cons => cases answer <;> cases brief
  · cases answer <;> first | rfl | (cases rest <;> cases brief)

/-- The worker of a timer that makes a task fire changes little at first. -/
theorem quick_of_work (taken : s.step thread now .work = some turn) : s.Quick thread turn := by
  have taken := attempt_of_step taken
  simp only [attempt, work] at taken
  split at taken
  · next timer _ empty =>
    have rests (after : Timer TaskId) :
        Stack.isBrief ((s.withTimer after).stack thread) = true := by
      show Stack.isBrief (s.stack thread) = true
      rw [empty]
      rfl
    split at taken
    · cases taken
    · split at taken
      · cases taken
      · cases taken
      · obtain rfl := Option.some.inj taken
        exact ⟨⟨_, rfl⟩, rests _, rfl⟩
      · split at taken
        · obtain rfl := Option.some.inj taken
          exact ⟨⟨_, rfl⟩, rests _, rfl⟩
        · obtain rfl := Option.some.inj taken
          exact ⟨⟨_, rfl⟩, rests _, rfl⟩
        · next key task after looks =>
          obtain rfl := Option.some.inj taken
          refine ⟨⟨_, rfl⟩, ?_, rfl⟩
          rw [stack_turn_self]
          exact (isBrief_calling _ task).1
  · cases taken

end Scheduler

end TaskBarrier
