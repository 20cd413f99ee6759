import TaskBarrier.Proofs.Graft
import TaskBarrier.Proofs.Transition

/-!
# A used scheduler and a fresh one in tandem

A used scheduler *mirrors* a fresh one if its barrier is that of the fresh one on top of a past, and
if every thread is where it is in the fresh one, up to calls that are left over.  A call is *left
over* if it concerns tasks of the past alone, or has nothing to do any more but to return; it stands
on top of whatever the thread does in the fresh scheduler.

There are two kinds of steps of a used scheduler.

* A step of a call that is left over, or one that begins such a call, leaves the fresh scheduler
  where it is.
* Every other step is a step of the fresh scheduler too, with the same outcome up to the shift.  The
  one thing that a call left over can be noticed by is that it keeps a dropped scheduler alive.

## Main Definitions

* `Frame.isLeftOver`, `Stack.Mirrors`, `Scheduler.Mirrors`.
* `Turn.Tells`, `Turn.Mirrors`: two turns that tell the same, and that have the same outcome.

The main statements are `Mirrors.step`, `Mirrors.step_of_leftOver` and `Mirrors.step_of_isOld`.
-/

namespace TaskBarrier

variable {ν : Type}

/-- Whether all that a frame does concerns old tasks, or is to return. -/
def Frame.isLeftOver (σ : Shift) : Frame ν → Bool
  | deciding task => σ.isOld task
  | dropping tasks | discarding tasks => tasks.all σ.isOld
  | settling | joining | answering _ | raising _ => true
  | run _ _ | awaiting _ _ _ | guarding | refusing => false

/-- The used stack is the fresh one with frames that are left over on top. -/
structure Stack.Mirrors (σ : Shift) (left used fresh : Stack ν) : Prop where
  stack : used = left ++ σ.stack fresh
  leftOver : ∀ frame ∈ left, frame.isLeftOver σ = true
  /-- A call is made by user code. -/
  isUser : left ≠ [] → fresh.isUser = true

/-- **The used scheduler `s` is where the fresh scheduler `f` is**, up to the shift, on top of the
given past. -/
structure Scheduler.Mirrors (σ : Shift) (past : List (Task ν)) (s f : Scheduler ν) : Prop where
  number : s.number = f.number
  worker : s.worker = f.worker
  dropped : s.dropped = f.dropped
  lock : s.lock = f.lock
  isPast : σ.Past past
  barrier : ∃ facility, s.barrier = σ.graft past facility f.barrier ∧
    Facility.Mirrors σ facility f.barrier.facility
  frames : ∀ thread, ∃ left, Stack.Mirrors σ left (s.stack thread) (f.stack thread)

/-- What two turns tell is the same up to the shift. -/
structure Turn.Tells (σ : Shift) (used fresh : Turn ν) : Prop where
  signal : used.signal = σ.signal fresh.signal
  events : used.events = fresh.events.map σ.event

/-- Two turns of a thread that have the same outcome up to the shift. -/
structure Turn.Mirrors (σ : Shift) (past : List (Task ν)) (thread : ThreadId)
    (used fresh : Turn ν) : Prop where
  scheduler : Scheduler.Mirrors σ past used.scheduler fresh.scheduler
  tells : used.Tells σ fresh
  /-- There is nothing left over on the thread. -/
  level : used.scheduler.stack thread = σ.stack (fresh.scheduler.stack thread)

namespace Stack

variable {σ : Shift}

@[simp] theorem isUser_stack (stack : Stack ν) : (σ.stack stack).isUser = stack.isUser := by
  cases stack with
  | nil => rfl
  | cons frame rest =>
      cases frame with
      | run task stage => cases stage <;> rfl
      | _ => rfl

/-- A frame that is left over is not user code. -/
theorem isUser_of_isLeftOver {frame : Frame ν} (leftOver : frame.isLeftOver σ = true)
    (rest : Stack ν) : Stack.isUser (frame :: rest) = false := by
  cases frame with
  | run | awaiting | guarding | refusing => cases leftOver
  | _ => rfl

/-- A stack without anything left over. -/
theorem Mirrors.refl (stack : Stack ν) : Mirrors σ [] (σ.stack stack) stack where
  stack := rfl
  leftOver := fun _ none => absurd none List.not_mem_nil
  isUser := fun none => absurd rfl none

/-- There is something left over as long as the used stack is the higher one. -/
theorem Mirrors.length {left used fresh : Stack ν} (mirrors : Mirrors σ left used fresh) :
    used.length = left.length + fresh.length := by
  rw [mirrors.stack, List.length_append, σ.length_stack]

end Stack

namespace Scheduler.Mirrors

variable {σ : Shift} {past : List (Task ν)} {s f : Scheduler ν}

/-! ## Turns of both -/

/-- A turn of both that replaces the barrier and the stack of a thread by ones that mirror. -/
theorem turn (mirrors : Mirrors σ past s f) {barrier barrier' : Barrier ν}
    {facility : Facility TaskId} (grafted : barrier' = σ.graft past facility barrier)
    (facilities : Facility.Mirrors σ facility barrier.facility) {thread : ThreadId}
    {stack stack' : Stack ν} {signal signal' : Signal ν} {events events' : List Event}
    (frames : stack' = σ.stack stack) (signals : signal' = σ.signal signal)
    (logs : events' = events.map σ.event) :
    Turn.Mirrors σ past thread (s.turn barrier' thread stack' signal' events')
      (f.turn barrier thread stack signal events) where
  tells := ⟨signals, logs⟩
  level := by rw [stack_turn_self, stack_turn_self, frames]
  scheduler :=
    { mirrors with
      barrier := ⟨facility, grafted, facilities⟩
      frames := by
        intro other
        by_cases same : other = thread
        · subst same
          refine ⟨[], ?_⟩
          rw [stack_turn_self, stack_turn_self, frames]
          exact .refl stack
        · rw [stack_turn_of_ne _ _ _ _ _ same, stack_turn_of_ne _ _ _ _ _ same]
          exact mirrors.frames other }

/-- A turn of both that leaves the barrier alone. -/
theorem turn_of_stack (mirrors : Mirrors σ past s f) {thread : ThreadId} {stack stack' : Stack ν}
    {signal signal' : Signal ν} {events events' : List Event} (frames : stack' = σ.stack stack)
    (signals : signal' = σ.signal signal) (logs : events' = events.map σ.event) :
    Turn.Mirrors σ past thread (s.turn s.barrier thread stack' signal' events')
      (f.turn f.barrier thread stack signal events) := by
  obtain ⟨facility, grafted, facilities⟩ := mirrors.barrier
  exact mirrors.turn grafted facilities frames signals logs

/-- The facilities of both. -/
theorem facilities (mirrors : Mirrors σ past s f) :
    Facility.Mirrors σ s.barrier.facility f.barrier.facility := by
  obtain ⟨facility, grafted, facilities⟩ := mirrors.barrier
  rwa [grafted]

/-- A turn of both that replaces the facility. -/
theorem turn_of_facility (mirrors : Mirrors σ past s f) {used fresh : Facility TaskId}
    (facilities : Facility.Mirrors σ used fresh) {thread : ThreadId} {stack stack' : Stack ν}
    {signal signal' : Signal ν} {events events' : List Event} (frames : stack' = σ.stack stack)
    (signals : signal' = σ.signal signal) (logs : events' = events.map σ.event) :
    Turn.Mirrors σ past thread
      (s.turn { s.barrier with facility := used } thread stack' signal' events')
      (f.turn { f.barrier with facility := fresh } thread stack signal events) := by
  obtain ⟨facility, grafted, -⟩ := mirrors.barrier
  have replaced : ({ s.barrier with facility := used } : Barrier ν) =
      σ.graft past used { f.barrier with facility := fresh } := by
    rw [grafted]
    rfl
  exact mirrors.turn replaced facilities frames signals logs

theorem refuse (mirrors : Mirrors σ past s f) {thread : ThreadId}
    (level : s.stack thread = σ.stack (f.stack thread)) :
    Turn.Mirrors σ past thread s.refuse f.refuse :=
  ⟨mirrors, ⟨rfl, rfl⟩, level⟩

/-! ## Requests -/

theorem isUserCode (mirrors : Mirrors σ past s f) {thread : ThreadId}
    (level : s.stack thread = σ.stack (f.stack thread)) :
    s.isUserCode thread = f.isUserCode thread := by
  unfold Scheduler.isUserCode
  rw [level, mirrors.worker]
  cases f.stack thread with
  | nil => rfl
  | cons frame rest =>
      cases frame with
      | run task stage => cases stage <;> rfl
      | _ => rfl

theorem calling (alive : s.isAlive = f.isAlive) (task : TaskId) :
    s.calling (σ.id task) = σ.stack (f.calling task) := by
  unfold Scheduler.calling
  rw [alive]
  split <;> rfl

section Requests

variable {thread : ThreadId} (mirrors : Mirrors σ past s f)
  (level : s.stack thread = σ.stack (f.stack thread))
include mirrors level

omit level in
/-- Both refuse a task under the lock. -/
theorem declining {facility : Facility TaskId} {barrier' barrier : Barrier ν}
    (grafted : barrier' = σ.graft past facility barrier)
    (facilities : Facility.Mirrors σ facility barrier.facility) (last : Frame ν)
    (level : s.stack thread = σ.stack (f.stack thread)) :
    Turn.Mirrors σ past thread (s.declining thread barrier' (σ.frame last))
      (f.declining thread barrier last) := by
  have locked : Mirrors σ past { s with lock := some thread } { f with lock := some thread } :=
    { mirrors with lock := rfl }
  refine locked.turn grafted facilities ?_ rfl rfl
  rw [level]
  rfl

theorem requestAccept (now : Instant) (delay : Duration) (cadence : Cadence) (produces : Bool) :
    Turn.Mirrors σ past thread (s.requestAccept thread now delay cadence produces)
      (f.requestAccept thread now delay cadence produces) := by
  obtain ⟨facility, grafted, facilities⟩ := mirrors.barrier
  obtain ⟨facility', facilities', accepted⟩ :=
    Shift.accept_graft facilities now delay cadence produces
  unfold Scheduler.requestAccept
  rw [grafted, accepted]
  simp only [Shift.graftSection]
  cases (f.barrier.accept now delay cadence produces).answer with
  | accepted => exact mirrors.turn rfl facilities' level rfl rfl
  | refused failure =>
      simp only [Shift.acceptance]
      split
      · exact mirrors.turn rfl facilities' level rfl rfl
      · exact mirrors.declining rfl facilities' (.answering (.failed failure)) level
  | unwound panic => exact mirrors.declining rfl facilities' (.raising panic) level

theorem requestFire (alive : s.isAlive = f.isAlive) (key : TimerKey) :
    Turn.Mirrors σ past thread (s.requestFire thread (σ.key key)) (f.requestFire thread key) := by
  have facilities := mirrors.facilities
  unfold Scheduler.requestFire
  generalize s.barrier.facility = used, f.barrier.facility = fresh at facilities ⊢
  cases facilities with
  | byClock => exact mirrors.refuse level
  | byHand registries =>
      rcases registries.fire? key with ⟨none, none'⟩ | ⟨task, after, after', fires, fires', later⟩
      · simp only [none, none']
        exact mirrors.refuse level
      · simp only [fires, fires']
        refine mirrors.turn_of_facility (.byHand later) ?_ rfl rfl
        rw [calling alive, level]
        simp [Shift.frame, Shift.answer]

theorem requestCall (alive : s.isAlive = f.isAlive) (task : TaskId) :
    Turn.Mirrors σ past thread (s.requestCall thread (σ.id task)) (f.requestCall thread task) := by
  refine mirrors.turn_of_stack ?_ rfl rfl
  rw [calling alive, level]
  simp [Shift.frame, Shift.answer]

theorem requestCancel (task : TaskId) :
    Turn.Mirrors σ past thread (s.requestCancel thread (σ.id task))
      (f.requestCancel thread task) := by
  obtain ⟨facility, grafted, facilities⟩ := mirrors.barrier
  obtain ⟨facility', facilities', cancelled⟩ :=
    Shift.cancel_graft mirrors.isPast facilities task
  unfold Scheduler.requestCancel
  rw [grafted, cancelled, level]
  refine mirrors.turn rfl facilities' ?_ rfl rfl
  simp only [Shift.graftSection]
  cases (f.barrier.cancel task).answer <;> rfl

theorem requestAwait (now : Instant) (manner : Manner) :
    Turn.Mirrors σ past thread (s.requestAwait thread now manner)
      (f.requestAwait thread now manner) := by
  obtain ⟨facility, grafted, facilities⟩ := mirrors.barrier
  unfold Scheduler.requestAwait
  rw [grafted, level]
  have begun : (σ.graft past facility f.barrier).beginAwait.barrier =
      σ.graft past facility f.barrier.beginAwait.barrier := rfl
  refine mirrors.turn begun facilities rfl rfl ?_
  simp [Barrier.beginAwait, Shift.event]

theorem requestRead (task : TaskId) :
    Turn.Mirrors σ past thread (s.requestRead thread (σ.id task)) (f.requestRead thread task) := by
  obtain ⟨facility, grafted, facilities⟩ := mirrors.barrier
  unfold Scheduler.requestRead
  rw [grafted, Shift.readValue_graft facility _ mirrors.isPast]
  refine mirrors.turn rfl ?_ level rfl rfl
  rwa [(f.barrier.stays_readValue task).facility]

theorem requestShutdown :
    Turn.Mirrors σ past thread (s.requestShutdown thread) (f.requestShutdown thread) := by
  obtain ⟨answer, facilities⟩ := mirrors.facilities.shutdown
  unfold Scheduler.requestShutdown
  rw [level]
  simp only [answer]
  cases f.barrier.facility.shutdown.1 with
  | none => exact mirrors.turn_of_facility facilities rfl rfl rfl
  | some shutdown => cases shutdown <;> exact mirrors.turn_of_facility facilities rfl rfl rfl

end Requests

theorem whileOwned (mirrors : Mirrors σ past s f) {thread : ThreadId} {used fresh : Turn ν}
    (turns : Turn.Mirrors σ past thread used fresh) :
    Option.Rel (Turn.Mirrors σ past thread) (s.whileOwned used) (f.whileOwned fresh) := by
  unfold Scheduler.whileOwned
  rw [mirrors.dropped]
  split
  · exact .none
  · exact .some turns

/-- The owner of both drops them. -/
theorem drop (mirrors : Mirrors σ past s f) :
    Mirrors σ past { s with dropped := true } { f with dropped := true } :=
  { mirrors with dropped := rfl }

section Steps

variable {thread : ThreadId} (mirrors : Mirrors σ past s f)
  (level : s.stack thread = σ.stack (f.stack thread))
include mirrors level

theorem request (alive : s.isAlive = f.isAlive) (now : Instant) (request : Request) :
    Option.Rel (Turn.Mirrors σ past thread) (s.request thread now (σ.request request))
      (f.request thread now request) := by
  unfold Scheduler.request
  rw [mirrors.isUserCode level]
  split
  · exact .none
  · cases request with
    | accept delay cadence produces =>
        exact mirrors.whileOwned (mirrors.requestAccept level now delay cadence produces)
    | fire key => exact .some (mirrors.requestFire level alive key)
    | call task => exact .some (mirrors.requestCall level alive task)
    | cancel handle =>
        refine mirrors.whileOwned ?_
        simp only [mirrors.number]
        split
        · exact mirrors.requestCancel level handle.task
        · exact mirrors.refuse level
    | cancelByHandle task =>
        refine .some ?_
        rw [alive]
        split
        · exact mirrors.requestCancel level task
        · exact mirrors.refuse level
    | await manner => exact mirrors.whileOwned (mirrors.requestAwait level now manner)
    | read task => exact .some (mirrors.requestRead level task)
    | shutdown => exact mirrors.whileOwned (mirrors.requestShutdown level)
    | drop => exact mirrors.whileOwned (mirrors.drop.requestShutdown level)

/-! ## Bodies and frames -/

theorem endBody (how : BodyEnd ν) :
    Option.Rel (Turn.Mirrors σ past thread) (s.endBody thread how) (f.endBody thread how) := by
  obtain ⟨facility, grafted, facilities⟩ := mirrors.barrier
  unfold Scheduler.endBody
  rw [level]
  cases f.stack thread with
  | nil => exact .none
  | cons frame rest =>
      cases frame with
      | run task stage =>
          cases stage with
          | executing =>
              have left : ∀ result, Facility.Mirrors σ facility
                  (f.barrier.leaveBody task result).facility := fun _ => facilities
              simp only [Shift.stack_cons, Shift.frame, grafted,
                Shift.leaveBody_graft facility f.barrier mirrors.isPast]
              cases how <;> exact .some (mirrors.turn rfl (left _) rfl rfl rfl)
          | starting | finishing => exact .none
      | _ => exact .none

end Steps

section Frames

variable {thread : ThreadId} (mirrors : Mirrors σ past s f)
include mirrors

theorem proceedDeciding (task : TaskId) (rest : Stack ν) :
    Turn.Mirrors σ past thread (s.proceedDeciding thread (σ.id task) (σ.stack rest))
      (f.proceedDeciding thread task rest) := by
  obtain ⟨facility, grafted, facilities⟩ := mirrors.barrier
  unfold Scheduler.proceedDeciding
  rw [grafted, Shift.fire_graft facility _ mirrors.isPast]
  have facilities' : Facility.Mirrors σ facility (f.barrier.fire task).barrier.facility := by
    rwa [(f.barrier.stays_fire task).facility]
  refine mirrors.turn rfl facilities' ?_ rfl rfl
  simp only [Shift.graftSection]
  cases (f.barrier.fire task).answer <;> rfl

theorem proceedStarting (task : TaskId) (replayed : Bool) (rest : Stack ν) :
    Option.Rel (Turn.Mirrors σ past thread)
      (s.proceedStarting thread (σ.id task) replayed (σ.stack rest))
      (f.proceedStarting thread task replayed rest) := by
  obtain ⟨facility, grafted, facilities⟩ := mirrors.barrier
  unfold Scheduler.proceedStarting
  rw [grafted, Shift.enterBody?_graft facility _ mirrors.isPast]
  cases entered : f.barrier.enterBody? task with
  | none => exact .none
  | some entry =>
      obtain ⟨executes, barrier⟩ := entry
      have facilities' : Facility.Mirrors σ facility barrier.facility := by
        rwa [(Barrier.stays_enterBody? entered).facility]
      cases executes <;> cases replayed <;>
        exact .some (mirrors.turn rfl facilities' rfl rfl rfl)

theorem proceedFinishing (task : TaskId) (rest : Stack ν) :
    Turn.Mirrors σ past thread (s.proceedFinishing thread (σ.id task) (σ.stack rest))
      (f.proceedFinishing thread task rest) := by
  obtain ⟨facility, grafted, facilities⟩ := mirrors.barrier
  unfold Scheduler.proceedFinishing
  rw [grafted, Shift.finish_graft facility _ mirrors.isPast]
  have facilities' : Facility.Mirrors σ facility (f.barrier.finish task).barrier.facility := by
    rwa [(f.barrier.stays_finish task).facility]
  refine mirrors.turn rfl facilities' ?_ rfl rfl
  simp only [Shift.graftSection, apply_ite σ.stack]
  rfl

theorem proceedReplaying (now start : Instant) (manner : Manner) (rest : Stack ν) :
    Turn.Mirrors σ past thread (s.proceedReplaying thread now start manner (σ.stack rest))
      (f.proceedReplaying thread now start manner rest) := by
  obtain ⟨facility, grafted, facilities⟩ := mirrors.barrier
  unfold Scheduler.proceedReplaying
  rw [grafted, Shift.popHeld_graft facility _ mirrors.isPast, Shift.config_graft]
  have facilities' : Facility.Mirrors σ facility f.barrier.popHeld.barrier.facility := by
    rwa [f.barrier.stays_popHeld.facility]
  refine mirrors.turn rfl facilities' ?_ rfl rfl
  simp only [Shift.graftSection]
  cases f.barrier.popHeld.answer with
  | run task => rfl
  | skipped => rfl
  | done =>
      simp only [Shift.replay]
      split <;> rfl

theorem proceedWaiting (now start : Instant) (manner : Manner) (deadline : Instant)
    (rest : Stack ν) :
    Turn.Mirrors σ past thread (s.proceedWaiting thread now start manner deadline (σ.stack rest))
      (f.proceedWaiting thread now start manner deadline rest) := by
  obtain ⟨facility, grafted, facilities⟩ := mirrors.barrier
  obtain ⟨facility', facilities', checked⟩ :=
    Shift.check_graft mirrors.isPast facilities now deadline
  unfold Scheduler.proceedWaiting
  rw [grafted, checked]
  refine mirrors.turn rfl facilities' ?_ rfl rfl
  simp only [Shift.graftSection]
  cases (f.barrier.check now deadline).answer with
  | settled | timedOut => simp [Shift.check, Shift.frame]
  | wait => rfl

theorem timer? : (s.timer? = none ∧ f.timer? = none) ∨ ∃ used fresh, s.timer? = some used ∧
    f.timer? = some fresh ∧ Timer.Mirrors σ used fresh := by
  have facilities := mirrors.facilities
  unfold Scheduler.timer?
  generalize s.barrier.facility = used, f.barrier.facility = fresh at facilities ⊢
  cases facilities with
  | byHand => exact .inl ⟨rfl, rfl⟩
  | byClock timers => exact .inr ⟨_, _, rfl, rfl, timers⟩

theorem firingKey? : s.firingKey? thread = (f.firingKey? thread).map σ.key := by
  unfold Scheduler.firingKey?
  rw [mirrors.worker]
  split
  · rcases mirrors.timer? with ⟨none, none'⟩ | ⟨used, fresh, timer, timer', timers⟩
    · rw [none, none']
      rfl
    · rw [timer, timer', Option.bind_some, Option.bind_some]
      exact timers.firingKey?
  · rfl

theorem proceedRaising (panic : Panic) (rest : Stack ν) :
    Turn.Mirrors σ past thread (s.proceedRaising thread panic (σ.stack rest))
      (f.proceedRaising thread panic rest) := by
  have unwound : ∀ below, Turn.Mirrors σ past thread
      (s.turn s.barrier thread (σ.stack below) (.unwound panic) [])
      (f.turn f.barrier thread below (.unwound panic) []) := fun below =>
    mirrors.turn_of_stack rfl rfl rfl
  unfold Scheduler.proceedRaising
  cases rest with
  | nil =>
      simp only [Shift.stack_nil, mirrors.firingKey?]
      cases f.firingKey? thread with
      | none => exact unwound []
      | some key => exact mirrors.turn_of_stack rfl rfl rfl
  | cons frame below =>
      cases frame with
      | awaiting start manner stage =>
          obtain ⟨facility, grafted, facilities⟩ := mirrors.barrier
          obtain ⟨facility', facilities', reset⟩ := Shift.reset_graft mirrors.isPast facilities
          simp only [Shift.stack_cons, Shift.frame, grafted, reset,
            Shift.dropped_graft mirrors.isPast]
          exact mirrors.turn rfl facilities' rfl rfl rfl
      | answering answer => exact unwound below
      | deciding | run | dropping | discarding | settling | guarding | refusing | joining
      | raising => exact mirrors.turn_of_stack rfl rfl rfl

theorem proceedSettling (rest : Stack ν) :
    Turn.Mirrors σ past thread (s.proceedSettling thread (σ.stack rest))
      (f.proceedSettling thread rest) := by
  refine mirrors.turn_of_stack rfl ?_ rfl
  cases rest with
  | nil => rfl
  | cons frame => cases frame <;> rfl

theorem proceedGuarding (rest : Stack ν) :
    Turn.Mirrors σ past thread (s.proceedGuarding thread (σ.stack rest))
      (f.proceedGuarding thread rest) := by
  obtain ⟨facility, grafted, facilities⟩ := mirrors.barrier
  obtain ⟨facility', facilities', reset⟩ := Shift.reset_graft mirrors.isPast facilities
  unfold Scheduler.proceedGuarding
  rw [grafted, reset, Shift.dropped_graft mirrors.isPast]
  exact mirrors.turn rfl facilities' rfl rfl rfl

theorem proceedRefusing (rest : Stack ν) :
    Turn.Mirrors σ past thread (s.proceedRefusing thread (σ.stack rest))
      (f.proceedRefusing thread rest) := by
  have unlocked : Mirrors σ past { s with lock := none } { f with lock := none } :=
    { mirrors with lock := rfl }
  exact unlocked.turn_of_stack rfl rfl rfl

theorem proceedDiscarding (tasks : List TaskId) (rest : Stack ν) :
    Option.Rel (Turn.Mirrors σ past thread)
      (s.proceedDiscarding thread (tasks.map σ.id) (σ.stack rest))
      (f.proceedDiscarding thread tasks rest) := by
  cases tasks with
  | nil => exact .some (mirrors.turn_of_stack rfl rfl rfl)
  | cons task others =>
      obtain ⟨facility, grafted, facilities⟩ := mirrors.barrier
      simp only [Scheduler.proceedDiscarding, List.map_cons, grafted,
        Shift.discard?_graft facility _ mirrors.isPast]
      cases discarded : f.barrier.discard? task with
      | none => exact .none
      | some barrier =>
          have facilities' : Facility.Mirrors σ facility barrier.facility := by
            rwa [(Barrier.stays_discard? discarded).facility]
          exact .some (mirrors.turn rfl facilities' rfl rfl rfl)

theorem proceedJoining (rest : Stack ν) :
    Option.Rel (Turn.Mirrors σ past thread) (s.proceedJoining thread (σ.stack rest))
      (f.proceedJoining thread rest) := by
  unfold Scheduler.proceedJoining
  rcases mirrors.timer? with ⟨none, none'⟩ | ⟨used, fresh, timer, timer', timers⟩
  · rw [none, none']
    exact .some (mirrors.turn_of_stack rfl rfl rfl)
  · rw [timer, timer']
    simp only [timers.worker]
    cases fresh.worker with
    | exited | died => exact .some (mirrors.turn_of_stack rfl rfl rfl)
    | idle | firing => exact .none

end Frames

section Steps

variable {thread : ThreadId} (mirrors : Mirrors σ past s f)
  (level : s.stack thread = σ.stack (f.stack thread))
include mirrors level

theorem proceed (now : Instant) :
    Option.Rel (Turn.Mirrors σ past thread) (s.proceed thread now) (f.proceed thread now) := by
  unfold Scheduler.proceed
  rw [level]
  cases f.stack thread with
  | nil => exact .none
  | cons frame rest =>
      cases frame with
      | deciding task => exact .some (mirrors.proceedDeciding task rest)
      | run task stage =>
          cases stage with
          | starting replayed => exact mirrors.proceedStarting task replayed rest
          | executing => exact .none
          | finishing => exact .some (mirrors.proceedFinishing task rest)
      | awaiting start manner stage =>
          cases stage with
          | replaying => exact .some (mirrors.proceedReplaying now start manner rest)
          | waiting deadline wake =>
              exact .some (mirrors.proceedWaiting now start manner deadline rest)
      | dropping tasks =>
          refine .some (mirrors.turn_of_stack rfl rfl ?_)
          rw [List.isEmpty_map, List.length_map]
          split <;> rfl
      | discarding tasks => exact mirrors.proceedDiscarding tasks rest
      | settling => exact .some (mirrors.proceedSettling rest)
      | guarding => exact .some (mirrors.proceedGuarding rest)
      | refusing => exact .some (mirrors.proceedRefusing rest)
      | answering => exact .some (mirrors.turn_of_stack rfl rfl rfl)
      | joining => exact mirrors.proceedJoining rest
      | raising panic => exact .some (mirrors.proceedRaising panic rest)

/-! ## The worker of the timer -/

omit level in
theorem withTimer {used fresh : Timer TaskId} (timers : Timer.Mirrors σ used fresh) :
    Mirrors σ past (s.withTimer used) (f.withTimer fresh) := by
  obtain ⟨facility, grafted, -⟩ := mirrors.barrier
  refine { mirrors with barrier := ⟨.byClock used, ?_, .byClock timers⟩ }
  simp only [Scheduler.withTimer, grafted]
  rfl

theorem work (alive : s.isAlive = f.isAlive) (now : Instant) :
    Option.Rel (Turn.Mirrors σ past thread) (s.work thread now) (f.work thread now) := by
  unfold Scheduler.work
  rcases mirrors.timer? with ⟨none, none'⟩ | ⟨used, fresh, timer, timer', timers⟩
  · rw [none, none']
    exact .none
  · rw [timer, timer', level]
    cases f.stack thread with
    | cons => exact .none
    | nil =>
        simp only [Shift.stack_nil, mirrors.worker]
        split
        · exact .none
        · rw [timers.worker]
          cases fresh.worker with
          | exited | died => exact .none
          | firing =>
              exact .some ⟨mirrors.withTimer (timers.conclude now), ⟨rfl, rfl⟩, level⟩
          | idle =>
              obtain ⟨answer, timers'⟩ := timers.poll now
              generalize used.poll now = polled, fresh.poll now = polled' at answer timers' ⊢
              obtain ⟨found, after⟩ := polled
              obtain ⟨found', after'⟩ := polled'
              obtain rfl : found = σ.polled found' := answer
              have moved := mirrors.withTimer timers'
              cases found' with
              | waiting wake => exact .some ⟨moved, ⟨rfl, rfl⟩, level⟩
              | ended => exact .some ⟨moved, ⟨rfl, rfl⟩, level⟩
              | firing key task =>
                  refine .some (moved.turn_of_stack ?_ rfl rfl)
                  exact calling alive task

omit mirrors in
/-- Both are at a critical section, or neither. -/
theorem takesLock (number : s.number = f.number) (alive : s.isAlive = f.isAlive)
    (move : Move ν) : s.takesLock thread (σ.move move) = f.takesLock thread move := by
  cases move with
  | request request =>
      cases request with
      | cancel handle => simp only [Scheduler.takesLock, Shift.move, Shift.request, number]
      | cancelByHandle => exact alive
      | _ => rfl
  | endBody | work => rfl
  | proceed =>
      simp only [Scheduler.takesLock, Shift.move, level]
      exact σ.takesLock_stack _

theorem attempt (alive : s.isAlive = f.isAlive) (now : Instant) (move : Move ν) :
    Option.Rel (Turn.Mirrors σ past thread) (s.attempt thread now (σ.move move))
      (f.attempt thread now move) := by
  cases move with
  | request request => exact mirrors.request level alive now request
  | endBody how => exact mirrors.endBody level how
  | proceed => exact mirrors.proceed level now
  | work => exact mirrors.work level alive now

/-- **A step that both can make, or neither**: unless a thread is busy with a call that is left
over, what it does next has the same outcome in both, up to the shift. -/
theorem step (alive : s.isAlive = f.isAlive) (now : Instant) (move : Move ν) :
    Option.Rel (Turn.Mirrors σ past thread) (s.step thread now (σ.move move))
      (f.step thread now move) := by
  unfold Scheduler.step
  rw [takesLock level mirrors.number alive, mirrors.lock]
  split
  · exact .none
  · exact mirrors.attempt level alive now move

end Steps

/-! ## Steps of calls that are left over -/

section LeftOver

variable {thread : ThreadId} (mirrors : Mirrors σ past s f)
include mirrors

/-- A turn of the used scheduler that the fresh one takes no part in. -/
theorem aside {past' : List (Task ν)} (isPast : σ.Past past') {barrier : Barrier ν}
    {facility : Facility TaskId} (grafted : barrier = σ.graft past' facility f.barrier)
    (facilities : Facility.Mirrors σ facility f.barrier.facility) {left stack : Stack ν}
    (frames : Stack.Mirrors σ left stack (f.stack thread)) (signal : Signal ν)
    (events : List Event) :
    Mirrors σ past' (s.turn barrier thread stack signal events).scheduler f :=
  { mirrors with
    isPast := isPast
    barrier := ⟨facility, grafted, facilities⟩
    frames := by
      intro other
      by_cases same : other = thread
      · subst same
        rw [stack_turn_self]
        exact ⟨left, frames⟩
      · rw [stack_turn_of_ne _ _ _ _ _ same]
        exact mirrors.frames other }

/-- A turn of the used scheduler that leaves the barrier alone. -/
theorem aside_of_stack {left stack : Stack ν}
    (frames : Stack.Mirrors σ left stack (f.stack thread)) (signal : Signal ν)
    (events : List Event) :
    ∃ past', Shift.SamePhases past past' ∧
      Mirrors σ past' (s.turn s.barrier thread stack signal events).scheduler f := by
  obtain ⟨facility, grafted, facilities⟩ := mirrors.barrier
  exact ⟨past, rfl, mirrors.aside mirrors.isPast grafted facilities frames signal events⟩

/-- A panic that is left over goes on to what is below it. -/
theorem aside_of_raising {left : Stack ν} {panic : Panic}
    (frames : Stack.Mirrors σ left (left ++ σ.stack (f.stack thread)) (f.stack thread))
    (isUser : (f.stack thread).isUser = true) :
    ∃ past', Shift.SamePhases past past' ∧ Mirrors σ past'
      (s.proceedRaising thread panic (left ++ σ.stack (f.stack thread))).scheduler f := by
  unfold Scheduler.proceedRaising
  cases left with
  | nil =>
      rw [List.nil_append] at frames ⊢
      have unwound := mirrors.aside_of_stack frames (.unwound panic) []
      cases fresh : f.stack thread with
      | nil =>
          rw [fresh] at unwound
          simp only [Shift.stack_nil]
          split
          · have empty : Stack.Mirrors σ [] [] (f.stack thread) := by
              rw [fresh]
              exact .refl []
            exact mirrors.aside_of_stack empty .working _
          · exact unwound
      | cons frame below =>
          rw [fresh] at isUser unwound
          cases frame with
          | run task stage => exact unwound
          | _ => cases isUser
  | cons frame left =>
      have rest : Stack.Mirrors σ left (left ++ σ.stack (f.stack thread)) (f.stack thread) :=
        ⟨rfl, fun frame member => frames.leftOver frame (List.mem_cons_of_mem _ member),
          fun _ => isUser⟩
      have leftOver := frames.leftOver frame List.mem_cons_self
      cases frame with
      | run | awaiting | guarding | refusing => cases leftOver
      | answering answer => exact mirrors.aside_of_stack rest (.unwound panic) []
      | deciding | dropping | discarding | settling | joining | raising =>
          exact mirrors.aside_of_stack frames (.unwound panic) []

/-- **A step of a call that is left over** leaves the fresh scheduler where it is, and the phases of
old tasks as they are. -/
theorem step_of_leftOver (busy : (f.stack thread).length < (s.stack thread).length)
    {now : Instant} {move : Move ν} {turn : Turn ν}
    (taken : s.step thread now move = some turn) :
    ∃ past', Shift.SamePhases past past' ∧ Mirrors σ past' turn.scheduler f := by
  obtain ⟨left, frames⟩ := mirrors.frames thread
  cases left with
  | nil =>
      rw [frames.length, List.length_nil] at busy
      omega
  | cons frame left =>
      have taken := attempt_of_step taken
      have isUser := frames.isUser (List.cons_ne_nil frame left)
      have leftOver := frames.leftOver frame List.mem_cons_self
      have below : ∀ frame ∈ left, frame.isLeftOver σ = true := fun frame member =>
        frames.leftOver frame (List.mem_cons_of_mem _ member)
      have rest : Stack.Mirrors σ left (left ++ σ.stack (f.stack thread)) (f.stack thread) :=
        ⟨rfl, below, fun _ => isUser⟩
      have push : ∀ next : Frame ν, next.isLeftOver σ = true → Stack.Mirrors σ (next :: left)
          (next :: (left ++ σ.stack (f.stack thread))) (f.stack thread) := fun next leftOver =>
        ⟨rfl, List.forall_mem_cons.mpr ⟨leftOver, below⟩, fun _ => isUser⟩
      have top : s.stack thread = frame :: (left ++ σ.stack (f.stack thread)) := frames.stack
      cases move with
      | request request =>
          have notUser : s.isUserCode thread = false := by
            by_contra userCode
            have user := isUser_of_isUserCode (by simpa using userCode)
            rw [top, Stack.isUser_of_isLeftOver leftOver] at user
            cases user
          simp [Scheduler.attempt, Scheduler.request, notUser] at taken
      | endBody how =>
          simp only [Scheduler.attempt, Scheduler.endBody, top] at taken
          cases frame with
          | run => cases leftOver
          | _ => cases taken
      | work =>
          simp only [Scheduler.attempt, Scheduler.work, top] at taken
          split at taken
          · next empty => cases empty
          · cases taken
      | proceed =>
          simp only [Scheduler.attempt, Scheduler.proceed, top] at taken
          cases frame with
          | run | awaiting | guarding | refusing => cases leftOver
          | deciding task =>
              obtain rfl := Option.some.inj taken
              obtain ⟨facility, grafted, facilities⟩ := mirrors.barrier
              unfold Scheduler.proceedDeciding
              rw [grafted, Shift.fire_of_isOld mirrors.isPast leftOver]
              exact ⟨past, rfl, mirrors.aside mirrors.isPast rfl facilities rest _ _⟩
          | dropping tasks =>
              obtain rfl := Option.some.inj taken
              exact mirrors.aside_of_stack (push (.discarding tasks) leftOver) _ _
          | discarding tasks =>
              cases tasks with
              | nil =>
                  obtain rfl := Option.some.inj taken
                  exact mirrors.aside_of_stack rest _ _
              | cons task others =>
                  obtain ⟨old, olds⟩ : σ.isOld task = true ∧ others.all σ.isOld = true := by
                    simpa [Frame.isLeftOver] using leftOver
                  obtain ⟨facility, grafted, facilities⟩ := mirrors.barrier
                  obtain ⟨past', isPast, same, discarded⟩ :
                      ∃ past', σ.Past past' ∧ Shift.SamePhases past past' ∧
                        (σ.graft past facility f.barrier).discard? task =
                          some (σ.graft past' facility f.barrier) :=
                    Shift.discard?_of_isOld mirrors.isPast old
                  simp only [Scheduler.proceedDiscarding, grafted, discarded,
                    Option.map_some] at taken
                  obtain rfl := Option.some.inj taken
                  have frames := push (.discarding others) olds
                  exact ⟨past', same, mirrors.aside isPast rfl facilities frames _ _⟩
          | settling | answering =>
              obtain rfl := Option.some.inj taken
              exact mirrors.aside_of_stack rest _ _
          | joining =>
              simp only [Scheduler.proceedJoining] at taken
              split at taken
              · obtain rfl := Option.some.inj taken
                exact mirrors.aside_of_stack rest _ _
              · split at taken
                · obtain rfl := Option.some.inj taken
                  exact mirrors.aside_of_stack rest _ _
                · obtain rfl := Option.some.inj taken
                  exact mirrors.aside_of_stack rest _ _
                all_goals cases taken
          | raising panic =>
              obtain rfl := Option.some.inj taken
              exact mirrors.aside_of_raising rest isUser

omit mirrors in
/-- The stack of a thread whose call of an old callback begins. -/
theorem stack_calling (level : s.stack thread = σ.stack (f.stack thread))
    (isUser : (f.stack thread).isUser = true) {task : TaskId} (old : σ.isOld task = true) :
    Stack.Mirrors σ (s.calling task ++ [.answering (.flag true)])
      (s.calling task ++ .answering (.flag true) :: s.stack thread) (f.stack thread) where
  stack := by rw [level, List.append_assoc, List.singleton_append]
  leftOver := by
    rcases s.calling_cases task with none | one
    · simp [none, Frame.isLeftOver]
    · simp [one, Frame.isLeftOver, old]
  isUser := fun _ => isUser

theorem requestCancel_of_isOld (level : s.stack thread = σ.stack (f.stack thread))
    (isUser : (f.stack thread).isUser = true) {task : TaskId} (old : σ.isOld task = true) :
    ∃ past', Shift.SamePhases past past' ∧
      Mirrors σ past' (s.requestCancel thread task).scheduler f := by
  obtain ⟨facility, grafted, facilities⟩ := mirrors.barrier
  have answering : Stack.Mirrors σ [.answering (.flag false)]
      (.answering (.flag false) :: s.stack thread) (f.stack thread) :=
    ⟨by rw [level]; rfl, by simp [Frame.isLeftOver], fun _ => isUser⟩
  unfold Scheduler.requestCancel
  rw [grafted, Shift.cancel_of_isOld mirrors.isPast old]
  exact ⟨past, rfl, mirrors.aside mirrors.isPast rfl facilities answering _ _⟩

theorem requestRead_of_isOld (level : s.stack thread = σ.stack (f.stack thread)) {task : TaskId}
    (old : σ.isOld task = true) :
    ∃ past', Shift.SamePhases past past' ∧
      Mirrors σ past' (s.requestRead thread task).scheduler f := by
  obtain ⟨facility, grafted, facilities⟩ := mirrors.barrier
  obtain ⟨past', isPast, same, read⟩ :
      ∃ past', σ.Past past' ∧ Shift.SamePhases past past' ∧
        ((σ.graft past facility f.barrier).readValue task).2 = σ.graft past' facility f.barrier :=
    Shift.readValue_of_isOld mirrors.isPast old
  rw [← grafted] at read
  have frames : Stack.Mirrors σ [] (s.stack thread) (f.stack thread) := level ▸ .refl _
  exact ⟨past', same, mirrors.aside isPast read facilities frames _ _⟩

theorem requestFire_of_isOldKey (level : s.stack thread = σ.stack (f.stack thread))
    (isUser : (f.stack thread).isUser = true) {key : TimerKey} (old : σ.isOldKey key = true) :
    ∃ past', Shift.SamePhases past past' ∧
      Mirrors σ past' (s.requestFire thread key).scheduler f := by
  have refused : ∃ past', Shift.SamePhases past past' ∧ Mirrors σ past' s.refuse.scheduler f :=
    ⟨past, rfl, mirrors⟩
  have facilities := mirrors.facilities
  obtain ⟨facility, grafted, -⟩ := mirrors.barrier
  unfold Scheduler.requestFire
  split
  · exact refused
  · next registry byHand =>
    split
    · exact refused
    · next task after fires =>
      rw [byHand] at facilities
      generalize fresh : f.barrier.facility = other at facilities
      cases facilities with
      | byHand registries =>
          obtain ⟨oldTask, later⟩ := registries.fire?_of_isOldKey old fires
          have facilities' : Facility.Mirrors σ (.byHand after) f.barrier.facility := by
            rw [fresh]
            exact .byHand later
          have replaced : ({ s.barrier with facility := .byHand after } : Barrier ν) =
              σ.graft past (.byHand after) f.barrier := by
            rw [grafted]
            rfl
          exact ⟨past, rfl, mirrors.aside mirrors.isPast replaced facilities'
            (stack_calling level isUser oldTask) _ _⟩

/-- User code comes next only where nothing is left over. -/
theorem level_of_isUserCode (userCode : s.isUserCode thread = true) :
    s.stack thread = σ.stack (f.stack thread) ∧ (f.stack thread).isUser = true := by
  have isUser := isUser_of_isUserCode userCode
  obtain ⟨left, frames⟩ := mirrors.frames thread
  cases left with
  | nil =>
      have level : s.stack thread = σ.stack (f.stack thread) := frames.stack
      rw [level, Stack.isUser_stack] at isUser
      exact ⟨level, isUser⟩
  | cons frame left =>
      have leftOver := frames.leftOver frame List.mem_cons_self
      rw [frames.stack, List.cons_append, Stack.isUser_of_isLeftOver leftOver] at isUser
      cases isUser

/-- **A request that names something old** leaves the fresh scheduler where it is, and the phases of
old tasks as they are. -/
theorem step_of_isOld {now : Instant} {move : Move ν} (old : move.isOld σ = true) {turn : Turn ν}
    (taken : s.step thread now move = some turn) :
    ∃ past', Shift.SamePhases past past' ∧ Mirrors σ past' turn.scheduler f := by
  have refused : ∃ past', Shift.SamePhases past past' ∧ Mirrors σ past' s.refuse.scheduler f :=
    ⟨past, rfl, mirrors⟩
  have taken := attempt_of_step taken
  cases move with
  | endBody | proceed | work => cases old
  | request request =>
      simp only [Scheduler.attempt, Scheduler.request] at taken
      split at taken
      · cases taken
      · next userCode =>
        obtain ⟨level, isUser⟩ := mirrors.level_of_isUserCode (by simpa using userCode)
        cases request with
        | accept | await | shutdown | drop => cases old
        | fire key =>
            obtain rfl := Option.some.inj taken
            exact mirrors.requestFire_of_isOldKey level isUser old
        | call task =>
            obtain rfl := Option.some.inj taken
            exact mirrors.aside_of_stack (stack_calling level isUser old) _ _
        | cancel handle =>
            obtain ⟨-, rfl⟩ := by simpa [Scheduler.whileOwned] using taken
            split
            · exact mirrors.requestCancel_of_isOld level isUser old
            · exact refused
        | cancelByHandle task =>
            obtain rfl := Option.some.inj taken
            split
            · exact mirrors.requestCancel_of_isOld level isUser old
            · exact refused
        | read task =>
            obtain rfl := Option.some.inj taken
            exact mirrors.requestRead_of_isOld level old

end LeftOver

end Scheduler.Mirrors

end TaskBarrier
