import TaskBarrier.Proofs.Orderly
import TaskBarrier.Proofs.Preservation

/-!
# What becomes of the facility

A transition tells what a step does to the tasks, and is silent about the facility on which their
entries are armed.  `Upkeep` fills the gap: it lists what a step can do to the facility, and which
callbacks the step calls.  A callback that has been called is *in flight* until the barrier has
decided about it.

## Main Definitions

* `Stack.called`: the callbacks in flight on a stack.
* `Upkeep`: what a step can do to the facility.
* `Scheduler.called`: the callbacks that a move calls.
* `Scheduler.Flies`: how callbacks come and go in a step.

The main statements are `flies_of_step`, by which every callback that is called stays in flight
until the barrier has decided about it, and `tends_of_step`, which says as much as most proofs need.
-/

namespace TaskBarrier

variable {ν : Type}

/-! ## Callbacks in flight -/

/-- The task about whose firing the frame has to decide. -/
def Frame.called? : Frame ν → Option TaskId
  | deciding task => some task
  | _ => none

/-- The tasks whose callbacks have been called and not been decided upon. -/
def Stack.called (stack : Stack ν) : List TaskId := stack.filterMap Frame.called?

namespace Stack

@[simp] theorem called_nil : Stack.called ([] : Stack ν) = [] := rfl

@[simp] theorem called_deciding (task : TaskId) (rest : Stack ν) :
    Stack.called (.deciding task :: rest) = task :: Stack.called rest := rfl

/-- Calls that come to their end add nothing. -/
theorem called_append_of_isEnding {top : Stack ν} (ends : ∀ frame ∈ top, frame.isEnding = true)
    (rest : Stack ν) : Stack.called (top ++ rest) = Stack.called rest := by
  have none : top.filterMap Frame.called? = [] := by
    refine List.filterMap_eq_nil_iff.mpr fun frame member => ?_
    have ends := ends frame member
    cases frame <;> first | rfl | cases ends
  rw [called, List.filterMap_append, none, List.nil_append]
  rfl

end Stack

/-- The tasks about whose callbacks a deed has decided: one, if it is such a decision. -/
def Deed.decided : Deed → List TaskId
  | call id _ => [id]
  | _ => []

/-! ## Steps -/

/-- Whether the deed is a section that may arm or disarm entries. -/
def Deed.arms : Deed → Bool
  | accept _ | cancel _ _ | reset _ _ => true
  | _ => false

/-- **What one step can do to the facility**: the barrier `b`, the move and the deed of the step,
the barrier after it, and the callbacks that the step calls. -/
inductive Upkeep (b : Barrier ν) : Move ν → Deed → Barrier ν → List TaskId → Prop
  /-- The facility is left alone. -/
  | rest {move : Move ν} {deed : Deed} {b' : Barrier ν} (apart : deed.arms = false)
      (same : b'.facility = b.facility) : Upkeep b move deed b' []
  /-- A task is accepted. -/
  | accept {move : Move ν} {now : Instant} {delay : Duration} {cadence : Cadence}
      {produces : Bool} {id : TaskId}
      (answer : (b.accept now delay cadence produces).answer = .accepted id) :
      Upkeep b move (.accept id) (b.accept now delay cadence produces).barrier []
  /-- A task is not accepted. -/
  | decline {move : Move ν} {now : Instant} {delay : Duration} {cadence : Cadence}
      {produces : Bool}
      (fails : ∀ id, (b.accept now delay cadence produces).answer ≠ .accepted id) :
      Upkeep b move .aside (b.accept now delay cadence produces).barrier []
  /-- An entry of the registry is fired. -/
  | fire {move : Move ν} {b' : Barrier ν} {registry after : Registry TaskId} {key : TimerKey}
      {task : TaskId} (byHand : b.facility = .byHand registry)
      (fires : registry.fire? key = some (task, after)) (fired : b'.facility = .byHand after) :
      Upkeep b move .aside b' [task]
  /-- A callback is called by somebody who has kept it. -/
  | call {b' : Barrier ν} {id : TaskId} (same : b'.facility = b.facility) :
      Upkeep b (.request (.call id)) .aside b' [id]
  /-- Somebody tries to cancel a task. -/
  | cancel {move : Move ν} {id : TaskId} :
      Upkeep b move (.cancel id (b.cancel id).answer) (b.cancel id).barrier []
  /-- The facility is shut down. -/
  | shutdown {move : Move ν} {b' : Barrier ν} (down : b'.facility = b.facility.shutdown.2) :
      Upkeep b move .aside b' []
  /-- A cycle ends. -/
  | reset {move : Move ν} {ending : Ending} {dropped : List TaskId} :
      Upkeep b move (.reset ending dropped) b.reset []
  /-- The worker looks for an entry that is due. -/
  | poll {move : Move ν} {b' : Barrier ν} {timer after : Timer TaskId} {now : Instant}
      {polled : Polled TaskId} (byClock : b.facility = .byClock timer)
      (looks : timer.poll now = (polled, after)) (looked : b'.facility = .byClock after) :
      Upkeep b move .aside b' polled.callback?.toList
  /-- The worker comes back from a callback. -/
  | conclude {move : Move ν} {b' : Barrier ν} {timer : Timer TaskId} {now : Instant}
      (byClock : b.facility = .byClock timer)
      (concluded : b'.facility = .byClock (timer.conclude now)) :
      Upkeep b move .aside b' []

namespace Scheduler

/-- A step of `thread` to the state `s'` tends the facility as `Upkeep` says, and all that is in
flight on the thread afterwards has been in flight before or is called by the step. -/
def Tends (s : Scheduler ν) (thread : ThreadId) (move : Move ν) (deed : Deed)
    (s' : Scheduler ν) : Prop :=
  ∃ called, Upkeep s.barrier move deed s'.barrier called ∧
    ∀ id ∈ Stack.called (s'.stack thread), id ∈ called ∨ id ∈ Stack.called (s.stack thread)

/-- The tasks whose callbacks a move calls: that of an entry which fires, or of one that somebody
has kept.  There is at most one. -/
def called (s : Scheduler ν) (now : Instant) : Move ν → List TaskId
  | .request (.call task) => [task]
  | .request (.fire key) =>
      match s.barrier.facility with
      | .byHand registry => ((registry.fire? key).map (·.1)).toList
      | .byClock _ => []
  | .work =>
      match s.timer? with
      | some timer => (timer.poll now).1.callback?.toList
      | none => []
  | .request _ | .endBody _ | .proceed => []

/-- The calls that are heard: a callback leads nowhere once nothing is left of its scheduler. -/
def heard (s : Scheduler ν) (called : List TaskId) : List TaskId :=
  if s.isAlive then called else []

@[simp] theorem heard_nil (s : Scheduler ν) : s.heard [] = [] := ite_self []

/-- **How callbacks come and go** in a step of `thread` to the state `s'`. -/
structure Flies (s : Scheduler ν) (thread : ThreadId) (move : Move ν) (deed : Deed)
    (called : List TaskId) (s' : Scheduler ν) : Prop where
  /-- The step tends the facility, and calls the given callbacks. -/
  upkeep : Upkeep s.barrier move deed s'.barrier called
  /-- What is called comes into flight, and what is decided about leaves it. -/
  flight : deed.decided ++ Stack.called (s'.stack thread) =
    s.heard called ++ Stack.called (s.stack thread)
  /-- Who drops the scheduler shuts the facility down. -/
  dropped : s'.dropped = s.dropped ∨ s'.barrier.facility.isShutdown = true

/-- A step that says how callbacks come and go tends the facility. -/
theorem Flies.tends {s s' : Scheduler ν} {thread : ThreadId} {move : Move ν} {deed : Deed}
    {called : List TaskId} (flies : s.Flies thread move deed called s') :
    s.Tends thread move deed s' := by
  refine ⟨called, flies.upkeep, fun id member => ?_⟩
  have flying : id ∈ s.heard called ++ Stack.called (s.stack thread) :=
    flies.flight ▸ List.mem_append_right _ member
  rcases List.mem_append.mp flying with new | old
  · unfold heard at new
    split at new
    · exact .inl new
    · cases new
  · exact .inr old

/-- A turn, of which it is known what it does to the facility and to the callbacks in flight. -/
theorem flies_turn {s : Scheduler ν} {thread : ThreadId} {move : Move ν} {deed : Deed}
    {barrier : Barrier ν} {stack : Stack ν} {signal : Signal ν} {events : List Event}
    {called : List TaskId} (upkeep : Upkeep s.barrier move deed barrier called)
    (flight : deed.decided ++ Stack.called stack =
      s.heard called ++ Stack.called (s.stack thread)) :
    s.Flies thread move deed called (s.turn barrier thread stack signal events).scheduler where
  upkeep := upkeep
  flight := by rwa [stack_turn_self]
  dropped := .inl rfl

/-- A turn that calls nothing. -/
theorem flies_turn_of_silent {s : Scheduler ν} {thread : ThreadId} {move : Move ν} {deed : Deed}
    {barrier : Barrier ν} {stack : Stack ν} {signal : Signal ν} {events : List Event}
    (upkeep : Upkeep s.barrier move deed barrier [])
    (flight : deed.decided ++ Stack.called stack = Stack.called (s.stack thread)) :
    s.Flies thread move deed [] (s.turn barrier thread stack signal events).scheduler :=
  flies_turn upkeep (by rw [heard_nil]; exact flight)

/-- A turn that leaves the facility alone and calls nothing. -/
theorem flies_turn_of_stays {s : Scheduler ν} {thread : ThreadId} {move : Move ν} {deed : Deed}
    {barrier : Barrier ν} {stack : Stack ν} {signal : Signal ν} {events : List Event}
    (same : barrier.facility = s.barrier.facility) (apart : deed.arms = false)
    (flight : deed.decided ++ Stack.called stack = Stack.called (s.stack thread)) :
    s.Flies thread move deed [] (s.turn barrier thread stack signal events).scheduler :=
  flies_turn_of_silent (.rest apart same) flight

/-- A turn with which the lock is taken or given back. -/
theorem Flies.of_lock {s s' : Scheduler ν} {lock : Option ThreadId} {thread : ThreadId}
    {move : Move ν} {deed : Deed} {called : List TaskId}
    (flies : { s with lock := lock }.Flies thread move deed called s') :
    s.Flies thread move deed called s' :=
  ⟨flies.upkeep, flies.flight, flies.dropped⟩

/-- A turn of nobody leaves everything alone. -/
theorem flies_refuse (s : Scheduler ν) (thread : ThreadId) (move : Move ν) :
    s.Flies thread move .aside [] s.refuse.scheduler :=
  ⟨.rest rfl rfl, by rw [heard_nil]; rfl, .inl rfl⟩

/-- What the call of a callback puts in flight is that callback, if it is heard. -/
theorem called_calling (s : Scheduler ν) (task : TaskId) (rest : Stack ν) :
    Stack.called (s.calling task ++ rest) = s.heard [task] ++ Stack.called rest := by
  unfold calling heard
  split <;> rfl

theorem flies_requestAccept (s : Scheduler ν) (thread : ThreadId) (now : Instant)
    (delay : Duration) (cadence : Cadence) (produces : Bool) :
    s.Flies thread (.request (.accept delay cadence produces))
      (s.requestDeed now (.accept delay cadence produces)) []
      (s.requestAccept thread now delay cadence produces).scheduler := by
  rcases s.requestAccept_cases thread now delay cadence produces with
    ⟨id, answer, eq⟩ | ⟨degenerate, eq⟩ | ⟨fails, last, failing, eq⟩
  · simp only [eq, requestDeed, answer]
    exact flies_turn_of_silent (.accept answer) rfl
  · simp only [eq, requestDeed, s.barrier.accept_of_isDegenerate now delay degenerate]
    exact flies_turn_of_stays rfl rfl rfl
  · rw [eq, requestDeed_of_fails fails]
    refine .of_lock (flies_turn_of_silent (.decline fails) ?_)
    rcases failing with ⟨failure, rfl⟩ | ⟨panic, rfl⟩
    · rfl
    · rfl

theorem flies_requestFire (s : Scheduler ν) (thread : ThreadId) (now : Instant) (key : TimerKey) :
    s.Flies thread (.request (.fire key)) .aside (s.called now (.request (.fire key)))
      (s.requestFire thread key).scheduler := by
  unfold requestFire
  split
  · next byClock =>
    have nothing : s.called now (.request (.fire key)) = [] := by simp [called, byClock]
    rw [nothing]
    exact s.flies_refuse thread _
  · next registry byHand =>
    split
    · next none =>
      have nothing : s.called now (.request (.fire key)) = [] := by simp [called, byHand, none]
      rw [nothing]
      exact s.flies_refuse thread _
    · next task after fires =>
      have calls : s.called now (.request (.fire key)) = [task] := by simp [called, byHand, fires]
      rw [calls]
      exact flies_turn (.fire byHand fires rfl) (s.called_calling ..)

theorem flies_requestCancel (s : Scheduler ν) (thread : ThreadId) (move : Move ν)
    (task : TaskId) :
    s.Flies thread move (.cancel task (s.barrier.cancel task).answer) []
      (s.requestCancel thread task).scheduler := by
  refine flies_turn_of_silent .cancel ?_
  split <;> rfl

theorem flies_requestShutdown (s : Scheduler ν) (thread : ThreadId) (move : Move ν) :
    s.Flies thread move .aside [] (s.requestShutdown thread).scheduler := by
  refine flies_turn_of_silent (.shutdown rfl) ?_
  split <;> rfl

theorem flies_request {s : Scheduler ν} {thread : ThreadId} {now : Instant} {request : Request}
    {turn : Turn ν} (taken : s.request thread now request = some turn) :
    s.Flies thread (.request request) (s.requestDeed now request) (s.called now (.request request))
      turn.scheduler := by
  unfold Scheduler.request at taken
  split at taken
  · cases taken
  · cases request with
    | accept delay cadence produces =>
        obtain ⟨-, rfl⟩ := by simpa [whileOwned] using taken
        exact s.flies_requestAccept thread now delay cadence produces
    | fire key =>
        obtain rfl := Option.some.inj taken
        exact s.flies_requestFire thread now key
    | call task =>
        obtain rfl := Option.some.inj taken
        exact flies_turn (.call rfl) (s.called_calling ..)
    | cancel handle =>
        obtain ⟨-, rfl⟩ := by simpa [whileOwned] using taken
        simp only [requestDeed]
        split
        · exact s.flies_requestCancel thread _ handle.task
        · exact s.flies_refuse thread _
    | cancelByHandle task =>
        obtain rfl := Option.some.inj taken
        simp only [requestDeed]
        split
        · exact s.flies_requestCancel thread _ task
        · exact s.flies_refuse thread _
    | await manner =>
        obtain ⟨-, rfl⟩ := by simpa [whileOwned] using taken
        exact flies_turn_of_stays rfl rfl rfl
    | read task =>
        obtain rfl := Option.some.inj taken
        exact flies_turn_of_stays (s.barrier.stays_readValue task).facility rfl rfl
    | shutdown =>
        obtain ⟨-, rfl⟩ := by simpa [whileOwned] using taken
        exact s.flies_requestShutdown thread _
    | drop =>
        obtain ⟨-, rfl⟩ := by simpa [whileOwned] using taken
        have shutdown := flies_requestShutdown { s with dropped := true } thread
          (.request .drop : Move ν)
        -- Whether anybody hears does not matter where nobody is called.
        have flight := shutdown.flight
        rw [heard_nil] at flight
        exact ⟨shutdown.upkeep, flight.trans (congrArg (· ++ _) s.heard_nil.symm),
          .inr (Facility.isShutdown_shutdown _)⟩

theorem flies_endBody {s : Scheduler ν} {thread : ThreadId} {now : Instant} {how : BodyEnd ν}
    {turn : Turn ν} (taken : s.endBody thread how = some turn) :
    s.Flies thread (.endBody how) (s.deed thread now (.endBody how)) [] turn.scheduler := by
  unfold endBody at taken
  split at taken
  · next task rest top =>
    have leaves : s.deed thread now (.endBody how) = .leave task := by simp [deed, top]
    rw [leaves]
    cases how with
    | returned value =>
        obtain rfl := Option.some.inj taken
        exact flies_turn_of_stays rfl rfl (by rw [top]; rfl)
    | panicked panic =>
        obtain rfl := Option.some.inj taken
        exact flies_turn_of_stays rfl rfl (by rw [top]; rfl)
  · cases taken

theorem flies_proceedDeciding {s : Scheduler ν} {thread : ThreadId} {task : TaskId}
    {rest : Stack ν} (top : s.stack thread = .deciding task :: rest) :
    s.Flies thread .proceed (.call task (s.barrier.fire task).answer) []
      (s.proceedDeciding thread task rest).scheduler := by
  refine flies_turn_of_stays (s.barrier.stays_fire task).facility rfl ?_
  rw [top]
  split <;> rfl

theorem flies_proceedStarting {s : Scheduler ν} {thread : ThreadId} {now : Instant}
    {task : TaskId} {replayed : Bool} {rest : Stack ν} {turn : Turn ν}
    (top : s.stack thread = .run task (.starting replayed) :: rest)
    (taken : s.proceedStarting thread task replayed rest = some turn) :
    s.Flies thread .proceed (s.frameDeed now (s.stack thread)) [] turn.scheduler := by
  unfold proceedStarting at taken
  cases entered : s.barrier.enterBody? task with
  | none => simp [entered] at taken
  | some entry =>
      obtain ⟨executes, barrier⟩ := entry
      have enters : s.frameDeed now (s.stack thread) = .enter task executes := by
        simp [frameDeed, top, entered]
      have same := (Barrier.stays_enterBody? entered).facility
      rw [enters]
      cases executes with
      | true =>
          obtain rfl := by simpa [entered] using taken
          exact flies_turn_of_stays same rfl (by rw [top]; rfl)
      | false =>
          obtain rfl := by simpa [entered] using taken
          exact flies_turn_of_stays same rfl (by rw [top]; rfl)

theorem flies_proceedFinishing {s : Scheduler ν} {thread : ThreadId} {task : TaskId}
    {rest : Stack ν} (top : s.stack thread = .run task .finishing :: rest) :
    s.Flies thread .proceed (.finish task) [] (s.proceedFinishing thread task rest).scheduler := by
  refine flies_turn_of_stays (s.barrier.stays_finish task).facility rfl ?_
  rw [top]
  split <;> rfl

theorem flies_proceedReplaying {s : Scheduler ν} {thread : ThreadId} {now start : Instant}
    {manner : Manner} {rest : Stack ν}
    (top : s.stack thread = .awaiting start manner .replaying :: rest) :
    s.Flies thread .proceed (.replay s.barrier.popHeld.answer) []
      (s.proceedReplaying thread now start manner rest).scheduler := by
  refine flies_turn_of_stays s.barrier.stays_popHeld.facility rfl ?_
  rw [top]
  split
  · rfl
  · rfl
  · split <;> rfl

theorem flies_proceedWaiting {s : Scheduler ν} {thread : ThreadId}
    {now start deadline wake : Instant} {manner : Manner} {rest : Stack ν}
    (top : s.stack thread = .awaiting start manner (.waiting deadline wake) :: rest) :
    s.Flies thread .proceed (s.frameDeed now (s.stack thread)) []
      (s.proceedWaiting thread now start manner deadline rest).scheduler := by
  rw [top]
  by_cases settled : s.barrier.outstanding = 0
  · simp only [proceedWaiting, frameDeed, Barrier.check, settled, if_pos]
    refine flies_turn_of_silent .reset ?_
    rw [top]
    exact Stack.called_append_of_isEnding (fun _ => Manner.isEnding_of_mem_succeeding) rest
  · by_cases reached : now.reached deadline = true
    · simp only [proceedWaiting, frameDeed, Barrier.check, settled, reached, if_false, if_true]
      refine flies_turn_of_silent .reset ?_
      rw [top]
      exact Stack.called_append_of_isEnding (fun _ => Manner.isEnding_of_mem_failing) rest
    · simp only [proceedWaiting, frameDeed, Barrier.check, settled, reached, if_false]
      exact flies_turn_of_stays rfl rfl (by rw [top]; rfl)

theorem flies_proceedRaising {s : Scheduler ν} {thread : ThreadId} {now : Instant}
    {panic : Panic} {rest : Stack ν} (top : s.stack thread = .raising panic :: rest) :
    s.Flies thread .proceed (s.frameDeed now (s.stack thread)) []
      (s.proceedRaising thread panic rest).scheduler := by
  unfold proceedRaising
  split
  · rw [top]
    exact flies_turn_of_silent .reset (by rw [top]; rfl)
  · rw [top]
    exact flies_turn_of_stays rfl rfl (by rw [top]; rfl)
  · rw [top]
    split
    · exact flies_turn_of_stays rfl rfl (by rw [top]; rfl)
    · exact flies_turn_of_stays rfl rfl (by rw [top]; rfl)
  · next frame below not_await not_answer =>
    have nothing : s.frameDeed now (s.stack thread) = .aside := by
      rw [top]
      cases frame with
      | awaiting => exact absurd rfl (not_await _ _ _)
      | _ => rfl
    rw [nothing]
    exact flies_turn_of_stays rfl rfl (by rw [top]; rfl)

theorem flies_proceedDiscarding {s : Scheduler ν} {thread : ThreadId} {now : Instant}
    {tasks : List TaskId} {rest : Stack ν} {turn : Turn ν}
    (top : s.stack thread = .discarding tasks :: rest)
    (taken : s.proceedDiscarding thread tasks rest = some turn) :
    s.Flies thread .proceed (s.frameDeed now (s.stack thread)) [] turn.scheduler := by
  rw [top]
  cases tasks with
  | nil =>
      obtain rfl := Option.some.inj taken
      exact flies_turn_of_stays rfl rfl (by rw [top]; rfl)
  | cons task others =>
      obtain ⟨barrier, discarded, rfl⟩ := Option.map_eq_some_iff.mp taken
      exact flies_turn_of_stays (Barrier.stays_discard? discarded).facility rfl (by rw [top]; rfl)

theorem flies_proceedJoining {s : Scheduler ν} {thread : ThreadId} {rest : Stack ν}
    {turn : Turn ν} (top : s.stack thread = .joining :: rest)
    (taken : s.proceedJoining thread rest = some turn) :
    s.Flies thread .proceed .aside [] turn.scheduler := by
  unfold proceedJoining at taken
  split at taken
  · obtain rfl := Option.some.inj taken
    exact flies_turn_of_stays rfl rfl (by rw [top]; rfl)
  · split at taken
    · obtain rfl := Option.some.inj taken
      exact flies_turn_of_stays rfl rfl (by rw [top]; rfl)
    · obtain rfl := Option.some.inj taken
      exact flies_turn_of_stays rfl rfl (by rw [top]; rfl)
    all_goals cases taken

theorem flies_proceed {s : Scheduler ν} {thread : ThreadId} {now : Instant} {turn : Turn ν}
    (taken : s.proceed thread now = some turn) :
    s.Flies thread .proceed (s.frameDeed now (s.stack thread)) [] turn.scheduler := by
  unfold proceed at taken
  split at taken
  · cases taken
  · next frame rest top =>
    split at taken
    · obtain rfl := Option.some.inj taken
      rw [top]
      exact flies_proceedDeciding top
    · exact flies_proceedStarting top taken
    · cases taken
    · obtain rfl := Option.some.inj taken
      rw [top]
      exact flies_proceedFinishing top
    · obtain rfl := Option.some.inj taken
      rw [top]
      exact flies_proceedReplaying top
    · obtain rfl := Option.some.inj taken
      exact flies_proceedWaiting top
    · obtain rfl := Option.some.inj taken
      rw [top]
      exact flies_turn_of_stays rfl rfl (by rw [top]; rfl)
    · exact flies_proceedDiscarding top taken
    · obtain rfl := Option.some.inj taken
      rw [top]
      exact flies_turn_of_stays rfl rfl (by rw [top]; rfl)
    · obtain rfl := Option.some.inj taken
      rw [top]
      exact flies_turn_of_silent .reset (by rw [top]; rfl)
    · obtain rfl := Option.some.inj taken
      rw [top]
      have top' : { s with lock := none }.stack thread = .refusing :: rest := top
      exact .of_lock (flies_turn_of_stays rfl rfl (by rw [top']; rfl))
    · rw [top]
      exact flies_proceedJoining top taken
    · obtain rfl := Option.some.inj taken
      rw [top]
      exact flies_turn_of_stays rfl rfl (by rw [top]; rfl)
    · obtain rfl := Option.some.inj taken
      exact flies_proceedRaising top

/-- The timer of a scheduler that has one is its facility. -/
theorem facility_of_timer? {s : Scheduler ν} {timer : Timer TaskId}
    (has : s.timer? = some timer) : s.barrier.facility = .byClock timer := by
  unfold timer? at has
  split at has
  · next byClock => rw [byClock, Option.some.inj has]
  · cases has

/-- A turn of the worker that replaces the timer and calls nothing. -/
theorem flies_withTimer {s : Scheduler ν} {thread : ThreadId} {move : Move ν}
    {timer : Timer TaskId}
    (upkeep : Upkeep s.barrier move .aside (s.withTimer timer).barrier []) :
    s.Flies thread move .aside [] (s.withTimer timer) :=
  ⟨upkeep, by rw [heard_nil]; rfl, .inl rfl⟩

theorem flies_work {s : Scheduler ν} {thread : ThreadId} {now : Instant} {turn : Turn ν}
    (taken : s.work thread now = some turn) :
    s.Flies thread .work .aside (s.called now .work) turn.scheduler := by
  unfold work at taken
  split at taken
  · next timer has idle =>
    have byClock := facility_of_timer? has
    rw [called, has]
    split at taken
    · cases taken
    · split at taken
      · cases taken
      · cases taken
      · next firing =>
        obtain rfl := Option.some.inj taken
        -- A worker that comes back from a callback does not look for another one.
        have nothing : (timer.poll now).1.callback? = none := by simp [Timer.poll, firing,
          Polled.callback?]
        simp only [nothing]
        exact flies_withTimer (.conclude byClock rfl)
      · split at taken
        · next wake after looks =>
          obtain rfl := Option.some.inj taken
          simp only [looks]
          exact flies_withTimer (.poll byClock looks rfl)
        · next after looks =>
          obtain rfl := Option.some.inj taken
          simp only [looks]
          exact flies_withTimer (.poll byClock looks rfl)
        · next key task after looks =>
          obtain rfl := Option.some.inj taken
          simp only [looks]
          refine ⟨.poll byClock looks rfl, ?_, .inl rfl⟩
          rw [stack_turn_self, idle, ← List.append_nil ((s.withTimer after).calling task)]
          exact (s.withTimer after).called_calling task []
  · cases taken

/-- **Every step says how callbacks come and go.** -/
theorem flies_of_step {s : Scheduler ν} {thread : ThreadId} {now : Instant} {move : Move ν}
    {turn : Turn ν} (taken : s.step thread now move = some turn) :
    s.Flies thread move (s.deed thread now move) (s.called now move) turn.scheduler := by
  have taken := attempt_of_step taken
  cases move with
  | request request => exact flies_request taken
  | endBody how => exact flies_endBody taken
  | proceed => exact flies_proceed taken
  | work => exact flies_work taken

/-- **Every step tends the facility** as `Upkeep` says. -/
theorem tends_of_step {s : Scheduler ν} {thread : ThreadId} {now : Instant} {move : Move ν}
    {turn : Turn ν} (taken : s.step thread now move = some turn) :
    s.Tends thread move (s.deed thread now move) turn.scheduler :=
  (flies_of_step taken).tends

end Scheduler

end TaskBarrier
