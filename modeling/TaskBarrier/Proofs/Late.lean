import TaskBarrier.Proofs.Armed
import TaskBarrier.Proofs.Bodies
import TaskBarrier.Proofs.Accounting
import TaskBarrier.Proofs.ExactlyOnce
import TaskBarrier.Proofs.Awaiting
import TaskBarrier.Proofs.Without

/-!
# Late completions

A reset gives up on the tasks that are running: their bodies go on, and nobody waits for them.  Some
of them end *late*, in a later cycle, and some never.  This module looks at one run, and tells the
steps that belong to such completions from all others.

Which they are can be read off the stacks.  A step is late if the frame on top is a run of one of
these tasks, and also if it lets the call return, or the panic out, that the run has come from.  The
latter is a step on a frame that answers or raises, made by a thread whose step before was late.

Late steps change the records of these tasks and what stands on top of one stack, and nothing else.
In particular the end of such a run is not counted, because the reset has cleared the flag of the
task.  The worker of a timer notices them, but all that follows is when it has time for the next
callback, and when a shutdown need not wait for it any more.

## Main Definitions

* `Stack.isLate`, `History.lastLate`: which steps are late.
* `History.others`: the steps that belong to no late completion.
* `Stack.base`: a stack without what belongs to late completions on top of it.
* `LeftBehind`: a reset has given up on a run of the task.
* `Scheduler.Left`: what is known from then on.

The main statements are `Left.step`, `Left.late_step` and `idle_step`.
-/

namespace TaskBarrier

variable {ν : Type}

/-! ## Which steps are late -/

namespace Stack

/-- Whether the frame on top belongs to the late completion of one of the tasks.  `late` says so of
the last step of the thread. -/
def isLate (past : List TaskId) (late : Bool) : Stack ν → Bool
  | .run task _ :: _ => past.contains task
  | .answering _ :: _ | .raising _ :: _ => late
  | _ => false

/-- What is left of a stack without what stands on top of it and belongs to late completions.  The
wait of a shutdown for the worker is left out as well. -/
def base (past : List TaskId) : Bool → Stack ν → Stack ν
  | _, [] => []
  | _, .run task stage :: rest =>
      if past.contains task then base past true rest else .run task stage :: rest
  | true, .answering _ :: rest | true, .raising _ :: rest => base past true rest
  | _, .joining :: rest => base past false rest
  | _, frame :: rest => frame :: rest

/-- No run of one of the tasks stands on an await. -/
def Unawaited (past : List TaskId) : Stack ν → Prop
  | [] => True
  | .run task _ :: rest => (task ∈ past → awaits rest = 0) ∧ Unawaited past rest
  | _ :: rest => Unawaited past rest

end Stack

/-- Whether the last step of a thread belongs to a late completion. -/
def History.lastLate (past : List TaskId) : History ν → ThreadId → Bool
  | [] => fun _ => false
  | stride :: earlier =>
      Function.update (History.lastLate past earlier) stride.thread
        (Stack.isLate past (History.lastLate past earlier stride.thread)
          (stride.before.stack stride.thread))

/-- Whether the step is one of the worker of the timer that calls nothing, or one of a shutdown that
has waited for it. -/
def Stride.isIdle (stride : Stride ν) : Bool :=
  match stride.move, stride.before.stack stride.thread with
  | .work, _ => (stride.turn.scheduler.stack stride.thread).isEmpty
  | .proceed, .joining :: _ => true
  | _, _ => false

/-- The steps that belong to no late completion of one of the tasks. -/
def History.others (past : List TaskId) : History ν → History ν
  | [] => []
  | stride :: earlier =>
      if Stack.isLate past (History.lastLate past earlier stride.thread)
          (stride.before.stack stride.thread) || stride.isIdle then
        History.others past earlier
      else stride :: History.others past earlier

/-- Whether the body of one of the tasks asks for something. -/
def Stride.isAsked (past : List TaskId) (stride : Stride ν) : Bool :=
  match stride.move, stride.before.stack stride.thread with
  | .request _, .run id .executing :: _ => past.contains id
  | _, _ => false

/-- The bodies of the tasks ask for nothing. -/
def History.Quiet (past : List TaskId) (history : History ν) : Prop :=
  ∀ stride ∈ history, stride.isAsked past = false

/-! ## The worker of the timer -/

/-- The entry whose callback the worker of the facility is executing. -/
def Facility.firingKey? {κ : Type} : Facility κ → Option TimerKey
  | .byHand _ => none
  | .byClock timer => timer.firingKey?

namespace Facility

variable {κ : Type} (facility : Facility κ)

@[simp] theorem firingKey?_disarm (key : TimerKey) :
    (facility.disarm key).firingKey? = facility.firingKey? := by
  cases facility <;> rfl

theorem firingKey?_foldl_disarm (keys : List TimerKey) :
    (keys.foldl disarm facility).firingKey? = facility.firingKey? := by
  induction keys generalizing facility with
  | nil => rfl
  | cons key keys ih => rw [List.foldl_cons, ih, firingKey?_disarm]

@[simp] theorem firingKey?_arm (now : Instant) (delay : Duration) (cadence : Cadence)
    (callback : κ) :
    (facility.arm now delay cadence callback).2.firingKey? = facility.firingKey? := by
  cases facility with
  | byHand registry => rfl
  | byClock timer =>
      simp only [arm, Timer.arm]
      split
      · rfl
      · cases now.after? delay <;> rfl

@[simp] theorem firingKey?_shutdown : facility.shutdown.2.firingKey? = facility.firingKey? := by
  cases facility with
  | byHand registry => rfl
  | byClock timer =>
      simp only [shutdown, Timer.shutdown]
      split <;> rfl

end Facility

namespace Scheduler

theorem firingKey?_of_worker {s : Scheduler ν} {thread : ThreadId}
    (worker : s.worker = some thread) :
    s.firingKey? thread = s.barrier.facility.firingKey? := by
  unfold firingKey? timer?
  rw [if_pos worker]
  cases s.barrier.facility <;> rfl

/-- Only the worker itself begins or ends the execution of a callback. -/
theorem firingKey?_of_step {s : Scheduler ν} {thread : ThreadId} {now : Instant} {move : Move ν}
    {turn : Turn ν} (taken : s.step thread now move = some turn) (other : move ≠ .work) :
    turn.scheduler.barrier.facility.firingKey? = s.barrier.facility.firingKey? := by
  have stays {b b' : Barrier ν} (same : b.Stays b') :
      b'.facility.firingKey? = b.facility.firingKey? := by rw [same.facility]
  have cancels (id : TaskId) : (s.barrier.cancel id).barrier.facility.firingKey? =
      s.barrier.facility.firingKey? := by
    rcases s.barrier.facility_cancel id with ⟨-, same⟩ | ⟨-, task, slot, -, -, disarmed⟩
    · rw [same]
    · rw [disarmed, Facility.firingKey?_disarm]
  have resets : s.barrier.reset.facility.firingKey? = s.barrier.facility.firingKey? :=
    Facility.firingKey?_foldl_disarm ..
  have taken := attempt_of_step taken
  cases move with
  | work => exact absurd rfl other
  | endBody how =>
      simp only [attempt, endBody] at taken
      split at taken
      · obtain rfl := Option.some.inj taken
        rfl
      · cases taken
  | request request =>
      simp only [attempt, Scheduler.request] at taken
      split at taken
      · cases taken
      · cases request with
        | accept delay cadence produces =>
            obtain ⟨-, rfl⟩ := by simpa [whileOwned] using taken
            rw [barrier_requestAccept]
            rcases s.barrier.facility_accept now delay cadence produces with same | armed
            · rw [same]
            · rw [armed, Facility.firingKey?_arm]
        | fire key =>
            obtain rfl := Option.some.inj taken
            unfold requestFire
            split
            · rfl
            · next registry byHand =>
              split
              · rfl
              · rw [byHand]
                rfl
        | call | read =>
            obtain rfl := Option.some.inj taken
            first | rfl | exact stays (s.barrier.stays_readValue _)
        | cancel handle =>
            obtain ⟨-, rfl⟩ := by simpa [whileOwned] using taken
            split
            · exact cancels handle.task
            · rfl
        | cancelByHandle task =>
            obtain rfl := Option.some.inj taken
            split
            · exact cancels task
            · rfl
        | await manner =>
            obtain ⟨-, rfl⟩ := by simpa [whileOwned] using taken
            rfl
        | shutdown | drop =>
            obtain ⟨-, rfl⟩ := by simpa [whileOwned] using taken
            exact Facility.firingKey?_shutdown ..
  | proceed =>
      simp only [attempt, proceed] at taken
      split at taken
      · cases taken
      · next frame rest top =>
        cases frame with
        | deciding task =>
            obtain rfl := Option.some.inj taken
            exact stays (s.barrier.stays_fire task)
        | run task stage =>
            cases stage with
            | starting replayed =>
                simp only [proceedStarting] at taken
                split at taken
                · cases taken
                all_goals
                  next entered =>
                    obtain rfl := Option.some.inj taken
                    exact stays (Barrier.stays_enterBody? entered)
            | executing => cases taken
            | finishing =>
                obtain rfl := Option.some.inj taken
                exact stays (s.barrier.stays_finish task)
        | awaiting start manner stage =>
            cases stage with
            | replaying =>
                obtain rfl := Option.some.inj taken
                exact stays s.barrier.stays_popHeld
            | waiting deadline wake =>
                obtain rfl := Option.some.inj taken
                show (s.barrier.check now deadline).barrier.facility.firingKey? = _
                unfold Barrier.check
                split
                · exact resets
                · split
                  · exact resets
                  · rfl
        | dropping | settling | refusing | answering =>
            obtain rfl := Option.some.inj taken
            rfl
        | guarding =>
            obtain rfl := Option.some.inj taken
            exact resets
        | discarding tasks =>
            cases tasks with
            | nil =>
                obtain rfl := Option.some.inj taken
                rfl
            | cons task others =>
                obtain ⟨barrier, discarded, rfl⟩ := Option.map_eq_some_iff.mp taken
                exact stays (Barrier.stays_discard? discarded)
        | joining =>
            simp only [proceedJoining] at taken
            split at taken
            · obtain rfl := Option.some.inj taken
              rfl
            · split at taken
              · obtain rfl := Option.some.inj taken
                rfl
              · obtain rfl := Option.some.inj taken
                rfl
              all_goals cases taken
        | raising panic =>
            obtain rfl := Option.some.inj taken
            unfold proceedRaising
            split
            · exact resets
            · rfl
            · split <;> rfl
            · rfl

/-- While a callback goes on, on the worker of the timer, the timer knows of it. -/
def Attended (s : Scheduler ν) : Prop :=
  ∀ thread, s.worker = some thread → s.stack thread ≠ [] →
    s.barrier.facility.firingKey?.isSome = true

/-- The worker of the timer makes no step of its own but between two callbacks. -/
theorem stack_of_work {s : Scheduler ν} {thread : ThreadId} {now : Instant} {turn : Turn ν}
    (taken : s.step thread now .work = some turn) :
    s.worker = some thread ∧ s.stack thread = [] := by
  have taken := attempt_of_step taken
  simp only [attempt, work] at taken
  split at taken
  · next timer has empty =>
    split at taken
    · cases taken
    · next own => exact ⟨by simpa using own, empty⟩
  · cases taken

/-- **What the worker of the timer does between two callbacks**: it leaves the timer as it is for
all others, and calls nothing, or begins to execute a callback. -/
theorem of_work {s : Scheduler ν} {thread : ThreadId} {now : Instant} {turn : Turn ν}
    (taken : s.step thread now .work = some turn) :
    (∃ facility : Facility TaskId, facility.bare = s.barrier.facility.bare ∧
        turn.scheduler.barrier = { s.barrier with facility := facility }) ∧
      (turn.scheduler.stack thread ≠ [] →
        turn.scheduler.barrier.facility.firingKey?.isSome = true ∧ turn.signal = .working) := by
  obtain ⟨-, empty⟩ := stack_of_work taken
  have taken := attempt_of_step taken
  simp only [attempt, work] at taken
  split at taken
  · next timer has _ =>
    have byClock := facility_of_timer? has
    have looked := Facility.bare_poll timer now
    have rests (after : Timer TaskId) : (s.withTimer after).stack thread = [] := empty
    split at taken
    · cases taken
    · split at taken
      · cases taken
      · cases taken
      · obtain rfl := Option.some.inj taken
        exact ⟨⟨_, by rw [byClock]; exact Facility.bare_conclude timer now, rfl⟩,
          fun busy => absurd (rests _) busy⟩
      · split at taken
        · next looks =>
          obtain rfl := Option.some.inj taken
          rw [looks, ← byClock] at looked
          exact ⟨⟨_, looked, rfl⟩, fun busy => absurd (rests _) busy⟩
        · next looks =>
          obtain rfl := Option.some.inj taken
          rw [looks, ← byClock] at looked
          exact ⟨⟨_, looked, rfl⟩, fun busy => absurd (rests _) busy⟩
        · next key task after looks =>
          obtain rfl := Option.some.inj taken
          rw [looks, ← byClock] at looked
          refine ⟨⟨_, looked, rfl⟩, fun _ => ⟨?_, rfl⟩⟩
          show after.firingKey?.isSome = true
          rcases timer.poll_cases now with ⟨-, eq⟩ | ⟨-, -, eq⟩ | ⟨-, -, _, _, -, -, -, eq⟩ |
            ⟨-, -, _, first, rest, taken, -, -, -, -, eq⟩
          all_goals
            obtain ⟨kind, rfl⟩ := Prod.mk.inj (looks.symm.trans eq)
          · cases kind
          · cases kind
          · cases kind
          · rfl
  · cases taken

/-- Attention is kept by every step. -/
theorem Attended.step {s : Scheduler ν} {thread : ThreadId} {now : Instant} {move : Move ν}
    {turn : Turn ν} (attended : s.Attended) (taken : s.step thread now move = some turn) :
    turn.scheduler.Attended := by
  intro worker isWorker busy
  have follows := follows_of_step taken
  rw [follows.worker] at isWorker
  by_cases works : move = .work
  · subst works
    obtain ⟨own, -⟩ := stack_of_work taken
    obtain rfl : worker = thread := Option.some.inj (isWorker.symm.trans own)
    exact ((of_work taken).2 busy).1
  · rw [firingKey?_of_step taken works]
    refine attended worker isWorker fun idle => ?_
    by_cases own : worker = thread
    · -- No user code comes next on a worker with nothing to do.
      subst own
      have taken := attempt_of_step taken
      cases move with
      | work => exact works rfl
      | request request =>
          simp [attempt, Scheduler.request, isUserCode, idle, isWorker] at taken
      | endBody how => simp [attempt, endBody, idle] at taken
      | proceed => simp [attempt, proceed, idle] at taken
    · rw [follows.others worker own] at busy
      exact busy idle

end Scheduler

/-- **While a callback goes on, the timer knows of it.** -/
theorem Run.attended {history : History ν} {s : Scheduler ν} (run : Run history s) :
    s.Attended :=
  run.induct (motive := fun _ s => s.Attended)
    (fun _ _ _ _ _ _ busy => absurd rfl busy) fun _ taken attended => attended.step taken

/-! ## Tasks that are past stay past -/

/-- **A task that is past stays past.** -/
theorem Course.isPast {id : TaskId} {deed : Deed} {task : Task ν} {after : Option (Task ν)}
    {stages stages' : List RunStage} {stage : Option RunStage}
    (course : Course id deed (some task) stages after stages') (fits : task.Fits stage)
    (isPast : task.IsPast) : ∃ task', after = some task' ∧ task'.IsPast := by
  obtain ⟨once, uncounted, started⟩ := isPast
  have unwaiting : ¬ (task.phase = .live ∨ task.phase = .held) := by
    rcases started with phase | phase <;> simp [phase]
  cases course with
  | run _ live => exact absurd (.inl live) unwaiting
  | hold _ live => exact absurd (.inl live) unwaiting
  | replay _ held => exact absurd (.inr held) unwaiting
  | withdraw waiting => exact absurd waiting unwaiting
  | enter | leave | read => exact ⟨_, rfl, once, uncounted, started⟩
  | finish => exact ⟨_, rfl, by rw [fits.afterRun_of_once once]; exact ⟨once, rfl, .inr rfl⟩⟩
  | doom _ periodic =>
      rw [once] at periodic
      cases periodic
  | reset =>
      refine ⟨_, rfl, by rw [Task.periodic_reset, once], Task.isCounted_reset task, ?_⟩
      rcases fits.reset_cases with ⟨-, waiting, -⟩ | ⟨-, held, -⟩ | ⟨-, -, -, eq⟩
      · exact absurd waiting unwaiting
      · exact absurd (.inr held) unwaiting
      · rw [eq]
        exact started
  | discard cancelled =>
      rw [cancelled] at started
      simp at started
  | keep => exact ⟨task, rfl, once, uncounted, started⟩

/-- Nothing that is past is started. -/
theorem Course.startsTask_of_isPast {id : TaskId} {deed : Deed} {task : Task ν}
    {after : Option (Task ν)} {stages stages' : List RunStage}
    (course : Course id deed (some task) stages after stages') (isPast : task.IsPast) :
    deed.startsTask id = false := by
  have started := isPast.started
  cases course with
  | run _ live => simp [live] at started
  | replay _ held => simp [held] at started
  | keep apart => exact Deed.startsTask_of_apart apart
  | _ => rfl

/-! ## What stands on a stack -/

namespace Stack

variable {past : List TaskId}

/-- What belongs to a late completion is left out. -/
theorem base_of_isLate {late : Bool} {frame : Frame ν} {rest : Stack ν}
    (isLate : Stack.isLate past late (frame :: rest) = true) :
    base past late (frame :: rest) = base past true rest := by
  cases frame with
  | run task stage => cases late <;> exact if_pos isLate
  | answering | raising =>
      obtain rfl : late = true := isLate
      rfl
  | _ => cases isLate

/-- A frame that is no run is nobody's. -/
theorem unawaited_cons {frame : Frame ν} (other : ∀ id, frame.stage? id = none) (rest : Stack ν) :
    Unawaited past (frame :: rest) ↔ Unawaited past rest := by
  cases frame with
  | run task stage => simp [Frame.stage?] at other
  | _ => exact Iff.rfl

/-- Frames that are no runs are nobody's. -/
theorem unawaited_append {top : Stack ν} (others : ∀ frame ∈ top, ∀ id, frame.stage? id = none)
    (rest : Stack ν) : Unawaited past (top ++ rest) ↔ Unawaited past rest := by
  induction top with
  | nil => exact Iff.rfl
  | cons frame top ih =>
      exact (unawaited_cons (others frame List.mem_cons_self) _).trans
        (ih fun frame member => others frame (List.mem_cons_of_mem _ member))

/-- The part of a stack that is left over from a step is as it was. -/
theorem unawaited_tail {frame : Frame ν} {rest : Stack ν}
    (unawaited : Unawaited past (frame :: rest)) : Unawaited past rest := by
  cases frame with
  | run task stage => exact unawaited.2
  | _ => exact unawaited

end Stack

/-- **A step puts no run of one of the tasks on an await**, unless it starts one of them. -/
theorem Transition.unawaited {b b' : Barrier ν} {stack stack' : Stack ν} {deed : Deed}
    {past : List TaskId} (transition : Transition b stack deed b' stack')
    (unstarted : ∀ id ∈ past, deed.startsTask id = false)
    (unawaited : Stack.Unawaited past stack) : Stack.Unawaited past stack' := by
  cases transition with
  | ask _ opens _ returns =>
      refine (Stack.unawaited_append (fun frame member =>
        Frame.stage?_of_isOpening (opens frame member)) _).mpr ?_
      exact (Stack.unawaited_cons (Frame.stage?_of_isReturning returns) _).mpr unawaited
  | @run task =>
      have started : task ∉ past := fun listed => by
        simpa [Deed.startsTask] using unstarted task listed
      exact ⟨fun listed => absurd listed started, unawaited⟩
  | @replay task =>
      have started : task ∉ past := fun listed => by
        simpa [Deed.startsTask] using unstarted task listed
      exact ⟨fun listed => absurd listed started, unawaited⟩
  | finish after =>
      rcases after with rfl | rfl
      · exact unawaited.2
      · exact unawaited.2
  | refuse _ _ fails =>
      exact (Stack.unawaited_cons
        (Frame.stage?_of_isEnding (Frame.isEnding_of_isFailing fails)) _).mpr unawaited
  | settle =>
      exact (Stack.unawaited_append (fun _ member => Frame.stage?_of_isEnding
        (Manner.isEnding_of_mem_succeeding member)) _).mpr unawaited
  | expire =>
      exact (Stack.unawaited_append (fun _ member => Frame.stage?_of_isEnding
        (Manner.isEnding_of_mem_failing member)) _).mpr unawaited
  | close => exact Stack.unawaited_tail unawaited
  | work => exact trivial
  | _ => exact unawaited

namespace Scheduler

variable {past : List TaskId} {late : ThreadId → Bool} {s : Scheduler ν} {thread : ThreadId}
  {now : Instant} {move : Move ν} {turn : Turn ν}

/-- **What is known once the tasks have been left behind**, where `late` says of which threads the
last step belongs to a late completion. -/
structure Left (past : List TaskId) (late : ThreadId → Bool) (s : Scheduler ν) : Prop where
  sound : s.Sound
  started : s.barrier.Past past
  attended : s.Attended
  unawaited : ∀ thread, Stack.Unawaited past (s.stack thread)
  outside : ∀ thread, late thread = true → Stack.awaits (s.stack thread) = 0

/-- The body of a task that is past asks for nothing, and nothing else that belongs to a late
completion is user code. -/
theorem move_ne_request (taken : s.step thread now move = some turn)
    (isLate : Stack.isLate past (late thread) (s.stack thread) = true)
    (quiet : Stride.isAsked past ⟨s, thread, now, move, turn⟩ = false) :
    ∀ request, move ≠ .request request := by
  rintro request rfl
  have taken := attempt_of_step taken
  simp only [attempt, Scheduler.request] at taken
  split at taken
  · cases taken
  · next userCode =>
    have userCode : s.isUserCode thread = true := by simpa using userCode
    unfold isUserCode at userCode
    split at userCode
    · next empty =>
      rw [empty] at isLate
      cases isLate
    · next id rest top =>
      rw [top] at isLate
      unfold Stride.isAsked at quiet
      simp only [top] at quiet
      exact absurd isLate (ne_true_of_eq_false quiet)
    · cases userCode

/-- Only a request begins an await. -/
theorem isAwait_deed (asks : ∀ request, move ≠ .request request) :
    (s.deed thread now move).isAwait = false := by
  cases move with
  | request request => exact absurd rfl (asks request)
  | endBody how =>
      simp only [deed]
      split <;> rfl
  | proceed =>
      simp only [deed]
      unfold frameDeed
      split <;> first | rfl | (split <;> rfl)
  | work => rfl

/-- **What is known of those left behind is kept by every step.** -/
theorem Left.step (left : s.Left past late) (taken : s.step thread now move = some turn)
    (quiet : Stride.isAsked past ⟨s, thread, now, move, turn⟩ = false) :
    turn.scheduler.Left past (Function.update late thread
      (Stack.isLate past (late thread) (s.stack thread))) := by
  have follows := follows_of_step taken
  have transition := follows.transition
  refine ⟨left.sound.step follows, fun id listed => ?_, left.attended.step taken, fun other => ?_,
    fun other isLate => ?_⟩
  · obtain ⟨task, found, isPast⟩ := left.started id listed
    obtain ⟨stage, -, fits⟩ := left.sound.fits_of_found found
    have course := left.sound.course follows id
    rw [found] at course
    exact course.isPast fits isPast
  · by_cases own : other = thread
    · subst own
      refine transition.unawaited (fun id listed => ?_) (left.unawaited other)
      obtain ⟨task, found, isPast⟩ := left.started id listed
      have course := left.sound.course follows id
      rw [found] at course
      exact course.startsTask_of_isPast isPast
    · rw [follows.others other own]
      exact left.unawaited other
  · by_cases own : other = thread
    · subst own
      rw [Function.update_self] at isLate
      have asks := move_ne_request taken isLate quiet
      have balance := transition.awaits
      rw [isAwait_deed asks] at balance
      have none : Stack.awaits (s.stack other) = 0 := by
        have unawaited := left.unawaited other
        have outside := left.outside other
        generalize s.stack other = stack at isLate unawaited outside
        unfold Stack.isLate at isLate
        split at isLate
        · next id stage rest =>
          have run : Stack.awaits (.run id stage :: rest : Stack ν) = Stack.awaits rest :=
            Stack.awaits_cons_of_not rfl rest
          exact run.trans (unawaited.1 (by simpa using isLate))
        · exact outside isLate
        · exact outside isLate
        · cases isLate
      simp only [none, Bool.false_eq_true, if_false] at balance
      omega
    · rw [Function.update_of_ne own] at isLate
      rw [follows.others other own]
      exact left.outside other isLate

/-! ## What a late completion leaves alone -/

/-- A one-shot task does not end doomed. -/
theorem Left.answer_finish (left : s.Left past late) {id : TaskId} (listed : id ∈ past)
    {stage : RunStage} {rest : Stack ν} (top : s.stack thread = .run id stage :: rest) :
    (s.barrier.finish id).answer = false := by
  obtain ⟨task, found, isPast⟩ := left.started id listed
  obtain ⟨stage, -, fits⟩ := left.sound.fits_of_found found
  obtain ⟨other, slot, same, has, -⟩ := left.sound.slot_of_run top
  obtain rfl := Option.some.inj (found.symm.trans same)
  rw [(Barrier.finish_of_slot found has).1]
  by_contra doomed
  have periodic := (fits.doomed (by simpa [Task.isDoomed, has] using doomed)).2
  rw [isPast.once] at periodic
  cases periodic

/-- **A step of a late completion** changes nothing but the tasks that are past, and what stands on
top of the stack. -/
theorem Left.late_step (left : s.Left past late) (taken : s.step thread now move = some turn)
    (quiet : Stride.isAsked past ⟨s, thread, now, move, turn⟩ = false)
    (isLate : Stack.isLate past (late thread) (s.stack thread) = true) :
    turn.scheduler.barrier.without past = s.barrier.without past ∧
      Stack.base past true (turn.scheduler.stack thread) =
        Stack.base past (late thread) (s.stack thread) := by
  have asks := move_ne_request taken isLate quiet
  have outside := left.outside thread
  cases move with
  | request request => exact absurd rfl (asks request)
  | work =>
      rw [(stack_of_work taken).2] at isLate
      cases isLate
  | endBody how =>
      have taken := attempt_of_step taken
      simp only [attempt, endBody] at taken
      split at taken
      · next task rest top =>
        rw [top] at isLate
        have listed : task ∈ past := by simpa [Stack.isLate] using isLate
        obtain rfl := Option.some.inj taken
        refine ⟨Barrier.without_leaveBody listed _, ?_⟩
        rw [stack_turn_self, top, Stack.base_of_isLate isLate,
          Stack.base_of_isLate (by exact isLate)]
        cases how <;> rfl
      · cases taken
  | proceed =>
      have taken := attempt_of_step taken
      simp only [attempt, proceed] at taken
      split at taken
      · cases taken
      · next frame rest top =>
        rw [top] at isLate outside ⊢
        rw [Stack.base_of_isLate isLate]
        cases frame with
        | run task stage =>
            have listed : task ∈ past := by simpa [Stack.isLate] using isLate
            cases stage with
            | starting replayed =>
                simp only [proceedStarting] at taken
                split at taken
                · cases taken
                all_goals
                  next entered =>
                    obtain rfl := Option.some.inj taken
                    refine ⟨Barrier.without_enterBody? listed entered, ?_⟩
                    rw [stack_turn_self]
                    exact Stack.base_of_isLate (by exact isLate)
            | executing => cases taken
            | finishing =>
                obtain rfl := Option.some.inj taken
                refine ⟨left.started.finish listed, ?_⟩
                simp only [proceedFinishing, stack_turn_self, left.answer_finish listed top]
                rfl
        | answering answer =>
            obtain rfl := Option.some.inj taken
            exact ⟨rfl, by rw [stack_turn_self]⟩
        | raising panic =>
            obtain rfl := Option.some.inj taken
            have outside : Stack.awaits rest = 0 := outside isLate
            unfold proceedRaising
            split
            · simp at outside
            · exact ⟨rfl, by rw [stack_turn_self]; rfl⟩
            · split <;> exact ⟨rfl, by rw [stack_turn_self]⟩
            · exact ⟨rfl, by rw [stack_turn_self]⟩
        | _ => cases isLate

/-- The wait of a shutdown ends, and nothing else happens. -/
theorem of_proceedJoining {rest : Stack ν} (joins : s.proceedJoining thread rest = some turn) :
    turn.scheduler.barrier = s.barrier ∧ turn.scheduler.stack thread = rest ∧
      turn.signal = .working := by
  unfold proceedJoining at joins
  split at joins
  · obtain rfl := Option.some.inj joins
    exact ⟨rfl, by rw [stack_turn_self], rfl⟩
  · split at joins
    · obtain rfl := Option.some.inj joins
      exact ⟨rfl, by rw [stack_turn_self], rfl⟩
    · obtain rfl := Option.some.inj joins
      exact ⟨rfl, by rw [stack_turn_self], rfl⟩
    all_goals cases joins

/-- **An idle step** changes nothing but what the worker of the timer is doing, and ends the wait of
a shutdown. -/
theorem idle_step (taken : s.step thread now move = some turn)
    (idle : Stride.isIdle ⟨s, thread, now, move, turn⟩ = true) :
    turn.scheduler.barrier.without past = s.barrier.without past ∧
      Stack.base past false (turn.scheduler.stack thread) =
        Stack.base past (late thread) (s.stack thread) := by
  unfold Stride.isIdle at idle
  split at idle
  · next works =>
    obtain rfl : move = .work := works
    have rests : turn.scheduler.stack thread = [] := by simpa using idle
    obtain ⟨⟨facility, same, eq⟩, -⟩ := of_work taken
    rw [rests, (stack_of_work taken).2, eq]
    exact ⟨by simp [Barrier.without, same], by cases late thread <;> rfl⟩
  · next rest proceeds top =>
    obtain rfl : move = .proceed := proceeds
    have top : s.stack thread = .joining :: rest := top
    have joins : s.proceedJoining thread rest = some turn := by
      simpa only [attempt, proceed, top] using attempt_of_step taken
    obtain ⟨same, ended, -⟩ := of_proceedJoining joins
    rw [same, ended, top]
    exact ⟨rfl, by cases late thread <;> rfl⟩
  · cases idle

end Scheduler

/-! ## Tasks that are left behind -/

/-- **A reset has given up on a run of the task**, which goes on: the task is a one-shot task that
is running and has not been started since the latest reset, and its thread is not inside an
await. -/
structure LeftBehind (history : History ν) (s : Scheduler ν) (id : TaskId) : Prop where
  running : ∃ task, s.barrier.task? id = some task ∧ task.periodic = false ∧
    task.phase = .running
  givenUp : history.sinceReset.starts id = 0
  outside : ∀ thread stage, Frame.run id stage ∈ s.stack thread →
    Stack.awaits (s.stack thread) = 0

/-- Runs on a stack without an await stand on no await. -/
theorem Stack.unawaited_of_outside {past : List TaskId} {stack : Stack ν}
    (outside : ∀ id ∈ past, ∀ stage, Frame.run id stage ∈ stack → Stack.awaits stack = 0) :
    Stack.Unawaited past stack := by
  induction stack with
  | nil => trivial
  | cons frame rest ih =>
      have fewer : Stack.awaits (frame :: rest) = 0 → Stack.awaits rest = 0 := by
        rw [Stack.awaits_cons]
        omega
      have below := ih fun id listed stage member =>
        fewer (outside id listed stage (List.mem_cons_of_mem _ member))
      cases frame with
      | run task stage =>
          exact ⟨fun listed => fewer (outside task listed stage List.mem_cons_self), below⟩
      | _ => exact below

/-- **What is known when the tasks have been left behind.** -/
theorem Run.left {history : History ν} {s : Scheduler ν} {past : List TaskId}
    (run : Run history s) (behind : ∀ id ∈ past, LeftBehind history s id) :
    s.Left past fun _ => false where
  sound := run.sound
  started := by
    intro id listed
    obtain ⟨⟨task, found, once, running⟩, givenUp, -⟩ := behind id listed
    refine ⟨task, found, once, ?_, .inl running⟩
    rw [run.isCounted_eq (Barrier.task?_mem found), History.contributes, running,
      Barrier.task?_id found, givenUp]
    exact Bool.and_false _
  attended := run.attended
  unawaited thread := Stack.unawaited_of_outside fun id listed stage =>
    (behind id listed).outside thread stage
  outside _ late := nomatch late

/-- **And so it goes on**, for as long as the bodies left behind ask for nothing. -/
theorem Path.left {s s' : Scheduler ν} {later : History ν} {past : List TaskId}
    (path : Path s later s') (left : s.Left past fun _ => false) (quiet : later.Quiet past) :
    s'.Left past (later.lastLate past) := by
  induction path with
  | start => exact left
  | step path taken ih =>
      refine (ih fun stride member => quiet stride (List.mem_cons_of_mem _ member)).step taken ?_
      exact quiet _ List.mem_cons_self

end TaskBarrier
