import TaskBarrier.Proofs.Preservation

/-!
# What a step writes into the log

A section logs what it has done, and some frames log something after the lock has been released.
`Logs` lists what the log tells of a step with a given deed.  A deed that is not listed by a
constructor of its own is *silent*: it leaves nothing in the log that is about a task.

## Main Definitions

* `Event.isAbout`, `Event.started`: events of one task.
* `Deed.isSilent`: deeds of which the log tells nothing.
* `Logs`: what the log tells of a step.

The main statements are `Scheduler.logs_of_step`, by which every step from a sound state logs this,
and `Run.logs`, by which every step of a run does.

### design decisions

* `Logs` speaks of whole states, not of the barrier alone: whether a start is that of a replay or
  that of a firing is told by the frame of the run, which is no part of the barrier.
-/

namespace TaskBarrier

variable {ν : Type}

namespace Event

/-- Whether the event is about the task. -/
def isAbout (id : TaskId) (event : Event) : Bool := event.task? == some id

/-- The event that tells of the start of a body. -/
def started (id : TaskId) : Bool → Event
  | true => startedByReplay id
  | false => startedByFiring id

theorem task?_started (id : TaskId) (replayed : Bool) :
    (started id replayed).task? = some id := by
  cases replayed <;> rfl

@[simp] theorem isAbout_started (id other : TaskId) (replayed : Bool) :
    (started other replayed).isAbout id = (other == id) := by
  cases replayed <;> simp [started, isAbout, task?]

end Event

/-- Whether the log tells nothing of the deed. -/
def Deed.isSilent : Deed → Bool
  | aside | await | call _ .run | call _ .ignored | replay _ | leave _ | reset _ _ | discard _ =>
      true
  | accept _ | call _ .held | call _ .coalesced | enter _ _ | finish _ | cancel _ _ => false

/-- **What the log tells of a step** from `s` to `s'` with the given deed. -/
inductive Logs (s s' : Scheduler ν) : Deed → List Event → Prop
  /-- The cadence of an accepted task. -/
  | accepted {id : TaskId} {delay : Duration} {cadence : Cadence}
      (recorded : ∃ task, s'.barrier.task? id = some task ∧ task.periodic = cadence.isPeriodic) :
      Logs s s' (.accept id) [.accepted id delay cadence]
  /-- The length of the hold queue, with the task that has come last. -/
  | held {id : TaskId} (queue : s'.barrier.held = s.barrier.held ++ [id]) :
      Logs s s' (.call id .held) [.held id s'.barrier.held.length]
  /-- A firing of a task that is held or running. -/
  | coalesced {id : TaskId} {task : Task ν} (found : s.barrier.task? id = some task)
      (busy : task.phase = .held ∨ task.phase = .running) :
      Logs s s' (.call id .coalesced) [.coalesced id]
  /-- Whether a body is executed in a replay. -/
  | started {id : TaskId} {replayed : Bool}
      (staged : ∀ stage, s.Staged id stage → stage = some (.starting replayed)) :
      Logs s s' (.enter id true) [.started id replayed]
  /-- How many tasks are left after a run. -/
  | ran {id : TaskId} : Logs s s' (.finish id) [.ran id s'.barrier.outstanding]
  /-- How many tasks are left after a cancel. -/
  | cancelled {id : TaskId} :
      Logs s s' (.cancel id .cancelled) [.cancelled id s'.barrier.outstanding]
  /-- A task that ends with the run in progress. -/
  | doomed {id : TaskId} : Logs s s' (.cancel id .doomed) [.cancelledWhileRunning id]
  /-- A cancel in vain. -/
  | tooLate {id : TaskId} : Logs s s' (.cancel id .tooLate) [.cancelTooLate id]
  /-- Nothing that is about a task. -/
  | silent {deed : Deed} {events : List Event} (silent : deed.isSilent = true)
      (general : ∀ event ∈ events, event.task? = none) : Logs s s' deed events

/-! ## The sections -/

/-- An accept is logged if it succeeds. -/
theorem Barrier.events_accept (b : Barrier ν) (now : Instant) (delay : Duration)
    (cadence : Cadence) (produces : Bool) :
    (b.accept now delay cadence produces).events =
      match (b.accept now delay cadence produces).answer with
      | .accepted id => [.accepted id delay cadence]
      | .refused _ | .unwound _ => [] := by
  unfold accept
  split
  · rfl
  · cases arming : b.facility.arm now delay cadence b.nextId with
    | mk reply facility => cases reply <;> simp [arming]

namespace Logs

variable {s s' : Scheduler ν}

/-- A silent deed that logs nothing. -/
theorem quiet {deed : Deed} (silent : deed.isSilent = true) : Logs s s' deed [] :=
  .silent silent nofun

/-- An accept. -/
theorem of_accept (coherent : s.barrier.Coherent) {now : Instant} {delay : Duration}
    {cadence : Cadence} {produces : Bool}
    (after : s'.barrier = (s.barrier.accept now delay cadence produces).barrier) :
    Logs s s' (s.requestDeed now (.accept delay cadence produces))
      (s.barrier.accept now delay cadence produces).events := by
  have events := s.barrier.events_accept now delay cadence produces
  simp only [Scheduler.requestDeed]
  cases answer : (s.barrier.accept now delay cadence produces).answer with
  | accepted id =>
      obtain ⟨rfl, key, facility, eq⟩ := Barrier.accept_of_accepted answer
      rw [answer] at events
      rw [events]
      exact .accepted ⟨_, coherent.task?_of_append rfl (by rw [after, eq]), rfl⟩
  | refused | unwound =>
      rw [answer] at events
      rw [events]
      exact quiet rfl

/-- The decision about a firing. -/
theorem of_fire {id : TaskId} (after : s'.barrier = (s.barrier.fire id).barrier) :
    Logs s s' (.call id (s.barrier.fire id).answer) (s.barrier.fire id).events := by
  cases has : s.barrier.slotted? id with
  | none =>
      simp only [Barrier.fire, has]
      exact quiet rfl
  | some entry =>
      obtain ⟨task, slot⟩ := entry
      obtain ⟨found, -⟩ := Barrier.slotted?_eq_some_iff.mp has
      cases phase : task.phase with
      | live =>
          have eq : s.barrier.fire id = s.barrier.fireLive id := by simp [Barrier.fire, has, phase]
          rw [eq] at after ⊢
          unfold Barrier.fireLive at after ⊢
          split
          · exact quiet rfl
          · next idle =>
            simp only [idle] at after
            have queue : s'.barrier.held = s.barrier.held ++ [id] := by rw [after]; rfl
            have logs : Logs s s' (.call id .held) [.held id s'.barrier.held.length] := .held queue
            rwa [queue] at logs
      | held =>
          simp only [Barrier.fire, has, phase]
          exact .coalesced found (.inl phase)
      | running =>
          simp only [Barrier.fire, has, phase]
          exact .coalesced found (.inr phase)
      | ran | cancelled =>
          simp only [Barrier.fire, has, phase]
          exact quiet rfl

/-- The front of the hold queue is taken. -/
theorem of_popHeld : Logs s s' (.replay s.barrier.popHeld.answer) s.barrier.popHeld.events := by
  have events : s.barrier.popHeld.events = [] := by
    unfold Barrier.popHeld
    split
    · rfl
    · simp only
      split <;> rfl
  rw [events]
  exact quiet rfl

/-- The end of a run. -/
theorem of_finish {id : TaskId} (after : s'.barrier = (s.barrier.finish id).barrier) :
    Logs s s' (.finish id) (s.barrier.finish id).events := by
  have events : (s.barrier.finish id).events = [.ran id s'.barrier.outstanding] := by
    rw [after]
    unfold Barrier.finish
    simp only
    split <;> rfl
  rw [events]
  exact .ran

/-- A cancel. -/
theorem of_cancel {id : TaskId} (after : s'.barrier = (s.barrier.cancel id).barrier) :
    Logs s s' (.cancel id (s.barrier.cancel id).answer) (s.barrier.cancel id).events := by
  have withdrawn : ∀ {b : Barrier ν}, s'.barrier = (b.withdraw id).barrier →
      Logs s s' (.cancel id (b.withdraw id).answer) (b.withdraw id).events := by
    intro b after
    have events : (b.withdraw id).events = [.cancelled id s'.barrier.outstanding] := by
      rw [after]
      rfl
    rw [events]
    exact .cancelled
  unfold Barrier.cancel at after ⊢
  split
  · exact .tooLate
  · next task slot has =>
    simp only [has] at after
    cases phase : task.phase with
    | live | held =>
        simp only [phase] at after ⊢
        exact withdrawn after
    | running =>
        simp only
        split
        · exact .doomed
        · exact .tooLate
    | ran | cancelled => exact .tooLate

/-- One look of a waiting await. -/
theorem general_of_check (b : Barrier ν) (now deadline : Instant) :
    ∀ event ∈ (b.check now deadline).events, event.task? = none := by
  unfold Barrier.check
  split
  · nofun
  · split
    · simp [Event.task?]
    · nofun

end Logs

/-! ## The steps -/

namespace Scheduler

variable {s : Scheduler ν} {thread : ThreadId} {now : Instant} {turn : Turn ν}

/-- A firing by hand logs nothing before the barrier has decided. -/
theorem events_requestFire (s : Scheduler ν) (thread : ThreadId) (key : TimerKey) :
    (s.requestFire thread key).events = [] := by
  unfold requestFire
  split
  · rfl
  · split <;> rfl

/-- A shutdown logs nothing that is about a task. -/
theorem general_of_requestShutdown (s : Scheduler ν) (thread : ThreadId) :
    ∀ event ∈ (s.requestShutdown thread).events, event.task? = none := by
  unfold requestShutdown
  rcases s.barrier.facility.shutdown with ⟨_ | _ | _ | _, facility⟩ <;> simp [turn, Event.task?]

/-- A task that is not accepted is not logged. -/
theorem events_requestAccept (s : Scheduler ν) (thread : ThreadId) (now : Instant)
    (delay : Duration) (cadence : Cadence) (produces : Bool) :
    (s.requestAccept thread now delay cadence produces).events =
      (s.barrier.accept now delay cadence produces).events := by
  have events := s.barrier.events_accept now delay cadence produces
  rcases s.requestAccept_cases thread now delay cadence produces with
    ⟨id, -, eq⟩ | ⟨degenerate, eq⟩ | ⟨fails, last, -, eq⟩
  · rw [eq]
    rfl
  · rw [eq, s.barrier.accept_of_isDegenerate now delay degenerate]
    rfl
  · rw [eq, events]
    split
    · next id answer => exact absurd answer (fails id)
    · rfl
    · rfl

theorem logs_request (sound : s.Sound) {request : Request}
    (taken : s.request thread now request = some turn) :
    Logs s turn.scheduler (s.requestDeed now request) turn.events := by
  unfold Scheduler.request at taken
  split at taken
  · cases taken
  · cases request with
    | accept delay cadence produces =>
        obtain ⟨-, rfl⟩ := by simpa [whileOwned] using taken
        rw [s.events_requestAccept]
        exact .of_accept sound.coherent (s.barrier_requestAccept ..)
    | fire key =>
        obtain rfl := Option.some.inj taken
        rw [s.events_requestFire thread key]
        exact .quiet rfl
    | call task =>
        obtain rfl := Option.some.inj taken
        exact .quiet rfl
    | cancel handle =>
        obtain ⟨-, rfl⟩ := by simpa [whileOwned] using taken
        simp only [requestDeed]
        split
        · exact .of_cancel rfl
        · exact .quiet rfl
    | cancelByHandle task =>
        obtain rfl := Option.some.inj taken
        simp only [requestDeed]
        split
        · exact .of_cancel rfl
        · exact .quiet rfl
    | await manner =>
        obtain ⟨-, rfl⟩ := by simpa [whileOwned] using taken
        exact .silent rfl (by simp [requestAwait, Scheduler.turn, Barrier.beginAwait, Event.task?])
    | read task =>
        obtain rfl := Option.some.inj taken
        exact .quiet rfl
    | shutdown =>
        obtain ⟨-, rfl⟩ := by simpa [whileOwned] using taken
        exact .silent rfl (s.general_of_requestShutdown thread)
    | drop =>
        obtain ⟨-, rfl⟩ := by simpa [whileOwned] using taken
        exact .silent rfl (general_of_requestShutdown _ thread)

theorem logs_endBody {how : BodyEnd ν} (taken : s.endBody thread how = some turn) :
    Logs s turn.scheduler (s.deed thread now (.endBody how)) turn.events := by
  unfold endBody at taken
  split at taken
  · next task rest top =>
    obtain rfl := Option.some.inj taken
    simp only [deed, top]
    exact .quiet rfl
  · cases taken

theorem logs_proceedStarting (sound : s.Sound) {task : TaskId} {replayed : Bool}
    {rest : Stack ν}
    (top : s.stack thread = .run task (.starting replayed) :: rest)
    (taken : s.proceedStarting thread task replayed rest = some turn) :
    Logs s turn.scheduler (s.frameDeed now (s.stack thread)) turn.events := by
  have own : Stack.stages task (s.stack thread) = .starting replayed :: Stack.stages task rest := by
    rw [top, Stack.stages_run_self]
  have starts : (if replayed then Event.startedByReplay task else .startedByFiring task) =
      .started task replayed := by
    cases replayed <;> rfl
  unfold proceedStarting at taken
  cases entered : s.barrier.enterBody? task with
  | none => simp [entered] at taken
  | some entry =>
      obtain ⟨executes, barrier⟩ := entry
      -- The body of a task that is about to be executed is intact.
      obtain ⟨rfl, -, -⟩ := sound.of_enterBody? top entered
      have enters : s.frameDeed now (s.stack thread) = .enter task true := by
        simp [frameDeed, top, entered]
      rw [enters]
      obtain rfl := by simpa [entered, starts] using taken
      exact .started fun stage staged => (staged.of_cons own).1

/-- What a look at the deadline does to the tasks is not logged. -/
theorem isSilent_of_waiting (s : Scheduler ν) (now start deadline wake : Instant) (manner : Manner)
    (rest : Stack ν) : (s.frameDeed now
      (.awaiting start manner (.waiting deadline wake) :: rest)).isSilent = true := by
  simp only [frameDeed]
  split <;> rfl

/-- A panic that leaves a frame logs at most that a callback has panicked. -/
theorem general_of_proceedRaising (s : Scheduler ν) (thread : ThreadId) (panic : Panic)
    (rest : Stack ν) :
    ∀ event ∈ (s.proceedRaising thread panic rest).events, event.task? = none := by
  unfold proceedRaising
  split
  · nofun
  · nofun
  · split
    · simp [Scheduler.turn, Event.task?]
    · nofun
  · nofun

/-- What a panic that leaves a frame does to the tasks is not logged. -/
theorem isSilent_of_raising (s : Scheduler ν) (now : Instant) (panic : Panic) (rest : Stack ν) :
    (s.frameDeed now (.raising panic :: rest)).isSilent = true := by
  cases rest with
  | nil => rfl
  | cons frame below => cases frame <;> rfl

/-- A shutdown that goes on logs nothing that is about a task. -/
theorem general_of_proceedJoining {rest : Stack ν}
    (taken : s.proceedJoining thread rest = some turn) :
    ∀ event ∈ turn.events, event.task? = none := by
  unfold proceedJoining at taken
  split at taken
  · obtain rfl := Option.some.inj taken
    nofun
  · split at taken
    · obtain rfl := Option.some.inj taken
      simp [Scheduler.turn, Event.task?]
    · obtain rfl := Option.some.inj taken
      simp [Scheduler.turn, Event.task?]
    all_goals cases taken

theorem logs_proceedDiscarding {tasks : List TaskId} {rest : Stack ν}
    (taken : s.proceedDiscarding thread tasks rest = some turn) :
    Logs s turn.scheduler (s.frameDeed now (.discarding tasks :: rest)) turn.events := by
  cases tasks with
  | nil =>
      obtain rfl := Option.some.inj taken
      exact .quiet rfl
  | cons task others =>
      obtain ⟨barrier, -, rfl⟩ := Option.map_eq_some_iff.mp taken
      exact .quiet rfl

theorem logs_proceed (sound : s.Sound) (taken : s.proceed thread now = some turn) :
    Logs s turn.scheduler (s.frameDeed now (s.stack thread)) turn.events := by
  unfold proceed at taken
  split at taken
  · cases taken
  · next frame rest top =>
    split at taken
    · obtain rfl := Option.some.inj taken
      rw [top]
      exact .of_fire rfl
    · exact logs_proceedStarting sound top taken
    · cases taken
    · obtain rfl := Option.some.inj taken
      rw [top]
      exact .of_finish rfl
    · obtain rfl := Option.some.inj taken
      rw [top]
      exact .of_popHeld
    · obtain rfl := Option.some.inj taken
      rw [top]
      exact .silent (s.isSilent_of_waiting ..) (Logs.general_of_check s.barrier now _)
    · obtain rfl := Option.some.inj taken
      rw [top]
      refine .silent rfl ?_
      simp only [Scheduler.turn]
      split
      · nofun
      · simp [Event.task?]
    · rw [top]
      exact logs_proceedDiscarding taken
    · obtain rfl := Option.some.inj taken
      rw [top]
      exact .silent rfl (by simp [proceedSettling, Scheduler.turn, Event.task?])
    · obtain rfl := Option.some.inj taken
      rw [top]
      exact .quiet rfl
    · obtain rfl := Option.some.inj taken
      rw [top]
      exact .quiet rfl
    · rw [top]
      exact .silent rfl (general_of_proceedJoining taken)
    · obtain rfl := Option.some.inj taken
      rw [top]
      exact .quiet rfl
    · obtain rfl := Option.some.inj taken
      rw [top]
      exact .silent (s.isSilent_of_raising ..) (s.general_of_proceedRaising thread _ rest)

/-- The worker of a timer logs nothing between two callbacks. -/
theorem events_of_work (taken : s.work thread now = some turn) : turn.events = [] := by
  unfold work at taken
  split at taken
  · split at taken
    · cases taken
    · split at taken
      · cases taken
      · cases taken
      · obtain rfl := Option.some.inj taken
        rfl
      · split at taken
        all_goals
          obtain rfl := Option.some.inj taken
          rfl
  · cases taken

/-- **Every step from a sound state logs what it has done.** -/
theorem logs_of_step (sound : s.Sound) {move : Move ν}
    (taken : s.step thread now move = some turn) :
    Logs s turn.scheduler (s.deed thread now move) turn.events := by
  have taken := attempt_of_step taken
  cases move with
  | request request => exact logs_request sound taken
  | endBody how => exact logs_endBody taken
  | proceed => exact logs_proceed sound taken
  | work =>
      rw [events_of_work taken]
      exact .quiet rfl

end Scheduler

/-! ## What is told of one task -/

namespace Logs

variable {s s' : Scheduler ν} {deed : Deed} {events : List Event}

/-- A silent step logs nothing about the task. -/
theorem filter_of_general (general : ∀ event ∈ events, event.task? = none) (id : TaskId) :
    events.filter (·.isAbout id) = [] := by
  refine List.filter_eq_nil_iff.mpr fun event member => ?_
  simp [Event.isAbout, general event member]

/-- **What the log tells of a step that does not concern the task**: that it has been fired once
more, or cancelled too late. -/
theorem filter_of_apart (logs : Logs s s' deed events) {id : TaskId}
    (apart : deed.concerns id = false) :
    events.filter (·.isAbout id) = [] ∨ events.filter (·.isAbout id) = [.cancelTooLate id] ∨
      events.filter (·.isAbout id) = [.coalesced id] ∧ ∃ task,
        s.barrier.task? id = some task ∧ (task.phase = .held ∨ task.phase = .running) := by
  cases logs with
  | silent _ general => exact .inl (filter_of_general general id)
  | @coalesced other task found busy =>
      by_cases same : other = id
      · subst same
        exact .inr (.inr ⟨by simp [Event.isAbout, Event.task?], task, found, busy⟩)
      · exact .inl (by simp [Event.isAbout, Event.task?, same])
  | @tooLate other =>
      by_cases same : other = id
      · subst same
        exact .inr (.inl (by simp [Event.isAbout, Event.task?]))
      · exact .inl (by simp [Event.isAbout, Event.task?, same])
  | @started other replayed _ =>
      have ne : (other == id) = false := apart
      exact .inl (by simp [ne])
  | accepted | held | ran | cancelled | doomed =>
      exact .inl (by simpa [Event.isAbout, Event.task?, Deed.concerns] using apart)

/-- The log tells nothing of a silent step. -/
theorem filter_of_isSilent (logs : Logs s s' deed events) (silent : deed.isSilent = true)
    (id : TaskId) : events.filter (·.isAbout id) = [] := by
  cases logs with
  | silent _ general => exact filter_of_general general id
  | _ => cases silent

/-- The size that is logged where a task is held. -/
theorem sized (logs : Logs s s' deed events) {id : TaskId} {size : Nat}
    (logged : .held id size ∈ events) :
    s'.barrier.held = s.barrier.held ++ [id] ∧ size = s'.barrier.held.length := by
  cases logs with
  | silent _ general => cases general _ logged
  | held queue =>
      obtain ⟨rfl, rfl⟩ := Event.held.inj (List.mem_singleton.mp logged)
      exact ⟨queue, rfl⟩
  | @started _ replayed => cases replayed <;> cases List.mem_singleton.mp logged
  | _ => cases List.mem_singleton.mp logged

/-- The number that is logged at the end of a run and of a task that has not started. -/
theorem outstanding (logs : Logs s s' deed events) {id : TaskId} {outstanding : Nat}
    (logged : .ran id outstanding ∈ events ∨ .cancelled id outstanding ∈ events) :
    outstanding = s'.barrier.outstanding := by
  cases logs with
  | silent _ general =>
      rcases logged with logged | logged
      · cases general _ logged
      · cases general _ logged
  | ran =>
      obtain ⟨-, rfl⟩ : _ ∧ _ := by simpa using logged
      rfl
  | cancelled =>
      obtain ⟨-, rfl⟩ : _ ∧ _ := by simpa using logged
      rfl
  | @started _ replayed => cases replayed <;> simp [Event.started] at logged
  | _ => simp at logged

end Logs

/-- **Every step of a run logs what it has done**, and leads to a sound state. -/
theorem Run.logs {history : History ν} {s : Scheduler ν} (run : Run history s)
    {stride : Stride ν} (member : stride ∈ history) :
    Logs stride.before stride.turn.scheduler stride.deed stride.turn.events ∧
      stride.turn.scheduler.Sound := by
  obtain ⟨later, earlier, rfl⟩ := List.append_of_mem member
  obtain ⟨before, taken⟩ := run.stride
  exact ⟨Scheduler.logs_of_step before.sound taken,
    before.sound.step (Scheduler.follows_of_step taken)⟩

end TaskBarrier
