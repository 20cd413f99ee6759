import Mathlib.Data.List.Forall2
import TaskBarrier.Proofs.Amend
import TaskBarrier.Proofs.Late

/-!
# Late completions disturb nobody

Bodies that a reset has given up on end when they like, or never.  This module compares two
continuations of a run that differ in nothing else.  Their other steps are the same, and it turns
out that they have the same results: what is accepted, cancelled, fired and awaited is answered the
same, and the two continuations agree on the counter, the hold queue, the flag, and on the records
of all other tasks.

The comparison is between two states, of which each has come as far as the other but for late
completions.  A late or idle step of one of them keeps them side by side, and so does any other step
made by both.

There is one thing by which a body left behind can be noticed.  It keeps alive what is left of a
scheduler after the scheduler has been dropped, and so a handle may still cancel.

## Main Definitions

* `Scheduler.Twin`, `Turn.Twin`: two states, and two turns, side by side.
* `Scheduler.Level`: a thread is about to make the same step in both.
* `Stride.Same`, `Stride.Alike`: the same step, and the same results.

The main statements are `Twin.step_apart`, `Twin.step` and `late_completions_disturb_nobody`.
-/

namespace TaskBarrier

variable {ν : Type} {past : List TaskId}

/-- Two outcomes that differ in nothing but the tasks that are past have the same answer. -/
theorem Section.of_without {α : Type} {o₁ o₂ : Section ν α}
    (same : o₁.without past = o₂.without past) :
    o₁.answer = o₂.answer ∧ o₁.barrier.without past = o₂.barrier.without past := by
  have answer : (o₁.without past).answer = (o₂.without past).answer := by rw [same]
  have barrier : (o₁.without past).barrier = (o₂.without past).barrier := by rw [same]
  exact ⟨answer, barrier⟩

namespace Barrier

variable {b₁ b₂ : Barrier ν} (same : b₁.without past = b₂.without past)

include same

theorem outstanding_twin : b₁.outstanding = b₂.outstanding :=
  congrArg (·.outstanding) same

theorem held_twin : b₁.held = b₂.held := congrArg (·.held) same

theorem config_twin : b₁.config = b₂.config := congrArg (·.config) same

theorem facility_twin : b₁.facility.bare = b₂.facility.bare := congrArg (·.facility) same

theorem task?_twin {id : TaskId} (apart : id ∉ past) : b₁.task? id = b₂.task? id := by
  rw [← b₁.task?_without apart, same, b₂.task?_without apart]

/-- The facilities are replaced by ones that are the same to those who arm and disarm. -/
theorem withFacility_twin {facility₁ facility₂ : Facility TaskId}
    (bare : facility₁.bare = facility₂.bare) :
    ({ b₁ with facility := facility₁ } : Barrier ν).without past =
      ({ b₂ with facility := facility₂ } : Barrier ν).without past := by
  have replaced := congrArg (fun b : Barrier ν => { b with facility := facility₁.bare }) same
  refine replaced.trans ?_
  rw [bare]
  rfl

/-- A firing decides the same, up to why nothing happens to a task that is past. -/
theorem fire_twin (started₁ : b₁.Past past) (started₂ : b₂.Past past) (id : TaskId) :
    (b₁.fire id).barrier.without past = (b₂.fire id).barrier.without past ∧
      ((b₁.fire id).answer = .run ↔ (b₂.fire id).answer = .run) := by
  by_cases listed : id ∈ past
  · obtain ⟨eq₁, none₁⟩ := started₁.fire listed
    obtain ⟨eq₂, none₂⟩ := started₂.fire listed
    refine ⟨by rw [eq₁, eq₂, same], ?_⟩
    rcases none₁ with none₁ | none₁ <;> rcases none₂ with none₂ | none₂ <;> simp [none₁, none₂]
  · have fired := congrArg (·.fire id) same
    simp only [fire_without _ listed] at fired
    obtain ⟨answer, barrier⟩ := Section.of_without fired
    exact ⟨barrier, by rw [answer]⟩

/-- A cancel is answered the same. -/
theorem cancel_twin (started₁ : b₁.Past past) (started₂ : b₂.Past past) (id : TaskId) :
    (b₁.cancel id).answer = (b₂.cancel id).answer ∧
      (b₁.cancel id).barrier.without past = (b₂.cancel id).barrier.without past := by
  by_cases listed : id ∈ past
  · obtain ⟨answer₁, eq₁⟩ := started₁.cancel listed
    obtain ⟨answer₂, eq₂⟩ := started₂.cancel listed
    exact ⟨by rw [answer₁, answer₂], by rw [eq₁, eq₂, same]⟩
  · have cancelled := congrArg (·.cancel id) same
    simp only [cancel_without _ listed] at cancelled
    exact Section.of_without cancelled

theorem accept_twin (now : Instant) (delay : Duration) (cadence : Cadence) (produces : Bool) :
    (b₁.accept now delay cadence produces).answer = (b₂.accept now delay cadence produces).answer ∧
      (b₁.accept now delay cadence produces).barrier.without past =
        (b₂.accept now delay cadence produces).barrier.without past := by
  obtain ⟨answer₁, barrier₁⟩ := b₁.accept_without past now delay cadence produces
  obtain ⟨answer₂, barrier₂⟩ := b₂.accept_without past now delay cadence produces
  rw [same] at answer₁ barrier₁
  exact ⟨answer₁.symm.trans answer₂, barrier₁.symm.trans barrier₂⟩

/-- The same value is read, unless it is that of a task that is past. -/
theorem readValue_twin (id : TaskId) :
    (b₁.readValue id).2.without past = (b₂.readValue id).2.without past ∧
      (id ∉ past → (b₁.readValue id).1 = (b₂.readValue id).1) := by
  by_cases listed : id ∈ past
  · rw [without_readValue listed, without_readValue listed]
    exact ⟨same, fun apart => absurd listed apart⟩
  · have read := congrArg (·.readValue id) same
    simp only [readValue_without _ listed] at read
    obtain ⟨reading, barrier⟩ := Prod.mk.inj read
    exact ⟨barrier, fun _ => reading⟩

/-- The next task of the hold queue is the same one. -/
theorem popHeld_twin (apart : ∀ id ∈ b₁.held, id ∉ past) :
    b₁.popHeld.answer = b₂.popHeld.answer ∧
      b₁.popHeld.barrier.without past = b₂.popHeld.barrier.without past := by
  have popped := congrArg (·.popHeld) same
  simp only [popHeld_without b₁ apart] at popped
  rw [popHeld_without b₂ (held_twin same ▸ apart)] at popped
  exact Section.of_without popped

/-- The body of another task is entered in the same way. -/
theorem enterBody?_twin {id : TaskId} (apart : id ∉ past) {executes₁ executes₂ : Bool}
    {b₁' b₂' : Barrier ν} (entered₁ : b₁.enterBody? id = some (executes₁, b₁'))
    (entered₂ : b₂.enterBody? id = some (executes₂, b₂')) :
    executes₁ = executes₂ ∧ b₁'.without past = b₂'.without past := by
  have entered := congrArg (·.enterBody? id) same
  simp only [enterBody?_without _ apart, entered₁, entered₂, Option.map_some] at entered
  exact Prod.mk.inj (Option.some.inj entered)

theorem leaveBody_twin (id : TaskId) (result : Option ν) :
    (b₁.leaveBody id result).without past = (b₂.leaveBody id result).without past := by
  rw [← leaveBody_without, ← leaveBody_without, same]

theorem finish_twin {id : TaskId} (apart : id ∉ past) :
    (b₁.finish id).answer = (b₂.finish id).answer ∧
      (b₁.finish id).barrier.without past = (b₂.finish id).barrier.without past := by
  have finished := congrArg (·.finish id) same
  simp only [finish_without _ apart] at finished
  exact Section.of_without finished

/-- A body is thrown away in the same way. -/
theorem discard?_twin {id : TaskId} {b₁' b₂' : Barrier ν} (discarded₁ : b₁.discard? id = some b₁')
    (discarded₂ : b₂.discard? id = some b₂') : b₁'.without past = b₂'.without past := by
  by_cases listed : id ∈ past
  · have gone {b b' : Barrier ν} (discarded : b.discard? id = some b') :
        b'.without past = b.without past := by
      unfold discard? at discarded
      split at discarded
      · rw [Option.some.inj discarded]
      · split at discarded
        · cases discarded
        · rw [← Option.some.inj discarded]
          exact b.without_modify_of_mem listed (·.discard) fun task named =>
            task.id_discard.trans named
    rw [gone discarded₁, gone discarded₂, same]
  · have discarded := congrArg (·.discard? id) same
    simp only [discard?_without _ listed, discarded₁, discarded₂, Option.map_some] at discarded
    exact Option.some.inj discarded

section Resets

variable (spared₁ : ∀ task ∈ b₁.tasks, task.id ∈ past → task.isDropped = false)
  (spared₂ : ∀ task ∈ b₂.tasks, task.id ∈ past → task.isDropped = false)

include spared₁ spared₂

theorem dropped_twin : b₁.dropped = b₂.dropped := by
  rw [← dropped_without spared₁, same, dropped_without spared₂]

theorem reset_twin : b₁.reset.without past = b₂.reset.without past := by
  rw [← reset_without spared₁, same, reset_without spared₂]

theorem check_twin (now deadline : Instant) :
    (b₁.check now deadline).answer = (b₂.check now deadline).answer ∧
      (b₁.check now deadline).barrier.without past =
        (b₂.check now deadline).barrier.without past := by
  refine Section.of_without ?_
  rw [← check_without spared₁, same, check_without spared₂]

end Resets

end Barrier

/-! ## Two states side by side -/

/-- **Two states that agree on everything** but the tasks that are past, what the worker of the
timer is doing, and what belongs to late completions on the stacks. -/
structure Scheduler.Twin (past : List TaskId) (late₁ late₂ : ThreadId → Bool)
    (s₁ s₂ : Scheduler ν) : Prop where
  number : s₁.number = s₂.number
  worker : s₁.worker = s₂.worker
  barrier : s₁.barrier.without past = s₂.barrier.without past
  stack : ∀ thread, Stack.base past (late₁ thread) (s₁.stack thread) =
    Stack.base past (late₂ thread) (s₂.stack thread)

/-- Two turns of the same thread, after which the two states agree, and which tell the user code the
same, unless it has asked for the value of a task that is past. -/
structure Turn.Twin (past : List TaskId) (thread : ThreadId) (move : Move ν)
    (turn₁ turn₂ : Turn ν) : Prop where
  barrier : turn₁.scheduler.barrier.without past = turn₂.scheduler.barrier.without past
  stack : Stack.base past false (turn₁.scheduler.stack thread) =
    Stack.base past false (turn₂.scheduler.stack thread)
  signal : (∀ id ∈ past, move.reads id = false) → turn₁.signal = turn₂.signal

namespace Scheduler

/-- **Two states in which a thread is about to make the same step**, which belongs to no late
completion. -/
structure Level (past : List TaskId) (thread : ThreadId) (s₁ s₂ : Scheduler ν) : Prop where
  number : s₁.number = s₂.number
  worker : s₁.worker = s₂.worker
  barrier : s₁.barrier.without past = s₂.barrier.without past
  stack : s₁.stack thread = s₂.stack thread
  alive : s₁.isAlive = s₂.isAlive
  left₁ : ∃ late, s₁.Left past late
  left₂ : ∃ late, s₂.Left past late

variable {s₁ s₂ : Scheduler ν} {thread : ThreadId} {now : Instant} {move : Move ν}

/-- A reset spares the tasks that are past. -/
theorem Left.spared {s : Scheduler ν} {late : ThreadId → Bool} (left : s.Left past late) :
    ∀ task ∈ s.barrier.tasks, task.id ∈ past → task.isDropped = false := by
  intro task member listed
  obtain ⟨stage, -, fits⟩ := left.sound.fits_of_found (left.sound.coherent.task?_of_mem member)
  exact left.started.isDropped left.sound.coherent member fits.slotted listed

/-- No task that is past is held. -/
theorem Left.not_mem_of_held {s : Scheduler ν} {late : ThreadId → Bool} (left : s.Left past late) :
    ∀ id ∈ s.barrier.held, id ∉ past := by
  intro id held listed
  obtain ⟨task, found, isPast⟩ := left.started id listed
  have phase := (left.sound.mem_held id).mp held
  have started := isPast.started
  simp only [Barrier.phase?, found, Option.map_some, Option.some.injEq] at phase
  simp [phase] at started

/-- Two turns that leave the same stack behind. -/
theorem twin_turn {b₁ b₂ : Barrier ν} {stack₁ stack₂ : Stack ν} {signal₁ signal₂ : Signal ν}
    {events₁ events₂ : List Event} (barrier : b₁.without past = b₂.without past)
    (stack : stack₁ = stack₂)
    (signal : (∀ id ∈ past, move.reads id = false) → signal₁ = signal₂) :
    Turn.Twin past thread move (s₁.turn b₁ thread stack₁ signal₁ events₁)
      (s₂.turn b₂ thread stack₂ signal₂ events₂) where
  barrier := barrier
  stack := by rw [stack_turn_self, stack_turn_self, stack]
  signal := signal

namespace Level

variable (level : Level past thread s₁ s₂)

include level

theorem refuse : Turn.Twin past thread move s₁.refuse s₂.refuse where
  barrier := level.barrier
  stack := congrArg (Stack.base past false) level.stack
  signal _ := rfl

theorem calling (task : TaskId) : s₁.calling task = s₂.calling task := by
  rw [Scheduler.calling, Scheduler.calling, level.alive]

theorem requestAccept (now : Instant) (delay : Duration) (cadence : Cadence) (produces : Bool) :
    Turn.Twin past thread move (s₁.requestAccept thread now delay cadence produces)
      (s₂.requestAccept thread now delay cadence produces) := by
  obtain ⟨answer, barrier⟩ := Barrier.accept_twin level.barrier now delay cadence produces
  have stack (top : Stack ν) : top ++ s₁.stack thread = top ++ s₂.stack thread := by
    rw [level.stack]
  unfold Scheduler.requestAccept
  simp only [answer]
  split
  · exact twin_turn barrier level.stack fun _ => rfl
  · next failure _ =>
    split
    · exact twin_turn barrier level.stack fun _ => rfl
    · exact twin_turn barrier (stack [.refusing, .answering (.failed failure)]) fun _ => rfl
  · next panic _ => exact twin_turn barrier (stack [.refusing, .raising panic]) fun _ => rfl

theorem requestCancel (task : TaskId) : Turn.Twin past thread move
    (s₁.requestCancel thread task) (s₂.requestCancel thread task) := by
  obtain ⟨_, left₁⟩ := level.left₁
  obtain ⟨_, left₂⟩ := level.left₂
  obtain ⟨answer, barrier⟩ := Barrier.cancel_twin level.barrier left₁.started left₂.started task
  exact twin_turn barrier (by rw [answer, level.stack]) fun _ => rfl

theorem requestFire (key : TimerKey) : Turn.Twin past thread move
    (s₁.requestFire thread key) (s₂.requestFire thread key) := by
  have facility := Barrier.facility_twin level.barrier
  unfold Scheduler.requestFire
  cases facility₁ : s₁.barrier.facility with
  | byClock timer₁ =>
      cases facility₂ : s₂.barrier.facility with
      | byClock timer₂ => exact level.refuse
      | byHand registry₂ =>
          rw [facility₁, facility₂] at facility
          cases facility
  | byHand registry₁ =>
      cases facility₂ : s₂.barrier.facility with
      | byClock timer₂ =>
          rw [facility₁, facility₂] at facility
          cases facility
      | byHand registry₂ =>
          rw [facility₁, facility₂] at facility
          obtain rfl : registry₁ = registry₂ := by simpa [Facility.bare] using facility
          simp only
          cases registry₁.fire? key with
          | none => exact level.refuse
          | some fired =>
              exact twin_turn (Barrier.withFacility_twin level.barrier rfl)
                (by rw [level.calling, level.stack]) fun _ => rfl

theorem requestShutdown {t₁ t₂ : Scheduler ν} (barrier₁ : t₁.barrier = s₁.barrier)
    (barrier₂ : t₂.barrier = s₂.barrier) (stack₁ : t₁.stack thread = s₁.stack thread)
    (stack₂ : t₂.stack thread = s₂.stack thread) : Turn.Twin past thread move
      (t₁.requestShutdown thread) (t₂.requestShutdown thread) := by
  have facility := Barrier.facility_twin level.barrier
  have down : s₁.barrier.facility.shutdown.2.bare = s₂.barrier.facility.shutdown.2.bare := by
    rw [← Facility.shutdown_bare, facility, Facility.shutdown_bare]
  -- Who has to wait for the worker is not the same.
  have waits (joining : Stack ν) (answer : Answer ν) (rest : Stack ν)
      (short : joining = [] ∨ joining = [.joining]) :
      Stack.base past false (joining ++ .answering answer :: rest) = .answering answer :: rest := by
    rcases short with rfl | rfl <;> rfl
  refine ⟨?_, ?_, fun _ => rfl⟩
  · rw [← barrier₁, ← barrier₂] at down
    have same : t₁.barrier.without past = t₂.barrier.without past := by
      rw [barrier₁, barrier₂, level.barrier]
    exact Barrier.withFacility_twin same down
  · simp only [Scheduler.requestShutdown, stack_turn_self, stack₁, stack₂, level.stack]
    rw [waits, waits]
    · split <;> simp
    · split <;> simp

theorem request {request : Request} {turn₁ turn₂ : Turn ν}
    (taken₁ : s₁.request thread now request = some turn₁)
    (taken₂ : s₂.request thread now request = some turn₂) :
    Turn.Twin past thread (.request request) turn₁ turn₂ := by
  unfold Scheduler.request at taken₁ taken₂
  split at taken₁
  · cases taken₁
  · split at taken₂
    · cases taken₂
    · cases request with
      | accept delay cadence produces =>
          obtain ⟨-, rfl⟩ := by simpa [whileOwned] using taken₁
          obtain ⟨-, rfl⟩ := by simpa [whileOwned] using taken₂
          exact level.requestAccept now delay cadence produces
      | fire key =>
          obtain rfl := Option.some.inj taken₁
          obtain rfl := Option.some.inj taken₂
          exact level.requestFire key
      | call task =>
          obtain rfl := Option.some.inj taken₁
          obtain rfl := Option.some.inj taken₂
          exact twin_turn level.barrier (by rw [level.calling, level.stack]) fun _ => rfl
      | cancel handle =>
          obtain ⟨-, rfl⟩ := by simpa [whileOwned] using taken₁
          obtain ⟨-, rfl⟩ := by simpa [whileOwned] using taken₂
          rw [level.number]
          split
          · exact level.requestCancel handle.task
          · exact level.refuse
      | cancelByHandle task =>
          obtain rfl := Option.some.inj taken₁
          obtain rfl := Option.some.inj taken₂
          rw [level.alive]
          split
          · exact level.requestCancel task
          · exact level.refuse
      | await manner =>
          obtain ⟨-, rfl⟩ := by simpa [whileOwned] using taken₁
          obtain ⟨-, rfl⟩ := by simpa [whileOwned] using taken₂
          refine twin_turn ?_ (by rw [level.stack]) fun _ => rfl
          exact congrArg (fun b : Barrier ν => { b with draining := true }) level.barrier
      | read task =>
          obtain rfl := Option.some.inj taken₁
          obtain rfl := Option.some.inj taken₂
          obtain ⟨barrier, reading⟩ := Barrier.readValue_twin level.barrier task
          refine twin_turn barrier level.stack fun unread => ?_
          have apart : task ∉ past := fun listed => by
            simpa [Move.reads] using unread task listed
          exact congrArg (fun reading => Signal.answer (.reading reading)) (reading apart)
      | shutdown =>
          obtain ⟨-, rfl⟩ := by simpa [whileOwned] using taken₁
          obtain ⟨-, rfl⟩ := by simpa [whileOwned] using taken₂
          exact level.requestShutdown rfl rfl rfl rfl
      | drop =>
          obtain ⟨-, rfl⟩ := by simpa [whileOwned] using taken₁
          obtain ⟨-, rfl⟩ := by simpa [whileOwned] using taken₂
          exact level.requestShutdown rfl rfl rfl rfl

theorem endBody {how : BodyEnd ν} {turn₁ turn₂ : Turn ν}
    (taken₁ : s₁.endBody thread how = some turn₁) (taken₂ : s₂.endBody thread how = some turn₂) :
    Turn.Twin past thread (.endBody how) turn₁ turn₂ := by
  unfold Scheduler.endBody at taken₁ taken₂
  rw [level.stack] at taken₁
  split at taken₁
  · next top =>
    simp only [top] at taken₂
    obtain rfl := Option.some.inj taken₁
    obtain rfl := Option.some.inj taken₂
    exact twin_turn (Barrier.leaveBody_twin level.barrier ..) rfl fun _ => rfl
  · cases taken₁

theorem proceedDeciding (task : TaskId) (rest : Stack ν) : Turn.Twin past thread move
    (s₁.proceedDeciding thread task rest) (s₂.proceedDeciding thread task rest) := by
  obtain ⟨_, left₁⟩ := level.left₁
  obtain ⟨_, left₂⟩ := level.left₂
  obtain ⟨barrier, runs⟩ :=
    Barrier.fire_twin level.barrier left₁.started left₂.started task
  refine twin_turn barrier ?_ fun _ => rfl
  generalize (s₁.barrier.fire task).answer = firing₁ at runs
  generalize (s₂.barrier.fire task).answer = firing₂ at runs
  cases firing₁ <;> cases firing₂ <;> simp at runs <;> rfl

theorem proceedStarting {task : TaskId} (apart : task ∉ past) {replayed : Bool} {rest : Stack ν}
    {turn₁ turn₂ : Turn ν} (taken₁ : s₁.proceedStarting thread task replayed rest = some turn₁)
    (taken₂ : s₂.proceedStarting thread task replayed rest = some turn₂) :
    Turn.Twin past thread move turn₁ turn₂ := by
  unfold Scheduler.proceedStarting at taken₁ taken₂
  cases entered₁ : s₁.barrier.enterBody? task with
  | none => simp [entered₁] at taken₁
  | some entry₁ =>
      cases entered₂ : s₂.barrier.enterBody? task with
      | none => simp [entered₂] at taken₂
      | some entry₂ =>
          obtain ⟨executes₁, b₁⟩ := entry₁
          obtain ⟨executes₂, b₂⟩ := entry₂
          obtain ⟨rfl, barrier⟩ :=
            Barrier.enterBody?_twin level.barrier apart entered₁ entered₂
          simp only [entered₁] at taken₁
          simp only [entered₂] at taken₂
          cases executes₁ with
          | true =>
              obtain rfl := Option.some.inj taken₁
              obtain rfl := Option.some.inj taken₂
              exact twin_turn barrier rfl fun _ => rfl
          | false =>
              obtain rfl := Option.some.inj taken₁
              obtain rfl := Option.some.inj taken₂
              exact twin_turn barrier rfl fun _ => rfl

theorem proceedFinishing {task : TaskId} (apart : task ∉ past) (rest : Stack ν) :
    Turn.Twin past thread move (s₁.proceedFinishing thread task rest)
      (s₂.proceedFinishing thread task rest) := by
  obtain ⟨answer, barrier⟩ := Barrier.finish_twin level.barrier apart
  exact twin_turn barrier (by rw [answer]) fun _ => rfl

theorem proceedReplaying (now start : Instant) (manner : Manner) (rest : Stack ν) :
    Turn.Twin past thread move (s₁.proceedReplaying thread now start manner rest)
      (s₂.proceedReplaying thread now start manner rest) := by
  obtain ⟨_, left₁⟩ := level.left₁
  obtain ⟨answer, barrier⟩ := Barrier.popHeld_twin level.barrier left₁.not_mem_of_held
  exact twin_turn barrier (by rw [answer, Barrier.config_twin level.barrier]) fun _ => rfl

theorem proceedWaiting (now start : Instant) (manner : Manner) (deadline : Instant)
    (rest : Stack ν) : Turn.Twin past thread move
      (s₁.proceedWaiting thread now start manner deadline rest)
      (s₂.proceedWaiting thread now start manner deadline rest) := by
  obtain ⟨_, left₁⟩ := level.left₁
  obtain ⟨_, left₂⟩ := level.left₂
  obtain ⟨answer, barrier⟩ :=
    Barrier.check_twin level.barrier left₁.spared left₂.spared now deadline
  exact twin_turn barrier (by rw [answer]) fun _ => rfl

/-- The worker of the timer survives a panic in both states, or is not the thread that panics in
either. -/
theorem firingKey? (busy : s₁.stack thread ≠ []) :
    (s₁.firingKey? thread).isSome = (s₂.firingKey? thread).isSome := by
  obtain ⟨_, left₁⟩ := level.left₁
  obtain ⟨_, left₂⟩ := level.left₂
  by_cases works : s₁.worker = some thread
  · have works₂ := level.worker.symm.trans works
    rw [firingKey?_of_worker works, firingKey?_of_worker works₂, left₁.attended thread works busy,
      left₂.attended thread works₂ (level.stack ▸ busy)]
  · have works₂ : s₂.worker ≠ some thread := fun works₂ => works (level.worker.trans works₂)
    rw [Scheduler.firingKey?, Scheduler.firingKey?, if_neg works, if_neg works₂]

theorem proceedRaising (busy : s₁.stack thread ≠ []) (panic : Panic) (rest : Stack ν) :
    Turn.Twin past thread move (s₁.proceedRaising thread panic rest)
      (s₂.proceedRaising thread panic rest) := by
  obtain ⟨_, left₁⟩ := level.left₁
  obtain ⟨_, left₂⟩ := level.left₂
  have firing := level.firingKey? busy
  unfold Scheduler.proceedRaising
  split
  · rw [Barrier.dropped_twin level.barrier left₁.spared left₂.spared]
    exact twin_turn (Barrier.reset_twin level.barrier left₁.spared left₂.spared) rfl fun _ => rfl
  · exact twin_turn level.barrier rfl fun _ => rfl
  · split
    · next found₁ =>
      rw [found₁] at firing
      obtain ⟨key, found₂⟩ := Option.isSome_iff_exists.mp firing.symm
      rw [found₂]
      exact twin_turn level.barrier rfl fun _ => rfl
    · next none₁ =>
      rw [none₁] at firing
      have none₂ : s₂.firingKey? thread = none := by simpa using firing.symm
      rw [none₂]
      exact twin_turn level.barrier rfl fun _ => rfl
  · exact twin_turn level.barrier rfl fun _ => rfl

theorem proceedGuarding (rest : Stack ν) : Turn.Twin past thread move
    (s₁.proceedGuarding thread rest) (s₂.proceedGuarding thread rest) := by
  obtain ⟨_, left₁⟩ := level.left₁
  obtain ⟨_, left₂⟩ := level.left₂
  refine twin_turn (Barrier.reset_twin level.barrier left₁.spared left₂.spared) ?_ fun _ => rfl
  rw [Barrier.dropped_twin level.barrier left₁.spared left₂.spared]

theorem proceed {turn₁ turn₂ : Turn ν} {late : Bool}
    (apart : Stack.isLate past late (s₁.stack thread) = false)
    (taken₁ : s₁.proceed thread now = some turn₁) (taken₂ : s₂.proceed thread now = some turn₂) :
    Turn.Twin past thread .proceed turn₁ turn₂ := by
  unfold Scheduler.proceed at taken₁ taken₂
  rw [← level.stack] at taken₂
  cases top : s₁.stack thread with
  | nil => simp [top] at taken₁
  | cons frame rest =>
      have busy : s₁.stack thread ≠ [] := by simp [top]
      simp only [top] at taken₁ taken₂
      rw [top] at apart
      cases frame with
      | deciding task =>
          obtain rfl := Option.some.inj taken₁
          obtain rfl := Option.some.inj taken₂
          exact level.proceedDeciding task rest
      | run task stage =>
          have unlisted : task ∉ past := by simpa [Stack.isLate] using apart
          cases stage with
          | starting replayed => exact level.proceedStarting unlisted taken₁ taken₂
          | executing => cases taken₁
          | finishing =>
              obtain rfl := Option.some.inj taken₁
              obtain rfl := Option.some.inj taken₂
              exact level.proceedFinishing unlisted rest
      | awaiting start manner stage =>
          cases stage with
          | replaying =>
              obtain rfl := Option.some.inj taken₁
              obtain rfl := Option.some.inj taken₂
              exact level.proceedReplaying now start manner rest
          | waiting deadline wake =>
              obtain rfl := Option.some.inj taken₁
              obtain rfl := Option.some.inj taken₂
              exact level.proceedWaiting now start manner deadline rest
      | dropping | settling | refusing | answering =>
          obtain rfl := Option.some.inj taken₁
          obtain rfl := Option.some.inj taken₂
          exact twin_turn level.barrier rfl fun _ => rfl
      | guarding =>
          obtain rfl := Option.some.inj taken₁
          obtain rfl := Option.some.inj taken₂
          exact level.proceedGuarding rest
      | discarding tasks =>
          cases tasks with
          | nil =>
              obtain rfl := Option.some.inj taken₁
              obtain rfl := Option.some.inj taken₂
              exact twin_turn level.barrier rfl fun _ => rfl
          | cons task others =>
              obtain ⟨b₁, discarded₁, rfl⟩ := Option.map_eq_some_iff.mp taken₁
              obtain ⟨b₂, discarded₂, rfl⟩ := Option.map_eq_some_iff.mp taken₂
              exact twin_turn (Barrier.discard?_twin level.barrier discarded₁ discarded₂) rfl
                fun _ => rfl
      | joining =>
          obtain ⟨barrier₁, stack₁, signal₁⟩ := of_proceedJoining taken₁
          obtain ⟨barrier₂, stack₂, signal₂⟩ := of_proceedJoining taken₂
          exact ⟨by rw [barrier₁, barrier₂, level.barrier], by rw [stack₁, stack₂],
            fun _ => by rw [signal₁, signal₂]⟩
      | raising panic =>
          obtain rfl := Option.some.inj taken₁
          obtain rfl := Option.some.inj taken₂
          exact level.proceedRaising busy panic rest

/-- **The same step of the same thread** is answered the same, and leaves states behind that agree
with each other. -/
theorem step {turn₁ turn₂ : Turn ν} {late : Bool}
    (apart : Stack.isLate past late (s₁.stack thread) = false)
    (calls : move = .work → turn₁.scheduler.stack thread ≠ [] ∧
      turn₁.scheduler.stack thread = turn₂.scheduler.stack thread)
    (taken₁ : s₁.step thread now move = some turn₁)
    (taken₂ : s₂.step thread now move = some turn₂) :
    Turn.Twin past thread move turn₁ turn₂ := by
  have attempted₁ := attempt_of_step taken₁
  have attempted₂ := attempt_of_step taken₂
  cases move with
  | request request => exact level.request attempted₁ attempted₂
  | endBody how => exact level.endBody attempted₁ attempted₂
  | proceed => exact level.proceed apart attempted₁ attempted₂
  | work =>
      obtain ⟨busy, same⟩ := calls rfl
      obtain ⟨⟨facility₁, bare₁, barrier₁⟩, firing₁⟩ := of_work taken₁
      obtain ⟨⟨facility₂, bare₂, barrier₂⟩, firing₂⟩ := of_work taken₂
      refine ⟨?_, by rw [same], fun _ => ?_⟩
      · rw [barrier₁, barrier₂]
        refine Barrier.withFacility_twin level.barrier ?_
        rw [bare₁, bare₂, Barrier.facility_twin level.barrier]
      · rw [(firing₁ busy).2, (firing₂ (same ▸ busy)).2]

end Level

/-! ## Two runs side by side -/

namespace Twin

variable {late₁ late₂ : ThreadId → Bool}

theorem refl (late : ThreadId → Bool) (s : Scheduler ν) : Twin past late late s s :=
  ⟨rfl, rfl, rfl, fun _ => rfl⟩

theorem symm (twin : Twin past late₁ late₂ s₁ s₂) : Twin past late₂ late₁ s₂ s₁ :=
  ⟨twin.number.symm, twin.worker.symm, twin.barrier.symm, fun thread => (twin.stack thread).symm⟩

/-- **A step that belongs to a late completion, or is idle, is not noticed.** -/
theorem step_apart {turn₁ : Turn ν} (twin : Twin past late₁ late₂ s₁ s₂)
    (left₁ : s₁.Left past late₁) (taken₁ : s₁.step thread now move = some turn₁)
    (quiet : Stride.isAsked past ⟨s₁, thread, now, move, turn₁⟩ = false)
    (apart : Stack.isLate past (late₁ thread) (s₁.stack thread) = true ∨
      Stride.isIdle ⟨s₁, thread, now, move, turn₁⟩ = true) :
    Twin past
      (Function.update late₁ thread (Stack.isLate past (late₁ thread) (s₁.stack thread))) late₂
      turn₁.scheduler s₂ := by
  have follows := follows_of_step taken₁
  obtain ⟨barrier, base⟩ : turn₁.scheduler.barrier.without past = s₁.barrier.without past ∧
      Stack.base past (Stack.isLate past (late₁ thread) (s₁.stack thread))
        (turn₁.scheduler.stack thread) = Stack.base past (late₁ thread) (s₁.stack thread) := by
    cases isLate : Stack.isLate past (late₁ thread) (s₁.stack thread) with
    | true => exact left₁.late_step taken₁ quiet isLate
    | false => exact idle_step taken₁ (apart.resolve_left (by simp [isLate]))
  refine ⟨follows.number.trans twin.number, follows.worker.trans twin.worker,
    barrier.trans twin.barrier, fun other => ?_⟩
  by_cases own : other = thread
  · subst own
    rw [Function.update_self, base]
    exact twin.stack other
  · rw [Function.update_of_ne own, follows.others other own]
    exact twin.stack other

end Twin

/-- Nothing is left out of a stack whose thread makes another step. -/
theorem base_of_step {late : Bool} {s : Scheduler ν} {turn : Turn ν}
    (taken : s.step thread now move = some turn)
    (onTime : Stack.isLate past late (s.stack thread) = false)
    (busy : Stride.isIdle ⟨s, thread, now, move, turn⟩ = false) :
    Stack.base past late (s.stack thread) = s.stack thread := by
  cases top : s.stack thread with
  | nil => cases late <;> rfl
  | cons frame rest =>
      rw [top] at onTime
      cases frame with
      | run task stage => cases late <;> exact if_neg (ne_true_of_eq_false onTime)
      | answering | raising =>
          obtain rfl : late = false := onTime
          rfl
      | joining =>
          -- A wait for the worker can do nothing but end.
          obtain rfl := eq_proceed taken (by rw [top]; rfl)
          unfold Stride.isIdle at busy
          simp [top] at busy
      | _ => cases late <;> rfl

/-- **All other steps go side by side.** -/
theorem Twin.step {late₁ late₂ : ThreadId → Bool} {turn₁ turn₂ : Turn ν}
    (twin : Twin past late₁ late₂ s₁ s₂) (left₁ : s₁.Left past late₁) (left₂ : s₂.Left past late₂)
    (alive : s₁.isAlive = s₂.isAlive) (taken₁ : s₁.step thread now move = some turn₁)
    (taken₂ : s₂.step thread now move = some turn₂)
    (onTime₁ : Stack.isLate past (late₁ thread) (s₁.stack thread) = false)
    (onTime₂ : Stack.isLate past (late₂ thread) (s₂.stack thread) = false)
    (busy₁ : Stride.isIdle ⟨s₁, thread, now, move, turn₁⟩ = false)
    (busy₂ : Stride.isIdle ⟨s₂, thread, now, move, turn₂⟩ = false)
    (calls : move = .work →
      turn₁.scheduler.stack thread = turn₂.scheduler.stack thread) :
    Turn.Twin past thread move turn₁ turn₂ ∧
      Twin past (Function.update late₁ thread false) (Function.update late₂ thread false)
        turn₁.scheduler turn₂.scheduler := by
  have follows₁ := follows_of_step taken₁
  have follows₂ := follows_of_step taken₂
  have stack := twin.stack thread
  rw [base_of_step taken₁ onTime₁ busy₁, base_of_step taken₂ onTime₂ busy₂] at stack
  have level : Level past thread s₁ s₂ :=
    ⟨twin.number, twin.worker, twin.barrier, stack, alive, ⟨_, left₁⟩, ⟨_, left₂⟩⟩
  have turns : Turn.Twin past thread move turn₁ turn₂ := by
    refine level.step onTime₁ (fun works => ⟨fun rests => ?_, calls works⟩) taken₁ taken₂
    -- The worker of the timer calls something, for otherwise it would be idle.
    subst works
    simp [Stride.isIdle, rests] at busy₁
  refine ⟨turns, ?_, ?_, turns.barrier, fun other => ?_⟩
  · rw [follows₁.number, follows₂.number, twin.number]
  · rw [follows₁.worker, follows₂.worker, twin.worker]
  · by_cases own : other = thread
    · subst own
      rw [Function.update_self, Function.update_self]
      exact turns.stack
    · rw [Function.update_of_ne own, Function.update_of_ne own, follows₁.others other own,
        follows₂.others other own]
      exact twin.stack other

/-- Two states agree on everything but the tasks that are past. -/
structure Agrees (past : List TaskId) (s₁ s₂ : Scheduler ν) : Prop where
  outstanding : s₁.barrier.outstanding = s₂.barrier.outstanding
  held : s₁.barrier.held = s₂.barrier.held
  draining : s₁.barrier.draining = s₂.barrier.draining
  tasks : ∀ id, id ∉ past → s₁.barrier.task? id = s₂.barrier.task? id

/-- What agrees side by side agrees. -/
theorem agrees_of_without (same : s₁.barrier.without past = s₂.barrier.without past) :
    s₁.Agrees past s₂ :=
  ⟨Barrier.outstanding_twin same, Barrier.held_twin same, congrArg (·.draining) same,
    fun _ apart => Barrier.task?_twin same apart⟩

end Scheduler

/-- **Two steps that are the same**: the same thread makes the same move at the same reading of the
clock.  A step of the worker of the timer is the same if it calls the same callback. -/
structure Stride.Same (stride₁ stride₂ : Stride ν) : Prop where
  thread : stride₁.thread = stride₂.thread
  now : stride₁.now = stride₂.now
  move : stride₁.move = stride₂.move
  calls : stride₁.move = .work → stride₁.turn.scheduler.stack stride₁.thread =
    stride₂.turn.scheduler.stack stride₂.thread

/-- **Two steps with the same results**: the states before them agree, and so do the states after
them, and the user code is told the same, unless it has asked for the value of a task that is
past. -/
structure Stride.Alike (past : List TaskId) (stride₁ stride₂ : Stride ν) : Prop where
  before : stride₁.before.Agrees past stride₂.before
  after : stride₁.turn.scheduler.Agrees past stride₂.turn.scheduler
  signal : (∀ id ∈ past, stride₁.move.reads id = false) →
    stride₁.turn.signal = stride₂.turn.signal

/-- Two steps are made while something is left of the scheduler in both runs, or in neither. -/
def Stride.AliveAlike (stride₁ stride₂ : Stride ν) : Prop :=
  stride₁.before.isAlive = stride₂.before.isAlive

section Runs

variable {s s₁ s₂ : Scheduler ν} {later₁ later₂ : History ν}

theorem History.others_cons_of_apart {stride : Stride ν} {earlier : History ν}
    (apart : Stack.isLate past (earlier.lastLate past stride.thread)
      (stride.before.stack stride.thread) = true ∨ stride.isIdle = true) :
    History.others past (stride :: earlier) = earlier.others past :=
  if_pos (by simpa using apart)

theorem History.others_cons {stride : Stride ν} {earlier : History ν}
    (onTime : ¬ (Stack.isLate past (earlier.lastLate past stride.thread)
      (stride.before.stack stride.thread) = true ∨ stride.isIdle = true)) :
    History.others past (stride :: earlier) = stride :: earlier.others past :=
  if_neg (by simpa using onTime)

theorem History.Quiet.tail {stride : Stride ν} {earlier : History ν}
    (quiet : History.Quiet past (stride :: earlier)) : earlier.Quiet past :=
  fun other member => quiet other (List.mem_cons_of_mem _ member)

/-- The steps of one run that are left out are not noticed. -/
theorem Path.twin_of_apart (left : s.Left past fun _ => false) (path : Path s later₂ s₂)
    (quiet : later₂.Quiet past) (none : later₂.others past = []) :
    s.Twin past (fun _ => false) (later₂.lastLate past) s₂ := by
  induction path with
  | start => exact .refl _ s
  | @step earlier before thread now move turn path taken ih =>
      by_cases apart : Stack.isLate past (earlier.lastLate past thread)
          (before.stack thread) = true ∨ Stride.isIdle ⟨before, thread, now, move, turn⟩ = true
      · rw [History.others_cons_of_apart apart] at none
        exact ((ih quiet.tail none).symm.step_apart (path.left left quiet.tail) taken
          (quiet _ List.mem_cons_self) apart).symm
      · rw [History.others_cons apart] at none
        cases none

/-- **Two runs with the same other steps go side by side.** -/
theorem Path.twin (left : s.Left past fun _ => false) (path₁ : Path s later₁ s₁)
    (path₂ : Path s later₂ s₂) (quiet₁ : later₁.Quiet past) (quiet₂ : later₂.Quiet past)
    (same : List.Forall₂ Stride.Same (later₁.others past) (later₂.others past))
    (alive : List.Forall₂ Stride.AliveAlike (later₁.others past) (later₂.others past)) :
    List.Forall₂ (Stride.Alike past) (later₁.others past) (later₂.others past) ∧
      s₁.Twin past (later₁.lastLate past) (later₂.lastLate past) s₂ := by
  -- The induction is on the first path, and for a step that both make, on the second one.
  induction path₁ generalizing later₂ s₂ with
  | start =>
      have none : later₂.others past = [] := List.forall₂_nil_left_iff.mp same
      rw [none]
      exact ⟨.nil, path₂.twin_of_apart left quiet₂ none⟩
  | @step earlier₁ before₁ thread₁ now₁ move₁ turn₁ path₁ taken₁ ih₁ =>
      have left₁ := path₁.left left quiet₁.tail
      by_cases apart₁ : Stack.isLate past (earlier₁.lastLate past thread₁)
          (before₁.stack thread₁) = true ∨
            Stride.isIdle ⟨before₁, thread₁, now₁, move₁, turn₁⟩ = true
      · rw [History.others_cons_of_apart apart₁] at same alive ⊢
        obtain ⟨alike, twin⟩ := ih₁ path₂ quiet₁.tail quiet₂ same alive
        exact ⟨alike, twin.step_apart left₁ taken₁ (quiet₁ _ List.mem_cons_self) apart₁⟩
      · rw [History.others_cons apart₁] at same alive ⊢
        induction path₂ with
        | start => cases same
        | @step earlier₂ before₂ thread₂ now₂ move₂ turn₂ path₂ taken₂ ih₂ =>
            have left₂ := path₂.left left quiet₂.tail
            by_cases apart₂ : Stack.isLate past (earlier₂.lastLate past thread₂)
                (before₂.stack thread₂) = true ∨
                  Stride.isIdle ⟨before₂, thread₂, now₂, move₂, turn₂⟩ = true
            · rw [History.others_cons_of_apart apart₂] at same alive ⊢
              obtain ⟨alike, twin⟩ := ih₂ quiet₂.tail same alive
              exact ⟨alike, (twin.symm.step_apart left₂ taken₂
                (quiet₂ _ List.mem_cons_self) apart₂).symm⟩
            · rw [History.others_cons apart₂] at same alive ⊢
              obtain ⟨⟨sameThread, sameNow, sameMove, calls⟩, sameBefore⟩ :=
                List.forall₂_cons.mp same
              obtain ⟨aliveHere, aliveBefore⟩ := List.forall₂_cons.mp alive
              obtain rfl : thread₁ = thread₂ := sameThread
              obtain rfl : now₁ = now₂ := sameNow
              obtain rfl : move₁ = move₂ := sameMove
              obtain ⟨alike, twin⟩ := ih₁ path₂ quiet₁.tail quiet₂.tail sameBefore aliveBefore
              obtain ⟨onTime₁, busy₁⟩ := not_or.mp apart₁
              obtain ⟨onTime₂, busy₂⟩ := not_or.mp apart₂
              rw [Bool.not_eq_true] at onTime₁ onTime₂ busy₁ busy₂
              obtain ⟨turns, further⟩ := twin.step left₁ left₂ aliveHere taken₁ taken₂ onTime₁
                onTime₂ busy₁ busy₂ calls
              refine ⟨.cons ⟨Scheduler.agrees_of_without twin.barrier,
                Scheduler.agrees_of_without turns.barrier, turns.signal⟩ alike, ?_⟩
              simpa only [History.lastLate, onTime₁, onTime₂] using further

/-- While the scheduler has not been dropped, something is left of it. -/
theorem aliveAlike_of_owned {stride₁ stride₂ : Stride ν} (owned₁ : stride₁.before.dropped = false)
    (owned₂ : stride₂.before.dropped = false) : stride₁.AliveAlike stride₂ := by
  simp [Stride.AliveAlike, Scheduler.isAlive, owned₁, owned₂]

/-- **Late completions do not disturb later cycles.**  Let one-shot tasks be left behind by a reset,
and let two continuations of the run differ only in when, or whether, their bodies end, and how.  If
these bodies ask for nothing, and if no step is made on what is left of a dropped scheduler in one
continuation and on nothing in the other, then all other steps have the same results, and the two
continuations agree before and after each of them, and in the end.  They may be cut off anywhere, so
they agree throughout. -/
theorem late_completions_disturb_nobody {history : History ν} (run : Run history s)
    (behind : ∀ id ∈ past, LeftBehind history s id) (path₁ : Path s later₁ s₁)
    (path₂ : Path s later₂ s₂) (quiet₁ : later₁.Quiet past) (quiet₂ : later₂.Quiet past)
    (same : List.Forall₂ Stride.Same (later₁.others past) (later₂.others past))
    (alive : List.Forall₂ Stride.AliveAlike (later₁.others past) (later₂.others past)) :
    List.Forall₂ (Stride.Alike past) (later₁.others past) (later₂.others past) ∧
      s₁.Agrees past s₂ := by
  obtain ⟨alike, twin⟩ := Path.twin (run.left behind) path₁ path₂ quiet₁ quiet₂ same alive
  exact ⟨alike, Scheduler.agrees_of_without twin.barrier⟩

end Runs

/-- A run that is on top of a stack without an await has been left behind, if the task has not been
started since the latest reset. -/
theorem LeftBehind.of_run {history : History ν} {s : Scheduler ν} (run : Run history s)
    {thread : ThreadId} {id : TaskId} {stage : RunStage} {rest : Stack ν}
    (top : s.stack thread = .run id stage :: rest)
    (once : (s.barrier.task? id).map (·.periodic) = some false)
    (givenUp : history.sinceReset.starts id = 0) (outside : Stack.awaits rest = 0) :
    LeftBehind history s id := by
  obtain ⟨task, found, fits⟩ := run.sound.of_run top
  rw [found] at once
  refine ⟨⟨task, found, Option.some.inj once, fits.phase_of_some⟩, givenUp,
    fun other there member => ?_⟩
  -- There is no other run of the task, on whatever thread.
  have stages : Stack.stages id (s.stack thread) = stage :: Stack.stages id rest := by
    rw [top, Stack.stages_run_self]
  obtain ⟨_, staged, -⟩ := run.sound.fits_of_found found
  obtain ⟨-, -, elsewhere⟩ := staged.of_cons stages
  by_cases same : other = thread
  · rw [same, top, Stack.awaits_cons_of_not rfl, outside]
  · have listed := Stack.mem_stages_iff.mpr member
    rw [elsewhere other same] at listed
    cases listed

/-- The moves of a task whose body outlasts an await. -/
def outlastingMoves : List (ThreadId × Instant × Move Unit) :=
  [(0, ⟨0⟩, .request (.accept ⟨0⟩ .once false)),
    (0, ⟨0⟩, .request (.await .plain)), (0, ⟨0⟩, .proceed),
    (1, ⟨0⟩, .request (.call ⟨0⟩)), (1, ⟨0⟩, .proceed), (1, ⟨0⟩, .proceed),
    (0, ⟨300000000⟩, .proceed), (0, ⟨300000000⟩, .proceed), (0, ⟨300000000⟩, .proceed),
    (0, ⟨300000000⟩, .proceed)]

/-- The moves with which that body ends. -/
def overdueMoves : List (ThreadId × Instant × Move Unit) :=
  [(1, ⟨300000000⟩, .endBody (.returned none)), (1, ⟨300000000⟩, .proceed),
    (1, ⟨300000000⟩, .proceed)]

/-- The moves of an owner who accepts another task and begins to await it. -/
def renewedMoves : List (ThreadId × Instant × Move Unit) :=
  [(0, ⟨300000000⟩, .request (.accept ⟨0⟩ .once false)),
    (0, ⟨300000000⟩, .request (.await .plain)), (0, ⟨300000000⟩, .proceed)]

/-- The moves of an owner who accepts another task and drops the scheduler. -/
def desertedMoves : List (ThreadId × Instant × Move Unit) :=
  [(0, ⟨300000000⟩, .request (.accept ⟨0⟩ .once false)),
    (0, ⟨300000000⟩, .request .drop), (0, ⟨300000000⟩, .proceed)]

/-- A body that outlasts an await may end during the next one, which times out all the same. -/
theorem late_completions_disturb_nobody_of_renewed :
    ∃ (history later₁ later₂ : History Unit) (s s₁ s₂ : Scheduler Unit),
      (∀ id ∈ [(⟨0⟩ : TaskId)], LeftBehind history s id) ∧ Path s later₁ s₁ ∧ Path s later₂ s₂ ∧
      later₁.finishes ⟨0⟩ = 1 ∧ later₂.finishes ⟨0⟩ = 0 ∧ (later₁.others [⟨0⟩]).length = 4 ∧
      List.Forall₂ (Stride.Alike [⟨0⟩]) (later₁.others [⟨0⟩]) (later₂.others [⟨0⟩]) ∧
      s₁.Agrees [⟨0⟩] s₂ := by
  obtain ⟨history, s, later₁, s₁, later₂, s₂, played, played₁, played₂, top, once, givenUp, quiet₁,
    quiet₂, same, alive, finished₁, finished₂, four⟩ : ∃ history s later₁ s₁ later₂ s₂,
      (Scheduler.start 0 .default (.byHand .empty) none).play outlastingMoves = some (history, s) ∧
      s.play (renewedMoves ++ overdueMoves ++ [(0, ⟨600000000⟩, .proceed)]) = some (later₁, s₁) ∧
      s.play (renewedMoves ++ [(0, ⟨600000000⟩, .proceed)]) = some (later₂, s₂) ∧
      s.stack 1 = [.run ⟨0⟩ .executing, .answering (.flag true)] ∧
      (s.barrier.task? ⟨0⟩).map (·.periodic) = some false ∧
      history.sinceReset.starts ⟨0⟩ = 0 ∧
      later₁.all (fun stride => !stride.isAsked [⟨0⟩]) = true ∧
      later₂.all (fun stride => !stride.isAsked [⟨0⟩]) = true ∧
      List.Forall₂ Stride.Same (later₁.others [⟨0⟩]) (later₂.others [⟨0⟩]) ∧
      List.Forall₂ Stride.AliveAlike (later₁.others [⟨0⟩]) (later₂.others [⟨0⟩]) ∧
      later₁.finishes ⟨0⟩ = 1 ∧ later₂.finishes ⟨0⟩ = 0 ∧ (later₁.others [⟨0⟩]).length = 4 := by
    refine ⟨_, _, _, _, _, _, rfl, rfl, rfl, rfl, rfl, rfl, rfl, rfl, ?_, ?_, rfl, rfl, rfl⟩
    · exact .cons ⟨rfl, rfl, rfl, nofun⟩ (.cons ⟨rfl, rfl, rfl, nofun⟩
        (.cons ⟨rfl, rfl, rfl, nofun⟩ (.cons ⟨rfl, rfl, rfl, nofun⟩ .nil)))
    · exact .cons (aliveAlike_of_owned rfl rfl) (.cons (aliveAlike_of_owned rfl rfl)
        (.cons (aliveAlike_of_owned rfl rfl) (.cons (aliveAlike_of_owned rfl rfl) .nil)))
  have run : Run history s := .of_play played
  have behind : ∀ id ∈ [(⟨0⟩ : TaskId)], LeftBehind history s id := fun id listed =>
    List.mem_singleton.mp listed ▸ LeftBehind.of_run run top once givenUp rfl
  have path₁ : Path s later₁ s₁ := .of_play played₁
  have path₂ : Path s later₂ s₂ := .of_play played₂
  obtain ⟨alike, agrees⟩ := late_completions_disturb_nobody run behind path₁ path₂
    (fun stride member => by simpa using List.all_eq_true.mp quiet₁ stride member)
    (fun stride member => by simpa using List.all_eq_true.mp quiet₂ stride member) same alive
  exact ⟨history, later₁, later₂, s, s₁, s₂, behind, path₁, path₂, finished₁, finished₂, four,
    alike, agrees⟩

/-- **Once the scheduler has been dropped a late completion can be noticed**: while the body is
still being executed, a task can be cancelled through its handle, and afterwards it cannot. -/
theorem late_completion_noticed_after_drop : ¬ ∀ (history later₁ later₂ : History Unit)
    (s s₁ s₂ : Scheduler Unit) (past : List TaskId), Run history s →
    (∀ id ∈ past, LeftBehind history s id) → Path s later₁ s₁ → Path s later₂ s₂ →
    later₁.Quiet past → later₂.Quiet past →
    List.Forall₂ Stride.Same (later₁.others past) (later₂.others past) →
      List.Forall₂ (Stride.Alike past) (later₁.others past) (later₂.others past) ∧
        s₁.Agrees past s₂ := by
  intro undisturbed
  obtain ⟨history, s, later₁, s₁, later₂, s₂, played, played₁, played₂, top, once, givenUp, quiet₁,
    quiet₂, same, live, cancelled⟩ : ∃ history s later₁ s₁ later₂ s₂,
      (Scheduler.start 0 .default (.byHand .empty) none).play outlastingMoves = some (history, s) ∧
      s.play (desertedMoves ++ overdueMoves ++
        [(0, ⟨300000000⟩, .request (.cancelByHandle ⟨1⟩))]) = some (later₁, s₁) ∧
      s.play (desertedMoves ++ [(0, ⟨300000000⟩, .request (.cancelByHandle ⟨1⟩))]) =
        some (later₂, s₂) ∧
      s.stack 1 = [.run ⟨0⟩ .executing, .answering (.flag true)] ∧
      (s.barrier.task? ⟨0⟩).map (·.periodic) = some false ∧
      history.sinceReset.starts ⟨0⟩ = 0 ∧
      later₁.all (fun stride => !stride.isAsked [⟨0⟩]) = true ∧
      later₂.all (fun stride => !stride.isAsked [⟨0⟩]) = true ∧
      List.Forall₂ Stride.Same (later₁.others [⟨0⟩]) (later₂.others [⟨0⟩]) ∧
      (s₁.barrier.task? ⟨1⟩).map (·.phase) = some .live ∧
      (s₂.barrier.task? ⟨1⟩).map (·.phase) = some .cancelled := by
    refine ⟨_, _, _, _, _, _, rfl, rfl, rfl, rfl, rfl, rfl, rfl, rfl, ?_, rfl, rfl⟩
    exact .cons ⟨rfl, rfl, rfl, nofun⟩ (.cons ⟨rfl, rfl, rfl, nofun⟩
      (.cons ⟨rfl, rfl, rfl, nofun⟩ (.cons ⟨rfl, rfl, rfl, nofun⟩ .nil)))
  have run : Run history s := .of_play played
  have behind : ∀ id ∈ [(⟨0⟩ : TaskId)], LeftBehind history s id := fun id listed =>
    List.mem_singleton.mp listed ▸ LeftBehind.of_run run top once givenUp rfl
  obtain ⟨-, agrees⟩ := undisturbed history later₁ later₂ s s₁ s₂ [⟨0⟩] run behind
    (.of_play played₁) (.of_play played₂)
    (fun stride member => by simpa using List.all_eq_true.mp quiet₁ stride member)
    (fun stride member => by simpa using List.all_eq_true.mp quiet₂ stride member) same
  have same := agrees.tasks ⟨1⟩ (by decide)
  rw [same, cancelled] at live
  cases live

end TaskBarrier
