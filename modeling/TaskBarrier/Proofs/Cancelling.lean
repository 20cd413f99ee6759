import TaskBarrier.Proofs.Bodies
import TaskBarrier.Proofs.Locking

/-!
# Cancels are exact and final

A cancel names a task, through the scheduler or through the handle of the task.  It succeeds if and
only if the task has not started, or is a periodic one in the middle of a run that nobody has
cancelled before.

* A task that is live or held is *withdrawn*: it leaves the hold queue and the count, is cancelled
  at once, and its body is thrown away before the call returns.
* A periodic task that is running is *doomed*: the run goes on as if nothing had happened, counted
  or not as before, and its end is the end of the task.

Either way the task is *leaving*, and a task that is leaving is never started again.  This is what
makes a cancel final, and it is also why a second one fails: the cancels that have succeeded are
read off the record of the task, and there is room for one.

A cancel that fails changes nothing, and no cancel touches another task.

## Main Definitions

* `Request.target?`: the task that a request means to cancel.
* `Task.IsLeaving`: a task that has been cancelled, or ends with the run in progress.
* `Revoked`: the cancels that have succeeded, told from the record of a task.
* `Withdrawal`, `Doom`: what the two kinds of success leave behind, and what follows from them.
* `CancelVerdict`: what a cancel comes to.

The main statements are `Run.cancelVerdict` and `cancel_exact_and_final`.
-/

namespace TaskBarrier

variable {ν : Type}

/-- The task that a request means to cancel, as a handle: the scheduler is given one, and a handle
that is asked itself belongs to the scheduler that it leads to. -/
def Request.target? (number : Nat) : Request → Option Handle
  | .cancel handle => some handle
  | .cancelByHandle task => some ⟨number, task⟩
  | .accept _ _ _ | .fire _ | .call _ | .await _ | .read _ | .shutdown | .drop => none

/-! ## How many cancels have succeeded -/

/-- The task has been cancelled, or ends with the run in progress. -/
def Task.IsLeaving (task : Task ν) : Prop := task.isDoomed = true ∨ task.phase = .cancelled

/-- A task that waits for its run is not leaving. -/
theorem Task.Fits.not_isLeaving_of_waiting {task : Task ν} {stage : Option RunStage}
    (fits : task.Fits stage) (waiting : task.phase = .live ∨ task.phase = .held) :
    ¬ task.IsLeaving := by
  rintro (doomed | cancelled)
  · have running := (fits.doomed doomed).1
    rcases waiting with phase | phase
    · simp [phase] at running
    · simp [phase] at running
  · rcases waiting with phase | phase
    · simp [phase] at cancelled
    · simp [phase] at cancelled

/-- **The cancels of a task that have succeeded**, told from its record: none while the task is not
doomed, and one if it is leaving.  A task may also be cancelled without any cancel, by a reset. -/
inductive Revoked (id : TaskId) (history : History ν) : Option (Task ν) → Prop
  /-- Nobody has cancelled the task. -/
  | never {record : Option (Task ν)} (none : history.cancels id = 0)
      (undoomed : ∀ task ∈ record, task.isDoomed = false) : Revoked id history record
  /-- One cancel has succeeded. -/
  | once {task : Task ν} (one : history.cancels id = 1) (leaving : task.IsLeaving) :
      Revoked id history (some task)

namespace Revoked

variable {id : TaskId} {history : History ν} {stride : Stride ν} {task : Task ν}

/-- Nobody cancels a task that has not been accepted. -/
theorem absent (none : history.cancels id = 0) :
    Revoked id history (Option.none : Option (Task ν)) :=
  .never none (by simp)

/-- A task that is not leaving has not been cancelled. -/
theorem cancels_of_not_leaving (revoked : Revoked id history (some task))
    (stays : ¬ task.IsLeaving) : history.cancels id = 0 := by
  cases revoked with
  | never none => exact none
  | once _ leaving => exact absurd leaving stays

/-- A doomed task has been cancelled. -/
theorem cancels_of_doomed (revoked : Revoked id history (some task))
    (doomed : task.isDoomed = true) : history.cancels id = 1 := by
  cases revoked with
  | never _ undoomed =>
      rw [undoomed task rfl] at doomed
      cases doomed
  | once one => exact one

/-- A step that cancels nothing, and keeps a task that is leaving on its way, adds no cancel. -/
theorem keep {after : Option (Task ν)} {task' : Task ν}
    (revoked : Revoked id history (some task)) (silent : stride.deed.cancelsTask id = false)
    (found : after = some task')
    (undoomed : task.isDoomed = false → task'.isDoomed = false)
    (leaving : task.IsLeaving → task'.IsLeaving) : Revoked id (stride :: history) after := by
  have same : History.cancels (stride :: history) id = history.cancels id := by
    rw [History.cancels_cons, silent]
    rfl
  subst found
  cases revoked with
  | never none free =>
      refine .never (same.trans none) fun other here => ?_
      obtain rfl := Option.some.inj here
      exact undoomed (free task rfl)
  | once one leaves => exact .once (same.trans one) (leaving leaves)

end Revoked

/-- A task that ends its run has no doom left: it is over, or lives on. -/
theorem Task.isDoomed_afterRun {task : Task ν} (undoomed : task.isDoomed = false) :
    (Barrier.afterRun task).isDoomed = false := by
  unfold Barrier.afterRun
  split
  · rfl
  · split
    · exact undoomed
    · rfl

/-- The end of a run is the end of a doomed task. -/
theorem Task.afterRun_of_doomed {task : Task ν} (doomed : task.isDoomed = true) :
    (Barrier.afterRun task).phase = .cancelled := by
  unfold Barrier.afterRun
  rw [if_pos doomed]
  rfl

/-- **Every step keeps count of the cancels.** -/
theorem Revoked.step {id : TaskId} {history : History ν} {stride : Stride ν} {deed : Deed}
    {before after : Option (Task ν)} {stage stage' : Option RunStage} (done : stride.deed = deed)
    (passage : Passage id deed before stage after stage') (revoked : Revoked id history before) :
    Revoked id (stride :: history) after := by
  obtain ⟨course, fits, -, -, -⟩ := passage
  have silent : deed.cancelsTask id = false → stride.deed.cancelsTask id = false := by
    rw [done]
    exact fun silent => silent
  have counts : deed.cancelsTask id = true →
      History.cancels (stride :: history) id = history.cancels id + 1 := by
    intro cancels
    rw [History.cancels_cons, done, cancels]
    rfl
  generalize own : stage.toList = stages, own' : stage'.toList = stages' at course
  cases course with
  | accept =>
      cases revoked with
      | never none =>
          refine .never ?_ fun task here => ?_
          · rw [History.cancels_cons, done, none]
            rfl
          · obtain rfl := Option.some.inj here
            rfl
  | run _ live =>
      have stays := fits.of_some.not_isLeaving_of_waiting (.inl live)
      exact revoked.keep (silent rfl) rfl (fun free => (Task.isDoomed_setCounted ..).trans free)
        fun leaves => absurd leaves stays
  | hold _ live =>
      have stays := fits.of_some.not_isLeaving_of_waiting (.inl live)
      exact revoked.keep (silent rfl) rfl (fun free => (Task.isDoomed_setCounted ..).trans free)
        fun leaves => absurd leaves stays
  | replay _ held =>
      have stays := fits.of_some.not_isLeaving_of_waiting (.inr held)
      exact revoked.keep (silent rfl) rfl (fun free => free) fun leaves => absurd leaves stays
  | enter | leave | read =>
      exact revoked.keep (silent rfl) rfl (fun free => free) fun leaves => leaves
  | @finish task _ running =>
      refine revoked.keep (silent rfl) rfl (fun free => ?_) fun leaves => ?_
      · exact Task.isDoomed_afterRun ((Task.isDoomed_setCounted ..).trans free)
      · rcases leaves with doomed | cancelled
        · exact .inr (Task.afterRun_of_doomed ((Task.isDoomed_setCounted ..).trans doomed))
        · rw [running] at cancelled
          cases cancelled
  | withdraw waiting =>
      have none := revoked.cancels_of_not_leaving (fits.of_some.not_isLeaving_of_waiting waiting)
      refine .once ?_ (.inr rfl)
      rw [counts (by simp [Deed.cancelsTask, Cancellation.succeeded]), none]
  | @doom task _ running periodic undoomed =>
      have stays : ¬ task.IsLeaving := by
        simp [Task.IsLeaving, undoomed, running]
      have dooms : task.doom.isDoomed = true := by
        obtain ⟨slot, has⟩ := fits.of_some.exists_slot (by rw [running]; rfl)
        simp [Task.doom, Task.isDoomed, has]
      refine .once ?_ (.inl dooms)
      rw [counts (by simp [Deed.cancelsTask, Cancellation.succeeded]),
        revoked.cancels_of_not_leaving stays]
  | @reset _ _ task =>
      -- What a reset drops waited for its run, and it leaves the doomed tasks alone.
      rcases fits.of_some.reset_cases with ⟨-, waiting, -, eq⟩ | ⟨-, held, -, eq⟩ | ⟨-, -, -, eq⟩
      · exact revoked.keep (silent rfl) (congrArg some eq) (fun _ => rfl)
          fun leaves => absurd leaves (fits.of_some.not_isLeaving_of_waiting waiting)
      · exact revoked.keep (silent rfl) (congrArg some eq)
          (fun free => (Task.isDoomed_setCounted ..).trans free)
          fun leaves => absurd leaves (fits.of_some.not_isLeaving_of_waiting (.inr held))
      · refine revoked.keep (silent rfl) (congrArg some eq)
          (fun free => (Task.isDoomed_setCounted ..).trans free) fun leaves => ?_
        exact leaves.imp_left (Task.isDoomed_setCounted ..).trans
  | absent =>
      cases revoked with
      | never none =>
          refine .absent ?_
          rw [History.cancels_cons, done, none]
          rfl
  | @discard task =>
      obtain ⟨body, promise, eq⟩ := task.discard_eq
      rw [eq]
      exact revoked.keep (silent rfl) rfl (fun free => free) fun leaves => leaves
  | keep apart =>
      have quiet := silent (Deed.cancelsTask_of_apart apart)
      cases before with
      | none =>
          cases revoked with
          | never none =>
              refine .absent ?_
              rw [History.cancels_cons, quiet, none]
              rfl
      | some task => exact revoked.keep quiet rfl (fun free => free) fun leaves => leaves

/-- In every state of a run, the record of a task tells how many cancels of it have succeeded. -/
theorem Run.revoked {history : History ν} {s : Scheduler ν} (run : Run history s) (id : TaskId) :
    Revoked id history (s.barrier.task? id) := by
  obtain ⟨-, -, -, revoked⟩ := run.induct_task id
    (motive := fun history record _ => Revoked id history record)
    (.absent rfl) (fun done _ passage revoked => revoked.step done passage)
  exact revoked

/-- **At most one cancel of a task succeeds**, in every run. -/
theorem Run.cancels_le_one {history : History ν} {s : Scheduler ν} (run : Run history s)
    (id : TaskId) : history.cancels id ≤ 1 := by
  have revoked := run.revoked id
  generalize s.barrier.task? id = record at revoked
  cases revoked with
  | never none => omega
  | once one => omega

/-! ## What the section answers -/

/-- A cancel of the task can still succeed. -/
def Task.IsCancellable (task : Task ν) : Prop :=
  task.phase = .live ∨ task.phase = .held ∨
    task.phase = .running ∧ task.periodic = true ∧ task.isDoomed = false

namespace Scheduler.Sound

variable {s : Scheduler ν} {id : TaskId} {task : Task ν}

/-- **A cancel succeeds exactly on a task that is cancellable.** -/
theorem succeeded_cancel_iff (sound : s.Sound) (found : s.barrier.task? id = some task) :
    (s.barrier.cancel id).answer.succeeded = true ↔ task.IsCancellable := by
  obtain ⟨stage, -, fits⟩ := sound.fits_of_found found
  have slotted := fits.slotted
  unfold Barrier.cancel Barrier.slotted?
  cases has : task.slot with
  | none =>
      rw [has] at slotted
      have terminal : task.phase.isTerminal = true := by simpa using slotted
      simp only [found, has, Option.map_none, Task.IsCancellable]
      cases phase : task.phase <;> simp_all [Phase.isTerminal, Cancellation.succeeded]
  | some slot =>
      rw [has] at slotted
      have continues : task.phase.isTerminal = false := by simpa using slotted
      simp only [found, has, Option.map_some, Task.IsCancellable, Task.isDoomed, Option.any_some]
      cases phase : task.phase with
      | live | held => simp [Barrier.withdraw, Cancellation.succeeded]
      | running =>
          cases periodic : task.periodic <;> cases doomed : slot.doomed <;>
            simp [Cancellation.succeeded]
      | ran | cancelled =>
          rw [phase] at continues
          cases continues

end Scheduler.Sound

/-- A cancel of a task that was never accepted fails. -/
theorem Barrier.succeeded_cancel_of_absent {b : Barrier ν} {id : TaskId}
    (absent : b.task? id = none) : (b.cancel id).answer.succeeded = false := by
  simp [Barrier.cancel, Barrier.slotted?, absent, Cancellation.succeeded]

/-! ## After a cancel of a waiting task -/

section Withdrawn

variable {s s' : Scheduler ν} {thread : ThreadId} {id : TaskId}

/-- The body of the task is gone, or it is what the thread throws away with its next step. -/
def Scheduler.Buries (s : Scheduler ν) (thread : ThreadId) (id : TaskId) (rest : Stack ν) : Prop :=
  (∃ task, s.barrier.task? id = some task ∧ task.body = .spent) ∨
    s.stack thread = .discarding [id] :: rest ∧
      ∀ now, ∃ turn, s.step thread now .proceed = some turn ∧
        ∃ task, turn.scheduler.barrier.task? id = some task ∧ task.body = .spent

/-- A thread that has a body to throw away does nothing else with its next step. -/
theorem Transition.of_discarding {b b' : Barrier ν} {rest stack' : Stack ν} {deed : Deed}
    (transition : Transition b (.discarding [id] :: rest) deed b' stack') :
    stack' = .discarding [id] :: rest ∨ deed = .discard id := by
  cases transition with
  | aside | read => exact .inl rfl
  | accept isUser | refuse isUser | ask isUser | withdraw isUser | cancel isUser | await isUser =>
      cases isUser
  | discard => exact .inr rfl
  | close closing => cases closing

/-- The thread can throw away the body that it has to throw away. -/
theorem Scheduler.Sound.buries_of_discarding (sound : s.Sound) {rest : Stack ν}
    (top : s.stack thread = .discarding [id] :: rest) : s.Buries thread id rest := by
  refine .inr ⟨top, fun now => ?_⟩
  have discards : id ∈ Stack.discards (s.stack thread) := by
    rw [top]
    exact List.mem_cons_self
  obtain ⟨task, found, -, -⟩ := sound.discard?_eq discards
  refine ⟨_, sound.step_discarding top now, task.discard, ?_, task.body_discard⟩
  rw [Scheduler.barrier_turn, Barrier.task?_modify_self _ id _ Task.id_discard, found]
  rfl

/-- **The body of a withdrawn task is thrown away** by the call that has withdrawn it, whatever
other threads do meanwhile. -/
theorem Path.buries {later : History ν} {rest : Stack ν} (path : Path s later s')
    (sound : s.Sound) (cancelled : s.barrier.phase? id = some .cancelled)
    (top : s.stack thread = .discarding [id] :: rest) : s'.Buries thread id rest := by
  -- Along the path, the body is gone or the thread has not made a step.
  suffices still : (∃ task, s'.barrier.task? id = some task ∧ task.body = .spent) ∨
      s'.stack thread = .discarding [id] :: rest by
    rcases still with gone | still
    · exact .inl gone
    · exact (path.starts_of_cancelled sound cancelled).1.buries_of_discarding still
  induction path with
  | start => exact .inr top
  | @step history middle mover now move turn path taken ih =>
      obtain ⟨sound, cancelled, -⟩ := path.starts_of_cancelled sound cancelled
      have follows := Scheduler.follows_of_step taken
      have course := sound.course follows id
      obtain ⟨task, found, phase⟩ := Option.map_eq_some_iff.mp cancelled
      obtain ⟨stage, staged, fits⟩ := sound.fits_of_found found
      obtain rfl := fits.stage_of_ne (by simp [phase])
      obtain ⟨task', found', -⟩ := Option.map_eq_some_iff.mp (course.cancelled cancelled)
      rw [found, found', staged mover] at course
      rcases ih with ⟨other, same, spent⟩ | still
      · obtain rfl := Option.some.inj (found.symm.trans same)
        exact .inl ⟨task', found', course.body_of_cancelled phase (.inl spent)⟩
      · by_cases own : thread = mover
        · subst own
          have transition := follows.transition
          rw [still] at transition
          rcases transition.of_discarding with same | discards
          · exact .inr same
          · exact .inl ⟨task', found', course.body_of_cancelled phase (.inr discards)⟩
        · exact .inr ((follows.others thread own).trans still)

end Withdrawn

/-- **What a cancel of a task that waits for its run leaves behind**: `task` is the record of the
task before, `s` the state before, and `s'` the state after. -/
structure Withdrawal (s : Scheduler ν) (thread : ThreadId) (task : Task ν) (s' : Scheduler ν) :
    Prop where
  /-- The counter drops by one if the task was counted. -/
  outstanding : s'.barrier.outstanding + (if task.isCounted then 1 else 0) = s.barrier.outstanding
  /-- The task leaves the hold queue, and no other does. -/
  held : s'.barrier.held = s.barrier.held.filter (· != task.id)
  /-- The task is cancelled. -/
  phase : s'.barrier.phase? task.id = some .cancelled
  /-- The body is thrown away before the call returns. -/
  stack : s'.stack thread = .discarding [task.id] :: .answering (.flag true) :: s.stack thread
  /-- Nothing can keep the thread from throwing the body away. -/
  buries : ∀ later s'', Path s' later s'' →
    s''.Buries thread task.id (.answering (.flag true) :: s.stack thread)
  /-- No run of the task ever starts again. -/
  final : ∀ later s'', Path s' later s'' → History.starts later task.id = 0

/-- A cancel of a task that waits for its run withdraws it, once its entry has been disarmed. -/
theorem Barrier.cancel_of_waiting {b : Barrier ν} {id : TaskId} {task : Task ν} {slot : Slot}
    (found : b.task? id = some task) (has : task.slot = some slot)
    (waiting : task.phase = .live ∨ task.phase = .held) :
    ∃ disarmed : Barrier ν, b.cancel id = disarmed.withdraw id ∧ disarmed.tasks = b.tasks ∧
      disarmed.outstanding = b.outstanding ∧ disarmed.nextId = b.nextId := by
  have slotted := Barrier.slotted?_of_task? found has
  rcases waiting with live | held
  · exact ⟨b.disarm slot.key, by simp [Barrier.cancel, slotted, live], rfl, rfl, rfl⟩
  · exact ⟨(b.disarm slot.key).unhold id, by simp [Barrier.cancel, slotted, held], rfl, rfl, rfl⟩

/-- **A cancel of a task that waits for its run is a withdrawal.** -/
theorem Scheduler.Sound.withdrawal {s : Scheduler ν} (sound : s.Sound) (thread : ThreadId)
    {task : Task ν} (found : s.barrier.task? task.id = some task)
    (waiting : task.phase = .live ∨ task.phase = .held)
    (sound' : (s.requestCancel thread task.id).scheduler.Sound) :
    Withdrawal s thread task (s.requestCancel thread task.id).scheduler := by
  obtain ⟨stage, -, fits⟩ := sound.fits_of_found found
  have continues : task.phase.isTerminal = false := by
    rcases waiting with phase | phase
    · rw [phase]; rfl
    · rw [phase]; rfl
  obtain ⟨slot, has⟩ := fits.exists_slot continues
  obtain ⟨disarmed, eq, tasks, outstanding, nextId⟩ := Barrier.cancel_of_waiting found has waiting
  have answer : (s.barrier.cancel task.id).answer = .cancelled := by
    rw [eq]
    rfl
  have known : disarmed.task? task.id = some task := by
    rw [Barrier.task?, tasks]
    exact found
  have coherent : disarmed.Coherent :=
    sound.coherent.transfer tasks outstanding (Nat.le_of_eq (congrArg _ nextId.symm))
  have phase : (s.barrier.cancel task.id).barrier.phase? task.id = some .cancelled := by
    rw [Barrier.phase?, eq, disarmed.task?_withdraw, disarmed.task?_modify_self task.id
      (fun task => (task.setCounted false).retire .cancelled) fun _ => rfl, known]
    rfl
  have stack : (s.requestCancel thread task.id).scheduler.stack thread =
      .discarding [task.id] :: .answering (.flag true) :: s.stack thread := by
    simp [Scheduler.requestCancel, answer, Cancellation.succeeded]
  exact {
    outstanding := by
      rw [← outstanding, ← (coherent.outstanding_uncount known).1]
      show (s.barrier.cancel task.id).barrier.outstanding + _ = _
      rw [eq]
      rfl
    held := by
      have held := Barrier.held_cancel (sound.mem_held task.id).mp
      rw [answer] at held
      exact held
    phase := phase
    stack := stack
    buries := fun later s'' path => path.buries sound' phase stack
    final := fun later s'' path => (path.starts_of_cancelled sound' phase).2.2 }

/-! ## After a cancel of a running periodic task -/

/-- A cancelled task does not finish. -/
theorem Course.finishesTask_of_cancelled {id : TaskId} {deed : Deed}
    {before after : Option (Task ν)} {stages stages' : List RunStage}
    (course : Course id deed before stages after stages')
    (cancelled : before.map (·.phase) = some .cancelled) : deed.finishesTask id = false := by
  cases course with
  | finish phase => simp [phase] at cancelled
  | keep apart => exact Deed.finishesTask_of_apart apart
  | _ => rfl

/-- **What a step may do to a doomed task**: nothing that could be told but a reset, which does not
count it any more, and the end of its run, which is its own end. -/
theorem Course.of_doomed {id : TaskId} {deed : Deed} {task : Task ν} {after : Option (Task ν)}
    {stages stages' : List RunStage} {stage : Option RunStage}
    (course : Course id deed (some task) stages after stages') (fits : task.Fits stage)
    (doomed : task.isDoomed = true) :
    deed.startsTask id = false ∧ ∃ task', after = some task' ∧
      (deed.finishesTask id = false ∧ task'.isDoomed = true ∧
          task'.isCounted = (task.isCounted && !deed.isReset) ∨
        deed.finishesTask id = true ∧ task'.phase = .cancelled) := by
  have running := (fits.doomed doomed).1
  cases course with
  | run _ phase | hold _ phase | replay _ phase | discard phase =>
      rw [running] at phase
      cases phase
  | withdraw waiting => simp [running] at waiting
  | doom _ _ undoomed =>
      rw [doomed] at undoomed
      cases undoomed
  | enter | leave | read => exact ⟨rfl, _, rfl, .inl ⟨rfl, doomed, (Bool.and_true _).symm⟩⟩
  | finish =>
      refine ⟨rfl, _, rfl, .inr ⟨by simp [Deed.finishesTask], ?_⟩⟩
      exact Task.afterRun_of_doomed ((Task.isDoomed_setCounted ..).trans doomed)
  | reset =>
      rcases fits.reset_cases with ⟨-, waiting, -, -⟩ | ⟨-, held, -, -⟩ | ⟨-, -, -, eq⟩
      · simp [running] at waiting
      · simp [running] at held
      · refine ⟨rfl, _, congrArg some eq, .inl ⟨rfl, ?_, ?_⟩⟩
        · rw [Task.isDoomed_setCounted, doomed]
        · simp [Deed.isReset]
  | keep apart =>
      have stays := Deed.isReset_of_apart apart
      refine ⟨Deed.startsTask_of_apart apart, _, rfl,
        .inl ⟨Deed.finishesTask_of_apart apart, doomed, ?_⟩⟩
      rw [stays, Bool.not_false, Bool.and_true]

/-- Whether no cycle ends within the given steps. -/
def History.resetless (history : History ν) : Bool := history.all (!·.deed.isReset)

/-- **A doomed task runs on to the end of its run**, and is cancelled then. -/
theorem Path.of_doomed {s s' : Scheduler ν} {later : History ν} {id : TaskId} {task : Task ν}
    (path : Path s later s') (sound : s.Sound) (found : s.barrier.task? id = some task)
    (doomed : task.isDoomed = true) :
    s'.Sound ∧ later.starts id = 0 ∧ ∃ task', s'.barrier.task? id = some task' ∧
      (later.finishes id = 0 ∧ task'.isDoomed = true ∧
          task'.isCounted = (task.isCounted && later.resetless) ∨
        later.finishes id ≠ 0 ∧ task'.phase = .cancelled) := by
  induction path with
  | start => exact ⟨sound, rfl, task, found, .inl ⟨rfl, doomed, (Bool.and_true _).symm⟩⟩
  | @step history middle mover now move turn path taken ih =>
      obtain ⟨sound, never, record, known, state⟩ := ih
      have follows := Scheduler.follows_of_step taken
      have course := sound.course follows id
      obtain ⟨stage, -, fits⟩ := sound.fits_of_found known
      have deed : (⟨middle, mover, now, move, turn⟩ : Stride ν).deed =
        middle.deed mover now move := rfl
      refine ⟨sound.step follows, ?_⟩
      rw [History.starts_cons, History.finishes_cons, never, deed]
      rw [known] at course
      rcases state with ⟨unfinished, dooms, counted⟩ | ⟨finished, cancelled⟩
      · obtain ⟨silent, after, known', outcome⟩ := course.of_doomed fits dooms
        rw [silent, unfinished]
        refine ⟨rfl, after, known', ?_⟩
        rcases outcome with ⟨goesOn, dooms', counted'⟩ | ⟨finished, cancelled⟩
        · refine .inl ⟨by rw [goesOn]; rfl, dooms', ?_⟩
          rw [counted', counted, Bool.and_assoc, Bool.and_comm history.resetless]
          rfl
        · exact .inr ⟨by rw [finished]; simp, cancelled⟩
      · have cancelled : (some record).map (·.phase) = some .cancelled := congrArg some cancelled
        obtain ⟨after, known', phase⟩ := Option.map_eq_some_iff.mp (course.cancelled cancelled)
        rw [course.startsTask_of_cancelled cancelled, course.finishesTask_of_cancelled cancelled]
        exact ⟨rfl, after, known', .inr ⟨finished, phase⟩⟩

/-- **What a cancel of a running periodic task leaves behind**: `task` is the record of the task
before, `s` the state before, and `s'` the state after. -/
structure Doom (s : Scheduler ν) (thread : ThreadId) (task : Task ν) (s' : Scheduler ν) : Prop where
  /-- The task is marked, and its record is otherwise what it was. -/
  record : s'.barrier.task? task.id = some task.doom
  outstanding : s'.barrier.outstanding = s.barrier.outstanding
  held : s'.barrier.held = s.barrier.held
  /-- The call has only to return. -/
  stack : s'.stack thread = .answering (.flag true) :: s.stack thread
  /-- The run goes on until it ends, counted if it was counted before and no cycle has ended. -/
  lasts : ∀ later s'', Path s' later s'' → History.finishes later task.id = 0 →
    ∃ task', s''.barrier.task? task.id = some task' ∧ task'.phase = .running ∧
      task'.isCounted = (task.isCounted && History.resetless later)
  /-- The end of the run is the end of the task. -/
  ends : ∀ later s'', Path s' later s'' → History.finishes later task.id ≠ 0 →
    s''.barrier.phase? task.id = some .cancelled
  /-- No run of the task ever starts again. -/
  final : ∀ later s'', Path s' later s'' → History.starts later task.id = 0

/-- **A cancel of a running periodic task dooms it.** -/
theorem Scheduler.Sound.doom {s : Scheduler ν} (sound : s.Sound) (thread : ThreadId)
    {task : Task ν} (found : s.barrier.task? task.id = some task) (running : task.phase = .running)
    (periodic : task.periodic = true) (undoomed : task.isDoomed = false)
    (sound' : (s.requestCancel thread task.id).scheduler.Sound) :
    Doom s thread task (s.requestCancel thread task.id).scheduler := by
  obtain ⟨stage, -, fits⟩ := sound.fits_of_found found
  obtain ⟨slot, has⟩ := fits.exists_slot (by rw [running]; rfl)
  have free : slot.doomed = false := by simpa [Task.isDoomed, has] using undoomed
  have eq : s.barrier.cancel task.id =
      ⟨.doomed, (s.barrier.disarm slot.key).modify task.id (·.doom),
        [.cancelledWhileRunning task.id]⟩ := by
    simp [Barrier.cancel, Barrier.slotted?_of_task? found has, running, periodic, free]
  have record : (s.requestCancel thread task.id).scheduler.barrier.task? task.id =
      some task.doom := by
    show (s.barrier.cancel task.id).barrier.task? task.id = _
    rw [eq, Barrier.task?_modify_self _ _ _ Task.id_doom]
    exact congrArg (Option.map _) found
  have dooms : task.doom.isDoomed = true := by simp [Task.doom, Task.isDoomed, has]
  exact {
    record := record
    outstanding := by
      show (s.barrier.cancel task.id).barrier.outstanding = _
      rw [eq]
      rfl
    held := by
      show (s.barrier.cancel task.id).barrier.held = _
      rw [eq]
      rfl
    stack := by simp [Scheduler.requestCancel, eq, Cancellation.succeeded]
    lasts := by
      intro later s'' path unfinished
      obtain ⟨sound, -, task', known, ⟨-, dooms, counted⟩ | ⟨finished, -⟩⟩ :=
        path.of_doomed sound' record dooms
      · obtain ⟨stage, -, fits⟩ := sound.fits_of_found known
        refine ⟨task', known, (fits.doomed dooms).1, ?_⟩
        rw [counted, Task.isCounted_doom]
      · exact absurd unfinished finished
    ends := by
      intro later s'' path finished
      obtain ⟨-, -, task', known, ⟨unfinished, -⟩ | ⟨-, cancelled⟩⟩ :=
        path.of_doomed sound' record dooms
      · exact absurd unfinished finished
      · rw [Barrier.phase?, known, Option.map_some, cancelled]
    final := fun later s'' path => (path.of_doomed sound' record dooms).2.1 }

/-! ## All cancels -/

/-- The caller is told the flag: at once, or when the call returns, before which at most one body
has to be thrown away. -/
def Turn.Answers (turn : Turn ν) (s : Scheduler ν) (thread : ThreadId) (flag : Bool) : Prop :=
  turn.signal = .answer (.flag flag) ∧ turn.scheduler.stack thread = s.stack thread ∨
    ∃ duty : Stack ν, (duty = [] ∨ ∃ id, duty = [.discarding [id]]) ∧
      turn.scheduler.stack thread = duty ++ .answering (.flag flag) :: s.stack thread

/-- A step of `thread` from `s` to `s'` that may change the task with the given number, but no
other task, and not the order in which the others are held. -/
structure Scheduler.Spares (s : Scheduler ν) (thread : ThreadId) (id : TaskId) (s' : Scheduler ν) :
    Prop where
  tasks : ∀ other, other ≠ id → s'.barrier.task? other = s.barrier.task? other
  queue : s'.barrier.held.filter (· != id) = s.barrier.held.filter (· != id)
  draining : s'.barrier.draining = s.barrier.draining
  elsewhere : ∀ other, other ≠ thread → s'.stack other = s.stack other

namespace Scheduler

/-- A cancel goes through the section if the handle belongs to the scheduler, and is refused
otherwise. -/
theorem cancel_of_request {s : Scheduler ν} {thread : ThreadId} {now : Instant} {request : Request}
    {handle : Handle} {turn : Turn ν} (owned : s.dropped = false)
    (target : request.target? s.number = some handle)
    (taken : s.step thread now (.request request) = some turn) :
    Stack.isUser (s.stack thread) = true ∧
      (handle.scheduler = s.number ∧ turn = s.requestCancel thread handle.task ∨
        handle.scheduler ≠ s.number ∧ turn = s.refuse) := by
  have taken : s.request thread now request = some turn := attempt_of_step taken
  unfold Scheduler.request at taken
  split at taken
  · cases taken
  · next userCode =>
    refine ⟨isUser_of_isUserCode (by simpa using userCode), ?_⟩
    cases request with
    | cancel named =>
        obtain rfl := Option.some.inj target
        obtain rfl : _ = turn := by simpa [whileOwned, owned] using taken
        by_cases own : named.scheduler = s.number
        · exact .inl ⟨own, if_pos own⟩
        · exact .inr ⟨own, if_neg own⟩
    | cancelByHandle task =>
        obtain rfl := Option.some.inj target
        obtain rfl := Option.some.inj taken
        exact .inl ⟨rfl, if_pos (by simp [isAlive, owned])⟩
    | _ => cases target

/-- **A cancel touches no other task.** -/
theorem Sound.spares {s : Scheduler ν} (sound : s.Sound) (thread : ThreadId) (id : TaskId) :
    s.Spares thread id (s.requestCancel thread id).scheduler where
  tasks := by
    intro other ne
    have withdrawn (b : Barrier ν) : (b.withdraw id).barrier.task? other = b.task? other := by
      rw [b.task?_withdraw]
      exact b.task?_modify_of_ne _ (fun _ => rfl) ne
    show (s.barrier.cancel id).barrier.task? other = _
    rcases s.barrier.cancel_cases id with ⟨_, _, _, _, ⟨_, eq⟩ | ⟨_, eq⟩⟩ |
      ⟨_, _, _, _, _, _, _, _, eq⟩ | ⟨_, eq⟩
    · rw [eq, withdrawn]
      rfl
    · rw [eq, withdrawn]
      rfl
    · rw [eq, Barrier.task?_modify_of_ne _ _ Task.id_doom ne]
      rfl
    · rw [eq]
  queue := by
    show (s.barrier.cancel id).barrier.held.filter _ = _
    rw [Barrier.held_cancel (sound.mem_held id).mp]
    cases (s.barrier.cancel id).answer with
    | cancelled =>
        show (s.barrier.held.filter (· != id)).filter (· != id) = _
        rw [List.filter_filter]
        simp only [Bool.and_self]
    | tooLate | doomed => rfl
  draining := (s.barrier.stays_cancel id).draining
  elsewhere := fun other ne => s.stack_turn_of_ne _ _ _ _ ne

/-- What the caller of a cancel is told. -/
theorem answers_requestCancel (s : Scheduler ν) (thread : ThreadId) (id : TaskId) :
    (s.requestCancel thread id).Answers s thread (s.barrier.cancel id).answer.succeeded := by
  refine .inr ?_
  unfold requestCancel
  rw [stack_turn_self]
  cases (s.barrier.cancel id).answer with
  | cancelled => exact ⟨[.discarding [id]], .inr ⟨id, rfl⟩, rfl⟩
  | tooLate | doomed => exact ⟨[], .inl rfl, rfl⟩

/-- A cancel that fails leaves the barrier as it is. -/
theorem barrier_requestCancel {s : Scheduler ν} (thread : ThreadId) {id : TaskId}
    (fails : (s.barrier.cancel id).answer.succeeded = false) :
    (s.requestCancel thread id).scheduler.barrier = s.barrier := by
  show (s.barrier.cancel id).barrier = s.barrier
  rcases s.barrier.cancel_cases id with ⟨_, _, _, _, ⟨_, eq⟩ | ⟨_, eq⟩⟩ |
    ⟨_, _, _, _, _, _, _, answer, _⟩ | ⟨_, eq⟩
  · rw [eq] at fails
    cases fails
  · rw [eq] at fails
    cases fails
  · rw [answer] at fails
    cases fails
  · exact eq

end Scheduler

/-- A running task has been cancelled exactly if it is doomed. -/
theorem Revoked.isDoomed_iff {id : TaskId} {history : History ν} {task : Task ν}
    (revoked : Revoked id history (some task)) (running : task.phase = .running) :
    task.isDoomed = false ↔ history.cancels id = 0 := by
  constructor
  · intro undoomed
    exact revoked.cancels_of_not_leaving (by simp [Task.IsLeaving, undoomed, running])
  · intro none
    by_contra doomed
    have one := revoked.cancels_of_doomed (by simpa using doomed)
    omega

/-- **What a cancel comes to** that goes through the section: the caller is told `succeeded`. -/
structure CancelVerdict (history : History ν) (s : Scheduler ν) (thread : ThreadId) (id : TaskId)
    (turn : Turn ν) (succeeded : Bool) : Prop where
  tells : turn.Answers s thread succeeded
  /-- The task has not started, or is a periodic one in a run that nobody has cancelled. -/
  succeeds_iff : succeeded = true ↔ ∃ task, s.barrier.task? id = some task ∧
    (task.phase = .live ∨ task.phase = .held ∨
      task.phase = .running ∧ task.periodic = true ∧ history.cancels id = 0)
  /-- A task that waits is withdrawn, and a task that runs is doomed. -/
  effect : succeeded = true → ∃ task, s.barrier.task? id = some task ∧
    (task.phase = .live ∨ task.phase = .held → Withdrawal s thread task turn.scheduler) ∧
    (task.phase = .running → Doom s thread task turn.scheduler)
  /-- A cancel that fails changes nothing. -/
  idle : succeeded = false → turn.scheduler.barrier = s.barrier
  spares : s.Spares thread id turn.scheduler

/-- **Every cancel that goes through the section is exact.** -/
theorem Run.cancelVerdict {history : History ν} {s : Scheduler ν} (run : Run history s)
    {thread : ThreadId} (isUser : Stack.isUser (s.stack thread) = true) (id : TaskId) :
    CancelVerdict history s thread id (s.requestCancel thread id)
      (s.barrier.cancel id).answer.succeeded where
  tells := s.answers_requestCancel thread id
  succeeds_iff := by
    have revoked := run.revoked id
    cases found : s.barrier.task? id with
    | none => simp [Barrier.succeeded_cancel_of_absent found]
    | some task =>
        rw [found] at revoked
        rw [run.sound.succeeded_cancel_iff found, Task.IsCancellable]
        simp only [Option.some.injEq, exists_eq_left']
        refine or_congr_right (or_congr_right (and_congr_right fun running => ?_))
        rw [revoked.isDoomed_iff running]
  effect := by
    intro succeeded
    have sound' := run.sound.step (s.follows_requestCancel thread id isUser)
    cases found : s.barrier.task? id with
    | none =>
        rw [Barrier.succeeded_cancel_of_absent found] at succeeded
        cases succeeded
    | some task =>
        obtain rfl := Barrier.task?_id found
        have cancellable := (run.sound.succeeded_cancel_iff found).mp succeeded
        refine ⟨task, rfl, fun waiting => run.sound.withdrawal thread found waiting sound',
          fun running => ?_⟩
        obtain live | held | ⟨-, periodic, undoomed⟩ := cancellable
        · rw [running] at live
          cases live
        · rw [running] at held
          cases held
        · exact run.sound.doom thread found running periodic undoomed sound'
  idle := Scheduler.barrier_requestCancel thread
  spares := run.sound.spares thread id

/-- **A cancel is exact and final.**  Somebody asks, through the scheduler or through the handle
itself, to cancel the task of a handle, while the scheduler exists.

* The answer is yes if and only if the handle belongs to the scheduler, and the task is live, or
  held, or a periodic one that is running and has not been cancelled before.
* If it is yes, a task that is waiting is withdrawn and a task that is running is doomed.
* If it is no, the barrier stays as it is.
* In both cases no other task is touched.
* From the start of the run to whatever end, at most one cancel of each task succeeds. -/
theorem cancel_exact_and_final {history : History ν} {s : Scheduler ν} (run : Run history s)
    {thread : ThreadId} {now : Instant} {request : Request} {handle : Handle} {turn : Turn ν}
    (owned : s.dropped = false) (target : request.target? s.number = some handle)
    (taken : s.step thread now (.request request) = some turn) :
    ∃ succeeded : Bool, turn.Answers s thread succeeded ∧
      (succeeded = true ↔ handle.scheduler = s.number ∧
        ∃ task, s.barrier.task? handle.task = some task ∧
          (task.phase = .live ∨ task.phase = .held ∨ task.phase = .running ∧
            task.periodic = true ∧ history.cancels handle.task = 0)) ∧
      (succeeded = true → ∃ task, s.barrier.task? handle.task = some task ∧
        (task.phase = .live ∨ task.phase = .held → Withdrawal s thread task turn.scheduler) ∧
        (task.phase = .running → Doom s thread task turn.scheduler)) ∧
      (succeeded = false → turn.scheduler.barrier = s.barrier) ∧
      s.Spares thread handle.task turn.scheduler ∧
      ∀ later s', Path turn.scheduler later s' → ∀ id, History.cancels
        (later ++ ⟨s, thread, now, .request request, turn⟩ :: history) id ≤ 1 := by
  have whole : Run (⟨s, thread, now, .request request, turn⟩ :: history) turn.scheduler :=
    run.append (Path.start.step taken)
  have once : ∀ later s', Path turn.scheduler later s' → ∀ id, History.cancels
      (later ++ ⟨s, thread, now, .request request, turn⟩ :: history) id ≤ 1 :=
    fun later s' path id => (whole.append path).cancels_le_one id
  obtain ⟨isUser, ⟨own, rfl⟩ | ⟨foreign, rfl⟩⟩ := Scheduler.cancel_of_request owned target taken
  · have verdict := run.cancelVerdict isUser handle.task
    refine ⟨_, verdict.tells, ?_, verdict.effect, verdict.idle, verdict.spares, once⟩
    rw [verdict.succeeds_iff]
    exact (and_iff_right own).symm
  · exact ⟨false, .inl ⟨rfl, rfl⟩, iff_of_false nofun fun claim => foreign claim.1, nofun,
      fun _ => rfl, ⟨fun _ _ => rfl, rfl, rfl, fun _ _ => rfl⟩, once⟩

/-- The moves of a periodic task that fires during an await, and is about to be cancelled from
another thread while its body is executed. -/
def interruptedMoves : List (ThreadId × Instant × Move Unit) :=
  [(0, ⟨0⟩, .request (.accept ⟨0⟩ (.fixedRate ⟨5⟩) false)),
    (0, ⟨0⟩, .request (.await .plain)),
    (1, ⟨0⟩, .request (.call ⟨0⟩)), (1, ⟨0⟩, .proceed), (1, ⟨0⟩, .proceed)]

/-- The periodic task of `interruptedMoves` is doomed by a cancel. -/
theorem cancel_exact_and_final_of_interrupted : ∃ (history : History Unit) (s : Scheduler Unit)
    (turn : Turn Unit) (task : Task Unit), Run history s ∧ s.dropped = false ∧
      s.step 2 ⟨0⟩ (.request (.cancel ⟨0, ⟨0⟩⟩)) = some turn ∧ s.barrier.task? ⟨0⟩ = some task ∧
      task.phase = .running ∧ Doom s 2 task turn.scheduler := by
  obtain ⟨history, s, turn, task, played, owned, taken, found, running, periodic, none, named⟩ :
      ∃ history s turn task, (Scheduler.start 0 .default (.byHand .empty) none).play
          interruptedMoves = some (history, s) ∧ s.dropped = false ∧
        s.step 2 ⟨0⟩ (.request (.cancel ⟨0, ⟨0⟩⟩)) = some turn ∧
        s.barrier.task? ⟨0⟩ = some task ∧ task.phase = .running ∧ task.periodic = true ∧
        history.cancels ⟨0⟩ = 0 ∧ s.number = 0 :=
    ⟨_, _, _, _, rfl, rfl, rfl, rfl, rfl, rfl, rfl, rfl⟩
  have run := Run.of_play played
  obtain ⟨succeeded, -, succeeds, holds, -⟩ := cancel_exact_and_final run owned rfl taken
  obtain ⟨task', found', -, dooms⟩ := holds
    (succeeds.mpr ⟨named.symm, task, found, .inr (.inr ⟨running, periodic, none⟩)⟩)
  obtain rfl := Option.some.inj (found.symm.trans found')
  exact ⟨history, s, turn, task, run, owned, taken, found, running, dooms running⟩

end TaskBarrier
