import TaskBarrier.Proofs.Reader
import TaskBarrier.Proofs.Logging

/-!
# What the log tells of one task

The log is written partly while the lock is held and partly after it has been released, by many
threads, and on the way out of panics.  Read for one task, it tells what has become of the task, in
the order in which it has.

## The two readings

**The milestones of the runs.**  The start of a body, the end of the body and the end of the run
follow upon one another in this order, and again from the beginning.  That is a fact about the deeds
of a run, told from the stage that the run of the task has come to.  The log shows the starts and the
ends of runs, each by one event, logged by the step that it tells of.  It does not show the ends of
bodies, and so it does not show whether a body has returned or panicked.

**The account of a reader.**  No event of a run is ever refused by a reader, because the account
agrees with the record of the task and with the stage of its run (`Account.Tells`).  What the log can
contain after an end, and before a replay, is then a matter of accounts and no longer of runs.

## Main Definitions

* `History.log`, `History.logOf`: the log, and the events of one task in it.
* `Repeats`: words that go round in a cycle.
* `Deed.milestone?`, `History.milestones`: what has divided the runs of a task from one another.
* `Chapter.Tells`, `Account.Tells`: what a reader knows is so.
* `FaithfulLog`: what the log of a task is good for.

The main statement is `faithful_log_of_run`.
-/

namespace TaskBarrier

variable {ν : Type}

/-! ## The log -/

namespace History

/-- All that has been logged, in the order in which it was. -/
def log (history : History ν) : List Event := history.reverse.flatMap (·.turn.events)

/-- All that has been logged about the task. -/
def logOf (history : History ν) (id : TaskId) : List Event := history.log.filter (·.isAbout id)

theorem logOf_cons (stride : Stride ν) (history : History ν) (id : TaskId) :
    History.logOf (stride :: history) id =
      history.logOf id ++ stride.turn.events.filter (·.isAbout id) := by
  simp [logOf, log]

/-- Every event of the log of a task is about the task. -/
theorem task?_of_mem {history : History ν} {id : TaskId} {event : Event}
    (member : event ∈ history.logOf id) : event.task? = some id :=
  beq_iff_eq.mp (List.mem_filter.mp member).2

end History

/-! ## Going round in a cycle -/

/-- Whether the word goes through the cycle any number of times, and perhaps ends within it. -/
def Repeats {α : Type} (cycle word : List α) : Prop :=
  ∃ rounds rest, rest <+: cycle ∧ word = (List.replicate rounds cycle).flatten ++ rest

/-- Some letters of a word that goes round in a cycle go round in what they are of the cycle. -/
theorem Repeats.filter {α : Type} {cycle word : List α} (repeats : Repeats cycle word)
    (which : α → Bool) : Repeats (cycle.filter which) (word.filter which) := by
  obtain ⟨rounds, rest, begins, rfl⟩ := repeats
  exact ⟨rounds, rest.filter which, begins.filter which, by simp [List.filter_flatten]⟩

/-! ## Milestones -/

/-- The milestone of the task that a deed is. -/
def Deed.milestone? (id : TaskId) : Deed → Option Milestone
  | enter other true => if other = id then some .started else none
  | leave other => if other = id then some .ended else none
  | finish other => if other = id then some .ran else none
  | _ => none

/-- The milestones of the task, in the order in which they were reached. -/
def History.milestones (history : History ν) (id : TaskId) : List Milestone :=
  history.reverse.filterMap (·.deed.milestone? id)

theorem History.milestones_cons (stride : Stride ν) (history : History ν) (id : TaskId) :
    History.milestones (stride :: history) id =
      history.milestones id ++ (stride.deed.milestone? id).toList := by
  cases reached : stride.deed.milestone? id <;> simp [milestones, reached]

@[simp] theorem Event.milestone?_started (id : TaskId) (replayed : Bool) :
    (Event.started id replayed).milestone? = some .started := by
  cases replayed <;> rfl

/-- A deed that concerns other tasks is no milestone of the task. -/
theorem Deed.milestone?_of_apart {id : TaskId} {deed : Deed} (apart : deed.concerns id = false) :
    deed.milestone? id = none := by
  unfold milestone?
  split <;> simp_all [concerns]

/-- The milestones of the round in progress, told from the stage of the run. -/
def milestonesAt : Option RunStage → List Milestone
  | none | some (.starting _) => []
  | some .executing => [.started]
  | some .finishing => [.started, .ended]

theorem milestonesAt_prefix (stage : Option RunStage) :
    milestonesAt stage <+: [.started, .ended, .ran] := by
  match stage with
  | none | some (.starting _) => exact List.nil_prefix
  | some .executing => exact ⟨[.ended, .ran], rfl⟩
  | some .finishing => exact ⟨[.ran], rfl⟩

/-- **A step goes on in the round, or completes it.** -/
theorem Course.milestones {id : TaskId} {deed : Deed} {before after : Option (Task ν)}
    {stage stage' : Option RunStage}
    (course : Course id deed before stage.toList after stage'.toList) :
    milestonesAt stage ++ (deed.milestone? id).toList = milestonesAt stage' ∨
      milestonesAt stage ++ (deed.milestone? id).toList = [.started, .ended, .ran] ∧
        milestonesAt stage' = [] := by
  generalize own : stage.toList = stages, own' : stage'.toList = stages' at course
  cases course with
  | run | replay =>
      obtain rfl := stage_of_toList own'
      cases stage with
      | none => exact .inl rfl
      | some stage =>
          obtain ⟨-, none⟩ := List.cons.inj (own'.trans (by rw [← own]))
          cases none
  | enter =>
      obtain rfl := stage_of_toList own
      obtain rfl := stage_of_toList own'
      exact .inl (by simp [milestonesAt, Deed.milestone?])
  | leave =>
      obtain rfl := stage_of_toList own
      obtain rfl := stage_of_toList own'
      exact .inl (by simp [milestonesAt, Deed.milestone?])
  | finish =>
      obtain rfl := stage_of_toList own
      obtain ⟨-, rfl⟩ := List.cons.inj own
      obtain rfl : stage' = none := by simpa using own'
      exact .inr ⟨by simp [milestonesAt, Deed.milestone?], rfl⟩
  | keep apart =>
      obtain rfl := stage_inj own own'
      rw [Deed.milestone?_of_apart apart]
      exact .inl (List.append_nil _)
  | accept | hold | withdraw | doom | reset | absent | discard | read =>
      obtain rfl := stage_inj own own'
      exact .inl (List.append_nil _)

/-- **The milestones of a task go round**: each body that is started ends once, and is started again
after its run is over. -/
theorem Run.milestones {history : History ν} {s : Scheduler ν} (run : Run history s) (id : TaskId) :
    Repeats [.started, .ended, .ran] (history.milestones id) := by
  obtain ⟨stage, -, -, rounds, eq⟩ := run.induct_task id
    (motive := fun history _ stage => ∃ rounds, history.milestones id =
      (List.replicate rounds [Milestone.started, .ended, .ran]).flatten ++ milestonesAt stage)
    ⟨0, rfl⟩
    (fun {history stride deed _ _ _ _} same _ passage ih => by
      obtain ⟨rounds, eq⟩ := ih
      rw [History.milestones_cons, same, eq, List.append_assoc]
      rcases passage.course.milestones with goes | ⟨completes, begins⟩
      · exact ⟨rounds, by rw [goes]⟩
      · exact ⟨rounds + 1, by rw [completes, begins, List.replicate_succ']; simp⟩)
  exact ⟨rounds, milestonesAt stage, milestonesAt_prefix stage, eq⟩

namespace Logs

variable {s s' : Scheduler ν} {deed : Deed} {events : List Event}

/-- **The log shows the milestones that it does not miss**, each when it is reached. -/
theorem milestones (logs : Logs s s' deed events) (id : TaskId) :
    (events.filter (·.isAbout id)).filterMap Event.milestone? =
      (deed.milestone? id).toList.filter (· != .ended) := by
  cases logs with
  | silent silent general =>
      rw [filter_of_general general]
      cases deed with
      | leave other =>
          by_cases same : other = id <;> simp [Deed.milestone?, same]
      | accept | enter | finish | cancel => cases silent
      | _ => rfl
  | @started other replayed _ =>
      by_cases same : other = id <;> simp [Deed.milestone?, same]
  | @ran other =>
      by_cases same : other = id <;>
        simp [Deed.milestone?, Event.isAbout, Event.task?, Event.milestone?, same]
  | @accepted other | @held other | @coalesced other | @cancelled other | @doomed other
  | @tooLate other =>
      by_cases same : other = id <;>
        simp [Deed.milestone?, Event.isAbout, Event.task?, Event.milestone?, same]

end Logs

/-- The log of a task shows its milestones but for the ends of the bodies. -/
theorem History.milestones_logOf {history : History ν} {id : TaskId}
    (matched : ∀ stride ∈ history,
      (stride.turn.events.filter (·.isAbout id)).filterMap Event.milestone? =
        (stride.deed.milestone? id).toList.filter (· != .ended)) :
    (history.logOf id).filterMap Event.milestone? =
      (history.milestones id).filter (· != .ended) := by
  induction history with
  | nil => rfl
  | cons stride history ih =>
      rw [logOf_cons, milestones_cons, List.filterMap_append, List.filter_append,
        matched stride List.mem_cons_self,
        ih fun earlier member => matched earlier (List.mem_cons_of_mem _ member)]

/-! ## What the reader knows is so -/

/-- What the log tells of a task that goes on is so. -/
structure Chapter.Tells (chapter : Chapter) (task : Task ν) (stage : Option RunStage) : Prop where
  periodic : chapter.periodic = task.periodic
  doomed : chapter.doomed = task.isDoomed
  /-- A task that is to be replayed has been held since its last start. -/
  noted : task.phase = .held ∨ stage = some (.starting true) → chapter.noted = true

/-- **What the reader knows is so**: the account of a task agrees with its record, and with the
stage of its run. -/
inductive Account.Tells : Account → Option (Task ν) → Option RunStage → Prop
  /-- Nobody has accepted the task. -/
  | unheard : Tells unheard none none
  /-- The task goes on, or has been dropped. -/
  | ongoing {chapter : Chapter} {task : Task ν} {stage : Option RunStage}
      (tells : chapter.Tells task stage) : Tells (ongoing chapter) (some task) stage
  /-- The task has ended. -/
  | closed {periodic : Bool} {task : Task ν} (same : periodic = task.periodic)
      (terminal : task.phase.isTerminal = true) : Tells (closed periodic) (some task) none

/-- No reset dooms a task or spares a doomed one. -/
theorem Task.Fits.isDoomed_reset {task : Task ν} {stage : Option RunStage}
    (fits : task.Fits stage) : task.reset.isDoomed = task.isDoomed := by
  rcases fits.reset_cases with ⟨-, waiting, -, eq⟩ | ⟨-, -, -, eq⟩ | ⟨-, -, -, eq⟩
  · have resting : task.phase ≠ .running := by
      rcases waiting with phase | phase <;> simp [phase]
    rw [eq, fits.isDoomed_of_ne resting]
    rfl
  · rw [eq]
    exact task.isDoomed_setCounted false
  · rw [eq]
    exact task.isDoomed_setCounted false

/-- A task that has ended is left alone by a reset. -/
theorem Task.Fits.phase_reset_of_isTerminal {task : Task ν} {stage : Option RunStage}
    (fits : task.Fits stage) (terminal : task.phase.isTerminal = true) :
    task.reset.phase = task.phase := by
  rcases fits.reset_cases with ⟨-, waiting, -, -⟩ | ⟨-, held, -, -⟩ | ⟨-, -, -, eq⟩
  · rcases waiting with phase | phase <;> simp [phase, Phase.isTerminal] at terminal
  · rw [held] at terminal
    cases terminal
  · rw [eq]
    rfl

/-- A reader who is told one event of the task knows what it tells. -/
theorem Account.readAll_filter_singleton (account : Account) {event : Event} {id : TaskId}
    (about : event.task? = some id) :
    account.readAll ([event].filter (·.isAbout id)) = account.read event := by
  simp [Event.isAbout, about]

namespace Account.Tells

variable {account : Account} {task : Task ν} {stage : Option RunStage}

/-- The reader does not take a task that goes on for one that has ended. -/
theorem of_continues (tells : account.Tells (some task) stage)
    (continues : task.phase.isTerminal = false) :
    ∃ chapter, account = .ongoing chapter ∧ chapter.Tells task stage := by
  cases tells with
  | ongoing tells => exact ⟨_, rfl, tells⟩
  | closed _ terminal =>
      rw [continues] at terminal
      cases terminal

/-- The reader knows whether an accepted task is periodic. -/
theorem periodic?_eq (tells : account.Tells (some task) stage) :
    account.periodic? = some task.periodic := by
  cases tells with
  | ongoing tells => exact congrArg some tells.periodic
  | closed same => exact congrArg some same

/-- A step of which the log tells nothing, and which changes nothing that the reader knows of. -/
theorem keep {task' : Task ν} {stage' : Option RunStage} (tells : account.Tells (some task) stage)
    (periodic : task'.periodic = task.periodic) (doomed : task'.isDoomed = task.isDoomed)
    (noted : task'.phase = .held ∨ stage' = some (.starting true) →
      task.phase = .held ∨ stage = some (.starting true))
    (terminal : task.phase.isTerminal = true → stage = none →
      task'.phase.isTerminal = true ∧ stage' = none) : account.Tells (some task') stage' := by
  cases tells with
  | ongoing tells =>
      exact .ongoing ⟨tells.periodic.trans periodic.symm, tells.doomed.trans doomed.symm,
        fun expected => tells.noted (noted expected)⟩
  | closed same ended =>
      obtain ⟨still, rfl⟩ := terminal ended rfl
      exact .closed (same.trans periodic.symm) still

end Account.Tells

namespace Chapter.Tells

variable {chapter : Chapter} {task : Task ν} {stage : Option RunStage}

/-- A task that is held. -/
theorem held (tells : chapter.Tells task stage) (id : TaskId) (size : Nat) :
    ∃ account, (Account.ongoing chapter).read (.held id size) = some account ∧
      account.Tells (some ((task.setCounted true).setPhase .held)) stage :=
  ⟨_, rfl, .ongoing ⟨tells.periodic,
    tells.doomed.trans (task.isDoomed_setCounted true).symm, fun _ => rfl⟩⟩

/-- A task whose body begins to be executed: if that is a replay, it has been expected. -/
theorem started {replayed : Bool} (tells : chapter.Tells task (some (.starting replayed)))
    (running : task.phase = .running) (id : TaskId) :
    ∃ account, (Account.ongoing chapter).read (.started id replayed) = some account ∧
      account.Tells (some task.entered) (some .executing) := by
  have entered : Chapter.Tells { chapter with noted := false } task.entered (some .executing) :=
    ⟨tells.periodic, tells.doomed, by simp [Task.entered, running]⟩
  refine ⟨.ongoing { chapter with noted := false }, ?_, .ongoing entered⟩
  cases replayed with
  | true => simp [Event.started, Account.read, tells.noted (.inr rfl)]
  | false => rfl

/-- A task whose run is over: it has ended, or is live again. -/
theorem ran (tells : chapter.Tells task stage) (id : TaskId) (outstanding : Nat) :
    ∃ account, (Account.ongoing chapter).read (.ran id outstanding) = some account ∧
      account.Tells (some (Barrier.afterRun (task.setCounted false))) none := by
  refine ⟨_, rfl, ?_⟩
  rw [tells.periodic, tells.doomed]
  unfold Barrier.afterRun
  have same : (task.setCounted false).periodic = task.periodic := rfl
  rw [task.isDoomed_setCounted false, same]
  cases doomed : task.isDoomed with
  | true =>
      simp only [Bool.not_true, Bool.and_false, Bool.false_eq_true, if_false, if_true]
      exact .closed rfl rfl
  | false =>
      cases periodic : task.periodic with
      | true =>
          have undoomed := tells.doomed.trans (task.isDoomed_setCounted false).symm
          exact .ongoing ⟨tells.periodic, undoomed, by simp [Task.setPhase]⟩
      | false => exact .closed periodic.symm rfl

/-- A task that is cancelled before it has started. -/
theorem cancelled (tells : chapter.Tells task stage) (id : TaskId) (outstanding : Nat) :
    ∃ account, (Account.ongoing chapter).read (.cancelled id outstanding) = some account ∧
      account.Tells (some ((task.setCounted false).retire .cancelled)) none :=
  ⟨_, rfl, .closed tells.periodic rfl⟩

/-- A task that is cancelled during a run. -/
theorem dooms (tells : chapter.Tells task stage) {slot : Slot} (has : task.slot = some slot)
    (id : TaskId) :
    ∃ account, (Account.ongoing chapter).read (.cancelledWhileRunning id) = some account ∧
      account.Tells (some task.doom) stage := by
  have doomed : task.doom.isDoomed = true := by simp [Task.isDoomed, Task.doom, has]
  exact ⟨_, rfl, .ongoing ⟨tells.periodic, doomed.symm, tells.noted⟩⟩

end Chapter.Tells

namespace Account.Tells

variable {id : TaskId} {deed : Deed} {account : Account} {stage stage' : Option RunStage}

/-- **A silent step changes nothing that the reader knows of.** -/
theorem silent {before after : Option (Task ν)} (tells : account.Tells before stage)
    (fits : Fits before stage) (course : Course id deed before stage.toList after stage'.toList)
    (silent : deed.isSilent = true) : account.Tells after stage' := by
  generalize own : stage.toList = stages, own' : stage'.toList = stages' at course
  cases course with
  | @run task _ slotted live =>
      obtain rfl := stage_of_toList own'
      refine tells.keep rfl (task.isDoomed_setCounted true) ?_ ?_
      · simp [Task.setPhase]
      · simp [live, Phase.isTerminal]
  | @replay task _ slotted held =>
      obtain rfl := stage_of_toList own'
      refine tells.keep rfl rfl (fun _ => .inl held) ?_
      simp [held, Phase.isTerminal]
  | leave =>
      obtain rfl := stage_of_toList own
      obtain rfl := stage_of_toList own'
      refine tells.keep rfl rfl (fun expected => .inl (expected.resolve_right (by simp))) ?_
      intro _ none
      cases none
  | @reset _ _ task =>
      obtain rfl := stage_inj own own'
      have fits := fits.of_some
      refine tells.keep task.periodic_reset fits.isDoomed_reset ?_ ?_
      · exact fun expected => expected.imp_left (absurd · fits.phase_reset_ne_held)
      · intro terminal none
        rw [fits.phase_reset_of_isTerminal terminal]
        exact ⟨terminal, none⟩
  | @discard task =>
      obtain rfl := stage_inj own own'
      obtain ⟨body, promise, eq⟩ := task.discard_eq
      rw [eq]
      exact tells.keep rfl rfl (fun expected => expected) fun terminal none => ⟨terminal, none⟩
  | read =>
      obtain rfl := stage_inj own own'
      exact tells.keep rfl rfl (fun expected => expected) fun terminal none => ⟨terminal, none⟩
  | absent | keep =>
      obtain rfl := stage_inj own own'
      exact tells
  | accept | hold | enter | finish | withdraw | doom => cases silent

variable {s s' : Scheduler ν} {events : List Event}

/-- A step that does not concern the task tells the reader nothing new. -/
theorem apart (tells : account.Tells (s.barrier.task? id) stage) (logs : Logs s s' deed events)
    (apart : deed.concerns id = false) :
    account.readAll (events.filter (·.isAbout id)) = some account := by
  rcases logs.filter_of_apart apart with nothing | late | ⟨again, task, found, busy⟩
  · rw [nothing]
    rfl
  · rw [late, readAll_singleton]
    cases account <;> rfl
  · have continues : task.phase.isTerminal = false := by
      rcases busy with phase | phase <;> simp [phase, Phase.isTerminal]
    rw [found] at tells
    obtain ⟨chapter, rfl, -⟩ := tells.of_continues continues
    rw [again, readAll_singleton]
    rfl

/-- **The account goes on agreeing with the record.** -/
theorem step (tells : account.Tells (s.barrier.task? id) stage) (staged : s.Staged id stage)
    (fits : Fits (s.barrier.task? id) stage)
    (course : Course id deed (s.barrier.task? id) stage.toList (s'.barrier.task? id) stage'.toList)
    (logs : Logs s s' deed events) :
    ∃ account', account.readAll (events.filter (·.isAbout id)) = some account' ∧
      account'.Tells (s'.barrier.task? id) stage' := by
  by_cases quiet : deed.isSilent = true
  · refine ⟨account, ?_, tells.silent fits course quiet⟩
    rw [logs.filter_of_isSilent quiet]
    rfl
  have apart : deed.concerns id = false →
      account.readAll (events.filter (·.isAbout id)) = some account := tells.apart logs
  generalize s.barrier.task? id = before at tells fits course
  generalize found : s'.barrier.task? id = after at course ⊢
  generalize own : stage.toList = stages, own' : stage'.toList = stages' at course
  cases course with
  | accept =>
      obtain rfl := stage_inj own own'
      cases tells
      cases logs with
      | silent silent => exact absurd silent quiet
      | accepted recorded =>
          obtain ⟨task, same, periodic⟩ := recorded
          obtain rfl := Option.some.inj (found.symm.trans same)
          rw [readAll_filter_singleton _ rfl]
          exact ⟨_, rfl, .ongoing ⟨periodic.symm, rfl, by simp [Task.accepted]⟩⟩
  | hold _ live =>
      obtain rfl := stage_inj own own'
      obtain ⟨chapter, rfl, known⟩ := tells.of_continues (by rw [live]; rfl)
      cases logs with
      | silent silent => exact absurd silent quiet
      | held =>
          rw [readAll_filter_singleton _ rfl]
          exact known.held id _
  | @enter task replayed =>
      obtain rfl := stage_of_toList own
      obtain rfl := stage_of_toList own'
      have running := fits.of_some.phase_of_some
      obtain ⟨chapter, rfl, known⟩ := tells.of_continues (by rw [running]; rfl)
      cases logs with
      | silent silent => exact absurd silent quiet
      | @started _ replayed' here =>
          obtain rfl : replayed = replayed' := by simpa using here _ staged
          rw [readAll_filter_singleton _ (Event.task?_started id replayed)]
          exact known.started running id
  | finish running =>
      obtain rfl := stage_of_toList own
      obtain ⟨-, rfl⟩ := List.cons.inj own
      obtain rfl : stage' = none := by simpa using own'
      obtain ⟨chapter, rfl, known⟩ := tells.of_continues (by rw [running]; rfl)
      cases logs with
      | silent silent => exact absurd silent quiet
      | ran =>
          rw [readAll_filter_singleton _ rfl]
          exact known.ran id _
  | @withdraw task _ waiting =>
      obtain rfl := stage_inj own own'
      obtain rfl := fits.of_some.stage_of_waiting waiting
      have continues : task.phase.isTerminal = false := by
        rcases waiting with phase | phase <;> simp [phase, Phase.isTerminal]
      obtain ⟨chapter, rfl, known⟩ := tells.of_continues continues
      cases logs with
      | silent silent => exact absurd silent quiet
      | cancelled =>
          rw [readAll_filter_singleton _ rfl]
          exact known.cancelled id _
  | doom running =>
      obtain rfl := stage_inj own own'
      obtain ⟨chapter, rfl, known⟩ := tells.of_continues (by rw [running]; rfl)
      obtain ⟨slot, has⟩ := fits.of_some.exists_slot (by rw [running]; rfl)
      cases logs with
      | silent silent => exact absurd silent quiet
      | doomed =>
          rw [readAll_filter_singleton _ rfl]
          exact known.dooms has id
  | keep concerns =>
      obtain rfl := stage_inj own own'
      exact ⟨account, apart concerns, tells⟩
  | run | replay | leave | reset | absent | discard | read => exact absurd rfl quiet

end Account.Tells

/-- **A reader of the log is never surprised**, and knows of a task what is so. -/
theorem Run.account {history : History ν} {s : Scheduler ν} (run : Run history s) (id : TaskId) :
    ∃ stage account, s.Staged id stage ∧ Fits (s.barrier.task? id) stage ∧
      Account.unheard.readAll (history.logOf id) = some account ∧
      account.Tells (s.barrier.task? id) stage := by
  -- The stage is kept with the account, since it tells whether a start will be that of a replay.
  refine run.induct (motive := fun history s => ∃ stage account, s.Staged id stage ∧
    Fits (s.barrier.task? id) stage ∧ Account.unheard.readAll (history.logOf id) = some account ∧
    account.Tells (s.barrier.task? id) stage) ?_ ?_
  · intro number config facility worker
    exact ⟨none, .unheard, fun _ => rfl, .absent, rfl, .unheard⟩
  · intro history s thread now move turn run taken ih
    obtain ⟨stage, account, staged, fits, known, tells⟩ := ih
    have follows := Scheduler.follows_of_step taken
    have logs := Scheduler.logs_of_step run.sound taken
    obtain ⟨stage', staged', fits', course⟩ :=
      (run.sound.course follows id).staged follows.others staged fits
    obtain ⟨account', read, tells'⟩ := tells.step staged fits course logs
    refine ⟨stage', account', staged', fits', ?_, tells'⟩
    rw [History.logOf_cons, Account.readAll_append, known]
    exact read

/-! ## The log of a task -/

/-- What the log tells of a task after its end. -/
theorem History.eq_cancelTooLate {history : History ν} {id : TaskId} {earlier later : List Event}
    {event : Event} (whole : history.logOf id = earlier ++ event :: later) {periodic : Bool}
    {last : Account} (known : (Account.closed periodic).readAll later = some last) :
    ∀ event ∈ later, event = .cancelTooLate id := by
  intro other member
  have logged : other ∈ history.logOf id := by
    rw [whole]
    exact List.mem_append_right _ (List.mem_cons_of_mem _ member)
  obtain ⟨id', rfl⟩ := Account.eq_cancelTooLate_of_closed known other member
  rw [Option.some.inj (task?_of_mem logged)]

/-- **What the log of a task is good for.** -/
structure FaithfulLog (history : History ν) (s : Scheduler ν) (id : TaskId) : Prop where
  /-- Starts and ends of runs are logged in turn, beginning with a start. -/
  alternates : Repeats [.started, .ran] ((history.logOf id).filterMap Event.milestone?)
  /-- A step that logs a start begins an execution of the body, and the other way round, and each
  time there is one event.  The same is true of the end of a run. -/
  matched : ∀ stride ∈ history,
    (stride.turn.events.filter (·.isAbout id)).filterMap Event.milestone? =
      (stride.deed.milestone? id).toList.filter (· != .ended)
  /-- Each execution ends, by a return or by a panic, before its run is over, and its run is over
  before the next execution. -/
  executed : Repeats [.started, .ended, .ran] (history.milestones id)
  /-- The start of a replay comes after the task has been held, with no other start in between. -/
  noted : ∀ earlier later, history.logOf id = earlier ++ .startedByReplay id :: later →
    ∃ before size between, earlier = before ++ .held id size :: between ∧
      ∀ event ∈ between, event.milestone? ≠ some .started
  /-- A cancelled task is heard of again only by being cancelled too late. -/
  cancelled : ∀ earlier outstanding later,
    history.logOf id = earlier ++ .cancelled id outstanding :: later →
      ∀ event ∈ later, event = .cancelTooLate id
  /-- So is a task that was cancelled during a run, after that run. -/
  doomed : ∀ earlier outstanding later,
    history.logOf id = earlier ++ .ran id outstanding :: later →
      .cancelledWhileRunning id ∈ earlier → ∀ event ∈ later, event = .cancelTooLate id
  /-- And so is a one-shot task that has ran. -/
  once : ∀ task, s.barrier.task? id = some task → task.periodic = false →
    ∀ earlier outstanding later, history.logOf id = earlier ++ .ran id outstanding :: later →
      ∀ event ∈ later, event = .cancelTooLate id
  /-- Where the task is said to be held, it has come last in the hold queue, whose length is
  given. -/
  sized : ∀ stride ∈ history, ∀ size, .held id size ∈ stride.turn.events →
    stride.turn.scheduler.barrier.held = stride.before.barrier.held ++ [id] ∧
      size = stride.turn.scheduler.barrier.held.length
  /-- Where a number of outstanding tasks is given, it is that of the counter after the step, and as
  many tasks are counted. -/
  counted : ∀ stride ∈ history, ∀ outstanding,
    .ran id outstanding ∈ stride.turn.events ∨ .cancelled id outstanding ∈ stride.turn.events →
      outstanding = stride.turn.scheduler.barrier.outstanding ∧
        outstanding = stride.turn.scheduler.barrier.counted

/-- What a reader of the log of a run knew of the task when an event was read. -/
theorem Run.account_at {history : History ν} {s : Scheduler ν} (run : Run history s) {id : TaskId}
    {earlier later : List Event} {event : Event}
    (whole : history.logOf id = earlier ++ event :: later) :
    ∃ before after last, Account.unheard.readAll earlier = some before ∧
      before.read event = some after ∧ after.readAll later = some last ∧
      ∀ task, s.barrier.task? id = some task → last.periodic? = some task.periodic := by
  obtain ⟨stage, last, -, -, known, tells⟩ := run.account id
  rw [whole] at known
  obtain ⟨before, after, first, read, second⟩ := Account.readAll_split known
  refine ⟨before, after, last, first, read, second, fun task found => ?_⟩
  rw [found] at tells
  exact tells.periodic?_eq

/-- **The log of every run is faithful**, for every task. -/
theorem faithful_log_of_run {history : History ν} {s : Scheduler ν} (run : Run history s)
    (id : TaskId) : FaithfulLog history s id where
  alternates := by
    rw [History.milestones_logOf fun stride member => (run.logs member).1.milestones id]
    exact (run.milestones id).filter (· != .ended)
  matched := fun stride member => (run.logs member).1.milestones id
  executed := run.milestones id
  noted := by
    intro earlier later whole
    obtain ⟨before, after, -, first, read, -, -⟩ := run.account_at whole
    obtain ⟨chapter, rfl, noted⟩ := Account.noted_of_startedByReplay read
    obtain ⟨before, other, size, between, rfl, since⟩ := Account.held_of_noted first noted
    have logged : .held other size ∈ history.logOf id := by simp [whole]
    obtain rfl := Option.some.inj (History.task?_of_mem logged)
    exact ⟨before, size, between, rfl, since⟩
  cancelled := by
    intro earlier outstanding later whole
    obtain ⟨before, after, last, -, read, known, -⟩ := run.account_at whole
    obtain ⟨periodic, rfl⟩ := Account.closed_of_cancelled read
    exact History.eq_cancelTooLate whole known
  doomed := by
    intro earlier outstanding later whole dooms
    obtain ⟨before, after, last, first, read, known, -⟩ := run.account_at whole
    obtain ⟨periodic, rfl⟩ :=
      Account.closed_of_ran read (Account.isLast_of_cancelledWhileRunning first dooms)
    exact History.eq_cancelTooLate whole known
  once := by
    intro task found once earlier outstanding later whole
    obtain ⟨before, after, last, -, read, known, told⟩ := run.account_at whole
    obtain ⟨periodic, rfl⟩ := Account.closed_of_once read known (by rw [told task found, once])
    exact History.eq_cancelTooLate whole known
  sized := fun stride member size logged => (run.logs member).1.sized logged
  counted := by
    intro stride member outstanding logged
    obtain ⟨logs, sound⟩ := run.logs member
    have left := logs.outstanding logged
    exact ⟨left, left.trans sound.coherent.balanced⟩

/-- The moves of a periodic task that fires too early and is cancelled while it is replayed.  Its
body panics, and somebody cancels it once more. -/
def doomedMoves : List (ThreadId × Instant × Move Unit) :=
  [(0, ⟨0⟩, .request (.accept ⟨0⟩ (.fixedRate ⟨5⟩) false)),
    (1, ⟨0⟩, .request (.call ⟨0⟩)), (1, ⟨0⟩, .proceed), (1, ⟨0⟩, .proceed),
    (0, ⟨0⟩, .request (.await .plain)), (0, ⟨0⟩, .proceed), (0, ⟨0⟩, .proceed),
    (1, ⟨0⟩, .request (.cancelByHandle ⟨0⟩)), (1, ⟨0⟩, .proceed),
    (0, ⟨0⟩, .endBody (.panicked .unreadable)), (0, ⟨0⟩, .proceed),
    (1, ⟨0⟩, .request (.cancelByHandle ⟨0⟩))]

/-- The log of that task, which is faithful. -/
theorem faithful_log_of_doomed : ∃ (history : History Unit) (s : Scheduler Unit),
    Run history s ∧ history.logOf ⟨0⟩ =
      [.accepted ⟨0⟩ ⟨0⟩ (.fixedRate ⟨5⟩), .held ⟨0⟩ 1, .startedByReplay ⟨0⟩,
        .cancelledWhileRunning ⟨0⟩, .ran ⟨0⟩ 0, .cancelTooLate ⟨0⟩] ∧
      FaithfulLog history s ⟨0⟩ := by
  obtain ⟨history, s, played, logged⟩ : ∃ history s,
      (Scheduler.start 0 .default (.byHand .empty) none).play doomedMoves = some (history, s) ∧
        history.logOf ⟨0⟩ = [.accepted ⟨0⟩ ⟨0⟩ (.fixedRate ⟨5⟩), .held ⟨0⟩ 1,
          .startedByReplay ⟨0⟩, .cancelledWhileRunning ⟨0⟩, .ran ⟨0⟩ 0, .cancelTooLate ⟨0⟩] :=
    ⟨_, _, rfl, rfl⟩
  exact ⟨history, s, .of_play played, logged, faithful_log_of_run (.of_play played) ⟨0⟩⟩

end TaskBarrier
