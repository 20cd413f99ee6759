import TaskBarrier.Proofs.Soundness

/-!
# Steps keep states sound

Each part of `Scheduler.Sound` is shown to survive a step.  The record of a task is followed along
the course that the step takes; the hold queue is followed by what a deed makes of it; and what is
to be thrown away is told from the frames that a transition pushes.

## Main Definitions

* `Deed.requeue`: what a deed makes of the hold queue.
* `Passage`: one step of a run, as one task sees it.

The main statements are `Sound.step`, by which a step keeps a state sound, `Run.sound`, by which
every state of a run is, and `Run.induct_task`, which is how other modules prove what holds of each
task throughout a run.
-/

namespace TaskBarrier

variable {ν : Type}

/-! ## The record of a task -/

namespace Task

@[simp] theorem isDoomed_setCounted (task : Task ν) (counted : Bool) :
    (task.setCounted counted).isDoomed = task.isDoomed := by
  cases slot : task.slot <;> simp [setCounted, isDoomed, slot]

@[simp] theorem isSome_slot_setCounted (task : Task ν) (counted : Bool) :
    (task.setCounted counted).slot.isSome = task.slot.isSome := by
  simp [setCounted]

@[simp] theorem isSome_slot_doom (task : Task ν) : task.doom.slot.isSome = task.slot.isSome := by
  simp [doom]

@[simp] theorem isCounted_doom (task : Task ν) : task.doom.isCounted = task.isCounted := by
  cases slot : task.slot <;> simp [doom, isCounted, slot]

/-- After a run a task has no slot, or is live. -/
theorem afterRun_cases (task : Task ν) :
    (Barrier.afterRun task).slot = none ∨ (Barrier.afterRun task).phase = .live := by
  unfold Barrier.afterRun
  split
  · exact .inl rfl
  · split
    · exact .inr rfl
    · exact .inl rfl

/-- No task is held after a run. -/
theorem phase_afterRun_ne_held (task : Task ν) : (Barrier.afterRun task).phase ≠ .held := by
  unfold Barrier.afterRun
  split
  · simp [retire]
  · split <;> simp [retire, setPhase]

/-- A reset leaves a cancelled task cancelled. -/
theorem phase_reset_of_cancelled {task : Task ν} (cancelled : task.phase = .cancelled) :
    task.reset.phase = .cancelled := by
  unfold Task.reset
  split
  · rfl
  · split
    · next held => simp [cancelled] at held
    · exact cancelled

/-- Throwing a body away changes the body, and what was promised. -/
theorem discard_eq (task : Task ν) : ∃ body promise,
    task.discard = { task with body := body, promise := promise } := by
  unfold discard
  split
  · exact ⟨task.body, task.promise, rfl⟩
  · exact ⟨.spent, _, rfl⟩
  · exact ⟨.spent, _, rfl⟩

namespace Fits

variable {task : Task ν} {stage : Option RunStage}

/-- A task that is not running has no stage. -/
theorem stage_of_ne (fits : task.Fits stage) (resting : task.phase ≠ .running) : stage = none := by
  by_contra staged
  exact resting (fits.running.mpr staged)

/-- A task that waits for its run has no stage. -/
theorem stage_of_waiting (fits : task.Fits stage)
    (waiting : task.phase = .live ∨ task.phase = .held) : stage = none := by
  refine fits.stage_of_ne ?_
  rcases waiting with live | held
  · simp [live]
  · simp [held]

/-- A task without a stage is not being executed. -/
theorem executing_of_ne (fits : task.Fits stage) (ne : stage ≠ some .executing) :
    task.executing = false := by
  by_contra executing
  exact ne (fits.executing.mp (by simpa using executing))

/-- Only a running task is doomed. -/
theorem isDoomed_of_ne (fits : task.Fits stage) (resting : task.phase ≠ .running) :
    task.isDoomed = false := by
  by_contra doomed
  exact resting (fits.doomed (by simpa using doomed)).1

/-- An accepted task. -/
theorem accepted (id : TaskId) (periodic : Bool) (key : TimerKey) (produces : Bool) :
    (Task.accepted id periodic key produces : Task ν).Fits none where
  running := by simp [Task.accepted]
  slotted := rfl
  counted := fun _ => rfl
  doomed := by simp [Task.accepted, isDoomed]
  executing := by simp [Task.accepted]
  body := fun _ => rfl

/-- A task that is counted, if it was not counted already. -/
theorem recounted (fits : task.Fits stage) : (task.setCounted true).Fits stage where
  running := fits.running
  slotted := (task.isSome_slot_setCounted true).trans fits.slotted
  counted := by
    intro waiting
    have continues : task.phase.isTerminal = false := by
      rcases waiting with held | ⟨live, -⟩
      · rw [show task.phase = .held from held]
        rfl
      · rw [show task.phase = .live from live]
        rfl
    rw [isCounted_setCounted, fits.slotted, continues]
    rfl
  doomed := fun doomed => fits.doomed (task.isDoomed_setCounted true ▸ doomed)
  executing := fits.executing
  body := fun slotted => fits.body (task.isSome_slot_setCounted true ▸ slotted)

/-- A task whose run has been decided upon. -/
theorem started (fits : task.Fits none) (slotted : task.slot.isSome = true)
    (resting : task.phase ≠ .running) (replayed : Bool) :
    (task.setPhase .running).Fits (some (.starting replayed)) where
  running := by simp [setPhase]
  slotted := slotted
  counted := by simp [setPhase]
  doomed := by
    intro doomed
    have doomed : task.isDoomed = true := doomed
    rw [fits.isDoomed_of_ne resting] at doomed
    cases doomed
  executing := by
    have idle := fits.executing_of_ne (by simp)
    simp [setPhase, idle]
  body := by
    intro _
    rw [if_neg (by simp)]
    exact fits.body slotted

/-- A task that is held. -/
theorem held (fits : task.Fits none) (slotted : task.slot.isSome = true)
    (resting : task.phase ≠ .running) (counted : task.isCounted = true) :
    (task.setPhase .held).Fits none where
  running := by simp [setPhase]
  slotted := slotted
  counted := fun _ => counted
  doomed := by
    intro doomed
    have doomed : task.isDoomed = true := doomed
    rw [fits.isDoomed_of_ne resting] at doomed
    cases doomed
  executing := fits.executing
  body := fits.body

/-- A task whose body is executed. -/
theorem entered {replayed : Bool} (fits : task.Fits (some (.starting replayed))) :
    task.entered.Fits (some .executing) where
  running := iff_of_true fits.phase_of_some (by simp)
  slotted := fits.slotted
  counted := fits.counted
  doomed := fits.doomed
  executing := by simp [Task.entered]
  body := fun _ => rfl

/-- A task whose body has been executed. -/
theorem left (fits : task.Fits (some .executing)) (result : Option ν) :
    (task.leave result).Fits (some .finishing) where
  running := iff_of_true fits.phase_of_some (by simp)
  slotted := fits.slotted
  counted := fits.counted
  doomed := fits.doomed
  executing := by simp [leave]
  body := fun slotted => fits.body slotted

/-- A task that has ended. -/
theorem retired (idle : task.executing = false) {phase : Phase}
    (terminal : phase.isTerminal = true) : (task.retire phase).Fits none where
  running := by cases phase <;> simp [Phase.isTerminal, retire] at terminal ⊢
  slotted := by simp [retire, terminal]
  counted := by cases phase <;> simp [Phase.isTerminal, retire] at terminal ⊢
  doomed := by simp [retire, isDoomed]
  executing := by simp [retire, idle]
  body := by simp [retire]

/-- A periodic task that is live again. -/
theorem relived (slotted : task.slot.isSome = true) (undoomed : task.isDoomed = false)
    (periodic : task.periodic = true) (idle : task.executing = false)
    (intact : task.body = task.intactBody) : (task.setPhase .live).Fits none where
  running := by simp [setPhase]
  slotted := slotted
  counted := by simp [setPhase, periodic]
  doomed := by
    intro doomed
    have doomed : task.isDoomed = true := doomed
    rw [undoomed] at doomed
    cases doomed
  executing := by simp [setPhase, idle]
  body := by
    intro _
    rw [if_neg (by simp)]
    exact intact

/-- The used body of a periodic task is an intact one. -/
theorem usedBody_of_periodic (periodic : task.periodic = true) :
    task.usedBody = task.intactBody := by
  simp [usedBody, intactBody, periodic]

/-- A task whose run is over. -/
theorem finished (fits : task.Fits (some .finishing)) :
    (Barrier.afterRun (task.setCounted false)).Fits none := by
  have idle : task.executing = false := fits.executing_of_ne (by simp)
  have slotted : task.slot.isSome = true := by
    rw [fits.slotted, fits.phase_of_some]
    rfl
  unfold Barrier.afterRun
  split
  · exact retired idle rfl
  · next undoomed =>
    split
    · next periodic =>
      have periodic : task.periodic = true := periodic
      have body : task.body = task.usedBody := by simpa using fits.body slotted
      refine relived ?_ (by simpa using undoomed) periodic idle ?_
      · rw [isSome_slot_setCounted, slotted]
      · exact body.trans (usedBody_of_periodic periodic)
    · exact retired idle rfl

/-- A task that is doomed during a run. -/
theorem dooms (fits : task.Fits stage) (running : task.phase = .running)
    (periodic : task.periodic = true) : task.doom.Fits stage where
  running := fits.running
  slotted := by simpa [doom] using fits.slotted
  counted := by simp [doom, running]
  doomed := fun _ => ⟨running, periodic⟩
  executing := fits.executing
  body := by
    intro slotted
    exact fits.body (by simpa [doom] using slotted)

/-- A task that is not counted any more. -/
theorem uncounted (fits : task.Fits stage) (resting : task.phase ≠ .held)
    (repeats : task.phase = .live → task.periodic = true) :
    (task.setCounted false).Fits stage where
  running := fits.running
  slotted := (task.isSome_slot_setCounted false).trans fits.slotted
  counted := by
    rintro (held | ⟨live, once⟩)
    · exact absurd held resting
    · have once : task.periodic = false := once
      rw [repeats live] at once
      cases once
  doomed := fun doomed => fits.doomed (task.isDoomed_setCounted false ▸ doomed)
  executing := fits.executing
  body := fun slotted => fits.body (task.isSome_slot_setCounted false ▸ slotted)

/-- **What a reset does to a task**: it drops the one-shot tasks that have not started, makes the
held ones among the periodic tasks live, and leaves the phases of all others alone. -/
theorem reset_cases (fits : task.Fits stage) :
    (task.isDropped = true ∧ (task.phase = .live ∨ task.phase = .held) ∧ task.periodic = false ∧
      task.reset = task.retire .cancelled) ∨
    (task.isDropped = false ∧ task.phase = .held ∧ task.periodic = true ∧
      task.reset = (task.setCounted false).setPhase .live) ∨
    (task.isDropped = false ∧ task.phase ≠ .held ∧ (task.phase = .live → task.periodic = true) ∧
      task.reset = task.setCounted false) := by
  have slotted := fits.slotted
  unfold Task.reset isDropped
  rw [slotted]
  cases phase : task.phase with
  | live => cases periodic : task.periodic <;> simp [Phase.isTerminal]
  | held =>
      rw [phase] at slotted
      obtain ⟨slot, has⟩ := Option.isSome_iff_exists.mp slotted
      cases periodic : task.periodic <;> simp [Phase.isTerminal, has]
  | running | ran | cancelled => simp [Phase.isTerminal]

/-- No task is held after a reset. -/
theorem phase_reset_ne_held (fits : task.Fits stage) : task.reset.phase ≠ .held := by
  rcases fits.reset_cases with ⟨-, -, -, eq⟩ | ⟨-, -, -, eq⟩ | ⟨-, resting, -, eq⟩
  · simp [eq, retire]
  · simp [eq, setPhase]
  · rw [eq]
    exact resting

/-- A task that is running after a reset was running before. -/
theorem phase_of_reset_running (fits : task.Fits stage) (running : task.reset.phase = .running) :
    task.phase = .running := by
  rcases fits.reset_cases with ⟨-, -, -, eq⟩ | ⟨-, -, -, eq⟩ | ⟨-, -, -, eq⟩
  · rw [eq] at running
    cases running
  · rw [eq] at running
    cases running
  · rw [eq] at running
    exact running

/-- A task after a reset. -/
theorem reset (fits : task.Fits stage) : task.reset.Fits stage := by
  rcases fits.reset_cases with ⟨-, waiting, -, eq⟩ | ⟨-, held, periodic, eq⟩ |
    ⟨-, resting, repeats, eq⟩
  · obtain rfl := fits.stage_of_waiting waiting
    rw [eq]
    exact retired (fits.executing_of_ne (by simp)) rfl
  · have resting : task.phase ≠ .running := by simp [held]
    obtain rfl := fits.stage_of_ne resting
    have slotted : task.slot.isSome = true := by
      rw [fits.slotted, held]
      rfl
    have undoomed := fits.isDoomed_of_ne resting
    rw [eq]
    refine relived ?_ ?_ periodic (fits.executing_of_ne (by simp)) (fits.body slotted)
    · rw [isSome_slot_setCounted, slotted]
    · rw [isDoomed_setCounted, undoomed]
  · rw [eq]
    exact fits.uncounted resting repeats

/-- A cancelled task without its body. -/
theorem discarded (fits : task.Fits stage) (cancelled : task.phase = .cancelled) :
    task.discard.Fits stage := by
  obtain ⟨body, promise, eq⟩ := task.discard_eq
  rw [eq]
  exact {
    running := fits.running
    slotted := fits.slotted
    counted := fits.counted
    doomed := fits.doomed
    executing := fits.executing
    body := by
      intro slotted
      have slotted : task.slot.isSome = true := slotted
      rw [fits.slotted, cancelled] at slotted
      cases slotted }

end Fits

end Task

/-- **A step keeps the record of a task and the stage of its run together**, and takes the course
that it takes on its own thread with respect to all threads at once. -/
theorem Course.staged {s s' : Scheduler ν} {thread : ThreadId} {id : TaskId} {deed : Deed}
    {before after : Option (Task ν)} {stage : Option RunStage}
    (course : Course id deed before (Stack.stages id (s.stack thread)) after
      (Stack.stages id (s'.stack thread)))
    (others : ∀ other, other ≠ thread → s'.stack other = s.stack other)
    (staged : s.Staged id stage) (fits : Fits before stage) :
    ∃ stage', s'.Staged id stage' ∧ Fits after stage' ∧
      Course id deed before stage.toList after stage'.toList := by
  generalize own : Stack.stages id (s.stack thread) = stages,
    own' : Stack.stages id (s'.stack thread) = stages' at course
  have keep : stages' = stages → s'.Staged id stage := fun same =>
    staged.keep (own'.trans (same.trans own.symm)) others
  cases course with
  | accept =>
      cases fits
      exact ⟨none, keep rfl, .present (Task.Fits.accepted ..), .accept⟩
  | @run task _ slotted live =>
      have fits := fits.of_some
      obtain rfl := fits.stage_of_waiting (.inl live)
      have resting : task.phase ≠ .running := by simp [live]
      have started := fits.recounted.started (by simpa using slotted) resting false
      exact ⟨_, staged.push (own'.trans (by rw [own])) others, .present started,
        .run slotted live⟩
  | @hold task _ slotted live =>
      have fits := fits.of_some
      obtain rfl := fits.stage_of_waiting (.inl live)
      have resting : task.phase ≠ .running := by simp [live]
      have slotted' : (task.setCounted true).slot.isSome = true := by simpa using slotted
      have counted : (task.setCounted true).isCounted = true := by simpa using slotted
      have held := fits.recounted.held slotted' resting counted
      exact ⟨none, keep rfl, .present held, .hold slotted live⟩
  | @replay task _ slotted held =>
      have fits := fits.of_some
      obtain rfl := fits.stage_of_waiting (.inr held)
      have started := fits.started slotted (by simp [held]) true
      exact ⟨_, staged.push (own'.trans (by rw [own])) others, .present started,
        .replay slotted held⟩
  | enter =>
      obtain ⟨rfl, -, -⟩ := staged.of_cons own
      exact ⟨_, staged.advance own own' others, .present fits.of_some.entered, .enter⟩
  | leave =>
      obtain ⟨rfl, -, -⟩ := staged.of_cons own
      exact ⟨_, staged.advance own own' others, .present (fits.of_some.left _), .leave⟩
  | finish running =>
      obtain ⟨rfl, -, -⟩ := staged.of_cons own
      exact ⟨none, staged.pop (own.trans (by rw [own'])) others, .present fits.of_some.finished,
        .finish running⟩
  | @withdraw task _ waiting =>
      have fits := fits.of_some
      obtain rfl := fits.stage_of_waiting waiting
      have retired : ((task.setCounted false).retire .cancelled).Fits none :=
        .retired (fits.executing_of_ne (by simp)) rfl
      exact ⟨none, keep rfl, .present retired, .withdraw waiting⟩
  | doom running periodic undoomed =>
      exact ⟨stage, keep rfl, .present (fits.of_some.dooms running periodic),
        .doom running periodic undoomed⟩
  | reset listed cleared =>
      exact ⟨stage, keep rfl, .present fits.of_some.reset, .reset listed cleared⟩
  | absent unlisted => exact ⟨stage, keep rfl, fits, .absent unlisted⟩
  | discard cancelled =>
      exact ⟨stage, keep rfl, .present (fits.of_some.discarded cancelled), .discard cancelled⟩
  | @read task promise _ =>
      have fits := fits.of_some
      have same : ({ task with promise := promise } : Task ν).Fits stage :=
        ⟨fits.running, fits.slotted, fits.counted, fits.doomed, fits.executing, fits.body⟩
      exact ⟨stage, keep rfl, .present same, .read⟩
  | keep apart => exact ⟨stage, keep rfl, fits, .keep apart⟩

/-! ## The hold queue -/

/-- What a deed makes of the hold queue. -/
def Deed.requeue : Deed → List TaskId → List TaskId
  | .call id .held, held => held ++ [id]
  | .replay (.run id), held | .cancel id .cancelled, held => held.filter (· != id)
  | .reset _ _, _ => []
  | _, held => held

/-- A deed that does not concern a task leaves it in the hold queue, or out of it. -/
theorem Deed.mem_requeue_of_apart {id : TaskId} {deed : Deed} (apart : deed.concerns id = false)
    (held : List TaskId) : id ∈ deed.requeue held ↔ id ∈ held := by
  cases deed with
  | call other firing =>
      cases firing with
      | held =>
          have ne : id ≠ other := fun same => by simp [Deed.concerns, same] at apart
          simp [Deed.requeue, ne]
      | _ => rfl
  | replay answer =>
      cases answer with
      | run other =>
          have ne : id ≠ other := fun same => by simp [Deed.concerns, same] at apart
          simp [Deed.requeue, ne]
      | _ => rfl
  | cancel other answer =>
      cases answer with
      | cancelled =>
          have ne : id ≠ other := fun same => by simp [Deed.concerns, same] at apart
          simp [Deed.requeue, ne]
      | _ => rfl
  | reset => cases apart
  | _ => rfl

/-- No deed makes a task occur twice in the hold queue, if no task that is held is held again. -/
theorem Deed.nodup_requeue {deed : Deed} {held : List TaskId} (nodup : held.Nodup)
    (fresh : ∀ id, deed = .call id .held → id ∉ held) : (deed.requeue held).Nodup := by
  cases deed with
  | call id firing =>
      cases firing with
      | held =>
          have absent := fresh id rfl
          show (held ++ [id]).Nodup
          rw [List.nodup_append]
          refine ⟨nodup, by simp, fun other member another single => ?_⟩
          obtain rfl := List.mem_singleton.mp single
          rintro rfl
          exact absent member
      | _ => exact nodup
  | replay answer =>
      cases answer with
      | run id => exact nodup.filter _
      | _ => exact nodup
  | cancel id answer =>
      cases answer with
      | cancelled => exact nodup.filter _
      | _ => exact nodup
  | reset => exact List.nodup_nil
  | _ => exact nodup

/-- **The hold queue goes on listing the held tasks** along every course. -/
theorem Course.mem_requeue {id : TaskId} {deed : Deed} {before after : Option (Task ν)}
    {stages stages' : List RunStage} {stage : Option RunStage} {held : List TaskId}
    (course : Course id deed before stages after stages') (fits : Fits before stage)
    (listed : id ∈ held ↔ before.map (·.phase) = some .held) :
    id ∈ deed.requeue held ↔ after.map (·.phase) = some .held := by
  have absent : before.map (·.phase) ≠ some .held → id ∉ held := fun elsewhere member =>
    elsewhere (listed.mp member)
  cases course with
  | accept => exact iff_of_false (absent (by simp)) (by simp [Task.accepted])
  | run slotted live => exact iff_of_false (absent (by simp [live])) (by simp [Task.setPhase])
  | hold => simp [Deed.requeue, Task.setPhase]
  | replay => simp [Deed.requeue, Task.setPhase]
  | enter | leave | doom | read => exact listed
  | @finish task _ running =>
      refine iff_of_false (absent (by simp [running])) ?_
      simpa using Task.phase_afterRun_ne_held (task.setCounted false)
  | withdraw => simp [Deed.requeue, Task.retire]
  | reset =>
      have resting := fits.of_some.phase_reset_ne_held
      exact iff_of_false List.not_mem_nil (by simpa using resting)
  | absent => simp [Deed.requeue]
  | @discard task _ cancelled =>
      obtain ⟨body, promise, eq⟩ := task.discard_eq
      rw [eq]
      exact listed
  | keep apart => rw [Deed.mem_requeue_of_apart apart, listed]

namespace Barrier

theorem held_enterBody? {b b' : Barrier ν} {id : TaskId} {executes : Bool}
    (entered : b.enterBody? id = some (executes, b')) : b'.held = b.held := by
  unfold enterBody? at entered
  split at entered
  · cases entered
  · obtain ⟨_, -, eq⟩ := Option.map_eq_some_iff.mp entered
    obtain ⟨-, rfl⟩ := Prod.mk.inj eq
    rfl

theorem held_discard? {b b' : Barrier ν} {id : TaskId} (discarded : b.discard? id = some b') :
    b'.held = b.held := by
  unfold discard? at discarded
  split at discarded
  · obtain rfl := Option.some.inj discarded
    rfl
  · split at discarded
    · cases discarded
    · obtain rfl := Option.some.inj discarded
      rfl

@[simp] theorem held_readValue (b : Barrier ν) (id : TaskId) :
    (b.readValue id).2.held = b.held := by
  rcases b.readValue_cases id with eq | ⟨_, _, -, eq⟩
  · rw [eq]
  · rw [eq, held_modify]

@[simp] theorem held_finish (b : Barrier ν) (id : TaskId) :
    (b.finish id).barrier.held = b.held := by
  unfold finish
  simp only
  split
  · exact b.held_uncount id
  · exact b.held_uncount id

/-- What a firing makes of the hold queue. -/
theorem held_fire (b : Barrier ν) (id : TaskId) :
    (b.fire id).barrier.held = (Deed.call id (b.fire id).answer).requeue b.held := by
  rcases b.fire_cases id with ⟨task, found, -, -, eq⟩ | ⟨eq, ignored | coalesced⟩
  · rw [eq]
    unfold fireLive
    split
    · exact b.held_count id
    · rfl
  · rw [eq, ignored]
    rfl
  · rw [eq, coalesced]
    rfl

/-- What a cancel makes of a hold queue that lists the held tasks. -/
theorem held_cancel {b : Barrier ν} {id : TaskId}
    (listed : id ∈ b.held → b.phase? id = some .held) :
    (b.cancel id).barrier.held = (Deed.cancel id (b.cancel id).answer).requeue b.held := by
  rcases b.cancel_cases id with ⟨task, slot, found, -, ⟨live, eq⟩ | ⟨-, eq⟩⟩ |
    ⟨task, slot, found, has, -, -, -, answer, eq⟩ | ⟨answer, eq⟩
  -- A live task is not looked for in the hold queue, and is not in it either.
  · have absent : ∀ other ∈ b.held, (other != id) = true := by
      intro other member
      have ne : other ≠ id := by
        rintro rfl
        have held := listed member
        simp [phase?, found, live] at held
      simpa using ne
    rw [eq]
    show ((b.disarm slot.key).uncount id).held = b.held.filter (· != id)
    rw [held_uncount, List.filter_eq_self.mpr absent]
    rfl
  · rw [eq]
    exact held_uncount _ id
  · rw [eq, answer]
    rfl
  · rw [eq, answer]
    rfl

end Barrier

namespace Scheduler.Sound

variable {s s' : Scheduler ν} {thread : ThreadId} {deed : Deed}

/-- A step does to the hold queue what its deed says. -/
theorem requeue (sound : s.Sound) (follows : s.Follows thread deed s') :
    s'.barrier.held = deed.requeue s.barrier.held := by
  have transition := follows.transition
  generalize s.stack thread = stack at transition
  generalize s'.barrier = barrier, s'.stack thread = stack' at transition ⊢
  cases transition with
  | accept _ answer =>
      obtain ⟨-, key, facility, eq⟩ := Barrier.accept_of_accepted answer
      rw [eq]
      rfl
  | read => exact s.barrier.held_readValue _
  | @withdraw _ task _ answer =>
      rw [Barrier.held_cancel (sound.mem_held task).mp, answer]
  | @cancel _ task => exact Barrier.held_cancel (sound.mem_held task).mp
  | @run task _ answer =>
      rw [s.barrier.held_fire task, answer]
  | @pass task => exact s.barrier.held_fire task
  | enter entered | skip entered => exact Barrier.held_enterBody? entered
  | finish => exact s.barrier.held_finish _
  | @replay task _ _ _ answer =>
      obtain ⟨_, rest, held, -, -, eq⟩ := Barrier.popHeld_of_run answer
      -- The front does not occur again, so taking it off is the same as filtering it out.
      have nodup := sound.held_nodup
      rw [held, List.nodup_cons] at nodup
      have others : ∀ other ∈ rest, (other != task) = true := by
        intro other member
        have ne : other ≠ task := by
          rintro rfl
          exact nodup.1 member
        simpa using ne
      rw [eq, held]
      show rest = (task :: rest).filter (· != task)
      rw [List.filter_cons_of_neg (by simp), List.filter_eq_self.mpr others]
  | passOver answer => exact absurd answer sound.answer_popHeld_ne
  | discard discarded => exact Barrier.held_discard? discarded
  | _ => rfl

/-! ## Whole states -/

/-- A step keeps the counter and the flags in agreement. -/
theorem coherent_step (sound : s.Sound) (follows : s.Follows thread deed s') :
    s'.barrier.Coherent := by
  have coherent := sound.coherent
  have transition := follows.transition
  generalize before : s.stack thread = stack at transition
  generalize s'.barrier = barrier, s'.stack thread = stack' at transition ⊢
  cases transition with
  | aside later => exact coherent.transfer rfl rfl later
  | refuse _ later => exact coherent.transfer rfl rfl later
  | accept _ answer => exact coherent.accept answer
  | read => exact coherent.readValue _
  | ask => exact coherent.transfer rfl rfl (Nat.le_refl _)
  | withdraw | cancel => exact coherent.cancel _
  | await => exact coherent.transfer rfl rfl (Nat.le_refl _)
  | returned | panicked =>
      obtain ⟨found, present, -⟩ := sound.of_run before
      exact coherent.modify present (Task.id_leave · _) rfl
  | run | pass => exact coherent.fire _
  | enter entered | skip entered =>
      obtain ⟨-, rfl, found, present⟩ := sound.of_enterBody? before entered
      exact coherent.modify present (fun _ => rfl) rfl
  | finish =>
      obtain ⟨found, slot, present, has, -⟩ := sound.slot_of_run before
      exact coherent.finish present has
  | replay | passOver => exact coherent.popHeld
  | wait | overflow | look | escape | announce | close => exact coherent
  | settle | expire | guard | unwind => exact coherent.reset
  | discard discarded =>
      obtain ⟨rfl, found, present, -⟩ := sound.of_discard? before discarded
      exact coherent.modify present Task.id_discard found.isCounted_discard
  | work => exact coherent.transfer rfl rfl (Nat.le_refl _)

end Scheduler.Sound

/-- A cancelled task stays cancelled. -/
theorem Course.cancelled {id : TaskId} {deed : Deed} {before after : Option (Task ν)}
    {stages stages' : List RunStage} (course : Course id deed before stages after stages')
    (cancelled : before.map (·.phase) = some .cancelled) :
    after.map (·.phase) = some .cancelled := by
  cases course with
  | accept | absent => cases cancelled
  | run _ phase | hold _ phase | replay _ phase | finish phase | doom phase =>
      simp [phase] at cancelled
  | enter | leave | read => exact cancelled
  | withdraw => rfl
  | @reset _ _ task _ _ _ =>
      have cancelled : task.phase = .cancelled := by simpa using cancelled
      simp [task.phase_reset_of_cancelled cancelled]
  | @discard task =>
      obtain ⟨body, promise, eq⟩ := task.discard_eq
      rw [eq]
      exact cancelled
  | keep => exact cancelled

/-- A task that is held was live. -/
theorem Course.of_hold {id : TaskId} {before after : Option (Task ν)}
    {stages stages' : List RunStage}
    (course : Course id (.call id .held) before stages after stages') :
    ∃ task, before = some task ∧ task.phase = .live ∧
      after = some ((task.setCounted true).setPhase .held) := by
  cases course with
  | hold slotted live => exact ⟨_, rfl, live, rfl⟩
  | keep apart => simp [Deed.concerns] at apart

/-- A task that is cancelled before it has started has ended. -/
theorem Course.of_withdraw {id : TaskId} {before after : Option (Task ν)}
    {stages stages' : List RunStage}
    (course : Course id (.cancel id .cancelled) before stages after stages') :
    ∃ task, before = some task ∧ (task.phase = .live ∨ task.phase = .held) ∧
      after = some ((task.setCounted false).retire .cancelled) := by
  cases course with
  | withdraw waiting => exact ⟨_, rfl, waiting, rfl⟩
  | keep apart => simp [Deed.concerns] at apart

/-- A task whose run is over was running. -/
theorem Course.of_finish {id : TaskId} {before after : Option (Task ν)}
    {stages stages' : List RunStage} (course : Course id (.finish id) before stages after stages') :
    ∃ task, before = some task ∧ task.phase = .running ∧
      after = some (Barrier.afterRun (task.setCounted false)) := by
  cases course with
  | finish running => exact ⟨_, rfl, running, rfl⟩
  | keep apart => simp [Deed.concerns] at apart

/-- A task that is dropped is cancelled. -/
theorem Course.of_dropped {id : TaskId} {ending : Ending} {dropped : List TaskId}
    {before after : Option (Task ν)} {stages stages' : List RunStage}
    (course : Course id (.reset ending dropped) before stages after stages')
    (listed : id ∈ dropped) :
    ∃ task, before = some task ∧ task.isDropped = true ∧
      after = some (task.retire .cancelled) := by
  cases course with
  | reset iff =>
      have isDropped := iff.mp listed
      exact ⟨_, rfl, isDropped, by rw [Task.reset, if_pos isDropped]⟩
  | absent unlisted => exact absurd listed unlisted
  | keep apart => cases apart

namespace Scheduler

/-- What a step leaves to be thrown away was to be thrown away before, or is the body of a task
that is cancelled now. -/
theorem Sound.discards_step {s s' : Scheduler ν} {thread : ThreadId} {deed : Deed} (sound : s.Sound)
    (follows : s.Follows thread deed s') {id : TaskId}
    (discards : id ∈ Stack.discards (s'.stack thread)) :
    id ∈ Stack.discards (s.stack thread) ∨ s'.barrier.phase? id = some .cancelled := by
  have course := sound.course follows id
  have transition := follows.transition
  generalize top : s.stack thread = stack at transition course ⊢
  generalize s'.stack thread = stack' at transition course discards
  unfold Barrier.phase?
  generalize s'.barrier = barrier at transition course ⊢
  have dropped : ∀ {ending : Ending} {before after : Option (Task ν)} {stages stages'},
      Course id (.reset ending s.barrier.dropped) before stages after stages' →
      id ∈ s.barrier.dropped → after.map (·.phase) = some .cancelled := by
    intro ending before after stages stages' course listed
    obtain ⟨task, -, -, rfl⟩ := course.of_dropped listed
    rfl
  -- Bodies come to be thrown away by a cancel, at the end of a run, and at the end of a cycle.
  cases transition with
  | ask _ opens _ returns =>
      have opening := fun frame member => Frame.discards_of_isOpening (opens frame member)
      rw [Stack.discards_append_of_nil opening, Stack.discards_cons,
        Frame.discards_of_isReturning returns] at discards
      exact .inl discards
  | withdraw =>
      rcases List.mem_cons.mp discards with rfl | old
      · obtain ⟨task, -, -, eq⟩ := course.of_withdraw
        exact .inr (by rw [eq]; rfl)
      · exact .inl old
  | finish after doomed =>
      rcases after with rfl | rfl
      · exact .inl discards
      · rcases List.mem_cons.mp discards with rfl | old
        · obtain ⟨found, slot, present, has, -⟩ := sound.slot_of_run top
          have dooms : slot.doomed = true := by
            rw [← (Barrier.finish_of_slot present has).1, doomed]
            simp
          obtain ⟨task, same, -, eq⟩ := course.of_finish
          obtain rfl := Option.some.inj (present.symm.trans same)
          refine .inr ?_
          rw [eq]
          simp [Barrier.afterRun, Task.isDoomed, Task.setCounted, has, dooms, Task.retire]
        · exact .inl old
  | settle =>
      rw [List.cons_append, Stack.discards_cons, Stack.discards_append_of_nil fun frame member =>
        Frame.discards_of_isEnding (Manner.isEnding_of_mem_succeeding member)] at discards
      rcases List.mem_append.mp discards with listed | old
      · exact .inr (dropped course listed)
      · exact .inl old
  | expire =>
      rw [List.cons_append, Stack.discards_cons, Stack.discards_append_of_nil fun frame member =>
        Frame.discards_of_isEnding (Manner.isEnding_of_mem_failing member)] at discards
      rcases List.mem_append.mp discards with listed | old
      · exact .inr (dropped course listed)
      · exact .inl old
  | refuse _ _ fails =>
      have ends := Frame.discards_of_isEnding (Frame.isEnding_of_isFailing fails)
      rw [Stack.discards_cons, Stack.discards_cons, ends] at discards
      exact .inl discards
  | guard | unwind =>
      rcases List.mem_append.mp discards with listed | old
      · exact .inr (dropped course listed)
      · exact .inl old
  | discard => exact .inl (List.mem_cons_of_mem _ discards)
  | close => exact .inl (List.mem_append_right _ discards)
  | work => cases discards
  | _ => exact .inl discards

/-- **A step keeps a state sound.** -/
theorem Sound.step {s s' : Scheduler ν} {thread : ThreadId} {deed : Deed} (sound : s.Sound)
    (follows : s.Follows thread deed s') : s'.Sound where
  coherent := sound.coherent_step follows
  held_nodup := by
    rw [sound.requeue follows]
    refine Deed.nodup_requeue sound.held_nodup fun id held member => ?_
    subst held
    obtain ⟨task, found, live, -⟩ := (sound.course follows id).of_hold
    have phase := (sound.mem_held id).mp member
    simp [Barrier.phase?, found, live] at phase
  mem_held := by
    intro id
    obtain ⟨stage, -, fits⟩ := sound.staged id
    rw [sound.requeue follows]
    exact (sound.course follows id).mem_requeue fits (sound.mem_held id)
  staged := by
    intro id
    obtain ⟨stage, staged, fits⟩ := sound.staged id
    obtain ⟨stage', staged, fits, -⟩ :=
      (sound.course follows id).staged follows.others staged fits
    exact ⟨stage', staged, fits⟩
  discards := by
    intro other id discards
    have still : ∀ {thread}, id ∈ Stack.discards (s.stack thread) →
        s'.barrier.phase? id = some .cancelled := fun old =>
      (sound.course follows id).cancelled (sound.discards _ id old)
    by_cases same : other = thread
    · subst same
      rcases sound.discards_step follows discards with old | new
      · exact still old
      · exact new
    · rw [follows.others other same] at discards
      exact still discards
  shaped := by
    intro other
    by_cases same : other = thread
    · subst same
      exact follows.transition.isShaped (sound.shaped other)
    · rw [follows.others other same]
      exact sound.shaped other

/-- Every start is sound. -/
theorem Sound.start (number : Nat) (config : Config) (facility : Facility TaskId)
    (worker : Option ThreadId) : (start number config facility worker : Scheduler ν).Sound where
  coherent := Barrier.Coherent.fresh config facility
  held_nodup := List.nodup_nil
  mem_held := fun _ => iff_of_false List.not_mem_nil (Option.some_ne_none _).symm
  staged := fun _ => ⟨none, fun _ => rfl, .absent⟩
  discards := fun _ _ discards => absurd discards List.not_mem_nil
  shaped := fun _ => rfl

end Scheduler

/-- **Every state of a run is sound.** -/
theorem Run.sound {history : History ν} {s : Scheduler ν} (run : Run history s) : s.Sound := by
  refine run.induct (motive := fun _ s => s.Sound) ?_ ?_
  · exact Scheduler.Sound.start
  · intro history s thread now move turn _ taken sound
    exact sound.step (Scheduler.follows_of_step taken)

/-- One step of a run, as the task with the given number sees it: where the task stands before and
after, and how far the run in progress has come, on whatever thread it is. -/
structure Passage (id : TaskId) (deed : Deed) (before : Option (Task ν)) (stage : Option RunStage)
    (after : Option (Task ν)) (stage' : Option RunStage) : Prop where
  /-- The step takes a course. -/
  course : Course id deed before stage.toList after stage'.toList
  /-- The record of the task goes with its stage before the step. -/
  fits : Fits before stage
  /-- And so it does after the step. -/
  fits' : Fits after stage'
  /-- What is found before the step has the number. -/
  named : ∀ task ∈ before, task.id = id
  /-- And so has what is found after the step. -/
  named' : ∀ task ∈ after, task.id = id

/-- The stage of a run, told from the list of the runs. -/
theorem stage_of_toList {stage : Option RunStage} {here : RunStage} {rest : List RunStage}
    (own : stage.toList = here :: rest) : stage = some here := by
  cases stage with
  | none => cases own
  | some _ => rw [(List.cons.inj own).1]

/-- Two stages are the same if the lists of the runs are. -/
theorem stage_inj {stage stage' : Option RunStage} {stages : List RunStage}
    (own : stage.toList = stages) (own' : stage'.toList = stages) : stage' = stage := by
  rw [← Option.head?_toList (o := stage'), own', ← own, Option.head?_toList]

/-- Induction over runs, with the passage of one task through every step. -/
theorem Run.induct_passage (id : TaskId)
    {motive : History ν → Scheduler ν → Option RunStage → Prop}
    (start : ∀ number config facility worker,
      motive [] (.start number config facility worker) none)
    (step : ∀ {history : History ν} {s : Scheduler ν} {thread : ThreadId} {now : Instant}
      {move : Move ν} {turn : Turn ν} {stage stage' : Option RunStage}, Run history s →
      s.step thread now move = some turn →
      Passage id (s.deed thread now move) (s.barrier.task? id) stage
        (turn.scheduler.barrier.task? id) stage' →
      motive history s stage →
      motive (⟨s, thread, now, move, turn⟩ :: history) turn.scheduler stage')
    {history : History ν} {s : Scheduler ν} (run : Run history s) :
    ∃ stage, s.Staged id stage ∧ Fits (s.barrier.task? id) stage ∧ motive history s stage := by
  refine run.induct (motive := fun history s => ∃ stage, s.Staged id stage ∧
    Fits (s.barrier.task? id) stage ∧ motive history s stage) ?_ ?_
  · intro number config facility worker
    exact ⟨none, fun _ => rfl, .absent, start number config facility worker⟩
  · intro history s thread now move turn run taken ih
    obtain ⟨stage, staged, fits, holds⟩ := ih
    have follows := Scheduler.follows_of_step taken
    obtain ⟨stage', staged', fits', course⟩ :=
      (run.sound.course follows id).staged follows.others staged fits
    have passage : Passage id (s.deed thread now move) (s.barrier.task? id) stage
        (turn.scheduler.barrier.task? id) stage' :=
      ⟨course, fits, fits', fun _ => Barrier.task?_id, fun _ => Barrier.task?_id⟩
    exact ⟨stage', staged', fits', step run taken passage holds⟩

/-- **Induction over runs, as one task sees them.**  What holds of a task before it is accepted, and
is kept by everything that the task can go through, holds of it throughout. -/
theorem Run.induct_task (id : TaskId)
    {motive : History ν → Option (Task ν) → Option RunStage → Prop} (start : motive [] none none)
    (step : ∀ {history : History ν} {stride : Stride ν} {deed : Deed}
      {before after : Option (Task ν)} {stage stage' : Option RunStage}, stride.deed = deed →
      stride.before.barrier.task? id = before → Passage id deed before stage after stage' →
      motive history before stage →
      motive (stride :: history) after stage')
    {history : History ν} {s : Scheduler ν} (run : Run history s) :
    ∃ stage, s.Staged id stage ∧ Fits (s.barrier.task? id) stage ∧
      motive history (s.barrier.task? id) stage :=
  Run.induct_passage (motive := fun history s stage => motive history (s.barrier.task? id) stage)
    id (fun _ _ _ _ => start) (fun _ _ passage holds => step rfl rfl passage holds) run

end TaskBarrier
