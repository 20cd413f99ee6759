import TaskBarrier.Proofs.ExactlyOnce

/-!
# What becomes of the body of a task

The body of a one-shot task can be executed once.  It is *used up* when it is executed, and when it
is thrown away; so a task that has ran has no body left, and neither has a task that is cancelled,
unless the thread that has cancelled it has still to throw it away.

Bodies are thrown away outside of the lock, one by one, by the call that has ended the task or by
the await that has dropped it.  So between the end of a task and the end of its body there may be
any number of steps, of any thread.  Who has to throw it away can be read off the stacks.

## Main Definitions

* `Task.Single`: what is left of the body of a one-shot task.
* `Task.Owes`: the end of the body is still to come.

The main statements are `Run.single` and `Run.buried`.
-/

namespace TaskBarrier

variable {ν : Type}

/-! ## One-shot bodies -/

namespace Task

/-- What is known of a one-shot task and its body. -/
structure Single (task : Task ν) : Prop where
  once : task.periodic = false
  /-- The body cannot be executed again and again. -/
  unrepeated : task.body ≠ .repeating
  /-- The body is used up when the task has ran. -/
  ran : task.phase = .ran → task.body = .spent

/-- The end of the body is still to come: it has not been used up, or is being executed. -/
def Owes (task : Task ν) (stage : Option RunStage) : Prop :=
  task.body = .once ∨ stage = some .executing

@[simp] theorem body_afterRun (task : Task ν) : (Barrier.afterRun task).body = task.body := by
  unfold Barrier.afterRun
  split
  · rfl
  · split <;> rfl

@[simp] theorem body_reset (task : Task ν) : task.reset.body = task.body := by
  unfold reset
  split
  · rfl
  · split <;> rfl

@[simp] theorem body_discard (task : Task ν) : task.discard.body = .spent := by
  unfold discard
  split <;> first | assumption | rfl

namespace Fits

variable {task : Task ν} {stage : Option RunStage}

/-- The body of a task that has not ended. -/
theorem body_of_continues (fits : task.Fits stage) (continues : task.phase.isTerminal = false) :
    task.body = if stage = some .executing ∨ stage = some .finishing then task.usedBody
      else task.intactBody :=
  fits.body (by rw [fits.slotted, continues]; rfl)

/-- The body of a one-shot task that is about to be executed, or waits for it. -/
theorem body_of_intact (fits : task.Fits stage) (continues : task.phase.isTerminal = false)
    (once : task.periodic = false) (intact : stage ≠ some .executing ∧ stage ≠ some .finishing) :
    task.body = .once := by
  rw [fits.body_of_continues continues, if_neg (by simp [intact]), intactBody, once]
  rfl

/-- The body of a one-shot task that is being executed, or has been. -/
theorem body_of_used (fits : task.Fits stage) (once : task.periodic = false)
    (used : stage = some .executing ∨ stage = some .finishing) : task.body = .spent := by
  have running : task.phase = .running := by
    rcases used with rfl | rfl
    · exact fits.phase_of_some
    · exact fits.phase_of_some
  rw [fits.body_of_continues (by rw [running]; rfl), if_pos used, usedBody, once]
  rfl

end Fits

end Task

/-- No step makes a task periodic, or a periodic task one-shot. -/
theorem Course.periodic {id : TaskId} {deed : Deed} {task task' : Task ν}
    {stages stages' : List RunStage}
    (course : Course id deed (some task) stages (some task') stages') :
    task'.periodic = task.periodic := by
  cases course with
  | finish => rw [Task.periodic_afterRun]; rfl
  | reset => rw [Task.periodic_reset]
  | discard => rw [Task.periodic_discard]
  | _ => rfl

/-- **Every step keeps what is known of the body of a one-shot task.** -/
theorem Task.Single.step {id : TaskId} {deed : Deed} {task task' : Task ν}
    {stage stage' : Option RunStage} (single : task.Single)
    (passage : Passage id deed (some task) stage (some task') stage') : task'.Single := by
  obtain ⟨course, fits, fits', -, -⟩ := passage
  have once : task'.periodic = false := course.periodic.trans single.once
  generalize own : stage.toList = stages, own' : stage'.toList = stages' at course
  cases course with
  | run => exact ⟨once, single.unrepeated, nofun⟩
  | hold => exact ⟨once, single.unrepeated, nofun⟩
  | replay => exact ⟨once, single.unrepeated, nofun⟩
  | enter =>
      obtain rfl := stage_of_toList own'
      have spent := fits'.of_some.body_of_used once (.inl rfl)
      exact ⟨once, by simp [spent], fun _ => spent⟩
  | leave => exact ⟨once, single.unrepeated, single.ran⟩
  | @finish task _ running =>
      obtain rfl := stage_of_toList own
      have spent := fits.of_some.body_of_used single.once (.inr rfl)
      have still : (Barrier.afterRun (task.setCounted false)).body = .spent := by
        rw [Task.body_afterRun]
        exact spent
      exact ⟨once, by rw [still]; nofun, fun _ => still⟩
  | withdraw => exact ⟨once, single.unrepeated, nofun⟩
  | doom => exact ⟨once, single.unrepeated, single.ran⟩
  | @reset _ _ task =>
      refine ⟨once, by simpa using single.unrepeated, fun ran => ?_⟩
      rw [Task.body_reset]
      -- A task that has ran is left alone by a reset, and no other comes to have ran.
      rcases fits.of_some.reset_cases with ⟨-, -, -, eq⟩ | ⟨-, -, -, eq⟩ | ⟨-, -, -, eq⟩
      · rw [eq] at ran
        cases ran
      · rw [eq] at ran
        cases ran
      · rw [eq] at ran
        exact single.ran ran
  | discard => exact ⟨once, by simp, fun _ => by simp⟩
  | read => exact ⟨once, single.unrepeated, single.ran⟩
  | keep => exact single

/-- A task that was not there before has been accepted. -/
theorem Course.of_none {id : TaskId} {deed : Deed} {task : Task ν} {stages stages' : List RunStage}
    (course : Course id deed none stages (some task) stages') :
    ∃ periodic key produces, task = .accepted id periodic key produces := by
  cases course with
  | accept => exact ⟨_, _, _, rfl⟩

/-- The body of an accepted one-shot task can be executed. -/
theorem Task.Single.accepted {id : TaskId} {periodic produces : Bool} {key : TimerKey}
    (once : periodic = false) : (Task.accepted id periodic key produces : Task ν).Single := by
  subst once
  exact ⟨rfl, nofun, nofun⟩

/-- In every state of a run, the body of a one-shot task can be executed once, and is used up when
the task has ran. -/
theorem Run.single {history : History ν} {s : Scheduler ν} (run : Run history s) {id : TaskId}
    {task : Task ν} (found : s.barrier.task? id = some task) (once : task.periodic = false) :
    task.Single := by
  obtain ⟨-, -, -, holds⟩ := run.induct_task id
    (motive := fun _ record _ => ∀ task, record = some task → task.periodic = false → task.Single)
    (fun _ absent => by cases absent)
    (fun {_ _ _ before after _ _} _ _ passage ih task found once => by
      subst found
      cases before with
      | none =>
          obtain ⟨periodic, key, produces, rfl⟩ := passage.course.of_none
          exact .accepted once
      | some task => exact (ih task rfl (passage.course.periodic.symm.trans once)).step passage)
  exact holds task found once

/-! ## Bodies to be thrown away -/

/-- What is to be thrown away on a stack stays so until it is thrown away. -/
theorem Transition.keeps_discards {b b' : Barrier ν} {stack stack' : Stack ν} {deed : Deed}
    {id : TaskId} (transition : Transition b stack deed b' stack')
    (discards : id ∈ Stack.discards stack) :
    deed = .discard id ∨ id ∈ Stack.discards stack' := by
  cases transition with
  | aside | accept | read => exact .inr discards
  | @ask _ opening answer =>
      refine .inr ?_
      rw [Stack.discards_append, Stack.discards_cons]
      exact List.mem_append_right _ (List.mem_append_right _ discards)
  | refuse => exact .inr (List.mem_append_right _ (List.mem_append_right _ discards))
  | finish after =>
      rcases after with rfl | rfl
      · exact .inr discards
      · exact .inr (List.mem_append_right _ discards)
  | @discard task others =>
      rcases List.mem_cons.mp discards with rfl | below
      · exact .inl rfl
      · exact .inr below
  | @close frame _ closing =>
      have nothing : frame.discards = [] := by
        cases frame with
        | discarding tasks => cases tasks <;> first | rfl | cases closing
        | dropping => cases closing
        | _ => rfl
      rw [Stack.discards_cons, nothing] at discards
      exact .inr discards
  | withdraw | guard | unwind => exact .inr (List.mem_append_right _ discards)
  | settle | expire =>
      rw [List.cons_append, Stack.discards_cons, Stack.discards_append]
      exact .inr (List.mem_append_right _ (List.mem_append_right _ discards))
  | work => cases discards
  | _ => exact .inr discards

section Ends

variable {b b' : Barrier ν} {stack stack' : Stack ν} {deed : Deed} {id : TaskId}

/-- A cancel that ends a task leaves its body to be thrown away. -/
theorem Transition.discards_of_withdraw (transition : Transition b stack deed b' stack')
    (withdrawn : deed = .cancel id .cancelled) : id ∈ Stack.discards stack' := by
  cases transition with
  | withdraw =>
      obtain ⟨rfl, -⟩ := Deed.cancel.inj withdrawn
      exact .head _
  | cancel _ answer => exact absurd (Deed.cancel.inj withdrawn).2 answer
  | _ => cases withdrawn

/-- The run of a doomed task leaves its body to be thrown away. -/
theorem Transition.discards_of_finish (transition : Transition b stack deed b' stack')
    (finished : deed = .finish id) (doomed : (b.finish id).answer = true) :
    id ∈ Stack.discards stack' := by
  cases transition with
  | finish after iff =>
      obtain rfl := Deed.finish.inj finished
      rcases after with rfl | rfl
      · exact absurd rfl (iff.mp doomed)
      · exact .head _
  | _ => cases finished

/-- A reset leaves the bodies of the tasks that it drops to be thrown away. -/
theorem Transition.discards_of_reset (transition : Transition b stack deed b' stack')
    {ending : Ending} {dropped : List TaskId} (isReset : deed = .reset ending dropped)
    (listed : id ∈ dropped) : id ∈ Stack.discards stack' := by
  cases transition with
  | settle | expire | guard | unwind =>
      obtain ⟨-, rfl⟩ := Deed.reset.inj isReset
      exact List.mem_append_left _ listed
  | _ => cases isReset

end Ends

/-- A task that a reset cancels is one that it drops. -/
theorem Task.isDropped_of_reset {task : Task ν} (before : task.phase ≠ .cancelled)
    (after : task.reset.phase = .cancelled) : task.isDropped = true := by
  by_contra kept
  unfold Task.reset at after
  rw [if_neg kept] at after
  split at after
  · cases after
  · exact before after

/-- A task that is cancelled after a run was doomed. -/
theorem Task.isDoomed_of_afterRun {task : Task ν}
    (after : (Barrier.afterRun task).phase = .cancelled) : task.isDoomed = true := by
  by_contra undoomed
  unfold Barrier.afterRun at after
  rw [if_neg undoomed] at after
  split at after
  · cases after
  · cases after

/-- **Whoever ends a task before it could run has to throw its body away.** -/
theorem Scheduler.Sound.buries {s s' : Scheduler ν} {thread : ThreadId} {deed : Deed}
    (sound : s.Sound) (follows : s.Follows thread deed s') {id : TaskId} {task task' : Task ν}
    (found : s.barrier.task? id = some task) (before : task.phase ≠ .cancelled)
    (found' : s'.barrier.task? id = some task') (after : task'.phase = .cancelled) :
    id ∈ Stack.discards (s'.stack thread) := by
  have course := sound.course follows id
  have transition := follows.transition
  have slotted := sound.fits_of_found found
  have finish : ∀ slot, task.slot = some slot → (s.barrier.finish id).answer = slot.doomed :=
    fun _ has => (Barrier.finish_of_slot found has).1
  rw [found, found'] at course
  generalize Stack.stages id (s.stack thread) = stages,
    Stack.stages id (s'.stack thread) = stages' at course
  cases course with
  | run => cases after
  | hold => cases after
  | replay => cases after
  | withdraw => exact transition.discards_of_withdraw rfl
  | finish running =>
      have doomed := Task.isDoomed_of_afterRun after
      rw [Task.isDoomed_setCounted] at doomed
      obtain ⟨stage, -, fits⟩ := slotted
      obtain ⟨slot, has⟩ := fits.exists_slot (by rw [running]; rfl)
      refine transition.discards_of_finish rfl ?_
      rw [finish slot has]
      simpa [Task.isDoomed, has] using doomed
  | reset listed =>
      exact transition.discards_of_reset rfl (listed.mpr (Task.isDropped_of_reset before after))
  | discard cancelled => exact absurd cancelled before
  | enter | leave | doom | read | keep => exact absurd after before

/-- What is left of the body of a cancelled task stays gone, and goes when it is thrown away. -/
theorem Course.body_of_cancelled {id : TaskId} {deed : Deed} {task task' : Task ν}
    {stages' : List RunStage} (course : Course id deed (some task) [] (some task') stages')
    (cancelled : task.phase = .cancelled) (gone : task.body = .spent ∨ deed = .discard id) :
    task'.body = .spent := by
  cases course with
  | run _ phase | replay _ phase | hold _ phase | doom phase =>
      rw [cancelled] at phase
      cases phase
  | withdraw phase => simp [cancelled] at phase
  | discard => exact task.body_discard
  | reset =>
      rw [Task.body_reset]
      exact gone.resolve_right nofun
  | read => exact gone.resolve_right nofun
  | keep apart =>
      refine gone.resolve_right fun discards => ?_
      simp [discards, Deed.concerns] at apart

/-- **A cancelled task has no body any more**, unless somebody has still to throw it away. -/
theorem Run.buried {history : History ν} {s : Scheduler ν} (run : Run history s) {id : TaskId}
    {task : Task ν} (found : s.barrier.task? id = some task) (cancelled : task.phase = .cancelled) :
    task.body = .spent ∨ ∃ thread, id ∈ Stack.discards (s.stack thread) := by
  revert task
  refine run.induct (motive := fun _ s => ∀ {task : Task ν}, s.barrier.task? id = some task →
    task.phase = .cancelled → task.body = .spent ∨
      ∃ thread, id ∈ Stack.discards (s.stack thread)) ?_ ?_
  · intro number config facility worker task found
    cases found
  · intro history s thread now move turn run taken ih task' found' cancelled'
    have follows := Scheduler.follows_of_step taken
    have course := run.sound.course follows id
    rw [found'] at course
    cases found : s.barrier.task? id with
    | none =>
        rw [found] at course
        obtain ⟨periodic, key, produces, rfl⟩ := course.of_none
        cases cancelled'
    | some task =>
        by_cases cancelled : task.phase = .cancelled
        · obtain ⟨stage, staged, fits⟩ := run.sound.fits_of_found found
          obtain rfl := fits.stage_of_ne (by simp [cancelled])
          rw [found, staged thread] at course
          rcases ih found cancelled with spent | ⟨burier, discards⟩
          · exact .inl (course.body_of_cancelled cancelled (.inl spent))
          · by_cases own : burier = thread
            · subst own
              rcases follows.transition.keeps_discards discards with thrown | still
              · exact .inl (course.body_of_cancelled cancelled (.inr thrown))
              · exact .inr ⟨burier, still⟩
            · rw [← follows.others burier own] at discards
              exact .inr ⟨burier, discards⟩
        · exact .inr ⟨thread, run.sound.buries follows found cancelled found' cancelled'⟩

end TaskBarrier
