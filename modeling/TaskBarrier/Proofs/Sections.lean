import Mathlib.Data.List.Basic
import TaskBarrier.Barrier.Accept
import TaskBarrier.Barrier.Await
import TaskBarrier.Barrier.Cancel
import TaskBarrier.Barrier.Firing

/-!
# Critical sections, one task at a time

A section of the barrier walks over a list of tasks.  Here it is described through the eyes of a
reader who looks up a single number: `Barrier.task?` after the section, in terms of `Barrier.task?`
before it.

The facts come in three layers.

* **Operations on one task** keep its number, and most keep its slot.
* **The primitives** `modify`, `count` and `uncount` change one task and leave all others.
* **The sections** `fire`, `popHeld`, `finish`, `cancel` and `reset` are put together from the
  primitives.  For each there is one fact for the case in which it does something, and one that
  says that it does nothing otherwise.

What most sections leave alone is said by `Barrier.Stays`: they change the counter, the hold queue
and the tasks, and neither the flag nor the facility.
-/

namespace TaskBarrier

variable {ν : Type}

/-! ## Operations on one task -/

namespace Task

@[simp] theorem id_setCounted (task : Task ν) (counted : Bool) :
    (task.setCounted counted).id = task.id := rfl

@[simp] theorem id_doom (task : Task ν) : task.doom.id = task.id := rfl

@[simp] theorem id_leave (task : Task ν) (result : Option ν) : (task.leave result).id = task.id :=
  rfl

@[simp] theorem id_discard (task : Task ν) : task.discard.id = task.id := by
  unfold discard
  split <;> rfl

@[simp] theorem id_reset (task : Task ν) : task.reset.id = task.id := by
  unfold reset
  split
  · rfl
  · split <;> rfl

@[simp] theorem id_afterRun (task : Task ν) : (Barrier.afterRun task).id = task.id := by
  unfold Barrier.afterRun
  split
  · rfl
  · split <;> rfl

@[simp] theorem periodic_discard (task : Task ν) : task.discard.periodic = task.periodic := by
  unfold discard
  split <;> rfl

@[simp] theorem periodic_reset (task : Task ν) : task.reset.periodic = task.periodic := by
  unfold reset
  split
  · rfl
  · split <;> rfl

@[simp] theorem periodic_afterRun (task : Task ν) :
    (Barrier.afterRun task).periodic = task.periodic := by
  unfold Barrier.afterRun
  split
  · rfl
  · split <;> rfl

@[simp] theorem isCounted_setCounted (task : Task ν) (counted : Bool) :
    (task.setCounted counted).isCounted = (task.slot.isSome && counted) := by
  cases slot : task.slot <;> simp [setCounted, isCounted, slot]

/-- A task without a slot is never counted. -/
theorem setCounted_of_none {task : Task ν} (none : task.slot = none) (counted : Bool) :
    task.setCounted counted = task := by
  cases task
  simp_all [setCounted]

/-- Counting a task that is counted changes nothing. -/
theorem setCounted_true_of_isCounted {task : Task ν} (counted : task.isCounted = true) :
    task.setCounted true = task := by
  cases task with
  | mk id periodic phase slot body executing promise =>
      cases slot with
      | none => rfl
      | some slot => cases slot; simp_all [setCounted, isCounted]

/-- Not counting a task that is not counted changes nothing. -/
theorem setCounted_false_of_isCounted {task : Task ν} (counted : task.isCounted = false) :
    task.setCounted false = task := by
  cases task with
  | mk id periodic phase slot body executing promise =>
      cases slot with
      | none => rfl
      | some slot => cases slot; simp_all [setCounted, isCounted]

theorem isCounted_afterRun {task : Task ν} (uncounted : task.isCounted = false) :
    (Barrier.afterRun task).isCounted = false := by
  unfold Barrier.afterRun
  split
  · rfl
  · split
    · exact uncounted
    · rfl

theorem isCounted_reset (task : Task ν) : task.reset.isCounted = false := by
  unfold reset
  split
  · rfl
  · split <;> simp

end Task

namespace Barrier

/-! ## Looking up a task -/

theorem task?_id {b : Barrier ν} {id : TaskId} {task : Task ν} (found : b.task? id = some task) :
    task.id = id := by
  simpa using List.find?_some found

theorem task?_mem {b : Barrier ν} {id : TaskId} {task : Task ν} (found : b.task? id = some task) :
    task ∈ b.tasks :=
  List.mem_of_find?_eq_some found

theorem slotted?_eq_some_iff {b : Barrier ν} {id : TaskId} {task : Task ν} {slot : Slot} :
    b.slotted? id = some (task, slot) ↔ b.task? id = some task ∧ task.slot = some slot := by
  unfold slotted?
  cases b.task? id with
  | none => simp
  | some found =>
      simp only [Option.map_eq_some_iff, Prod.mk.injEq, Option.some.injEq]
      constructor
      · rintro ⟨slot, has, rfl, rfl⟩
        exact ⟨rfl, has⟩
      · rintro ⟨rfl, has⟩
        exact ⟨slot, has, rfl, rfl⟩

theorem slotted?_eq_none_iff {b : Barrier ν} {id : TaskId} :
    b.slotted? id = none ↔ ∀ task, b.task? id = some task → task.slot = none := by
  unfold slotted?
  cases b.task? id <;> simp

theorem slotted?_of_task? {b : Barrier ν} {id : TaskId} {task : Task ν} {slot : Slot}
    (found : b.task? id = some task) (has : task.slot = some slot) :
    b.slotted? id = some (task, slot) :=
  slotted?_eq_some_iff.mpr ⟨found, has⟩

/-! ## The primitives -/

/-- Changing one task, as seen under any number. -/
theorem task?_modify (b : Barrier ν) (id other : TaskId) (change : Task ν → Task ν)
    (same : ∀ task, (change task).id = task.id) :
    (b.modify id change).task? other =
      if other = id then (b.task? id).map change else b.task? other := by
  split
  · next h =>
    rw [h]
    exact b.task?_modify_self id change same
  · next h => exact b.task?_modify_of_ne change same h

/-- A change that leaves the task as it is cannot be seen. -/
theorem task?_modify_of_fixed (b : Barrier ν) {id : TaskId} {change : Task ν → Task ν}
    (same : ∀ task, (change task).id = task.id)
    (fixed : (b.task? id).map change = b.task? id) (other : TaskId) :
    (b.modify id change).task? other = b.task? other := by
  rw [b.task?_modify id other change same, fixed]
  split
  · next h => rw [h]
  · rfl

/-- Counting a task, as seen under any number. -/
theorem task?_count (b : Barrier ν) (id other : TaskId) :
    (b.count id).task? other = (b.modify id (·.setCounted true)).task? other := by
  unfold count
  split
  · next task slot has =>
    split
    · next counted =>
      -- The flag is set already, so that setting it again could not be seen.
      obtain ⟨found, has⟩ := slotted?_eq_some_iff.mp has
      refine (b.task?_modify_of_fixed (Task.id_setCounted · true) ?_ other).symm
      rw [found, Option.map_some,
        Task.setCounted_true_of_isCounted (by simp [Task.isCounted, has, counted])]
    · rfl
  · next none =>
    refine (b.task?_modify_of_fixed (Task.id_setCounted · true) ?_ other).symm
    cases found : b.task? id with
    | none => rfl
    | some task =>
        rw [Option.map_some, task.setCounted_of_none (slotted?_eq_none_iff.mp none task found)]

/-- Not counting a task any more, as seen under any number. -/
theorem task?_uncount (b : Barrier ν) (id other : TaskId) :
    (b.uncount id).task? other = (b.modify id (·.setCounted false)).task? other := by
  unfold uncount
  split
  · next task slot has =>
    split
    · rfl
    · next uncounted =>
      obtain ⟨found, has⟩ := slotted?_eq_some_iff.mp has
      refine (b.task?_modify_of_fixed (Task.id_setCounted · false) ?_ other).symm
      rw [found, Option.map_some,
        Task.setCounted_false_of_isCounted (by simp [Task.isCounted, has, uncounted])]
  · next none =>
    refine (b.task?_modify_of_fixed (Task.id_setCounted · false) ?_ other).symm
    cases found : b.task? id with
    | none => rfl
    | some task =>
        rw [Option.map_some, task.setCounted_of_none (slotted?_eq_none_iff.mp none task found)]

/-- Changing one task after another change of it. -/
theorem task?_modify_modify (b c : Barrier ν) (id other : TaskId)
    (first second : Task ν → Task ν) (same₁ : ∀ task, (first task).id = task.id)
    (same₂ : ∀ task, (second task).id = task.id)
    (seen : ∀ other, c.task? other = (b.modify id first).task? other) :
    (c.modify id second).task? other =
      (b.modify id fun task => second (first task)).task? other := by
  rw [c.task?_modify id other second same₂, seen, seen, b.task?_modify id id first same₁,
    b.task?_modify id other first same₁,
    b.task?_modify id other _ fun task => (same₂ _).trans (same₁ task)]
  split
  · rw [if_pos rfl, Option.map_map]
    rfl
  · rfl

@[simp] theorem held_count (b : Barrier ν) (id : TaskId) : (b.count id).held = b.held := by
  unfold count
  split
  · split <;> rfl
  · rfl

@[simp] theorem held_uncount (b : Barrier ν) (id : TaskId) : (b.uncount id).held = b.held := by
  unfold uncount
  split
  · split <;> rfl
  · rfl

/-! ## The sections -/

/-- **An accept that succeeds** draws the next number and appends a task. -/
theorem accept_of_accepted {b : Barrier ν} {now : Instant} {delay : Duration} {cadence : Cadence}
    {produces : Bool} {id : TaskId}
    (answer : (b.accept now delay cadence produces).answer = .accepted id) :
    id = b.nextId ∧ ∃ (key : TimerKey) (facility : Facility TaskId),
      (b.accept now delay cadence produces).barrier =
        { b with
          facility := facility
          nextId := b.nextId.next
          tasks := b.tasks ++ [.accepted b.nextId cadence.isPeriodic key produces]
          outstanding := b.outstanding + 1 } := by
  unfold accept at answer ⊢
  by_cases degenerate : cadence.isDegenerate = true
  · simp [degenerate] at answer
  · cases arming : b.facility.arm now delay cadence b.nextId with
    | mk reply facility =>
        cases reply with
        | armed key =>
            simp only [degenerate, Bool.false_eq_true, if_false, arming,
              Acceptance.accepted.injEq] at answer ⊢
            exact ⟨answer.symm, key, facility, rfl⟩
        | refused => simp [degenerate, arming] at answer
        | overflow => simp [degenerate, arming] at answer

/-- **A firing has an effect only on a live task.** -/
theorem fire_cases (b : Barrier ν) (id : TaskId) :
    (∃ task, b.task? id = some task ∧ task.slot.isSome = true ∧ task.phase = .live ∧
      b.fire id = b.fireLive id) ∨
    ((b.fire id).barrier = b ∧
      ((b.fire id).answer = .ignored ∨ (b.fire id).answer = .coalesced)) := by
  unfold fire
  split
  · exact .inr ⟨rfl, .inl rfl⟩
  · next task slot has =>
    obtain ⟨found, has⟩ := slotted?_eq_some_iff.mp has
    cases phase : task.phase with
    | live => exact .inl ⟨task, found, by rw [has]; rfl, phase, rfl⟩
    | held | running => exact .inr ⟨rfl, .inr rfl⟩
    | ran | cancelled => exact .inr ⟨rfl, .inl rfl⟩

/-- A live task that fires runs or is held, as the barrier is draining or not. -/
theorem answer_fireLive (b : Barrier ν) (id : TaskId) :
    (b.fireLive id).answer = if b.draining then .run else .held := by
  unfold fireLive
  split <;> rfl

/-- What a live task that fires becomes. -/
theorem task?_fireLive (b : Barrier ν) (id other : TaskId) :
    (b.fireLive id).barrier.task? other =
      (b.modify id fun task => (task.setCounted true).setPhase
        (if b.draining then .running else .held)).task? other := by
  unfold fireLive
  split <;>
    exact b.task?_modify_modify (b.count id) id other (·.setCounted true) _ (fun _ => rfl)
      (fun _ => rfl) (b.task?_count id)

/-- A replay takes the front of the hold queue. -/
theorem popHeld_of_run {b : Barrier ν} {id : TaskId} (answer : b.popHeld.answer = .run id) :
    ∃ task rest, b.held = id :: rest ∧ b.task? id = some task ∧ task.slot.isSome = true ∧
      b.popHeld.barrier = { b with held := rest }.modify id (·.setPhase .running) := by
  unfold popHeld at answer ⊢
  cases held : b.held with
  | nil => simp [held] at answer
  | cons front rest =>
      cases has : b.slotted? front with
      | none => simp [held, has] at answer
      | some entry =>
          obtain rfl : front = id := by simpa [held, has] using answer
          obtain ⟨found, slotted⟩ := slotted?_eq_some_iff.mp has
          exact ⟨entry.1, rest, rfl, found, by rw [slotted]; rfl, by simp [has]⟩

/-- A task without a slot is passed over. -/
theorem popHeld_of_skipped {b : Barrier ν} (answer : b.popHeld.answer = .skipped) :
    ∃ id rest, b.held = id :: rest ∧ b.slotted? id = none := by
  unfold popHeld at answer
  split at answer
  · cases answer
  · next front rest held =>
    simp only at answer
    split at answer
    · next none => exact ⟨front, rest, held, none⟩
    · cases answer

/-- The end of a run of a task that has a slot. -/
theorem finish_of_slot {b : Barrier ν} {id : TaskId} {task : Task ν} {slot : Slot}
    (found : b.task? id = some task) (has : task.slot = some slot) :
    (b.finish id).answer = slot.doomed ∧
      (b.finish id).barrier = (b.uncount id).modify id afterRun := by
  have uncounted : (b.uncount id).slotted? id =
      some (task.setCounted false, { slot with counted := false }) := by
    refine slotted?_of_task? ?_ (by simp [Task.setCounted, has])
    rw [b.task?_uncount id id, b.task?_modify_self id _ (Task.id_setCounted · false), found]
    rfl
  unfold finish
  simp only [uncounted, and_self]

/-- **The three answers to a cancel.** -/
theorem cancel_cases (b : Barrier ν) (id : TaskId) :
    (∃ task slot, b.task? id = some task ∧ task.slot = some slot ∧
      (task.phase = .live ∧ b.cancel id = (b.disarm slot.key).withdraw id ∨
        task.phase = .held ∧ b.cancel id = ((b.disarm slot.key).unhold id).withdraw id)) ∨
    (∃ task slot, b.task? id = some task ∧ task.slot = some slot ∧ task.phase = .running ∧
      task.periodic = true ∧ slot.doomed = false ∧ (b.cancel id).answer = .doomed ∧
      (b.cancel id).barrier = (b.disarm slot.key).modify id (·.doom)) ∨
    ((b.cancel id).answer = .tooLate ∧ (b.cancel id).barrier = b) := by
  unfold cancel
  split
  · exact .inr (.inr ⟨rfl, rfl⟩)
  · next task slot has =>
    obtain ⟨found, has⟩ := slotted?_eq_some_iff.mp has
    cases phase : task.phase with
    | live => exact .inl ⟨task, slot, found, has, .inl ⟨phase, rfl⟩⟩
    | held => exact .inl ⟨task, slot, found, has, .inr ⟨phase, rfl⟩⟩
    | running =>
        simp only
        split
        · next dooms =>
          obtain ⟨periodic, undoomed⟩ : task.periodic = true ∧ slot.doomed = false := by
            simpa using dooms
          exact .inr (.inl ⟨task, slot, found, has, phase, periodic, undoomed, rfl, rfl⟩)
        · exact .inr (.inr ⟨rfl, rfl⟩)
    | ran | cancelled => exact .inr (.inr ⟨rfl, rfl⟩)

/-- What a task that is withdrawn becomes. -/
theorem task?_withdraw (b : Barrier ν) (id other : TaskId) :
    (b.withdraw id).barrier.task? other =
      (b.modify id fun task => (task.setCounted false).retire .cancelled).task? other := by
  unfold withdraw
  exact b.task?_modify_modify (b.uncount id) id other (·.setCounted false) _ (fun _ => rfl)
    (fun _ => rfl) (b.task?_uncount id)

/-- A value that is read may change the promise of its task. -/
theorem readValue_cases (b : Barrier ν) (id : TaskId) :
    (b.readValue id).2 = b ∨ ∃ task promise, b.task? id = some task ∧
      (b.readValue id).2 = b.modify id fun task => { task with promise := promise } := by
  unfold readValue
  cases found : b.task? id with
  | none => exact .inl rfl
  | some task =>
      cases promised : task.promise with
      | none =>
          simp only [Option.bind_some, promised]
          exact .inl trivial
      | some promise =>
          simp only [Option.bind_some, promised]
          exact .inr ⟨task, some promise.read.2, rfl, rfl⟩

/-- A reset, as seen under any number. -/
theorem task?_reset (b : Barrier ν) (id : TaskId) :
    b.reset.task? id = (b.task? id).map (·.reset) := by
  unfold task? reset
  rw [List.find?_map]
  congr 1
  refine congrArg (List.find? · b.tasks) (funext fun task => ?_)
  simp

/-- An accepted task is found under its number, and no other task is touched. -/
theorem task?_append (tasks : List (Task ν)) (task : Task ν) (id : TaskId)
    (fresh : ∀ other ∈ tasks, other.id ≠ task.id) :
    (tasks ++ [task]).find? (·.id == id) =
      if id = task.id then some task else tasks.find? (·.id == id) := by
  rw [List.find?_append]
  split
  · next h =>
    have absent : tasks.find? (·.id == id) = none := by
      rw [List.find?_eq_none]
      intro other member
      simpa [h] using fresh other member
    rw [absent]
    simp [h]
  · next h => simp [Ne.symm h]

/-! ## What stays as it is -/

/-- Two barriers that differ at most in the counter, in the hold queue and in their tasks. -/
structure Stays (b b' : Barrier ν) : Prop where
  config : b'.config = b.config
  facility : b'.facility = b.facility
  draining : b'.draining = b.draining
  nextId : b'.nextId = b.nextId

namespace Stays

theorem refl (b : Barrier ν) : b.Stays b := ⟨rfl, rfl, rfl, rfl⟩

theorem trans {b b' b'' : Barrier ν} (first : b.Stays b') (second : b'.Stays b'') :
    b.Stays b'' :=
  ⟨second.config.trans first.config, second.facility.trans first.facility,
    second.draining.trans first.draining, second.nextId.trans first.nextId⟩

end Stays

theorem stays_modify (b : Barrier ν) (id : TaskId) (change : Task ν → Task ν) :
    b.Stays (b.modify id change) := ⟨rfl, rfl, rfl, rfl⟩

theorem stays_count (b : Barrier ν) (id : TaskId) : b.Stays (b.count id) := by
  unfold count
  split
  · split
    · exact .refl b
    · exact ⟨rfl, rfl, rfl, rfl⟩
  · exact .refl b

theorem stays_uncount (b : Barrier ν) (id : TaskId) : b.Stays (b.uncount id) := by
  unfold uncount
  split
  · split
    · exact ⟨rfl, rfl, rfl, rfl⟩
    · exact .refl b
  · exact .refl b

theorem stays_fire (b : Barrier ν) (id : TaskId) : b.Stays (b.fire id).barrier := by
  rcases b.fire_cases id with ⟨_, _, _, _, eq⟩ | ⟨eq, _⟩
  · rw [eq]
    unfold fireLive
    split
    · exact (b.stays_count id).trans (stays_modify _ id _)
    · exact (b.stays_count id).trans ⟨rfl, rfl, rfl, rfl⟩
  · rw [eq]
    exact .refl b

theorem stays_popHeld (b : Barrier ν) : b.Stays b.popHeld.barrier := by
  unfold popHeld
  split
  · exact .refl b
  · simp only
    split <;> exact ⟨rfl, rfl, rfl, rfl⟩

theorem stays_finish (b : Barrier ν) (id : TaskId) : b.Stays (b.finish id).barrier := by
  unfold finish
  simp only
  split
  · exact b.stays_uncount id
  · exact (b.stays_uncount id).trans (stays_modify _ id _)

theorem stays_readValue (b : Barrier ν) (id : TaskId) : b.Stays (b.readValue id).2 := by
  rcases b.readValue_cases id with eq | ⟨_, _, _, eq⟩
  · rw [eq]
    exact .refl b
  · rw [eq]
    exact b.stays_modify id _

theorem stays_enterBody? {b b' : Barrier ν} {id : TaskId} {executes : Bool}
    (entered : b.enterBody? id = some (executes, b')) : b.Stays b' := by
  unfold enterBody? at entered
  split at entered
  · cases entered
  · obtain ⟨_, -, eq⟩ := Option.map_eq_some_iff.mp entered
    obtain ⟨-, rfl⟩ := Prod.mk.inj eq
    exact b.stays_modify id _

theorem stays_discard? {b b' : Barrier ν} {id : TaskId} (discarded : b.discard? id = some b') :
    b.Stays b' := by
  unfold discard? at discarded
  split at discarded
  · obtain rfl := Option.some.inj discarded
    exact .refl b
  · split at discarded
    · cases discarded
    · obtain rfl := Option.some.inj discarded
      exact b.stays_modify id _

/-- A cancel may disarm an entry, and changes nothing else that other sections leave alone. -/
theorem stays_cancel (b : Barrier ν) (id : TaskId) :
    Stays { b with facility := (b.cancel id).barrier.facility } (b.cancel id).barrier := by
  rcases b.cancel_cases id with ⟨_, slot, _, _, ⟨_, eq⟩ | ⟨_, eq⟩⟩ |
    ⟨_, _, _, _, _, _, _, _, eq⟩ | ⟨_, eq⟩
  · have stays := (b.disarm slot.key).stays_uncount id
    rw [eq]
    exact ⟨stays.config, rfl, stays.draining, stays.nextId⟩
  · have stays := ((b.disarm slot.key).unhold id).stays_uncount id
    rw [eq]
    exact ⟨stays.config, rfl, stays.draining, stays.nextId⟩
  · rw [eq]
    exact ⟨rfl, rfl, rfl, rfl⟩
  · rw [eq]
    exact .refl b

end Barrier

end TaskBarrier
