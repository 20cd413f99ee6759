import Mathlib.Data.List.Basic
import TaskBarrier.Proofs.Coherence
import TaskBarrier.Proofs.Orderly

/-!
# A barrier without some of its tasks

What becomes of a task depends on its own record, on the counter, the hold queue and the flag, and
on nothing in the records of other tasks.  So some tasks may be taken away: all sections that
concern the others answer the same, and leave the same behind.

This is so for any tasks in most sections.  Where the counter or the hold queue is changed because
of a task, the task must not be one of those taken away, unless it is *past*: a one-shot task that
has started, and is not counted any more.  Such a task is never held, fires in vain, is cancelled
too late, and its end is not counted.

What the worker of a timer is doing, and what it has still to do, is taken away as well.  The
answers of a timer to those who arm, disarm and shut it down do not depend on it, but for one: who
shuts a timer down may have to wait for the worker.

## Main Definitions

* `Facility.bare`: a timer without its entries and its worker.
* `Barrier.without`, `Section.without`: a barrier without the listed tasks.
* `Task.IsPast`, `Barrier.Past`: one-shot tasks that have started, and are not counted.
-/

namespace TaskBarrier

variable {ν : Type}

/-! ## Facilities -/

/-- A timer without its entries and without what its worker is doing.  A registry is left as it
is. -/
def Facility.bare {κ : Type} : Facility κ → Facility κ
  | .byHand registry => .byHand registry
  | .byClock timer =>
      .byClock { Timer.start with nextKey := timer.nextKey, isShutdown := timer.isShutdown }

namespace Facility

variable {κ : Type} (facility : Facility κ)

@[simp] theorem bare_disarm (key : TimerKey) :
    (facility.disarm key).bare = facility.bare.disarm key := by
  cases facility <;> rfl

theorem bare_foldl_disarm (keys : List TimerKey) :
    (keys.foldl disarm facility).bare = keys.foldl disarm facility.bare := by
  induction keys generalizing facility with
  | nil => rfl
  | cons key keys ih => rw [List.foldl_cons, ih, bare_disarm, List.foldl_cons]

/-- Whether an entry can be armed, and under which key, does not depend on the other entries. -/
theorem arm_bare (now : Instant) (delay : Duration) (cadence : Cadence) (callback : κ) :
    (facility.bare.arm now delay cadence callback).1 =
        (facility.arm now delay cadence callback).1 ∧
      (facility.bare.arm now delay cadence callback).2.bare =
        (facility.arm now delay cadence callback).2.bare := by
  cases facility with
  | byHand registry => exact ⟨rfl, rfl⟩
  | byClock timer =>
      simp only [arm, bare, Timer.arm]
      split
      · exact ⟨rfl, rfl⟩
      · cases now.after? delay <;> exact ⟨rfl, rfl⟩

/-- The worker that looks changes nothing but its own entries. -/
theorem bare_poll (timer : Timer κ) (now : Instant) :
    (byClock (timer.poll now).2).bare = (byClock timer).bare := by
  rcases timer.poll_cases now with ⟨-, eq⟩ | ⟨-, -, eq⟩ | ⟨-, -, _, _, -, -, -, eq⟩ |
    ⟨-, -, _, first, rest, taken, -, -, -, -, eq⟩
  · rw [eq]
  · rw [eq]
    rfl
  · rw [eq]
    rfl
  · rw [eq]
    simp only [bare, Timer.take]
    split <;> rfl

/-- The worker that comes back from a callback changes nothing but its own entries. -/
theorem bare_conclude (timer : Timer κ) (now : Instant) :
    (byClock (timer.conclude now)).bare = (byClock timer).bare := by
  rcases timer.conclude_cases now with ⟨_, eq⟩ | ⟨_, _, -, eq⟩
  · rw [eq]
    rfl
  · rw [eq]
    simp only [bare, Timer.rearm]
    split <;> rfl

/-- A shutdown closes a timer, whatever its worker is doing. -/
theorem shutdown_bare : facility.bare.shutdown.2.bare = facility.shutdown.2.bare := by
  cases facility with
  | byHand registry => rfl
  | byClock timer =>
      simp only [shutdown, bare, Timer.shutdown]
      split <;> rfl

end Facility

/-! ## Barriers -/

/-- A task whose body starts to be executed keeps its number. -/
theorem Task.id_enter? {task : Task ν} {entry : Bool × Task ν}
    (entered : task.enter? = some entry) : entry.2.id = task.id := by
  unfold enter? at entered
  split at entered
  · cases entered
  · split at entered <;> rw [← Option.some.inj entered]

/-- A one-shot task that has started, and is not counted any more. -/
structure Task.IsPast (task : Task ν) : Prop where
  once : task.periodic = false
  uncounted : task.isCounted = false
  started : task.phase = .running ∨ task.phase = .ran

/-- The barrier without the listed tasks, and without what the worker of its timer is doing. -/
def Barrier.without (past : List TaskId) (b : Barrier ν) : Barrier ν :=
  { b with
    tasks := b.tasks.filter fun task => !past.contains task.id
    facility := b.facility.bare }

/-- The outcome of a section, without the listed tasks. -/
def Section.without {α : Type} (past : List TaskId) (outcome : Section ν α) : Section ν α :=
  { outcome with barrier := outcome.barrier.without past }

namespace Barrier

variable {past : List TaskId} (b : Barrier ν) {id : TaskId}

@[simp] theorem outstanding_without : (b.without past).outstanding = b.outstanding := rfl

@[simp] theorem held_without : (b.without past).held = b.held := rfl

@[simp] theorem draining_without : (b.without past).draining = b.draining := rfl

@[simp] theorem config_without : (b.without past).config = b.config := rfl

@[simp] theorem nextId_without : (b.without past).nextId = b.nextId := rfl

@[simp] theorem facility_without : (b.without past).facility = b.facility.bare := rfl

/-- All other tasks are found. -/
theorem task?_without (apart : id ∉ past) : (b.without past).task? id = b.task? id := by
  unfold task? without
  rw [List.find?_filter]
  refine congrArg (List.find? · b.tasks) (funext fun task => ?_)
  by_cases same : task.id = id
  · simp [same, apart]
  · simp [same]

theorem slotted?_without (apart : id ∉ past) : (b.without past).slotted? id = b.slotted? id := by
  unfold slotted?
  rw [b.task?_without apart]

/-- Changing one of the other tasks. -/
theorem without_modify (past : List TaskId) (id : TaskId) (change : Task ν → Task ν)
    (same : ∀ task, task.id = id → (change task).id = id) :
    (b.modify id change).without past = (b.without past).modify id change := by
  unfold without modify
  simp only [List.filter_map]
  congr 2
  refine List.filter_congr fun task _ => ?_
  simp only [Function.comp_apply]
  split
  · next named => rw [same task (beq_iff_eq.mp named), beq_iff_eq.mp named]
  · rfl

/-- Changing one of the tasks that are taken away cannot be seen. -/
theorem without_modify_of_mem (listed : id ∈ past) (change : Task ν → Task ν)
    (same : ∀ task, task.id = id → (change task).id = id) :
    (b.modify id change).without past = b.without past := by
  rw [b.without_modify past id change same]
  unfold modify without
  congr 1
  refine (List.map_congr_left fun task member => ?_).trans (List.map_id _)
  have other : task.id ≠ id := by
    rintro rfl
    simp [listed] at member
  simp [other]

@[simp] theorem without_disarm (past : List TaskId) (key : TimerKey) :
    (b.disarm key).without past = (b.without past).disarm key := by
  simp [disarm, without]

@[simp] theorem without_unhold (past : List TaskId) (id : TaskId) :
    (b.unhold id).without past = (b.without past).unhold id := rfl

theorem count_without (apart : id ∉ past) :
    (b.without past).count id = (b.count id).without past := by
  unfold count
  rw [b.slotted?_without apart]
  cases b.slotted? id with
  | none => rfl
  | some entry =>
      simp only
      split
      · rfl
      · rw [← b.without_modify past id (·.setCounted true) fun _ named => named]
        rfl

theorem uncount_without (apart : id ∉ past) :
    (b.without past).uncount id = (b.uncount id).without past := by
  unfold uncount
  rw [b.slotted?_without apart]
  cases b.slotted? id with
  | none => rfl
  | some entry =>
      simp only
      split
      · rw [← b.without_modify past id (·.setCounted false) fun _ named => named]
        rfl
      · rfl

/-! ## Sections that concern other tasks -/

theorem fire_without (apart : id ∉ past) :
    (b.without past).fire id = (b.fire id).without past := by
  unfold fire
  rw [b.slotted?_without apart]
  cases b.slotted? id with
  | none => rfl
  | some entry =>
      simp only
      cases entry.1.phase with
      | live =>
          simp only [fireLive, b.count_without apart, draining_without]
          rw [← without_modify _ past id (·.setPhase .running) fun _ named => named,
            ← without_modify _ past id (·.setPhase .held) fun _ named => named]
          split <;> rfl
      | held | running | ran | cancelled => rfl

theorem popHeld_without (apart : ∀ id ∈ b.held, id ∉ past) :
    (b.without past).popHeld = b.popHeld.without past := by
  unfold popHeld
  rw [held_without]
  cases held : b.held with
  | nil => rfl
  | cons front rest =>
      simp only
      rw [b.slotted?_without (apart front (by simp [held]))]
      cases b.slotted? front with
      | none => rfl
      | some entry =>
          have popped := ({ b with held := rest } : Barrier ν).without_modify past front
            (·.setPhase .running) fun _ named => named
          simp only [Section.without, popped]
          rfl

theorem finish_without (apart : id ∉ past) :
    (b.without past).finish id = (b.finish id).without past := by
  unfold finish
  simp only [b.uncount_without apart, slotted?_without _ apart, outstanding_without]
  cases (b.uncount id).slotted? id with
  | none => rfl
  | some entry =>
      simp only
      rw [← without_modify _ past id afterRun fun task named => task.id_afterRun.trans named]
      rfl

theorem withdraw_without (apart : id ∉ past) :
    (b.without past).withdraw id = (b.withdraw id).without past := by
  unfold withdraw
  simp only [b.uncount_without apart, outstanding_without]
  rw [← without_modify _ past id (·.retire .cancelled) fun _ named => named]
  rfl

theorem cancel_without (apart : id ∉ past) :
    (b.without past).cancel id = (b.cancel id).without past := by
  unfold cancel
  rw [b.slotted?_without apart]
  cases b.slotted? id with
  | none => rfl
  | some entry =>
      obtain ⟨task, slot⟩ := entry
      simp only
      cases task.phase with
      | live =>
          simp only [← without_disarm]
          exact (b.disarm slot.key).withdraw_without apart
      | held =>
          simp only [← without_disarm, ← without_unhold]
          exact ((b.disarm slot.key).unhold id).withdraw_without apart
      | running =>
          have doomed := (b.disarm slot.key).without_modify past id (·.doom) fun _ named => named
          simp only [← without_disarm, ← doomed]
          split <;> rfl
      | ran | cancelled => rfl

theorem enterBody?_without (apart : id ∉ past) : (b.without past).enterBody? id =
    (b.enterBody? id).map fun (execute, b) => (execute, b.without past) := by
  unfold enterBody?
  rw [b.task?_without apart]
  cases found : b.task? id with
  | none => rfl
  | some task =>
      simp only
      cases entered : task.enter? with
      | none => rfl
      | some entry =>
          have named : entry.2.id = id := (Task.id_enter? entered).trans (task?_id found)
          simp only [Option.map_some,
            ← b.without_modify past id (fun _ => entry.2) fun _ _ => named]

theorem leaveBody_without (past : List TaskId) (id : TaskId) (result : Option ν) :
    (b.without past).leaveBody id result = (b.leaveBody id result).without past :=
  (b.without_modify past id (·.leave result) fun _ named => named).symm

theorem discard?_without (apart : id ∉ past) :
    (b.without past).discard? id = (b.discard? id).map (·.without past) := by
  unfold discard?
  rw [b.task?_without apart]
  cases b.task? id with
  | none => rfl
  | some task =>
      simp only [← b.without_modify past id (·.discard)
        fun task named => task.id_discard.trans named]
      split <;> rfl

theorem readValue_without (apart : id ∉ past) : (b.without past).readValue id =
    ((b.readValue id).1, (b.readValue id).2.without past) := by
  unfold readValue
  rw [b.task?_without apart]
  cases (b.task? id).bind (·.promise) with
  | none => rfl
  | some promise =>
      simp only
      rw [← b.without_modify past id ({ · with promise := some promise.read.2 })
        fun _ named => named]

/-- An accept does not depend on the tasks that there are. -/
theorem accept_without (past : List TaskId) (now : Instant) (delay : Duration)
    (cadence : Cadence) (produces : Bool) :
    ((b.without past).accept now delay cadence produces).answer =
        (b.accept now delay cadence produces).answer ∧
      ((b.without past).accept now delay cadence produces).barrier.without past =
        (b.accept now delay cadence produces).barrier.without past := by
  have again : (b.without past).without past = b.without past := by
    unfold without
    congr 1
    · cases b.facility <;> rfl
    · rw [List.filter_filter]
      simp only [Bool.and_self]
  unfold accept
  split
  · exact ⟨rfl, again⟩
  · obtain ⟨answer, facility⟩ := b.facility.arm_bare now delay cadence b.nextId
    simp only [facility_without, nextId_without, answer]
    have twice : (b.tasks.filter fun task => !past.contains task.id).filter
        (fun task => !past.contains task.id) = b.tasks.filter fun task => !past.contains task.id :=
      congrArg Barrier.tasks again
    cases (b.facility.arm now delay cadence b.nextId).1 with
    | refused | overflow =>
        refine ⟨rfl, ?_⟩
        simp only [without, facility, twice]
    | armed key =>
        refine ⟨rfl, ?_⟩
        simp only [without, facility, List.filter_append, twice]

/-! ## Sections that concern the tasks taken away -/

/-- The listed tasks are there, and past. -/
def Past (past : List TaskId) (b : Barrier ν) : Prop :=
  ∀ id ∈ past, ∃ task, b.task? id = some task ∧ task.IsPast

variable {b : Barrier ν}

/-- A firing of a task that is past leads to nothing. -/
theorem Past.fire (started : b.Past past) (listed : id ∈ past) :
    (b.fire id).barrier = b ∧
      ((b.fire id).answer = .ignored ∨ (b.fire id).answer = .coalesced) := by
  obtain ⟨task, found, -, -, phase⟩ := started id listed
  rcases b.fire_cases id with ⟨other, same, -, live, -⟩ | nothing
  · obtain rfl := Option.some.inj (found.symm.trans same)
    rcases phase with phase | phase
    · rw [phase] at live
      cases live
    · rw [phase] at live
      cases live
  · exact nothing

/-- A cancel of a task that is past comes too late. -/
theorem Past.cancel (started : b.Past past) (listed : id ∈ past) :
    (b.cancel id).answer = .tooLate ∧ (b.cancel id).barrier = b := by
  obtain ⟨task, found, once, -, phase⟩ := started id listed
  rcases b.cancel_cases id with ⟨other, slot, same, -, waiting⟩ |
    ⟨other, slot, same, -, -, periodic, -⟩ | late
  · obtain rfl := Option.some.inj (found.symm.trans same)
    rcases phase with phase | phase
    · simp [phase] at waiting
    · simp [phase] at waiting
  · obtain rfl := Option.some.inj (found.symm.trans same)
    rw [once] at periodic
    cases periodic
  · exact late

/-- **The end of a task that is past is not counted**, and no other task notices it. -/
theorem Past.finish (started : b.Past past) (listed : id ∈ past) :
    (b.finish id).barrier.without past = b.without past := by
  obtain ⟨task, found, -, uncounted, -⟩ := started id listed
  have same : b.uncount id = b := by
    unfold Barrier.uncount
    split
    · next other slot has =>
      obtain ⟨found', has⟩ := slotted?_eq_some_iff.mp has
      obtain rfl := Option.some.inj (found.symm.trans found')
      have off : slot.counted = false := by simpa [Task.isCounted, has] using uncounted
      rw [if_neg (by simp [off])]
    · rfl
  unfold Barrier.finish
  simp only [same]
  split
  · rfl
  · exact b.without_modify_of_mem listed afterRun fun task named => task.id_afterRun.trans named

/-- The body of a task that is past starts to be executed, and no other task notices it. -/
theorem without_enterBody? (listed : id ∈ past) {executes : Bool} {b' : Barrier ν}
    (entered : b.enterBody? id = some (executes, b')) : b'.without past = b.without past := by
  unfold enterBody? at entered
  split at entered
  · cases entered
  · next task found =>
    obtain ⟨entry, enters, eq⟩ := Option.map_eq_some_iff.mp entered
    obtain ⟨-, rfl⟩ := Prod.mk.inj eq
    exact b.without_modify_of_mem listed (fun _ => entry.2) fun _ _ =>
      (Task.id_enter? enters).trans (task?_id found)

/-- The body of a task that is past ends, and no other task notices it. -/
theorem without_leaveBody (listed : id ∈ past) (result : Option ν) :
    (b.leaveBody id result).without past = b.without past :=
  b.without_modify_of_mem listed (·.leave result) fun _ named => named

/-- The value of a task that is past is read, and no other task notices it. -/
theorem without_readValue (listed : id ∈ past) :
    (b.readValue id).2.without past = b.without past := by
  rcases b.readValue_cases id with eq | ⟨_, promise, _, eq⟩
  · rw [eq]
  · rw [eq]
    exact b.without_modify_of_mem listed ({ · with promise := promise }) fun _ named => named

/-- A task that is past is not dropped by a reset. -/
theorem Past.isDropped (started : b.Past past) (coherent : b.Coherent) {task : Task ν}
    (member : task ∈ b.tasks) (slotted : task.slot.isSome = !task.phase.isTerminal)
    (listed : task.id ∈ past) : task.isDropped = false := by
  obtain ⟨other, found, -, -, phase⟩ := started task.id listed
  obtain rfl := Option.some.inj ((coherent.task?_of_mem member).symm.trans found)
  unfold Task.isDropped
  rw [slotted]
  rcases phase with phase | phase
  · simp [phase]
  · simp [phase, Phase.isTerminal]

section Resets

variable (spared : ∀ task ∈ b.tasks, task.id ∈ past → task.isDropped = false)

include spared

/-- A reset drops none of the tasks that are past. -/
theorem dropped_without : (b.without past).dropped = b.dropped := by
  unfold dropped without
  rw [List.filter_filter]
  congr 1
  refine List.filter_congr fun task member => ?_
  by_cases listed : task.id ∈ past
  · simp [spared task member listed]
  · simp [listed]

/-- A reset takes no notice of the tasks that are past. -/
theorem reset_without : (b.without past).reset = b.reset.without past := by
  have keys : (b.tasks.filter fun task => !past.contains task.id).filterMap (·.droppedKey?) =
      b.tasks.filterMap (·.droppedKey?) := by
    rw [List.filterMap_filter]
    refine List.filterMap_congr fun task member => ?_
    by_cases listed : task.id ∈ past
    · simp [listed, Task.droppedKey?, spared task member listed]
    · simp [listed]
  have each : (b.tasks.filter fun task => !past.contains task.id).map (·.reset) =
      (b.tasks.map (·.reset)).filter fun task => !past.contains task.id := by
    rw [List.filter_map]
    refine congrArg _ (List.filter_congr fun task _ => ?_)
    simp
  simp only [reset, without, keys, each, Facility.bare_foldl_disarm]

/-- An await sees the same. -/
theorem check_without (now deadline : Instant) :
    (b.without past).check now deadline = (b.check now deadline).without past := by
  unfold check
  rw [reset_without spared, dropped_without spared, outstanding_without, config_without]
  split
  · rfl
  · split <;> rfl

end Resets

end Barrier

end TaskBarrier
