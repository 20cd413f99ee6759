import TaskBarrier.Proofs.Sections

/-!
# The counter and the flags

A barrier keeps a counter of outstanding tasks next to a flag in every slot, and changes the two
in different places.  A barrier is *coherent* if the counter agrees with the flags, and if no two
tasks share a number.  The second is what the first rests on: a section that clears the flag under
a number and lowers the counter by one is right only if it has cleared one flag.

Every section keeps a barrier coherent, whatever the phases of the tasks are.  The one thing to be
told from outside is that `finish` is asked about a task that has a slot, see
`Coherent.finish`.

## Main Definitions

* `Barrier.ids`, `Barrier.counted`: the numbers of all tasks, and how many are counted.
* `Barrier.Coherent`.
-/

namespace TaskBarrier

variable {ν : Type}

namespace Barrier

/-- The numbers of all tasks, in the order in which they were accepted. -/
def ids (b : Barrier ν) : List TaskId := b.tasks.map (·.id)

/-- How many tasks are counted. -/
def counted (b : Barrier ν) : Nat := b.tasks.countP (·.isCounted)

/-- The counter agrees with the flags, and numbers tell tasks apart. -/
structure Coherent (b : Barrier ν) : Prop where
  /-- No two tasks have the same number. -/
  nodup : b.ids.Nodup
  /-- The next number to be drawn is new. -/
  drawn : ∀ id ∈ b.ids, id.number < b.nextId.number
  /-- The counter is the number of flags that are set. -/
  balanced : b.outstanding = b.counted

@[simp] theorem ids_modify (b : Barrier ν) (id : TaskId) {change : Task ν → Task ν}
    (same : ∀ task, (change task).id = task.id) : (b.modify id change).ids = b.ids := by
  simp only [ids, modify, List.map_map]
  refine List.map_congr_left fun task _ => ?_
  simp only [Function.comp_apply]
  split
  · exact same task
  · rfl

@[simp] theorem ids_count (b : Barrier ν) (id : TaskId) : (b.count id).ids = b.ids := by
  unfold count
  split
  · split
    · rfl
    · exact b.ids_modify id (Task.id_setCounted · true)
  · rfl

@[simp] theorem ids_uncount (b : Barrier ν) (id : TaskId) : (b.uncount id).ids = b.ids := by
  unfold uncount
  split
  · split
    · exact b.ids_modify id (Task.id_setCounted · false)
    · rfl
  · rfl

@[simp] theorem ids_reset (b : Barrier ν) : b.reset.ids = b.ids := by
  simp [ids, reset, Function.comp_def]

/-- A task that is found is listed, and the other way round. -/
theorem mem_ids_iff {b : Barrier ν} {id : TaskId} : id ∈ b.ids ↔ (b.task? id).isSome = true := by
  simp [ids, task?]

/-- **Changing one task changes the number of flags by that task's flag.** -/
theorem counted_modify {b : Barrier ν} (nodup : b.ids.Nodup) {id : TaskId} {task : Task ν}
    (found : b.task? id = some task) (change : Task ν → Task ν) :
    (b.modify id change).counted + (if task.isCounted then 1 else 0) =
      b.counted + (if (change task).isCounted then 1 else 0) := by
  simp only [ids, task?, counted, modify] at nodup found ⊢
  generalize b.tasks = tasks at nodup found ⊢
  induction tasks with
  | nil => simp at found
  | cons head rest ih =>
      rw [List.map_cons, List.nodup_cons] at nodup
      obtain ⟨fresh, nodup⟩ := nodup
      rw [List.find?_cons] at found
      by_cases at_id : head.id = id
      · obtain rfl : head = task := by simpa [at_id] using found
        -- The number does not occur again, so the rest of the list stays as it is.
        have unchanged : (rest.map fun other => if other.id == id then change other else other)
            = rest := by
          refine (List.map_congr_left fun other member => ?_).trans (List.map_id rest)
          have ne : other.id ≠ id := by
            rintro rfl
            exact fresh (at_id ▸ List.mem_map_of_mem member)
          simp [ne]
        simp only [List.map_cons, at_id, beq_self_eq_true, if_true, unchanged, List.countP_cons]
        omega
      · have further := ih nodup (by simpa [beq_eq_false_iff_ne.mpr at_id] using found)
        simp only [List.map_cons, List.countP_cons, beq_iff_eq, at_id, if_false] at further ⊢
        omega

namespace Coherent

/-- A task of the barrier is what is found under its number. -/
theorem task?_of_mem {b : Barrier ν} (coherent : b.Coherent) {task : Task ν}
    (member : task ∈ b.tasks) : b.task? task.id = some task := by
  have nodup := coherent.nodup
  simp only [ids, task?] at nodup ⊢
  generalize b.tasks = tasks at nodup member ⊢
  induction tasks with
  | nil => cases member
  | cons head rest ih =>
      rw [List.map_cons, List.nodup_cons] at nodup
      rw [List.find?_cons]
      rcases List.mem_cons.mp member with rfl | deeper
      · simp
      · have ne : head.id ≠ task.id := fun same => nodup.1 (same ▸ List.mem_map_of_mem deeper)
        rw [beq_eq_false_iff_ne.mpr ne]
        exact ih nodup.2 deeper

/-- A task that has been appended under the next number is found there. -/
theorem task?_of_append {b b' : Barrier ν} (coherent : b.Coherent) {task : Task ν}
    (new : task.id = b.nextId) (tasks : b'.tasks = b.tasks ++ [task]) :
    b'.task? b.nextId = some task := by
  have fresh : ∀ other ∈ b.tasks, other.id ≠ task.id := by
    intro other member same
    have below := coherent.drawn other.id (List.mem_map_of_mem member)
    rw [same, new] at below
    exact Nat.lt_irrefl _ below
  rw [task?, tasks, task?_append b.tasks task b.nextId fresh, if_pos new.symm]

/-- Since no other task has its number, a task may be replaced by the outcome of a change. -/
theorem modify_eq {b : Barrier ν} (coherent : b.Coherent) {id : TaskId} {task : Task ν}
    (found : b.task? id = some task) (change : Task ν → Task ν) :
    (b.modify id fun _ => change task) = b.modify id change := by
  have same : b.tasks.map (fun other => if other.id == id then change task else other) =
      b.tasks.map fun other => if other.id == id then change other else other := by
    refine List.map_congr_left fun other member => ?_
    split
    · next h =>
      have seen := coherent.task?_of_mem member
      rw [beq_iff_eq.mp h, found] at seen
      rw [Option.some.inj seen]
    · rfl
  simp only [Barrier.modify, same]

/-- A reset lists the tasks that it drops. -/
theorem mem_dropped_iff {b : Barrier ν} (coherent : b.Coherent) {id : TaskId} {task : Task ν}
    (found : b.task? id = some task) : id ∈ b.dropped ↔ task.isDropped = true := by
  simp only [dropped, List.mem_map, List.mem_filter]
  constructor
  · rintro ⟨other, ⟨member, isDropped⟩, rfl⟩
    obtain rfl : task = other := Option.some.inj (found.symm.trans (coherent.task?_of_mem member))
    exact isDropped
  · intro isDropped
    exact ⟨task, ⟨task?_mem found, isDropped⟩, task?_id found⟩

/-- Coherence depends on the tasks, the counter and the numbers that are left. -/
theorem transfer {b c : Barrier ν} (coherent : b.Coherent) (tasks : c.tasks = b.tasks)
    (outstanding : c.outstanding = b.outstanding)
    (later : b.nextId.number ≤ c.nextId.number) : c.Coherent where
  nodup := by
    rw [ids, tasks]
    exact coherent.nodup
  drawn := by
    intro id member
    rw [ids, tasks] at member
    exact Nat.lt_of_lt_of_le (coherent.drawn id member) later
  balanced := by
    rw [outstanding, counted, tasks]
    exact coherent.balanced

/-- A change of one task that keeps its flag. -/
theorem modify {b : Barrier ν} (coherent : b.Coherent) {id : TaskId} {task : Task ν}
    (found : b.task? id = some task) {change : Task ν → Task ν}
    (same : ∀ task, (change task).id = task.id)
    (flag : (change task).isCounted = task.isCounted) : (b.modify id change).Coherent where
  nodup := by
    rw [b.ids_modify id same]
    exact coherent.nodup
  drawn := by
    rw [b.ids_modify id same]
    exact coherent.drawn
  balanced := by
    have change := counted_modify coherent.nodup found change
    rw [flag] at change
    rw [outstanding_modify, coherent.balanced]
    omega

/-- Counting a task. -/
theorem count {b : Barrier ν} (coherent : b.Coherent) (id : TaskId) : (b.count id).Coherent where
  nodup := by
    rw [b.ids_count id]
    exact coherent.nodup
  drawn := by
    rw [b.ids_count id, (b.stays_count id).nextId]
    exact coherent.drawn
  balanced := by
    unfold Barrier.count
    split
    · next task slot has =>
      obtain ⟨found, has⟩ := slotted?_eq_some_iff.mp has
      split
      · exact coherent.balanced
      · next uncounted =>
        have change := counted_modify coherent.nodup found (·.setCounted true)
        have off : task.isCounted = false := by simp [Task.isCounted, has, uncounted]
        have balanced := coherent.balanced
        simp only [Task.isCounted_setCounted, has, off, Option.isSome_some, Bool.and_true,
          Bool.false_eq_true, if_false, if_true] at change
        show b.outstanding + 1 = (b.modify id (·.setCounted true)).counted
        omega
    · exact coherent.balanced

/-- **Not counting a task any more lowers the counter by exactly the flag of the task.** -/
theorem outstanding_uncount {b : Barrier ν} (coherent : b.Coherent) {id : TaskId} {task : Task ν}
    (found : b.task? id = some task) :
    (b.uncount id).outstanding + (if task.isCounted then 1 else 0) = b.outstanding ∧
      (b.uncount id).outstanding = (b.uncount id).counted := by
  have balanced := coherent.balanced
  unfold uncount
  split
  · next task' slot has =>
    obtain ⟨found', has⟩ := slotted?_eq_some_iff.mp has
    obtain rfl : task = task' := Option.some.inj (found.symm.trans found')
    have change := counted_modify coherent.nodup found (·.setCounted false)
    have flag : task.isCounted = slot.counted := by simp [Task.isCounted, has]
    rw [Task.isCounted_setCounted, flag, Bool.and_false] at change
    rw [flag]
    split
    · next on =>
      -- A flag that is set makes the counter positive, so nothing is cut off at zero.
      have one : (b.modify id (·.setCounted false)).counted + 1 = b.counted := by
        simpa [on] using change
      refine ⟨?_, ?_⟩
      · show b.outstanding - 1 + 1 = b.outstanding
        omega
      · show b.outstanding - 1 = (b.modify id (·.setCounted false)).counted
        omega
    · next off => exact ⟨by simp, balanced⟩
  · next none =>
    have flag : task.isCounted = false := by
      simp [Task.isCounted, slotted?_eq_none_iff.mp none task found]
    exact ⟨by simp [flag], balanced⟩

/-- Not counting a task any more. -/
theorem uncount {b : Barrier ν} (coherent : b.Coherent) (id : TaskId) :
    (b.uncount id).Coherent where
  nodup := by
    rw [b.ids_uncount id]
    exact coherent.nodup
  drawn := by
    rw [b.ids_uncount id, (b.stays_uncount id).nextId]
    exact coherent.drawn
  balanced := by
    cases found : b.task? id with
    | some task => exact (coherent.outstanding_uncount found).2
    | none =>
        have absent : b.slotted? id = none := by simp [slotted?, found]
        simp only [Barrier.uncount, absent]
        exact coherent.balanced

/-! ## The sections -/

/-- A fresh barrier. -/
theorem fresh (config : Config) (facility : Facility TaskId) :
    (Barrier.fresh config facility : Barrier ν).Coherent where
  nodup := List.nodup_nil
  drawn := by simp [ids, Barrier.fresh]
  balanced := rfl

/-- The acceptance of a task. -/
theorem accept {b : Barrier ν} (coherent : b.Coherent) {now : Instant} {delay : Duration}
    {cadence : Cadence} {produces : Bool} {id : TaskId}
    (answer : (b.accept now delay cadence produces).answer = .accepted id) :
    (b.accept now delay cadence produces).barrier.Coherent := by
  obtain ⟨rfl, key, facility, eq⟩ := accept_of_accepted answer
  rw [eq]
  refine ⟨?_, ?_, ?_⟩
  · simp only [ids, List.map_append, List.map_cons, List.map_nil, Task.accepted]
    refine List.nodup_append.mpr ⟨coherent.nodup, by simp, ?_⟩
    -- All numbers drawn before are below the new one.
    intro other member another single
    have below := coherent.drawn other member
    obtain rfl := List.mem_singleton.mp single
    rintro rfl
    exact Nat.lt_irrefl _ below
  · intro other member
    simp only [ids, List.map_append, List.map_cons, List.map_nil, List.mem_append,
      List.mem_singleton] at member
    show other.number < b.nextId.number + 1
    rcases member with member | rfl
    · exact Nat.lt_succ_of_lt (coherent.drawn other member)
    · exact Nat.lt_succ_self _
  · have balanced := coherent.balanced
    simp only [counted] at balanced ⊢
    simp [List.countP_append, balanced]

/-- The reading of a value. -/
theorem readValue {b : Barrier ν} (coherent : b.Coherent) (id : TaskId) :
    (b.readValue id).2.Coherent := by
  rcases b.readValue_cases id with eq | ⟨task, promise, found, eq⟩
  · rw [eq]
    exact coherent
  · rw [eq]
    exact coherent.modify found (fun _ => rfl) rfl

/-- The firing of a live task. -/
theorem fireLive {b : Barrier ν} (coherent : b.Coherent) {id : TaskId} {task : Task ν}
    (found : b.task? id = some task) : (b.fireLive id).barrier.Coherent := by
  have seen : (b.count id).task? id = some (task.setCounted true) := by
    rw [b.task?_count id id, b.task?_modify_self id _ (Task.id_setCounted · true), found]
    rfl
  unfold Barrier.fireLive
  split
  · exact (coherent.count id).modify seen (fun _ => rfl) rfl
  · have held : ((b.count id).modify id (·.setPhase .held)).Coherent :=
      (coherent.count id).modify seen (fun _ => rfl) rfl
    exact held.transfer rfl rfl (Nat.le_refl _)

/-- A firing, whatever comes of it. -/
theorem fire {b : Barrier ν} (coherent : b.Coherent) (id : TaskId) :
    (b.fire id).barrier.Coherent := by
  rcases b.fire_cases id with ⟨task, found, -, -, eq⟩ | ⟨eq, -⟩
  · rw [eq]
    exact coherent.fireLive found
  · rw [eq]
    exact coherent

/-- A replay. -/
theorem popHeld {b : Barrier ν} (coherent : b.Coherent) : b.popHeld.barrier.Coherent := by
  unfold Barrier.popHeld
  split
  · exact coherent
  · next id rest held =>
    have popped : ({ b with held := rest } : Barrier ν).Coherent :=
      coherent.transfer rfl rfl (Nat.le_refl _)
    simp only
    split
    · exact popped
    · next task slot has =>
      obtain ⟨found, -⟩ := slotted?_eq_some_iff.mp has
      exact popped.modify found (fun _ => rfl) rfl

/-- The end of a run of a task that has a slot. -/
theorem finish {b : Barrier ν} (coherent : b.Coherent) {id : TaskId} {task : Task ν} {slot : Slot}
    (found : b.task? id = some task) (has : task.slot = some slot) :
    (b.finish id).barrier.Coherent := by
  rw [(finish_of_slot found has).2]
  have seen : (b.uncount id).task? id = some (task.setCounted false) := by
    rw [b.task?_uncount id id, b.task?_modify_self id _ (Task.id_setCounted · false), found]
    rfl
  have off : (task.setCounted false).isCounted = false := by simp
  exact (coherent.uncount id).modify seen Task.id_afterRun
    ((Task.isCounted_afterRun off).trans off.symm)

/-- The withdrawal of a task. -/
theorem withdraw {b : Barrier ν} (coherent : b.Coherent) {id : TaskId} {task : Task ν}
    (found : b.task? id = some task) : (b.withdraw id).barrier.Coherent := by
  have seen : (b.uncount id).task? id = some (task.setCounted false) := by
    rw [b.task?_uncount id id, b.task?_modify_self id _ (Task.id_setCounted · false), found]
    rfl
  exact (coherent.uncount id).modify seen (fun _ => rfl) (by simp)

/-- A cancel, whatever it answers. -/
theorem cancel {b : Barrier ν} (coherent : b.Coherent) (id : TaskId) :
    (b.cancel id).barrier.Coherent := by
  rcases b.cancel_cases id with ⟨task, slot, found, -, ⟨-, eq⟩ | ⟨-, eq⟩⟩ |
    ⟨task, slot, found, has, -, -, -, -, eq⟩ | ⟨-, eq⟩
  · rw [eq]
    exact (coherent.transfer rfl rfl (Nat.le_refl _) : (b.disarm slot.key).Coherent).withdraw found
  · rw [eq]
    exact (coherent.transfer rfl rfl (Nat.le_refl _) :
      ((b.disarm slot.key).unhold id).Coherent).withdraw found
  · rw [eq]
    exact (coherent.transfer rfl rfl (Nat.le_refl _) : (b.disarm slot.key).Coherent).modify found
      (fun _ => rfl) (by simp [Task.doom, Task.isCounted, has])
  · rwa [eq]

/-- The end of a cycle: no flag is left, and the counter is zero. -/
theorem reset {b : Barrier ν} (coherent : b.Coherent) : b.reset.Coherent where
  nodup := by
    rw [b.ids_reset]
    exact coherent.nodup
  drawn := by
    rw [b.ids_reset]
    exact coherent.drawn
  balanced := by
    rw [outstanding_reset, counted, eq_comm, List.countP_eq_zero]
    intro task member
    obtain ⟨old, -, rfl⟩ := List.mem_map.mp member
    simp [old.isCounted_reset]

end Coherent

end Barrier

end TaskBarrier
