import TaskBarrier.Proofs.Mirror
import TaskBarrier.Proofs.Sections

/-!
# Barriers on top of a past

A barrier that has been through some cycles has kept the records of the tasks of those cycles.  If
none of them has a slot, they are of no consequence: such a barrier is a fresh one *grafted* onto a
past, with all numbers shifted, and its sections do to it what they do to the fresh one.

* **Sections that name a shifted number** commute with the graft.  Those that arm or disarm entries
  need a facility that mirrors that of the fresh barrier, and leave one that does.
* **Sections that name an old number** change nothing but the records of the past, and not the
  phases in them.

## Main Definitions

* `Shift.Past`: records of which nothing comes any more.
* `Shift.graft`, `Shift.graftSection`.
-/

namespace TaskBarrier

variable {ν : Type}

/-- Records of tasks with old numbers that have no slot, and whose bodies are not locked. -/
structure Shift.Past (σ : Shift) (past : List (Task ν)) : Prop where
  old : ∀ task ∈ past, σ.isOld task.id = true
  unslotted : ∀ task ∈ past, task.slot = none
  idle : ∀ task ∈ past, task.executing = false

namespace Shift

/-- The barrier `b` with shifted numbers, on top of a past, with another facility. -/
def graft (σ : Shift) (past : List (Task ν)) (facility : Facility TaskId) (b : Barrier ν) :
    Barrier ν :=
  { b with
    facility := facility
    held := b.held.map σ.id
    tasks := past ++ b.tasks.map σ.task
    nextId := σ.id b.nextId }

/-- The outcome of a section of a barrier, on top of a past. -/
def graftSection {α : Type} (σ : Shift) (past : List (Task ν)) (facility : Facility TaskId)
    (answer : α → α) (outcome : Section ν α) : Section ν α :=
  ⟨answer outcome.answer, σ.graft past facility outcome.barrier, outcome.events.map σ.event⟩

/-- Moves the number of a task that is accepted. -/
def acceptance (σ : Shift) : Acceptance → Acceptance
  | .accepted id => .accepted (σ.id id)
  | .refused failure => .refused failure
  | .unwound panic => .unwound panic

/-- Moves the number of a task that is replayed. -/
def replay (σ : Shift) : Replay → Replay
  | .run id => .run (σ.id id)
  | .done => .done
  | .skipped => .skipped

/-- Moves the numbers of tasks that are dropped. -/
def check (σ : Shift) : Check → Check
  | .settled dropped => .settled (dropped.map σ.id)
  | .timedOut remaining budget dropped => .timedOut remaining budget (dropped.map σ.id)
  | .wait time => .wait time

section Graft

variable {σ : Shift} {past : List (Task ν)} (facility : Facility TaskId) (b : Barrier ν)

@[simp] theorem draining_graft : (σ.graft past facility b).draining = b.draining := rfl

@[simp] theorem outstanding_graft :
    (σ.graft past facility b).outstanding = b.outstanding := rfl

@[simp] theorem held_graft : (σ.graft past facility b).held = b.held.map σ.id := rfl

@[simp] theorem config_graft : (σ.graft past facility b).config = b.config := rfl

@[simp] theorem facility_graft : (σ.graft past facility b).facility = facility := rfl

/-! ## The primitives -/

theorem task?_graft (isPast : σ.Past past) (id : TaskId) :
    (σ.graft past facility b).task? (σ.id id) = (b.task? id).map σ.task := by
  have absent : past.find? (·.id == σ.id id) = none := by
    rw [List.find?_eq_none]
    intro task member same
    exact σ.id_ne_of_isOld (isPast.old task member) (beq_iff_eq.mp same).symm
  unfold Barrier.task? graft
  rw [List.find?_append, absent, Option.none_or, List.find?_map]
  congr 2
  funext task
  simp

theorem slotted?_graft (isPast : σ.Past past) (id : TaskId) :
    (σ.graft past facility b).slotted? (σ.id id) =
      (b.slotted? id).map fun (task, slot) => (σ.task task, σ.slot slot) := by
  unfold Barrier.slotted?
  rw [task?_graft facility b isPast]
  cases b.task? id with
  | none => rfl
  | some task => cases slot : task.slot <;> simp [slot]

theorem modify_graft (isPast : σ.Past past) (id : TaskId) (change change' : Task ν → Task ν)
    (commutes : ∀ task, change' (σ.task task) = σ.task (change task)) :
    (σ.graft past facility b).modify (σ.id id) change' =
      σ.graft past facility (b.modify id change) := by
  have kept : (past.map fun task => if task.id == σ.id id then change' task else task) = past := by
    refine (List.map_congr_left fun task member => ?_).trans (List.map_id past)
    have ne : σ.id id ≠ task.id := σ.id_ne_of_isOld (isPast.old task member)
    simp [Ne.symm ne]
  have moved : ((b.tasks.map σ.task).map fun task =>
      if task.id == σ.id id then change' task else task) =
      (b.tasks.map fun task => if task.id == id then change task else task).map σ.task := by
    rw [List.map_map, List.map_map]
    refine List.map_congr_left fun task _ => ?_
    simp only [Function.comp_apply, id_task, id_beq, commutes]
    split <;> rfl
  simp only [Barrier.modify, graft, List.map_append, kept, moved]

theorem count_graft (isPast : σ.Past past) (id : TaskId) :
    (σ.graft past facility b).count (σ.id id) = σ.graft past facility (b.count id) := by
  unfold Barrier.count
  rw [slotted?_graft facility b isPast]
  cases b.slotted? id with
  | none => rfl
  | some entry =>
      simp only [Option.map_some, slot]
      split
      · rfl
      · rw [modify_graft facility b isPast id _ _ (setCounted_task σ · true)]
        rfl

theorem uncount_graft (isPast : σ.Past past) (id : TaskId) :
    (σ.graft past facility b).uncount (σ.id id) = σ.graft past facility (b.uncount id) := by
  unfold Barrier.uncount
  rw [slotted?_graft facility b isPast]
  cases b.slotted? id with
  | none => rfl
  | some entry =>
      simp only [Option.map_some, slot]
      split
      · rw [modify_graft facility b isPast id _ _ (setCounted_task σ · false)]
        rfl
      · rfl

/-! ## Sections that leave the facility alone -/

theorem fireLive_graft (isPast : σ.Past past) (id : TaskId) :
    (σ.graft past facility b).fireLive (σ.id id) =
      σ.graftSection past facility (fun firing => firing) (b.fireLive id) := by
  unfold Barrier.fireLive
  simp only [count_graft facility b isPast, draining_graft, held_graft]
  split
  · rw [modify_graft facility _ isPast id (·.setPhase .running) _ fun _ => rfl]
    rfl
  · rw [modify_graft facility _ isPast id (·.setPhase .held) _ fun _ => rfl]
    simp [graftSection, graft, event]

theorem fire_graft (isPast : σ.Past past) (id : TaskId) :
    (σ.graft past facility b).fire (σ.id id) =
      σ.graftSection past facility (fun firing => firing) (b.fire id) := by
  unfold Barrier.fire
  rw [slotted?_graft facility b isPast]
  cases b.slotted? id with
  | none => rfl
  | some entry =>
      simp only [Option.map_some, phase_task]
      cases entry.1.phase with
      | live => exact fireLive_graft facility b isPast id
      | held | running | ran | cancelled => rfl

theorem popHeld_graft (isPast : σ.Past past) :
    (σ.graft past facility b).popHeld = σ.graftSection past facility σ.replay b.popHeld := by
  unfold Barrier.popHeld
  rw [held_graft]
  cases b.held with
  | nil => rfl
  | cons id rest =>
      simp only [List.map_cons]
      rw [slotted?_graft facility b isPast]
      cases b.slotted? id with
      | none => rfl
      | some entry =>
          have popped := modify_graft facility ({ b with held := rest } : Barrier ν) isPast id
            (·.setPhase .running) (·.setPhase .running) fun _ => rfl
          simp only [Option.map_some, graftSection, ← popped]
          rfl

theorem finish_graft (isPast : σ.Past past) (id : TaskId) :
    (σ.graft past facility b).finish (σ.id id) =
      σ.graftSection past facility (fun doomed => doomed) (b.finish id) := by
  unfold Barrier.finish
  simp only [uncount_graft facility b isPast, slotted?_graft facility _ isPast, outstanding_graft]
  cases (b.uncount id).slotted? id with
  | none => rfl
  | some entry =>
      simp only [Option.map_some]
      rw [modify_graft facility _ isPast id _ _ (afterRun_task σ)]
      rfl

theorem enterBody?_graft (isPast : σ.Past past) (id : TaskId) :
    (σ.graft past facility b).enterBody? (σ.id id) =
      (b.enterBody? id).map fun (execute, b) => (execute, σ.graft past facility b) := by
  unfold Barrier.enterBody?
  rw [task?_graft facility b isPast]
  cases b.task? id with
  | none => rfl
  | some task =>
      simp only [Option.map_some, enter?_task]
      cases task.enter? with
      | none => rfl
      | some entry =>
          simp only [Option.map_some]
          rw [modify_graft facility b isPast id (fun _ => entry.2) _ fun _ => rfl]

theorem leaveBody_graft (isPast : σ.Past past) (id : TaskId) (result : Option ν) :
    (σ.graft past facility b).leaveBody (σ.id id) result =
      σ.graft past facility (b.leaveBody id result) :=
  modify_graft facility b isPast id _ _ (leave_task σ · result)

theorem discard?_graft (isPast : σ.Past past) (id : TaskId) :
    (σ.graft past facility b).discard? (σ.id id) =
      (b.discard? id).map (σ.graft past facility) := by
  unfold Barrier.discard?
  rw [task?_graft facility b isPast]
  cases b.task? id with
  | none => rfl
  | some task =>
      simp only [Option.map_some, executing_task, modify_graft facility b isPast id _ _
        (discard_task σ)]
      cases task.executing <;> rfl

theorem readValue_graft (isPast : σ.Past past) (id : TaskId) :
    (σ.graft past facility b).readValue (σ.id id) =
      ((b.readValue id).1, σ.graft past facility (b.readValue id).2) := by
  have promised : ((σ.graft past facility b).task? (σ.id id)).bind (·.promise) =
      (b.task? id).bind (·.promise) := by
    rw [task?_graft facility b isPast]
    cases b.task? id <;> rfl
  unfold Barrier.readValue
  rw [promised]
  cases (b.task? id).bind (·.promise) with
  | none => rfl
  | some promise =>
      simp only
      rw [modify_graft facility b isPast id ({ · with promise := some promise.read.2 }) _
        fun _ => rfl]

/-! ## Sections that arm or disarm entries -/

variable {facility b}

theorem disarm_graft (key : TimerKey) :
    (σ.graft past facility b).disarm (σ.key key) =
      σ.graft past (facility.disarm (σ.key key)) (b.disarm key) := rfl

theorem unhold_graft (id : TaskId) :
    (σ.graft past facility b).unhold (σ.id id) = σ.graft past facility (b.unhold id) := by
  simp only [Barrier.unhold, graft, List.filter_map]
  congr 2
  refine congrArg (List.filter · b.held) (funext fun other => ?_)
  simp [bne]

theorem withdraw_graft (isPast : σ.Past past) (id : TaskId) :
    (σ.graft past facility b).withdraw (σ.id id) =
      σ.graftSection past facility (fun answer => answer) (b.withdraw id) := by
  unfold Barrier.withdraw
  simp only [uncount_graft facility b isPast, outstanding_graft]
  rw [modify_graft facility _ isPast id (·.retire .cancelled) _ fun _ => rfl]
  rfl

theorem facility_withdraw (id : TaskId) : (b.withdraw id).barrier.facility = b.facility :=
  (b.stays_uncount id).facility

/-- **A cancel of a task with a shifted number.** -/
theorem cancel_graft (isPast : σ.Past past) (mirrors : Facility.Mirrors σ facility b.facility)
    (id : TaskId) : ∃ facility', Facility.Mirrors σ facility' (b.cancel id).barrier.facility ∧
      (σ.graft past facility b).cancel (σ.id id) =
        σ.graftSection past facility' (fun answer => answer) (b.cancel id) := by
  unfold Barrier.cancel
  rw [slotted?_graft facility b isPast]
  cases b.slotted? id with
  | none => exact ⟨facility, mirrors, rfl⟩
  | some entry =>
      obtain ⟨task, slot⟩ := entry
      have disarmed := mirrors.disarm slot.key
      simp only [Option.map_some, phase_task, periodic_task, Shift.slot, disarm_graft,
        unhold_graft, withdraw_graft isPast, modify_graft _ _ isPast id _ _ (doom_task σ)]
      cases task.phase with
      | live =>
          refine ⟨_, ?_, rfl⟩
          rw [facility_withdraw]
          exact disarmed
      | held =>
          refine ⟨_, ?_, rfl⟩
          rw [facility_withdraw]
          exact disarmed
      | running =>
          simp only
          split
          · exact ⟨_, disarmed, rfl⟩
          · exact ⟨facility, mirrors, rfl⟩
      | ran | cancelled => exact ⟨facility, mirrors, rfl⟩

/-- **An accept.** -/
theorem accept_graft (mirrors : Facility.Mirrors σ facility b.facility) (now : Instant)
    (delay : Duration) (cadence : Cadence) (produces : Bool) :
    ∃ facility', Facility.Mirrors σ facility'
        (b.accept now delay cadence produces).barrier.facility ∧
      (σ.graft past facility b).accept now delay cadence produces =
        σ.graftSection past facility' σ.acceptance (b.accept now delay cadence produces) := by
  obtain ⟨answer, armed⟩ := mirrors.arm now delay cadence b.nextId
  unfold Barrier.accept
  split
  · exact ⟨facility, mirrors, rfl⟩
  · refine ⟨(facility.arm now delay cadence (σ.id b.nextId)).2, ?_, ?_⟩
    · simp only
      split <;> exact armed
    · have drawn : (σ.graft past facility b).nextId = σ.id b.nextId := rfl
      simp only [drawn, facility_graft, answer]
      cases (b.facility.arm now delay cadence b.nextId).1 with
      | refused => rfl
      | overflow => rfl
      | armed key =>
          simp [graftSection, graft, arming, acceptance, event, next_id]

/-- No entry of a task of the past is disarmed at the end of a cycle. -/
theorem droppedKeys_graft (isPast : σ.Past past) :
    (σ.graft past facility b).tasks.filterMap (·.droppedKey?) =
      (b.tasks.filterMap (·.droppedKey?)).map σ.key := by
  have none : past.filterMap (·.droppedKey?) = [] := by
    rw [List.filterMap_eq_nil_iff]
    intro task member
    simp [Task.droppedKey?, Task.isDropped, isPast.unslotted task member]
  have each : ((·.droppedKey?) ∘ σ.task : Task ν → Option TimerKey) =
      fun task => task.droppedKey?.map σ.key := funext fun task => σ.droppedKey?_task task
  simp only [graft, List.filterMap_append, none, List.nil_append, List.filterMap_map,
    List.map_filterMap, each]

/-- No task of the past is dropped at the end of a cycle. -/
theorem dropped_graft (isPast : σ.Past past) :
    (σ.graft past facility b).dropped = b.dropped.map σ.id := by
  have none : past.filter (·.isDropped) = [] := by
    rw [List.filter_eq_nil_iff]
    intro task member
    simp [Task.isDropped, isPast.unslotted task member]
  have each : ((·.isDropped) ∘ σ.task : Task ν → Bool) = (·.isDropped) :=
    funext fun task => σ.isDropped_task task
  simp only [Barrier.dropped, graft, List.filter_append, none, List.nil_append, List.filter_map,
    each, List.map_map]
  rfl

/-- **The end of a cycle.** -/
theorem reset_graft (isPast : σ.Past past) (mirrors : Facility.Mirrors σ facility b.facility) :
    ∃ facility', Facility.Mirrors σ facility' b.reset.facility ∧
      (σ.graft past facility b).reset = σ.graft past facility' b.reset := by
  refine ⟨_, mirrors.disarms (b.tasks.filterMap (·.droppedKey?)), ?_⟩
  have kept : past.map (·.reset) = past := by
    refine (List.map_congr_left fun task member => ?_).trans (List.map_id past)
    have gone := isPast.unslotted task member
    simp [Task.reset, Task.isDropped, gone, Task.setCounted_of_none gone]
  have each : ((·.reset) ∘ σ.task : Task ν → Task ν) = σ.task ∘ (·.reset) :=
    funext fun task => σ.reset_task task
  unfold Barrier.reset
  rw [droppedKeys_graft isPast]
  simp only [graft, List.map_append, kept, List.map_map, each, List.map_nil]

/-- **A look of a waiting await.** -/
theorem check_graft (isPast : σ.Past past) (mirrors : Facility.Mirrors σ facility b.facility)
    (now deadline : Instant) :
    ∃ facility', Facility.Mirrors σ facility' (b.check now deadline).barrier.facility ∧
      (σ.graft past facility b).check now deadline =
        σ.graftSection past facility' σ.check (b.check now deadline) := by
  obtain ⟨facility', mirrors', reset⟩ := reset_graft isPast mirrors
  unfold Barrier.check
  rw [outstanding_graft, config_graft, reset, dropped_graft isPast]
  split
  · exact ⟨facility', mirrors', rfl⟩
  · split
    · exact ⟨facility', mirrors', rfl⟩
    · exact ⟨facility, mirrors, rfl⟩

/-! ## Sections that name an old number -/

theorem slotted?_of_isOld (isPast : σ.Past past) {id : TaskId} (old : σ.isOld id = true) :
    (σ.graft past facility b).slotted? id = none := by
  rw [Barrier.slotted?_eq_none_iff]
  intro task found
  rcases List.mem_append.mp (Barrier.task?_mem found) with kept | new
  · exact isPast.unslotted task kept
  · obtain ⟨other, -, rfl⟩ := List.mem_map.mp new
    exact absurd (Barrier.task?_id found) (σ.id_ne_of_isOld old)

/-- The callback of an old task is of no consequence. -/
theorem fire_of_isOld (isPast : σ.Past past) {id : TaskId} (old : σ.isOld id = true) :
    (σ.graft past facility b).fire id = ⟨.ignored, σ.graft past facility b, []⟩ := by
  simp only [Barrier.fire, slotted?_of_isOld isPast old]

/-- A cancel of an old task comes too late. -/
theorem cancel_of_isOld (isPast : σ.Past past) {id : TaskId} (old : σ.isOld id = true) :
    (σ.graft past facility b).cancel id =
      ⟨.tooLate, σ.graft past facility b, [.cancelTooLate id]⟩ :=
  Barrier.cancel_of_slotted?_eq_none (slotted?_of_isOld isPast old)

/-- Two pasts with the same tasks in the same phases. -/
def SamePhases (past past' : List (Task ν)) : Prop :=
  past'.map (fun task => (task.id, task.phase)) = past.map (fun task => (task.id, task.phase))

/-- Changing an old task changes the past. -/
theorem modify_of_isOld {id : TaskId} (old : σ.isOld id = true) (change : Task ν → Task ν) :
    (σ.graft past facility b).modify id change =
      σ.graft (past.map fun task => if task.id == id then change task else task) facility b := by
  have kept : ((b.tasks.map σ.task).map fun task => if task.id == id then change task else task) =
      b.tasks.map σ.task := by
    refine (List.map_congr_left fun task member => ?_).trans (List.map_id _)
    obtain ⟨other, -, rfl⟩ := List.mem_map.mp member
    have ne : σ.id other.id ≠ id := σ.id_ne_of_isOld old
    simp [ne]
  simp only [Barrier.modify, graft, List.map_append, kept]

/-- A past stays one if old tasks are changed in nothing but their bodies and promises. -/
theorem Past.modify (isPast : σ.Past past) (id : TaskId) (change : Task ν → Task ν)
    (named : ∀ task, (change task).id = task.id) (phased : ∀ task, (change task).phase = task.phase)
    (slotted : ∀ task, (change task).slot = task.slot)
    (idle : ∀ task, (change task).executing = task.executing) :
    σ.Past (past.map fun task => if task.id == id then change task else task) ∧
      SamePhases past (past.map fun task => if task.id == id then change task else task) := by
  have each : ∀ {property : Task ν → Prop}, (∀ task ∈ past, property task) →
      (∀ task, property task → property (change task)) →
      ∀ task ∈ past.map fun task => if task.id == id then change task else task,
        property task := by
    intro property before after task member
    obtain ⟨other, listed, rfl⟩ := List.mem_map.mp member
    split
    · exact after other (before other listed)
    · exact before other listed
  refine ⟨⟨?_, ?_, ?_⟩, ?_⟩
  · exact each isPast.old fun task old => by rwa [named]
  · exact each isPast.unslotted fun task gone => by rwa [slotted]
  · exact each isPast.idle fun task free => by rwa [idle]
  · unfold SamePhases
    rw [List.map_map]
    refine List.map_congr_left fun task _ => ?_
    simp only [Function.comp_apply]
    split
    · rw [named, phased]
    · rfl

/-- The body of an old task can be thrown away. -/
theorem discard?_of_isOld (isPast : σ.Past past) {id : TaskId} (old : σ.isOld id = true) :
    ∃ past', σ.Past past' ∧ SamePhases past past' ∧
      (σ.graft past facility b).discard? id = some (σ.graft past' facility b) := by
  unfold Barrier.discard?
  cases found : (σ.graft past facility b).task? id with
  | none => exact ⟨past, isPast, rfl, rfl⟩
  | some task =>
      have free : task.executing = false := by
        rcases List.mem_append.mp (Barrier.task?_mem found) with kept | new
        · exact isPast.idle task kept
        · obtain ⟨other, -, rfl⟩ := List.mem_map.mp new
          exact absurd (Barrier.task?_id found) (σ.id_ne_of_isOld old)
      have unchanged : ∀ task : Task ν, task.discard.phase = task.phase ∧
          task.discard.slot = task.slot ∧ task.discard.executing = task.executing := by
        intro task
        unfold Task.discard
        split <;> exact ⟨rfl, rfl, rfl⟩
      obtain ⟨isPast', same⟩ := isPast.modify id _ Task.id_discard (fun task => (unchanged task).1)
        (fun task => (unchanged task).2.1) (fun task => (unchanged task).2.2)
      refine ⟨_, isPast', same, ?_⟩
      simp only [free, Bool.false_eq_true, if_false, modify_of_isOld old]

/-- The value of an old task can be read. -/
theorem readValue_of_isOld (isPast : σ.Past past) {id : TaskId} (old : σ.isOld id = true) :
    ∃ past', σ.Past past' ∧ SamePhases past past' ∧
      ((σ.graft past facility b).readValue id).2 = σ.graft past' facility b := by
  rcases (σ.graft past facility b).readValue_cases id with same | ⟨task, promise, -, changed⟩
  · exact ⟨past, isPast, rfl, same⟩
  · obtain ⟨isPast', same⟩ := isPast.modify id ({ · with promise := promise }) (fun _ => rfl)
      (fun _ => rfl) (fun _ => rfl) (fun _ => rfl)
    exact ⟨_, isPast', same, by rw [changed, modify_of_isOld old]⟩

/-- The phases of old tasks are those of the past. -/
theorem phase?_of_samePhases {past' : List (Task ν)} {facility' : Facility TaskId} {b' : Barrier ν}
    (same : SamePhases past past') {id : TaskId} (old : σ.isOld id = true) :
    (σ.graft past' facility' b').phase? id = (σ.graft past facility b).phase? id := by
  have seen : ∀ (past : List (Task ν)) (facility : Facility TaskId) (b : Barrier ν),
      (σ.graft past facility b).phase? id =
        ((past.map fun task => (task.id, task.phase)).find? (·.1 == id)).map (·.2) := by
    intro past facility b
    have absent : (b.tasks.map σ.task).find? (·.id == id) = none := by
      rw [List.find?_eq_none]
      intro task member
      obtain ⟨other, -, rfl⟩ := List.mem_map.mp member
      simp [σ.id_ne_of_isOld old]
    unfold Barrier.phase? Barrier.task? graft
    rw [List.find?_append, absent, Option.or_none, List.find?_map, Option.map_map]
    rfl
  rw [seen, seen, same]

end Graft

end Shift

end TaskBarrier
