import TaskBarrier.Proofs.Coherence
import TaskBarrier.Proofs.Transition

/-!
# The course of one task

A step changes one task, or, if it is a reset, all of them.  `Course` lists what a step can do to
the task with a given number: where the task stood, where it stands afterwards, and how the run of
it that may be in progress on the stepping thread gets on.

This is the view from which histories are read.  That a body is started only from the phases live
and held, that a cancelled task stays cancelled, or that a reset never touches a running task is
read off the constructors, without looking at the barrier as a whole.

## Main Definitions

* `Frame.stage?`, `Stack.stages`: the runs of a task on a stack, the innermost first.
* `Task.intactBody`, `Task.usedBody`: the body before and after its execution.
* `Course`: what a step does to a task and to its runs on the stepping thread.
-/

namespace TaskBarrier

variable {ν : Type}

/-- The stage of a run of the task, for a frame that is one. -/
def Frame.stage? (id : TaskId) : Frame ν → Option RunStage
  | .run task stage => if task = id then some stage else none
  | _ => none

/-- The runs of a task that are in progress on a stack, the innermost first. -/
def Stack.stages (id : TaskId) (stack : Stack ν) : List RunStage :=
  stack.filterMap (Frame.stage? id)

namespace Frame

/-- A frame with which a request begins is no run. -/
theorem stage?_of_isOpening {frame : Frame ν} (opens : frame.isOpening = true) (id : TaskId) :
    frame.stage? id = none := by
  cases frame <;> first | rfl | cases opens

/-- A frame with which a call returns is no run. -/
theorem stage?_of_isReturning {frame : Frame ν} (returns : frame.isReturning = true)
    (id : TaskId) : frame.stage? id = none := by
  cases frame <;> first | rfl | cases returns

/-- A frame of a call that comes to its end is no run. -/
theorem stage?_of_isEnding {frame : Frame ν} (ends : frame.isEnding = true) (id : TaskId) :
    frame.stage? id = none := by
  cases frame <;> first | rfl | cases ends

/-- A frame with nothing left to do is no run. -/
theorem stage?_of_isClosing {frame : Frame ν} (closing : frame.isClosing = true) (id : TaskId) :
    frame.stage? id = none := by
  cases frame <;> first | rfl | cases closing

end Frame

namespace Stack

@[simp] theorem stages_nil (id : TaskId) : Stack.stages id ([] : Stack ν) = [] := rfl

theorem stages_cons (id : TaskId) (frame : Frame ν) (rest : Stack ν) :
    Stack.stages id (frame :: rest) = (frame.stage? id).toList ++ Stack.stages id rest := by
  unfold Stack.stages
  cases h : frame.stage? id <;> simp [h]

theorem stages_append (id : TaskId) (top rest : Stack ν) :
    Stack.stages id (top ++ rest) = Stack.stages id top ++ Stack.stages id rest :=
  List.filterMap_append

/-- A frame that is not a run leaves the runs of a stack alone. -/
theorem stages_cons_of_none {id : TaskId} {frame : Frame ν} (none : frame.stage? id = none)
    (rest : Stack ν) : Stack.stages id (frame :: rest) = Stack.stages id rest := by
  rw [stages_cons, none]
  rfl

/-- Frames that are no runs leave the runs of a stack alone. -/
theorem stages_append_of_none {id : TaskId} {top : Stack ν}
    (none : ∀ frame ∈ top, frame.stage? id = none) (rest : Stack ν) :
    Stack.stages id (top ++ rest) = Stack.stages id rest := by
  rw [stages_append, Stack.stages, List.filterMap_eq_nil_iff.mpr none, List.nil_append]

@[simp] theorem stages_run_self (id : TaskId) (stage : RunStage) (rest : Stack ν) :
    Stack.stages id (.run id stage :: rest) = stage :: Stack.stages id rest := by
  simp [stages_cons, Frame.stage?]

theorem stages_run_of_ne {id task : TaskId} (ne : id ≠ task) (stage : RunStage) (rest : Stack ν) :
    Stack.stages id (.run task stage :: rest) = Stack.stages id rest :=
  stages_cons_of_none (by simp [Frame.stage?, Ne.symm ne]) rest

/-- A run that is in progress on a stack has a frame there. -/
theorem mem_stages_iff {id : TaskId} {stage : RunStage} {stack : Stack ν} :
    stage ∈ Stack.stages id stack ↔ Frame.run id stage ∈ stack := by
  unfold Stack.stages
  rw [List.mem_filterMap]
  constructor
  · rintro ⟨frame, member, isRun⟩
    cases frame with
    | run task stage' =>
        by_cases same : task = id
        · rw [Frame.stage?, if_pos same] at isRun
          rwa [← same, ← Option.some.inj isRun]
        · rw [Frame.stage?, if_neg same] at isRun
          cases isRun
    | _ => cases isRun
  · intro member
    exact ⟨_, member, by simp [Frame.stage?]⟩

end Stack

namespace Task

/-- The body of a task that has not been executed to the end. -/
def intactBody (task : Task ν) : Body := if task.periodic then .repeating else .once

/-- What is left of the body of a task once its execution has begun. -/
def usedBody (task : Task ν) : Body := if task.periodic then .repeating else .spent

/-- The task while its body is executed. -/
def entered (task : Task ν) : Task ν := { task with body := task.usedBody, executing := true }

/-- A body that is intact and not locked can be executed. -/
theorem enter?_of_intact {task : Task ν} (idle : task.executing = false)
    (intact : task.body = task.intactBody) : task.enter? = some (true, task.entered) := by
  cases task with
  | mk id periodic phase slot body executing promise =>
      obtain rfl : executing = false := idle
      obtain rfl : body = if periodic then .repeating else .once := intact
      cases periodic <;> rfl

end Task

/-- **What a step does to the task with the given number**, and to the runs of that task on the
thread that makes the step. -/
inductive Course (id : TaskId) :
    Deed → Option (Task ν) → List RunStage → Option (Task ν) → List RunStage → Prop
  /-- The task is accepted. -/
  | accept {periodic produces : Bool} {key : TimerKey} {stages : List RunStage} :
      Course id (.accept id) none stages (some (.accepted id periodic key produces)) stages
  /-- The task fires while somebody awaits. -/
  | run {task : Task ν} {stages : List RunStage} (slotted : task.slot.isSome = true)
      (live : task.phase = .live) :
      Course id (.call id .run) (some task) stages
        (some ((task.setCounted true).setPhase .running)) (.starting false :: stages)
  /-- The task fires while nobody awaits. -/
  | hold {task : Task ν} {stages : List RunStage} (slotted : task.slot.isSome = true)
      (live : task.phase = .live) :
      Course id (.call id .held) (some task) stages
        (some ((task.setCounted true).setPhase .held)) stages
  /-- The task is replayed. -/
  | replay {task : Task ν} {stages : List RunStage} (slotted : task.slot.isSome = true)
      (held : task.phase = .held) :
      Course id (.replay (.run id)) (some task) stages (some (task.setPhase .running))
        (.starting true :: stages)
  /-- The body begins to be executed. -/
  | enter {task : Task ν} {replayed : Bool} {stages : List RunStage} :
      Course id (.enter id true) (some task) (.starting replayed :: stages) (some task.entered)
        (.executing :: stages)
  /-- The body has been executed. -/
  | leave {task : Task ν} {result : Option ν} {stages : List RunStage} :
      Course id (.leave id) (some task) (.executing :: stages) (some (task.leave result))
        (.finishing :: stages)
  /-- The run is over. -/
  | finish {task : Task ν} {stages : List RunStage} (running : task.phase = .running) :
      Course id (.finish id) (some task) (.finishing :: stages)
        (some (Barrier.afterRun (task.setCounted false))) stages
  /-- The task is cancelled before it has started. -/
  | withdraw {task : Task ν} {stages : List RunStage}
      (waiting : task.phase = .live ∨ task.phase = .held) :
      Course id (.cancel id .cancelled) (some task) stages
        (some ((task.setCounted false).retire .cancelled)) stages
  /-- The task is cancelled during a run. -/
  | doom {task : Task ν} {stages : List RunStage} (running : task.phase = .running)
      (periodic : task.periodic = true) (undoomed : task.isDoomed = false) :
      Course id (.cancel id .doomed) (some task) stages (some task.doom) stages
  /-- A cycle ends. -/
  | reset {ending : Ending} {dropped : List TaskId} {task : Task ν} {stages : List RunStage}
      (listed : id ∈ dropped ↔ task.isDropped = true)
      (cleared : task.isCounted = true → ending.failed = true) :
      Course id (.reset ending dropped) (some task) stages (some task.reset) stages
  /-- A cycle ends before the task has been accepted. -/
  | absent {ending : Ending} {dropped : List TaskId} {stages : List RunStage}
      (unlisted : id ∉ dropped) : Course id (.reset ending dropped) none stages none stages
  /-- The body is thrown away. -/
  | discard {task : Task ν} {stages : List RunStage} (cancelled : task.phase = .cancelled) :
      Course id (.discard id) (some task) stages (some task.discard) stages
  /-- The value of the task is read. -/
  | read {task : Task ν} {promise : Option (Promise ν)} {stages : List RunStage} :
      Course id .aside (some task) stages (some { task with promise := promise }) stages
  /-- The step concerns other tasks or none. -/
  | keep {deed : Deed} {found : Option (Task ν)} {stages : List RunStage}
      (apart : deed.concerns id = false) : Course id deed found stages found stages

/-- A step that changes one task takes the course of that task, and no other's. -/
theorem course_of_modify {b : Barrier ν} {task : TaskId} {deed : Deed}
    {after : TaskId → Option (Task ν)} {stages stages' : TaskId → List RunStage} {found : Task ν}
    (change : Task ν → Task ν) (present : b.task? task = some found)
    (seen : ∀ id, after id = (b.modify task change).task? id)
    (same : ∀ task, (change task).id = task.id)
    (apart : ∀ id, id ≠ task → deed.concerns id = false)
    (kept : ∀ id, id ≠ task → stages' id = stages id)
    (here : Course task deed (some found) (stages task) (some (change found)) (stages' task))
    (id : TaskId) : Course id deed (b.task? id) (stages id) (after id) (stages' id) := by
  rw [seen, b.task?_modify task id change same]
  split
  · next h =>
    rw [h, present]
    exact here
  · next h =>
    rw [kept id h]
    exact .keep (apart id h)

/-! ## The sections -/

/-- An accept concerns the accepted task alone. -/
theorem course_of_accept {b : Barrier ν} (coherent : b.Coherent) {now : Instant}
    {delay : Duration} {cadence : Cadence} {produces : Bool} {id : TaskId}
    (answer : (b.accept now delay cadence produces).answer = .accepted id)
    (stages : List RunStage) (other : TaskId) :
    Course other (.accept id) (b.task? other) stages
      ((b.accept now delay cadence produces).barrier.task? other) stages := by
  obtain ⟨rfl, key, facility, eq⟩ := Barrier.accept_of_accepted answer
  have fresh : b.nextId ∉ b.ids := fun listed => Nat.lt_irrefl _ (coherent.drawn _ listed)
  have absent : b.task? b.nextId = none := by
    rw [Barrier.mem_ids_iff] at fresh
    simpa using fresh
  have seen : (b.accept now delay cadence produces).barrier.task? other =
      if other = b.nextId then some (.accepted b.nextId cadence.isPeriodic key produces)
      else b.task? other := by
    rw [eq]
    refine Barrier.task?_append b.tasks _ other fun task member same => fresh ?_
    exact List.mem_map.mpr ⟨task, member, same⟩
  rw [seen]
  split
  · next h =>
    rw [h, absent]
    exact .accept
  · next h => exact .keep (by simp [Deed.concerns, Ne.symm h])

/-- A cancel concerns the task that it names. -/
theorem course_of_cancel (b : Barrier ν) (id : TaskId) (stages : TaskId → List RunStage)
    (other : TaskId) :
    Course other (.cancel id (b.cancel id).answer) (b.task? other) (stages other)
      ((b.cancel id).barrier.task? other) (stages other) := by
  have apart : ∀ answer other, other ≠ id → (Deed.cancel id answer).concerns other = false := by
    intro answer other ne
    cases answer <;> simp [Deed.concerns, Ne.symm ne]
  rcases b.cancel_cases id with ⟨task, slot, found, -, ⟨phase, eq⟩ | ⟨phase, eq⟩⟩ |
    ⟨task, slot, found, has, phase, periodic, undoomed, answer, eq⟩ | ⟨answer, eq⟩
  · rw [eq]
    exact course_of_modify (b := b.disarm slot.key) _ found (Barrier.task?_withdraw _ id)
      (fun _ => rfl) (apart _) (fun _ _ => rfl) (.withdraw (.inl phase)) other
  · rw [eq]
    exact course_of_modify (b := (b.disarm slot.key).unhold id) _ found
      (Barrier.task?_withdraw _ id) (fun _ => rfl) (apart _) (fun _ _ => rfl)
      (.withdraw (.inr phase)) other
  · rw [eq, answer]
    have undoomed : task.isDoomed = false := by simp [Task.isDoomed, has, undoomed]
    exact course_of_modify (b := b.disarm slot.key) _ found (fun _ => rfl) Task.id_doom (apart _)
      (fun _ _ => rfl) (.doom phase periodic undoomed) other
  · rw [eq, answer]
    exact .keep rfl

/-- A firing that starts a run concerns the task that has fired. -/
theorem course_of_fire_run {b : Barrier ν} {id : TaskId} (answer : (b.fire id).answer = .run)
    (stages stages' : TaskId → List RunStage) (started : stages' id = .starting false :: stages id)
    (kept : ∀ other, other ≠ id → stages' other = stages other) (other : TaskId) :
    Course other (.call id .run) (b.task? other) (stages other)
      ((b.fire id).barrier.task? other) (stages' other) := by
  rcases b.fire_cases id with ⟨task, found, slotted, live, eq⟩ | ⟨-, ignored | coalesced⟩
  · rw [eq, b.answer_fireLive] at answer
    have draining : b.draining = true := by
      by_contra idle
      simp [idle] at answer
    rw [eq]
    refine course_of_modify _ found (b.task?_fireLive id) (fun _ => rfl)
      (fun other ne => by simp [Deed.concerns, Ne.symm ne]) kept ?_ other
    rw [draining, started]
    exact .run slotted live
  · rw [ignored] at answer
    cases answer
  · rw [coalesced] at answer
    cases answer

/-- A firing that starts no run concerns the task that has fired, if any. -/
theorem course_of_fire_pass {b : Barrier ν} {id : TaskId} (answer : (b.fire id).answer ≠ .run)
    (stages : TaskId → List RunStage) (other : TaskId) :
    Course other (.call id (b.fire id).answer) (b.task? other) (stages other)
      ((b.fire id).barrier.task? other) (stages other) := by
  rcases b.fire_cases id with ⟨task, found, slotted, live, eq⟩ | ⟨eq, ignored | coalesced⟩
  · rw [eq, b.answer_fireLive] at answer ⊢
    have idle : b.draining = false := by
      by_contra draining
      simp [draining] at answer
    rw [idle]
    refine course_of_modify _ found (b.task?_fireLive id) (fun _ => rfl)
      (fun other ne => by simp [Deed.concerns, Ne.symm ne]) (fun _ _ => rfl) ?_ other
    rw [idle]
    exact .hold slotted live
  · rw [eq, ignored]
    exact .keep rfl
  · rw [eq, coalesced]
    exact .keep rfl

/-- A replay concerns the task at the front of the hold queue, which has to be a held one. -/
theorem course_of_replay {b : Barrier ν} {id : TaskId} (answer : b.popHeld.answer = .run id)
    (held : b.phase? id = some .held) (stages stages' : TaskId → List RunStage)
    (started : stages' id = .starting true :: stages id)
    (kept : ∀ other, other ≠ id → stages' other = stages other) (other : TaskId) :
    Course other (.replay (.run id)) (b.task? other) (stages other)
      (b.popHeld.barrier.task? other) (stages' other) := by
  obtain ⟨task, rest, -, found, slotted, eq⟩ := Barrier.popHeld_of_run answer
  have seen : ∀ other, b.popHeld.barrier.task? other =
      (b.modify id (·.setPhase .running)).task? other := by
    intro other
    rw [eq]
    rfl
  rw [Barrier.phase?, found] at held
  refine course_of_modify _ found seen (fun _ => rfl)
    (fun other ne => by simp [Deed.concerns, Ne.symm ne]) kept ?_ other
  rw [started]
  exact .replay slotted (Option.some.inj held)

/-- The body of a task is locked for its execution, if it is intact and not locked. -/
theorem enterBody?_of_intact {b : Barrier ν} (coherent : b.Coherent) {id : TaskId} {task : Task ν}
    (found : b.task? id = some task) (idle : task.executing = false)
    (intact : task.body = task.intactBody) :
    b.enterBody? id = some (true, b.modify id (·.entered)) := by
  unfold Barrier.enterBody?
  simp only [found, Task.enter?_of_intact idle intact, Option.map_some,
    coherent.modify_eq found (·.entered)]

/-- The body of a task that is not locked can be thrown away. -/
theorem discard?_of_idle {b : Barrier ν} {id : TaskId} {task : Task ν}
    (found : b.task? id = some task) (idle : task.executing = false) :
    b.discard? id = some (b.modify id (·.discard)) := by
  simp [Barrier.discard?, found, idle]

/-- The beginning of an execution concerns the task whose body it is. -/
theorem course_of_enter {b : Barrier ν} {id : TaskId} {task : Task ν}
    (found : b.task? id = some task) (stages stages' : TaskId → List RunStage) {replayed : Bool}
    {rest : List RunStage} (ready : stages id = .starting replayed :: rest)
    (entered : stages' id = .executing :: rest)
    (kept : ∀ other, other ≠ id → stages' other = stages other) (other : TaskId) :
    Course other (.enter id true) (b.task? other) (stages other)
      ((b.modify id (·.entered)).task? other) (stages' other) := by
  refine course_of_modify (·.entered) found (fun _ => rfl) (fun _ => rfl)
    (fun other ne => by simp [Deed.concerns, Ne.symm ne]) kept ?_ other
  rw [ready, entered]
  exact .enter

/-- The end of an execution concerns the task whose body it is. -/
theorem course_of_leaveBody {b : Barrier ν} {id : TaskId} {task : Task ν}
    (found : b.task? id = some task) (result : Option ν)
    (stages stages' : TaskId → List RunStage) {rest : List RunStage}
    (executed : stages id = .executing :: rest) (left : stages' id = .finishing :: rest)
    (kept : ∀ other, other ≠ id → stages' other = stages other) (other : TaskId) :
    Course other (.leave id) (b.task? other) (stages other)
      ((b.leaveBody id result).task? other) (stages' other) := by
  refine course_of_modify (·.leave result) found (fun _ => rfl) (Task.id_leave · result)
    (fun other ne => by simp [Deed.concerns, Ne.symm ne]) kept ?_ other
  rw [executed, left]
  exact .leave

/-- That a body is thrown away concerns the task whose body it was. -/
theorem course_of_discard {b : Barrier ν} {id : TaskId} {task : Task ν}
    (found : b.task? id = some task) (cancelled : task.phase = .cancelled)
    (stages : TaskId → List RunStage) (other : TaskId) :
    Course other (.discard id) (b.task? other) (stages other)
      ((b.modify id (·.discard)).task? other) (stages other) :=
  course_of_modify (·.discard) found (fun _ => rfl) Task.id_discard
    (fun other ne => by simp [Deed.concerns, Ne.symm ne]) (fun _ _ => rfl) (.discard cancelled)
    other

/-- A value that is read concerns no phase, no slot and no body. -/
theorem course_of_readValue {b : Barrier ν} (id : TaskId) (stages : TaskId → List RunStage)
    (other : TaskId) :
    Course other .aside (b.task? other) (stages other) ((b.readValue id).2.task? other)
      (stages other) := by
  rcases b.readValue_cases id with eq | ⟨task, promise, found, eq⟩
  · rw [eq]
    exact .keep rfl
  · rw [eq]
    exact course_of_modify ({ · with promise := promise }) found (fun _ => rfl) (fun _ => rfl)
      (fun _ _ => rfl) (fun _ _ => rfl) .read other

/-- The end of a run concerns the task that ran. -/
theorem course_of_finish {b : Barrier ν} {id : TaskId} {task : Task ν} {slot : Slot}
    (found : b.task? id = some task) (has : task.slot = some slot) (running : task.phase = .running)
    (stages stages' : TaskId → List RunStage) (ended : stages id = .finishing :: stages' id)
    (kept : ∀ other, other ≠ id → stages' other = stages other) (other : TaskId) :
    Course other (.finish id) (b.task? other) (stages other)
      ((b.finish id).barrier.task? other) (stages' other) := by
  rw [(Barrier.finish_of_slot found has).2]
  refine course_of_modify _ found
    (fun other => b.task?_modify_modify (b.uncount id) id other (·.setCounted false) _
      (fun _ => rfl) Task.id_afterRun (b.task?_uncount id))
    (fun task => (Task.id_afterRun _).trans (task.id_setCounted false))
    (fun other ne => by simp [Deed.concerns, Ne.symm ne]) kept ?_ other
  rw [ended]
  exact .finish running

/-- The end of a cycle concerns all tasks, and drops those that it lists.  No task is counted any
more at the end of a cycle that ends because nothing is outstanding. -/
theorem course_of_reset {b : Barrier ν} (coherent : b.Coherent) {ending : Ending}
    (cleared : ∀ task ∈ b.tasks, task.isCounted = true → ending.failed = true)
    (stages : List RunStage) (id : TaskId) :
    Course id (.reset ending b.dropped) (b.task? id) stages (b.reset.task? id) stages := by
  rw [b.task?_reset]
  cases found : b.task? id with
  | some task =>
      exact .reset (coherent.mem_dropped_iff found) (cleared task (Barrier.task?_mem found))
  | none =>
      refine .absent fun listed => ?_
      obtain ⟨task, member, same⟩ := List.mem_map.mp listed
      have known : id ∈ b.ids := same ▸ List.mem_map_of_mem (List.mem_of_mem_filter member)
      rw [Barrier.mem_ids_iff, found] at known
      cases known

end TaskBarrier
