import TaskBarrier.Proofs.Preservation

/-!
# One-shot tasks that come one after the other

A list of one-shot tasks that fire one after the other, and are run one at a time, can always be cut
into those that have run, the one whose run is in progress, those that wait in the hold queue, and
those that have not fired.  Such a `Lineup` determines the record of every task, and each critical
section moves one task on.

This module says what the sections make of a barrier whose tasks are in a lineup.  Two ways lead
from the tasks that have not fired to a run, one through the hold queue and one past it, and they
come together in the record: a lineup does not remember which way a task has taken.

## Main Definitions

* `Lineup`, `Lineup.whole`: how far the tasks of a list have come.
* `Mark`, `Lineup.mark`: where one task stands.
* `Task.marked`, `Task.completed`: the record of a task that has come so far.
* `Barrier.InLine`: the tasks of a barrier are in a lineup.
-/

namespace TaskBarrier

variable {ν : Type}

/-! ## Where tasks stand -/

/-- The run of a task on a thread. -/
structure Running where
  task : TaskId
  stage : RunStage
  thread : ThreadId

/-- How far the tasks of a list have come, in the order of the list. -/
structure Lineup where
  /-- Their runs are over. -/
  ran : List TaskId
  /-- The run in progress. -/
  current : Option Running
  /-- They wait in the hold queue. -/
  held : List TaskId
  /-- They have not fired. -/
  ahead : List TaskId

/-- Where one task stands. -/
inductive Mark where
  | live
  | held
  | running (stage : RunStage)
  | ran

/-- The phase of a task that stands there. -/
def Mark.phase : Mark → Phase
  | live => .live
  | held => .held
  | running _ => .running
  | ran => .ran

namespace Lineup

/-- The tasks that have fired. -/
def fired (lineup : Lineup) : List TaskId :=
  lineup.ran ++ (lineup.current.map (·.task)).toList ++ lineup.held

/-- All tasks, those that come first in front. -/
def whole (lineup : Lineup) : List TaskId := lineup.fired ++ lineup.ahead

/-- The tasks whose bodies have been executed, or are being executed. -/
def executed (lineup : Lineup) : List TaskId :=
  lineup.ran ++ match lineup.current with
    | some ⟨_, .starting _, _⟩ | none => []
    | some ⟨task, _, _⟩ => [task]

/-- The frame of the run in progress, if the thread makes it. -/
def frames (lineup : Lineup) (thread : ThreadId) : Stack ν :=
  match lineup.current with
  | some running => if running.thread = thread then [.run running.task running.stage] else []
  | none => []

/-- The stage of the run in progress, if it is one of the given task. -/
def stage? (lineup : Lineup) (id : TaskId) : Option RunStage :=
  match lineup.current with
  | some running => if running.task = id then some running.stage else none
  | none => none

/-- Where a task stands. -/
def mark (lineup : Lineup) (id : TaskId) : Mark :=
  if id ∈ lineup.ran then .ran
  else
    match lineup.stage? id with
    | some stage => .running stage
    | none => if id ∈ lineup.held then .held else .live

/-- All tasks have run. -/
structure IsOver (lineup : Lineup) : Prop where
  current : lineup.current = none
  held : lineup.held = []
  ahead : lineup.ahead = []

end Lineup

namespace Task

/-- A one-shot task whose body has ended with the given result and that has run. -/
def completed (result : Option ν) (task : Task ν) : Task ν :=
  { task with
    phase := .ran
    slot := none
    body := .spent
    executing := false
    promise := task.promise.map (·.settle result) }

/-- The record of a task that has come so far.  Its body ends with the given result. -/
def marked (result : Option ν) : Mark → Task ν → Task ν
  | .live, task => task
  | .held, task => task.setPhase .held
  | .running (.starting _), task => task.setPhase .running
  | .running .executing, task => (task.setPhase .running).entered
  | .running .finishing, task => (task.setPhase .running).entered.leave result
  | .ran, task => task.completed result

@[simp] theorem id_marked (result : Option ν) (mark : Mark) (task : Task ν) :
    (task.marked result mark).id = task.id := by
  cases mark with
  | running stage => cases stage <;> rfl
  | _ => rfl

/-- A one-shot task that waits for its first firing. -/
structure IsFresh (task : Task ν) : Prop where
  once : task.periodic = false
  live : task.phase = .live
  counted : task.isCounted = true
  undoomed : task.isDoomed = false

namespace IsFresh

variable {task : Task ν} (fresh : task.IsFresh) (result : Option ν)
include fresh

theorem phase_marked (mark : Mark) : (task.marked result mark).phase = mark.phase := by
  cases mark with
  | live => exact fresh.live
  | running stage => cases stage <;> rfl
  | _ => rfl

/-- A task is counted until it has run. -/
theorem isCounted_marked (mark : Mark) :
    (task.marked result mark).isCounted = true ↔ mark.phase ≠ .ran := by
  have counted := fresh.counted
  cases mark with
  | ran => simp [marked, completed, isCounted, Mark.phase]
  | running stage => cases stage <;> exact iff_of_true counted (by simp [Mark.phase])
  | _ => exact iff_of_true counted (by simp [Mark.phase])

/-- The run of a task that was fresh completes it. -/
theorem afterRun :
    Barrier.afterRun ((task.marked result (.running .finishing)).setCounted false) =
      task.completed result := by
  have undoomed : ((task.marked result (.running .finishing)).setCounted false).isDoomed = false :=
    (isDoomed_setCounted task false).trans fresh.undoomed
  have once : ((task.marked result (.running .finishing)).setCounted false).periodic = false :=
    fresh.once
  have spent : task.usedBody = .spent := by simp [usedBody, fresh.once]
  simp only [Barrier.afterRun, undoomed, once, Bool.false_eq_true, if_false]
  simp only [marked, completed, retire, setCounted, leave, entered, setPhase, ← spent]
  rfl

end IsFresh

end Task

namespace Lineup

/-- The record of a task in a lineup. -/
def record (lineup : Lineup) (values : TaskId → Option ν) (task : Task ν) : Task ν :=
  task.marked (values task.id) (lineup.mark task.id)

@[simp] theorem id_record (lineup : Lineup) (values : TaskId → Option ν) (task : Task ν) :
    (lineup.record values task).id = task.id := Task.id_marked ..

/-- Bodies are executed in the order of the lineup. -/
theorem executed_prefix (lineup : Lineup) : lineup.executed <+: lineup.whole := by
  simp only [executed, whole, fired, List.append_assoc]
  refine (List.prefix_append_right_inj _).mpr ?_
  split
  · exact List.nil_prefix
  · exact List.nil_prefix
  · next task _ _ _ current =>
    rw [current]
    exact List.prefix_append _ _

/-- A thread makes no run, or the run in progress. -/
theorem frames_cases (lineup : Lineup) (thread : ThreadId) :
    (lineup.frames thread : Stack ν) = [] ∨
      ∃ id stage, lineup.current = some ⟨id, stage, thread⟩ ∧
        (lineup.frames thread : Stack ν) = [.run id stage] := by
  unfold frames
  cases lineup.current with
  | none => exact .inl rfl
  | some running =>
      by_cases own : running.thread = thread
      · exact .inr ⟨running.task, running.stage, by rw [← own], if_pos own⟩
      · exact .inl (if_neg own)

/-- A thread that does not make the run in progress makes none. -/
theorem frames_of_ne {lineup : Lineup} {thread : ThreadId}
    (apart : ∀ running, lineup.current = some running → running.thread ≠ thread) :
    (lineup.frames thread : Stack ν) = [] := by
  unfold frames
  split
  · next running current => exact if_neg (apart running current)
  · rfl

/-! ## Moving one task on -/

section Marks

variable {lineup : Lineup} {id : TaskId}

theorem mark_of_ran (ran : id ∈ lineup.ran) : lineup.mark id = .ran := if_pos ran

theorem ran_of_mark (ran : (lineup.mark id).phase = .ran) : id ∈ lineup.ran := by
  unfold mark at ran
  split at ran
  · assumption
  · split at ran
    · cases ran
    · split at ran <;> cases ran

/-- The tasks that have run are none of the others. -/
theorem not_mem_ran (distinct : lineup.whole.Nodup)
    (later : id ∈ (lineup.current.map (·.task)).toList ++ (lineup.held ++ lineup.ahead)) :
    id ∉ lineup.ran := by
  rw [whole, fired, List.append_assoc, List.append_assoc] at distinct
  exact fun ran => (List.nodup_append.mp distinct).2.2 id ran id later rfl

/-- The task whose run is in progress is none of those that come later. -/
theorem stage?_of_later (distinct : lineup.whole.Nodup) (later : id ∈ lineup.held ++ lineup.ahead) :
    lineup.stage? id = none := by
  rw [whole, fired, List.append_assoc, List.append_assoc] at distinct
  obtain ⟨-, -, apart⟩ := List.nodup_append.mp (List.nodup_append.mp distinct).2.1
  unfold stage?
  cases current : lineup.current with
  | none => rfl
  | some running =>
      exact if_neg fun same => apart id (by simp [current, same]) id later rfl

theorem mark_of_current (distinct : lineup.whole.Nodup) {stage : RunStage} {thread : ThreadId}
    (current : lineup.current = some ⟨id, stage, thread⟩) : lineup.mark id = .running stage := by
  have fresh : id ∉ lineup.ran := not_mem_ran distinct (by simp [current])
  simp [mark, fresh, stage?, current]

theorem mark_of_held (distinct : lineup.whole.Nodup) (held : id ∈ lineup.held) :
    lineup.mark id = .held := by
  have fresh : id ∉ lineup.ran := not_mem_ran distinct (by simp [held])
  have idle : lineup.stage? id = none := stage?_of_later distinct (by simp [held])
  simp [mark, fresh, idle, held]

theorem mark_of_ahead (distinct : lineup.whole.Nodup) (ahead : id ∈ lineup.ahead) :
    lineup.mark id = .live := by
  have fresh : id ∉ lineup.ran := not_mem_ran distinct (by simp [ahead])
  have idle : lineup.stage? id = none := stage?_of_later distinct (by simp [ahead])
  have unheld : id ∉ lineup.held := by
    rw [whole] at distinct
    exact fun held => (List.nodup_append.mp distinct).2.2 id (by simp [fired, held]) id ahead rfl
  simp [mark, fresh, idle, unheld]

theorem mark_of_absent (absent : id ∉ lineup.whole) : lineup.mark id = .live := by
  simp only [whole, fired, List.mem_append, not_or] at absent
  obtain ⟨⟨⟨fresh, idle⟩, unheld⟩, -⟩ := absent
  have idle : lineup.stage? id = none := by
    unfold stage?
    cases current : lineup.current with
    | none => rfl
    | some running => exact if_neg fun same => idle (by simp [current, same])
  simp [mark, fresh, idle, unheld]

/-- All tasks have run if all of them are among those that have. -/
theorem isOver_iff (distinct : lineup.whole.Nodup) :
    lineup.IsOver ↔ ∀ id ∈ lineup.whole, id ∈ lineup.ran := by
  constructor
  · rintro ⟨current, held, ahead⟩
    simp [whole, fired, current, held, ahead]
  · intro all
    have none : ∀ id,
        id ∉ (lineup.current.map (·.task)).toList ++ (lineup.held ++ lineup.ahead) := by
      intro id later
      refine not_mem_ran distinct later (all id ?_)
      rw [whole, fired, List.append_assoc, List.append_assoc]
      exact List.mem_append_right _ later
    have empty := List.eq_nil_iff_forall_not_mem.mpr none
    simp only [List.append_eq_nil_iff, Option.toList_eq_nil_iff, Option.map_eq_none_iff] at empty
    exact ⟨empty.1, empty.2.1, empty.2.2⟩

theorem of_isOver (finished : lineup.IsOver) : lineup.ran = lineup.whole ∧
    lineup.fired = lineup.whole ∧ lineup.executed = lineup.whole := by
  simp [whole, fired, executed, finished.current, finished.held, finished.ahead]

/-- Once all tasks have run, the lineup does not remember more. -/
theorem mark_of_isOver (finished : lineup.IsOver) (id : TaskId) :
    lineup.mark id = if id ∈ lineup.whole then .ran else .live := by
  rw [← (of_isOver finished).1]
  simp [mark, stage?, finished.current, finished.held]

end Marks

end Lineup

namespace Barrier

/-- Nothing is counted twice. -/
theorem count_of_isCounted {b : Barrier ν} {id : TaskId} {task : Task ν}
    (found : b.task? id = some task) (counted : task.isCounted = true) : b.count id = b := by
  obtain ⟨slot, has, on⟩ : ∃ slot, task.slot = some slot ∧ slot.counted = true := by
    simpa [Task.isCounted, Option.any_eq_true] using counted
  simp [count, slotted?_of_task? found has, on]

/-- What is counted, is counted no more. -/
theorem uncount_of_isCounted {b : Barrier ν} {id : TaskId} {task : Task ν}
    (found : b.task? id = some task) (counted : task.isCounted = true) : b.uncount id =
      { b.modify id (·.setCounted false) with outstanding := b.outstanding - 1 } := by
  obtain ⟨slot, has, on⟩ : ∃ slot, task.slot = some slot ∧ slot.counted = true := by
    simpa [Task.isCounted, Option.any_eq_true] using counted
  simp [uncount, slotted?_of_task? found has, on]

/-- The given tasks are fresh, and are all that is counted. -/
structure Supplies (origin : Barrier ν) (ids : List TaskId) : Prop where
  distinct : ids.Nodup
  known : ∀ id ∈ ids, (origin.task? id).isSome = true
  fresh : ∀ task ∈ origin.tasks, task.id ∈ ids → task.IsFresh
  all : ∀ task ∈ origin.tasks, task.isCounted = true → task.id ∈ ids

/-- **The tasks of a barrier are in a lineup**, and are otherwise what they were in `origin`. -/
structure InLine (origin : Barrier ν) (values : TaskId → Option ν) (lineup : Lineup)
    (b : Barrier ν) : Prop where
  supplies : origin.Supplies lineup.whole
  tasks : b.tasks = origin.tasks.map (lineup.record values)
  held : b.held = lineup.held
  config : b.config = origin.config
  nextId : b.nextId = origin.nextId

namespace InLine

variable {origin b b' : Barrier ν} {values : TaskId → Option ν} {lineup lineup' : Lineup}
  {id : TaskId} {thread : ThreadId} {ran held ahead : List TaskId}

/-- The record that is found under a number. -/
theorem task?_eq (line : InLine origin values lineup b) (id : TaskId) :
    b.task? id = (origin.task? id).map (lineup.record values) := by
  simp only [task?, line.tasks, List.find?_map]
  congr 1
  exact congrArg (List.find? · origin.tasks) (funext fun task => by simp)

/-- A task of the lineup that is found is the record of a fresh one. -/
theorem of_found (line : InLine origin values lineup b) {task : Task ν}
    (found : b.task? id = some task) (member : id ∈ lineup.whole) :
    ∃ first ∈ origin.tasks, first.id = id ∧ first.IsFresh ∧
      task = first.marked (values id) (lineup.mark id) := by
  rw [line.task?_eq] at found
  obtain ⟨first, present, rfl⟩ := Option.map_eq_some_iff.mp found
  obtain rfl := task?_id present
  exact ⟨first, task?_mem present, rfl, line.supplies.fresh first (task?_mem present) member, rfl⟩

/-- The phase of a task of the lineup. -/
theorem phase?_eq (line : InLine origin values lineup b) (member : id ∈ lineup.whole) :
    b.phase? id = some (lineup.mark id).phase := by
  obtain ⟨first, present⟩ := Option.isSome_iff_exists.mp (line.supplies.known id member)
  have named := task?_id present
  have fresh := line.supplies.fresh first (task?_mem present) (named ▸ member)
  rw [phase?, line.task?_eq, present]
  simp only [Option.map_some, Lineup.record, fresh.phase_marked, named]

/-- All tasks have run if their phases say so. -/
theorem isOver_of_phases (line : InLine origin values lineup b)
    (ran : ∀ id ∈ lineup.whole, b.phase? id = some .ran) : lineup.IsOver := by
  refine (Lineup.isOver_iff line.supplies.distinct).mpr fun id member => ?_
  have phase := (line.phase?_eq member).symm.trans (ran id member)
  exact Lineup.ran_of_mark (Option.some.inj phase)

/-- **Nothing is outstanding if and only if all tasks have run.** -/
theorem outstanding_eq_zero_iff (line : InLine origin values lineup b) (coherent : b.Coherent) :
    b.outstanding = 0 ↔ lineup.IsOver := by
  rw [coherent.balanced, counted, List.countP_eq_zero, line.tasks, List.forall_mem_map,
    Lineup.isOver_iff line.supplies.distinct]
  constructor
  · intro none id member
    obtain ⟨first, present⟩ := Option.isSome_iff_exists.mp (line.supplies.known id member)
    obtain rfl := task?_id present
    have fresh := line.supplies.fresh first (task?_mem present) member
    have uncounted := none first (task?_mem present)
    rw [Lineup.record, fresh.isCounted_marked, not_not] at uncounted
    exact Lineup.ran_of_mark uncounted
  · intro all task member counted
    by_cases listed : task.id ∈ lineup.whole
    · have ran := Lineup.mark_of_ran (all _ listed)
      rw [Lineup.record, (line.supplies.fresh task member listed).isCounted_marked, ran] at counted
      exact counted rfl
    · -- The record of a task outside of the lineup is what it was, so it is not counted.
      have same : lineup.record values task = task := by
        rw [Lineup.record, Lineup.mark_of_absent listed]
        rfl
      rw [same] at counted
      exact listed (line.supplies.all task member counted)

/-- What no section of a lineup reads may change. -/
theorem of_same (line : InLine origin values lineup b) (tasks : b'.tasks = b.tasks)
    (held : b'.held = b.held) (config : b'.config = b.config) (nextId : b'.nextId = b.nextId) :
    InLine origin values lineup b' where
  supplies := line.supplies
  tasks := tasks.trans line.tasks
  held := held.trans line.held
  config := config.trans line.config
  nextId := nextId.trans line.nextId

/-- **One task is moved on**: the change of its record is that of its mark. -/
theorem move (line : InLine origin values lineup b) (change : Task ν → Task ν)
    (stays : b.Stays b') (tasks : b'.tasks = (b.modify id change).tasks)
    (held : b'.held = lineup'.held) (whole : lineup'.whole = lineup.whole)
    (member : id ∈ lineup.whole)
    (others : ∀ other, other ≠ id → lineup'.mark other = lineup.mark other)
    (own : ∀ task : Task ν, task.IsFresh → change (task.marked (values id) (lineup.mark id)) =
      task.marked (values id) (lineup'.mark id)) : InLine origin values lineup' b' where
  supplies := whole ▸ line.supplies
  tasks := by
    rw [tasks, modify, line.tasks, List.map_map]
    refine List.map_congr_left fun task listed => ?_
    by_cases same : task.id = id
    · have moved := own task (line.supplies.fresh task listed (same ▸ member))
      simpa [Lineup.record, same] using moved
    · simp [Lineup.record, same, others _ same]
  held := held
  config := stays.config.trans line.config
  nextId := stays.nextId.trans line.nextId

/-- The first task that has not fired is held when it fires while nobody awaits. -/
theorem hold (line : InLine origin values ⟨ran, none, held, id :: ahead⟩ b)
    (idle : b.draining = false) {task : Task ν} (found : b.task? id = some task) :
    InLine origin values ⟨ran, none, held ++ [id], ahead⟩ (b.fireLive id).barrier := by
  have before : Lineup.mark ⟨ran, none, held, id :: ahead⟩ id = .live :=
    Lineup.mark_of_ahead line.supplies.distinct List.mem_cons_self
  obtain ⟨first, -, -, fresh, rfl⟩ := line.of_found found (by simp [Lineup.whole])
  rw [before] at found
  have whole : Lineup.whole ⟨ran, none, held ++ [id], ahead⟩ =
      Lineup.whole ⟨ran, none, held, id :: ahead⟩ := by simp [Lineup.whole, Lineup.fired]
  have after : Lineup.mark ⟨ran, none, held ++ [id], ahead⟩ id = .held :=
    Lineup.mark_of_held (whole ▸ line.supplies.distinct) (by simp)
  have fired : (b.fireLive id).barrier =
      { b.modify id (·.setPhase .held) with held := b.held ++ [id] } := by
    simp only [fireLive, idle, Bool.false_eq_true, if_false, count_of_isCounted found fresh.counted]
  rw [fired]
  refine line.move (·.setPhase .held) ⟨rfl, rfl, rfl, rfl⟩ rfl ?_ whole (by simp [Lineup.whole])
    (fun other ne => by simp [Lineup.mark, Lineup.stage?, ne]) fun task _ => ?_
  · simp [line.held]
  · rw [before, after]
    rfl

/-- The first task that has not fired is run when it fires during an await. -/
theorem start (line : InLine origin values ⟨ran, none, [], id :: ahead⟩ b)
    (draining : b.draining = true) {task : Task ν} (found : b.task? id = some task) :
    InLine origin values ⟨ran, some ⟨id, .starting false, thread⟩, [], ahead⟩
      (b.fireLive id).barrier := by
  have before : Lineup.mark ⟨ran, none, [], id :: ahead⟩ id = .live :=
    Lineup.mark_of_ahead line.supplies.distinct List.mem_cons_self
  obtain ⟨first, -, -, fresh, rfl⟩ := line.of_found found (by simp [Lineup.whole])
  rw [before] at found
  have whole : Lineup.whole ⟨ran, some ⟨id, .starting false, thread⟩, [], ahead⟩ =
      Lineup.whole ⟨ran, none, [], id :: ahead⟩ := by simp [Lineup.whole, Lineup.fired]
  have after : Lineup.mark ⟨ran, some ⟨id, .starting false, thread⟩, [], ahead⟩ id =
      .running (.starting false) :=
    Lineup.mark_of_current (whole ▸ line.supplies.distinct) rfl
  have fired : (b.fireLive id).barrier = b.modify id (·.setPhase .running) := by
    simp only [fireLive, draining, if_true, count_of_isCounted found fresh.counted]
  rw [fired]
  refine line.move (·.setPhase .running) (b.stays_modify id _) rfl line.held whole
    (by simp [Lineup.whole]) (fun other ne => by simp [Lineup.mark, Lineup.stage?, Ne.symm ne])
    fun task _ => ?_
  rw [before, after]
  rfl

/-- The first task that is held is run when it is replayed. -/
theorem replay (line : InLine origin values ⟨ran, none, id :: held, ahead⟩ b)
    (answer : b.popHeld.answer = .run id) :
    InLine origin values ⟨ran, some ⟨id, .starting true, thread⟩, held, ahead⟩
      b.popHeld.barrier := by
  obtain ⟨task, rest, queue, found, -, eq⟩ := popHeld_of_run answer
  obtain rfl : held = rest := (List.cons.inj (line.held.symm.trans queue)).2
  have before : Lineup.mark ⟨ran, none, id :: held, ahead⟩ id = .held :=
    Lineup.mark_of_held line.supplies.distinct List.mem_cons_self
  have whole : Lineup.whole ⟨ran, some ⟨id, .starting true, thread⟩, held, ahead⟩ =
      Lineup.whole ⟨ran, none, id :: held, ahead⟩ := by simp [Lineup.whole, Lineup.fired]
  have after : Lineup.mark ⟨ran, some ⟨id, .starting true, thread⟩, held, ahead⟩ id =
      .running (.starting true) :=
    Lineup.mark_of_current (whole ▸ line.supplies.distinct) rfl
  rw [eq]
  refine line.move (·.setPhase .running) ⟨rfl, rfl, rfl, rfl⟩ rfl rfl whole
    (by simp [Lineup.whole, Lineup.fired])
    (fun other ne => by simp [Lineup.mark, Lineup.stage?, ne, Ne.symm ne]) fun task _ => ?_
  rw [before, after]
  rfl

/-- The run in progress comes to its next stage. -/
theorem advance {stage stage' : RunStage}
    (line : InLine origin values ⟨ran, some ⟨id, stage, thread⟩, held, ahead⟩ b)
    {change : Task ν → Task ν}
    (own : ∀ task : Task ν, change (task.marked (values id) (.running stage)) =
      task.marked (values id) (.running stage')) :
    InLine origin values ⟨ran, some ⟨id, stage', thread⟩, held, ahead⟩ (b.modify id change) := by
  refine line.move change (b.stays_modify id change) rfl line.held rfl
    (by simp [Lineup.whole, Lineup.fired])
    (fun other ne => by simp [Lineup.mark, Lineup.stage?, Ne.symm ne]) fun task _ => ?_
  rw [Lineup.mark_of_current line.supplies.distinct rfl, Lineup.mark_of_current ?_ rfl, own task]
  exact line.supplies.distinct

/-- The run in progress is over. -/
theorem finish (line : InLine origin values ⟨ran, some ⟨id, .finishing, thread⟩, held, ahead⟩ b)
    {task : Task ν} (found : b.task? id = some task) :
    (b.finish id).answer = false ∧
      InLine origin values ⟨ran ++ [id], none, held, ahead⟩ (b.finish id).barrier := by
  have before : Lineup.mark ⟨ran, some ⟨id, .finishing, thread⟩, held, ahead⟩ id =
      .running .finishing := Lineup.mark_of_current line.supplies.distinct rfl
  have after : Lineup.mark ⟨ran ++ [id], none, held, ahead⟩ id = .ran :=
    Lineup.mark_of_ran (by simp)
  have member : id ∈ Lineup.whole ⟨ran, some ⟨id, .finishing, thread⟩, held, ahead⟩ := by
    simp [Lineup.whole, Lineup.fired]
  obtain ⟨first, -, -, fresh, rfl⟩ := line.of_found found member
  rw [before] at found
  obtain ⟨slot, has, counted⟩ : ∃ slot, first.slot = some slot ∧ slot.counted = true := by
    simpa [Task.isCounted, Option.any_eq_true] using fresh.counted
  have undoomed : slot.doomed = false := by simpa [Task.isDoomed, has] using fresh.undoomed
  obtain ⟨answer, eq⟩ := finish_of_slot found has
  refine ⟨answer.trans undoomed, ?_⟩
  refine line.move (fun task => afterRun (task.setCounted false)) (b.stays_finish id) ?_ ?_
    (by simp [Lineup.whole, Lineup.fired]) member
    (fun other ne => by simp [Lineup.mark, Lineup.stage?, ne, Ne.symm ne]) fun task fresh => ?_
  · rw [eq, uncount_of_isCounted found fresh.counted]
    simp only [modify, List.map_map]
    refine List.map_congr_left fun task _ => ?_
    simp only [Function.comp_apply]
    split <;> simp_all
  · rw [eq, held_modify, held_uncount, line.held]
  · rw [before, after, fresh.afterRun]
    rfl

end InLine

end Barrier

end TaskBarrier
