import TaskBarrier.Barrier.Task
import TaskBarrier.Config
import TaskBarrier.Event
import TaskBarrier.Timer.Facility

/-!
# The barrier

A barrier counts the tasks that have been accepted and have not finished, and decides when a
task that fires may run.  While somebody awaits, the barrier is *draining*: what fires, runs.
Otherwise a task that fires is *held*: it waits in a queue, in the order of the firings, and is
replayed by the next await.

Everything here is guarded by one lock.  The functions of this directory are its critical
sections: each takes the barrier as it was when the lock was taken, and gives back the barrier as
it is when the lock is released, an answer, and the events that were logged meanwhile.  Whatever
any number of threads do to a barrier is a sequence of these sections.

## Main Definitions

- `Barrier`, `Barrier.fresh`.
- `Section`: what one critical section leaves behind.
- `Barrier.task?`, `Barrier.modify`: one task.
- `Barrier.count`, `Barrier.uncount`: the number of outstanding tasks.

### design decisions

* Tasks are kept in the order of their acceptance, each with its slot inside.  A task that has
  ended stays in the list without a slot, so that handles can still ask for its phase.
* The count of outstanding tasks is a number of its own that each section changes, next to the
  flag in each slot.  That the two agree is a theorem about runs, not a definition.
* The timing facility is part of the barrier, because sections arm and disarm entries while the
  lock is held.
-/

namespace TaskBarrier

/-- What the lock of a scheduler guards, together with what never changes. -/
structure Barrier (ν : Type) where
  config : Config
  facility : Facility TaskId
  /-- Whether a task that fires may run at once. -/
  draining : Bool
  /-- The number of tasks that have not finished. -/
  outstanding : Nat
  /-- The tasks that wait to be replayed, in the order in which they fired. -/
  held : List TaskId
  /-- All tasks, in the order in which they were accepted. -/
  tasks : List (Task ν)
  nextId : TaskId

/-- What one critical section leaves behind. -/
structure Section (ν : Type) (α : Type) where
  answer : α
  barrier : Barrier ν
  events : List Event

namespace Barrier

variable {ν : Type}

/-- A barrier that no task has been given to. -/
def fresh (config : Config) (facility : Facility TaskId) : Barrier ν where
  config := config
  facility := facility
  draining := false
  outstanding := 0
  held := []
  tasks := []
  nextId := ⟨0⟩

/-- The task with the given number. -/
def task? (b : Barrier ν) (id : TaskId) : Option (Task ν) := b.tasks.find? (·.id == id)

/-- The phase of a task. -/
def phase? (b : Barrier ν) (id : TaskId) : Option Phase := (b.task? id).map (·.phase)

/-- A task that has a slot, together with the slot. -/
def slotted? (b : Barrier ν) (id : TaskId) : Option (Task ν × Slot) :=
  match b.task? id with
  | none => none
  | some task => task.slot.map (task, ·)

/-- The tasks that have a slot. -/
def slotted (b : Barrier ν) : List (Task ν) := b.tasks.filter (·.slot.isSome)

/-- Changes the task with the given number and no other. -/
def modify (b : Barrier ν) (id : TaskId) (change : Task ν → Task ν) : Barrier ν :=
  { b with tasks := b.tasks.map fun task => if task.id == id then change task else task }

/-- Counts a task as outstanding unless it is counted already. -/
def count (b : Barrier ν) (id : TaskId) : Barrier ν :=
  match b.slotted? id with
  | some (_, slot) =>
      if slot.counted then b
      else { b.modify id (·.setCounted true) with outstanding := b.outstanding + 1 }
  | none => b

/-- Stops counting a task as outstanding if it is counted. -/
def uncount (b : Barrier ν) (id : TaskId) : Barrier ν :=
  match b.slotted? id with
  | some (_, slot) =>
      if slot.counted then
        { b.modify id (·.setCounted false) with outstanding := b.outstanding - 1 }
      else b
  | none => b

/-- The body of a task starts to be executed; see `Task.enter?`. -/
def enterBody? (b : Barrier ν) (id : TaskId) : Option (Bool × Barrier ν) :=
  match b.task? id with
  | none => none
  | some task => task.enter?.map fun (execute, task) => (execute, b.modify id fun _ => task)

/-- The body of a task has ended; see `Task.leave`. -/
def leaveBody (b : Barrier ν) (id : TaskId) (result : Option ν) : Barrier ν :=
  b.modify id (·.leave result)

/-- The body of a task is thrown away, for which its lock has to be free. -/
def discard? (b : Barrier ν) (id : TaskId) : Option (Barrier ν) :=
  match b.task? id with
  | none => some b
  | some task => if task.executing then none else some (b.modify id (·.discard))

/-- Reads the value that a task is to produce.  A task that produces none has nothing to read. -/
def readValue (b : Barrier ν) (id : TaskId) : Reading ν × Barrier ν :=
  match (b.task? id).bind (·.promise) with
  | none => (.abandoned, b)
  | some promise =>
      let (reading, promise) := promise.read
      (reading, b.modify id ({ · with promise := some promise }))

@[simp] theorem outstanding_modify (b : Barrier ν) (id : TaskId) (change : Task ν → Task ν) :
    (b.modify id change).outstanding = b.outstanding := rfl

@[simp] theorem held_modify (b : Barrier ν) (id : TaskId) (change : Task ν → Task ν) :
    (b.modify id change).held = b.held := rfl

@[simp] theorem draining_modify (b : Barrier ν) (id : TaskId) (change : Task ν → Task ν) :
    (b.modify id change).draining = b.draining := rfl

@[simp] theorem facility_modify (b : Barrier ν) (id : TaskId) (change : Task ν → Task ν) :
    (b.modify id change).facility = b.facility := rfl

/-- Changing one task leaves all others as they are. -/
theorem task?_modify_of_ne (b : Barrier ν) {id other : TaskId} (change : Task ν → Task ν)
    (same : ∀ task, (change task).id = task.id) (ne : other ≠ id) :
    (b.modify id change).task? other = b.task? other := by
  simp only [task?, modify]
  induction b.tasks with
  | nil => rfl
  | cons head rest ih =>
      by_cases at_id : head.id = id
      · have not_other : head.id ≠ other := fun h => ne (h.symm.trans at_id)
        simp_all
      · by_cases at_other : head.id = other <;> simp_all

/-- Changing a task changes what is found under its number. -/
theorem task?_modify_self (b : Barrier ν) (id : TaskId) (change : Task ν → Task ν)
    (same : ∀ task, (change task).id = task.id) :
    (b.modify id change).task? id = (b.task? id).map change := by
  simp only [task?, modify]
  induction b.tasks with
  | nil => rfl
  | cons head rest ih => by_cases at_id : head.id = id <;> simp_all

end Barrier

end TaskBarrier
