import TaskBarrier.Proofs.Preservation

/-!
# Operations on different tasks

Three critical sections are about a single task: its callback is decided upon, a run of it is over,
or somebody cancels it.  They share the counter, the hold queue, the flag and the facility with the
sections about all other tasks.  Still, two of them that are about different tasks can be
interchanged, and the one thing that tells the two orders apart is which of the tasks stands first
in the hold queue, if both have been put there.

What carries this is that an operation is known from very little.  Its answer, what it makes of the
record of its task, whether it counts one task more or less, what it does to the hold queue and
which entry it disarms follow from the flag and from that record.  Operations change no flag and no
record but that of their own task, so an operation does the same before and after another one; and
the changes themselves can be interchanged, one component of the barrier at a time.  It is here that
the counter has to be right: to take one away and then to add one is to add one and then to take one
away only if there was something to take away.

What holds of two neighbours holds of schedules of any length.  So the outcome of a schedule depends
on the order of the operations on each task and on the order in which tasks are newly held, and on
nothing else.

## Main Definitions

* `Operation`, `Reply`, `Operation.reply`, `Operation.perform`: one section about one task.
* `Effect`, `Operation.effect`: what an operation does, told from the flag and a record.
* `Barrier.Interchange`: two operations in either order.
* `Barrier.carryOut`, `Barrier.transcript`: one operation after the other.
* `Barrier.SameOrders`: schedules with the same orders, task by task and of the holding firings.
* `Interchangeable`: what holds of the operations in every state of a run.

The main statement is `interchangeable_of_run`.
-/

namespace TaskBarrier

variable {ν : Type}

/-! ## Operations -/

/-- A critical section that is about a single task. -/
inductive Operation where
  /-- The callback of the task has been called. -/
  | fire (task : TaskId)
  /-- A run of the task is over. -/
  | finish (task : TaskId)
  /-- Somebody cancels the task. -/
  | cancel (task : TaskId)
  deriving DecidableEq

/-- The answer to an operation. -/
inductive Reply where
  | fired (firing : Firing)
  | finished (discards : Bool)
  | cancelled (cancellation : Cancellation)
  deriving DecidableEq

namespace Operation

/-- The task that an operation is about. -/
def task : Operation → TaskId
  | fire task | finish task | cancel task => task

/-- The answer to an operation on a barrier. -/
def reply (operation : Operation) (b : Barrier ν) : Reply :=
  match operation with
  | fire task => .fired (b.fire task).answer
  | finish task => .finished (b.finish task).answer
  | cancel task => .cancelled (b.cancel task).answer

/-- What an operation leaves behind. -/
def perform (operation : Operation) (b : Barrier ν) : Barrier ν :=
  match operation with
  | fire task => (b.fire task).barrier
  | finish task => (b.finish task).barrier
  | cancel task => (b.cancel task).barrier

/-- The deed of a step that goes through the section. -/
def deed (operation : Operation) (b : Barrier ν) : Deed :=
  match operation with
  | fire task => .call task (b.fire task).answer
  | finish task => .finish task
  | cancel task => .cancel task (b.cancel task).answer

/-- Whether the operation can come next.  Callbacks are called and tasks are cancelled at any
moment, but only a run in progress can be over. -/
def isDue (operation : Operation) (b : Barrier ν) : Bool :=
  match operation with
  | fire _ | cancel _ => true
  | finish task => b.phase? task == some .running

/-- Whether the operation is a firing that puts its task into the hold queue. -/
def Holds (operation : Operation) (b : Barrier ν) : Prop := operation.reply b = .fired .held

end Operation

/-- An operation that has been performed. -/
structure Dealing where
  operation : Operation
  /-- Whether the operation could come then. -/
  isDue : Bool
  reply : Reply
  deriving DecidableEq

/-- An operation is performed on a barrier. -/
def Operation.dealing (operation : Operation) (b : Barrier ν) : Dealing :=
  ⟨operation, operation.isDue b, operation.reply b⟩

namespace Dealing

/-- The dealings with one task. -/
def ofTask (id : TaskId) (dealings : List Dealing) : List Dealing :=
  dealings.filter (·.operation.task == id)

/-- The task that the operation has newly held, if it has. -/
def held? (dealing : Dealing) : Option TaskId :=
  if dealing.reply = .fired .held then some dealing.operation.task else none

/-- What an operation newly holds is its task. -/
theorem task_of_held? (dealing : Dealing) {id : TaskId} (held : dealing.held? = some id) :
    dealing.operation.task = id := by
  unfold held? at held
  split at held
  · exact Option.some.inj held
  · cases held

end Dealing

/-! ## Schedules -/

/-- The operations on one task. -/
def Operation.ofTask (id : TaskId) (schedule : List Operation) : List Operation :=
  schedule.filter (·.task == id)

namespace Barrier

/-- Operations are performed one after the other. -/
def carryOut (b : Barrier ν) (schedule : List Operation) : Barrier ν :=
  schedule.foldl (fun b operation => operation.perform b) b

/-- The dealings of a schedule, in the order of the operations. -/
def transcript (b : Barrier ν) : List Operation → List Dealing
  | [] => []
  | operation :: rest => operation.dealing b :: (operation.perform b).transcript rest

/-- The tasks that a schedule newly holds, in the order in which it does. -/
def newlyHeld (b : Barrier ν) (schedule : List Operation) : List TaskId :=
  (b.transcript schedule).filterMap (·.held?)

/-- Two schedules have the same operations on each task in the same order, and newly hold the same
tasks in the same order. -/
structure SameOrders (b : Barrier ν) (schedule schedule' : List Operation) : Prop where
  orders : ∀ id, Operation.ofTask id schedule = Operation.ofTask id schedule'
  holdings : b.newlyHeld schedule = b.newlyHeld schedule'

end Barrier

/-! ## Effects -/

/-- What an operation does to the flag of its task and to the counter, which are changed
together. -/
inductive Tally where
  | keep
  | count
  | uncount
  deriving DecidableEq

namespace Tally

/-- The counter afterwards. -/
def total : Tally → Nat → Nat
  | keep, total => total
  | count, total => total + 1
  | uncount, total => total - 1

/-- The task with its flag afterwards. -/
def flag : Tally → Task ν → Task ν
  | keep, task => task
  | count, task => task.setCounted true
  | uncount, task => task.setCounted false

end Tally

/-- What an operation does to the hold queue. -/
inductive Queueing where
  | stay
  | join
  | leave
  deriving DecidableEq

/-- The hold queue afterwards. -/
def Queueing.queue (id : TaskId) : Queueing → List TaskId → List TaskId
  | stay, held => held
  | join, held => held ++ [id]
  | leave, held => held.filter (· != id)

/-- What an operation answers, and what it does to the barrier. -/
structure Effect (ν : Type) where
  reply : Reply
  tally : Tally
  /-- What becomes of the task, apart from its flag. -/
  change : Task ν → Task ν
  queueing : Queueing
  /-- The entry that is disarmed. -/
  disarms : Option TimerKey

namespace Effect

/-- Nothing but an answer. -/
def idle (reply : Reply) : Effect ν := ⟨reply, .keep, id, .stay, none⟩

/-- The record of the task afterwards. -/
def record (effect : Effect ν) (task : Task ν) : Task ν := effect.change (effect.tally.flag task)

/-- The facility afterwards. -/
def facility (effect : Effect ν) (facility : Facility TaskId) : Facility TaskId :=
  match effect.disarms with
  | some key => facility.disarm key
  | none => facility

/-- An effect on the task with the given number takes place. -/
def apply (effect : Effect ν) (id : TaskId) (b : Barrier ν) : Barrier ν :=
  { b.modify id effect.record with
    outstanding := effect.tally.total b.outstanding
    held := effect.queueing.queue id b.held
    facility := effect.facility b.facility }

/-- A live task fires. -/
def fire (draining : Bool) (slot : Slot) : Effect ν where
  reply := .fired (if draining then .run else .held)
  tally := if slot.counted then .keep else .count
  change := (·.setPhase (if draining then .running else .held))
  queueing := if draining then .stay else .join
  disarms := none

/-- A run of a task is over. -/
def conclude (slot : Slot) : Effect ν where
  reply := .finished slot.doomed
  tally := if slot.counted then .uncount else .keep
  change := Barrier.afterRun
  queueing := .stay
  disarms := none

/-- A task is cancelled before it has started. -/
def withdraw (slot : Slot) (queueing : Queueing) : Effect ν where
  reply := .cancelled .cancelled
  tally := if slot.counted then .uncount else .keep
  change := (·.retire .cancelled)
  queueing := queueing
  disarms := some slot.key

/-- A task is cancelled during a run. -/
def doom (slot : Slot) : Effect ν where
  reply := .cancelled .doomed
  tally := .keep
  change := (·.doom)
  queueing := .stay
  disarms := some slot.key

/-- The callback of a task that has a slot. -/
def ofFire (draining : Bool) (task : Task ν) (slot : Slot) : Effect ν :=
  match task.phase with
  | .live => fire draining slot
  | .held | .running => idle (.fired .coalesced)
  | .ran | .cancelled => idle (.fired .ignored)

/-- The cancel of a task that has a slot. -/
def ofCancel (task : Task ν) (slot : Slot) : Effect ν :=
  match task.phase with
  | .live => withdraw slot .stay
  | .held => withdraw slot .leave
  | .running =>
      if task.periodic && !slot.doomed then doom slot else idle (.cancelled .tooLate)
  | .ran | .cancelled => idle (.cancelled .tooLate)

end Effect

/-- **What an operation does**, told from the flag, and from the task and its slot if there is
one. -/
def Operation.effect (operation : Operation) (draining : Bool) :
    Option (Task ν × Slot) → Effect ν
  | none =>
      match operation with
      | fire _ => .idle (.fired .ignored)
      | finish _ => .idle (.finished false)
      | cancel _ => .idle (.cancelled .tooLate)
  | some (task, slot) =>
      match operation with
      | fire _ => .ofFire draining task slot
      | finish _ => .conclude slot
      | cancel _ => .ofCancel task slot

/-- The effect of an operation on a barrier. -/
def Operation.effectOn (operation : Operation) (b : Barrier ν) : Effect ν :=
  operation.effect b.draining (b.slotted? operation.task)

/-! ## The three sections are their effects -/

namespace Barrier

/-- A task is changed twice. -/
theorem modify_modify (b : Barrier ν) (id : TaskId) {first : Task ν → Task ν}
    (second : Task ν → Task ν) (same : ∀ task, (first task).id = task.id) :
    (b.modify id first).modify id second = b.modify id fun task => second (first task) := by
  simp only [modify, List.map_map]
  congr 1
  refine List.map_congr_left fun task _ => ?_
  by_cases named : task.id = id
  · simp [same, named]
  · simp [named]

/-- Two different tasks are changed. -/
theorem modify_comm (b : Barrier ν) {id other : TaskId} (ne : id ≠ other)
    {change change' : Task ν → Task ν} (same : ∀ task, (change task).id = task.id)
    (same' : ∀ task, (change' task).id = task.id) :
    (b.modify id change).modify other change' = (b.modify other change').modify id change := by
  simp only [modify, List.map_map]
  congr 1
  refine List.map_congr_left fun task _ => ?_
  by_cases named : task.id = id
  · simp [same, named, ne]
  · by_cases named' : task.id = other
    · simp [same', named', Ne.symm ne]
    · simp [named, named']

/-- A change to nothing. -/
theorem modify_id (b : Barrier ν) (id : TaskId) : (b.modify id fun task => task) = b := by
  simp [modify]

/-- An effect that is nothing but an answer. -/
@[simp] theorem apply_idle (reply : Reply) (id : TaskId) (b : Barrier ν) :
    (Effect.idle reply).apply id b = b :=
  b.modify_id id

end Barrier

namespace Tally

/-- Setting a flag keeps the number of a task. -/
@[simp] theorem id_flag (tally : Tally) (task : Task ν) : (tally.flag task).id = task.id := by
  cases tally <;> rfl

/-- The flag of a task and the counter are changed. -/
def apply (tally : Tally) (id : TaskId) (b : Barrier ν) : Barrier ν :=
  { b.modify id tally.flag with outstanding := tally.total b.outstanding }

end Tally

/-- An effect takes place in two steps: the task is counted or not, and then all else happens. -/
theorem Effect.apply_eq (effect : Effect ν) (id : TaskId) (b : Barrier ν) :
    effect.apply id b =
      { (effect.tally.apply id b).modify id effect.change with
        held := effect.queueing.queue id b.held
        facility := effect.facility b.facility } := by
  have tasks := congrArg Barrier.tasks
    (b.modify_modify id effect.change (Tally.id_flag effect.tally))
  exact congrArg (fun tasks => { b with
    tasks := tasks
    outstanding := effect.tally.total b.outstanding
    held := effect.queueing.queue id b.held
    facility := effect.facility b.facility }) tasks.symm

namespace Barrier

variable {b : Barrier ν} {id : TaskId} {task : Task ν} {slot : Slot}

/-- Counting a task that has a slot. -/
theorem count_of_slotted? (has : b.slotted? id = some (task, slot)) :
    b.count id = (if slot.counted then Tally.keep else .count).apply id b := by
  simp only [count, has]
  split
  · exact (b.modify_id id).symm
  · rfl

/-- Not counting a task that has a slot any more. -/
theorem uncount_of_slotted? (has : b.slotted? id = some (task, slot)) :
    b.uncount id = (if slot.counted then Tally.uncount else .keep).apply id b := by
  simp only [uncount, has]
  split
  · rfl
  · exact (b.modify_id id).symm

/-- The callback of a task is called. -/
theorem fire_eq (b : Barrier ν) (id : TaskId) :
    (b.fire id).barrier = ((Operation.fire id).effectOn b).apply id b ∧
      Reply.fired (b.fire id).answer = ((Operation.fire id).effectOn b).reply := by
  unfold Operation.effectOn
  simp only [Operation.task]
  unfold fire
  cases has : b.slotted? id with
  | none => exact ⟨(apply_idle ..).symm, rfl⟩
  | some found =>
      obtain ⟨task, slot⟩ := found
      simp only [Operation.effect, Effect.ofFire]
      cases phase : task.phase with
      | live =>
          simp only [fireLive, count_of_slotted? has, Effect.apply_eq]
          cases b.draining <;> exact ⟨rfl, rfl⟩
      | held | running | ran | cancelled => exact ⟨(apply_idle ..).symm, rfl⟩

/-- A run of a task is over. -/
theorem finish_eq (b : Barrier ν) (id : TaskId) :
    (b.finish id).barrier = ((Operation.finish id).effectOn b).apply id b ∧
      Reply.finished (b.finish id).answer = ((Operation.finish id).effectOn b).reply := by
  unfold Operation.effectOn
  simp only [Operation.task]
  cases has : b.slotted? id with
  | none =>
      have same : b.uncount id = b := by simp only [uncount, has]
      simp only [finish, same, has]
      exact ⟨(apply_idle ..).symm, rfl⟩
  | some found =>
      obtain ⟨task, slot⟩ := found
      obtain ⟨found, slotted⟩ := slotted?_eq_some_iff.mp has
      obtain ⟨answer, barrier⟩ := finish_of_slot found slotted
      rw [answer, barrier, uncount_of_slotted? has, Effect.apply_eq]
      exact ⟨rfl, rfl⟩

/-- A task is cancelled. -/
theorem cancel_eq (b : Barrier ν) (id : TaskId) :
    (b.cancel id).barrier = ((Operation.cancel id).effectOn b).apply id b ∧
      Reply.cancelled (b.cancel id).answer = ((Operation.cancel id).effectOn b).reply := by
  unfold Operation.effectOn
  simp only [Operation.task]
  unfold cancel
  cases has : b.slotted? id with
  | none => exact ⟨(apply_idle ..).symm, rfl⟩
  | some found =>
      obtain ⟨task, slot⟩ := found
      have has' : (b.disarm slot.key).slotted? id = some (task, slot) := has
      have has'' : ((b.disarm slot.key).unhold id).slotted? id = some (task, slot) := has
      simp only [Operation.effect, Effect.ofCancel]
      cases phase : task.phase with
      | live =>
          simp only [Barrier.withdraw, uncount_of_slotted? has', Effect.apply_eq]
          exact ⟨rfl, rfl⟩
      | held =>
          simp only [Barrier.withdraw, uncount_of_slotted? has'', Effect.apply_eq]
          exact ⟨rfl, rfl⟩
      | running =>
          dsimp only
          split
          · exact ⟨rfl, rfl⟩
          · exact ⟨(apply_idle ..).symm, rfl⟩
      | ran | cancelled => exact ⟨(apply_idle ..).symm, rfl⟩

end Barrier

namespace Operation

/-- **An operation is its effect.** -/
theorem perform_eq (operation : Operation) (b : Barrier ν) :
    operation.perform b = (operation.effectOn b).apply operation.task b := by
  cases operation with
  | fire task => exact (b.fire_eq task).1
  | finish task => exact (b.finish_eq task).1
  | cancel task => exact (b.cancel_eq task).1

/-- The answer to an operation is that of its effect. -/
theorem reply_eq (operation : Operation) (b : Barrier ν) :
    operation.reply b = (operation.effectOn b).reply := by
  cases operation with
  | fire task => exact (b.fire_eq task).2
  | finish task => exact (b.finish_eq task).2
  | cancel task => exact (b.cancel_eq task).2

/-- **The effects that there are**: none at all, and the four in which a task with a slot takes
part. -/
theorem effect_cases (operation : Operation) (draining : Bool) (found : Option (Task ν × Slot)) :
    (∃ reply, operation.effect draining found = .idle reply ∧ reply ≠ .fired .held) ∨
    ∃ task slot, found = some (task, slot) ∧
      (operation.effect draining found = .fire draining slot ∨
        operation.effect draining found = .conclude slot ∨
        operation.effect draining found = .withdraw slot .stay ∨
        operation.effect draining found = .withdraw slot .leave ∨
        operation.effect draining found = .doom slot) := by
  cases found with
  | none => cases operation <;> exact .inl ⟨_, rfl, by simp⟩
  | some found =>
      obtain ⟨task, slot⟩ := found
      cases operation with
      | fire =>
          simp only [effect, Effect.ofFire]
          cases task.phase with
          | live => exact .inr ⟨task, slot, rfl, .inl rfl⟩
          | held | running | ran | cancelled => exact .inl ⟨_, rfl, by simp⟩
      | finish => exact .inr ⟨task, slot, rfl, .inr (.inl rfl)⟩
      | cancel =>
          simp only [effect, Effect.ofCancel]
          cases task.phase with
          | live => exact .inr ⟨task, slot, rfl, .inr (.inr (.inl rfl))⟩
          | held => exact .inr ⟨task, slot, rfl, .inr (.inr (.inr (.inl rfl)))⟩
          | running =>
              dsimp only
              split
              · exact .inr ⟨task, slot, rfl, .inr (.inr (.inr (.inr rfl)))⟩
              · exact .inl ⟨_, rfl, by simp⟩
          | ran | cancelled => exact .inl ⟨_, rfl, by simp⟩

/-- No operation changes the number of a task. -/
theorem id_record (operation : Operation) (draining : Bool) (found : Option (Task ν × Slot))
    (task : Task ν) : ((operation.effect draining found).record task).id = task.id := by
  suffices keeps : ∀ task : Task ν, ((operation.effect draining found).change task).id = task.id by
    rw [Effect.record, keeps, Tally.id_flag]
  intro task
  rcases operation.effect_cases draining found with
    ⟨_, eq, -⟩ | ⟨_, slot, -, eq | eq | eq | eq | eq⟩
  case inr.inr.inl => rw [eq]; exact Task.id_afterRun task
  all_goals rw [eq]; rfl

/-- An operation appends to the hold queue if and only if it newly holds its task. -/
theorem join_iff (operation : Operation) (draining : Bool) (found : Option (Task ν × Slot)) :
    (operation.effect draining found).queueing = .join ↔
      (operation.effect draining found).reply = .fired .held := by
  rcases operation.effect_cases draining found with
    ⟨reply, eq, other⟩ | ⟨_, slot, -, eq | eq | eq | eq | eq⟩
  · rw [eq]
    exact iff_of_false (by simp [Effect.idle]) other
  · rw [eq]
    cases draining <;> simp [Effect.fire]
  all_goals
    rw [eq]
    exact iff_of_false (by simp [Effect.conclude, Effect.withdraw, Effect.doom])
      (by simp [Effect.conclude, Effect.withdraw, Effect.doom])

/-- An operation takes a task out of the count only if the task is counted. -/
theorem counted_of_uncount {operation : Operation} {draining : Bool}
    {found : Option (Task ν × Slot)}
    (uncounts : (operation.effect draining found).tally = .uncount) :
    ∃ task slot, found = some (task, slot) ∧ slot.counted = true := by
  rcases operation.effect_cases draining found with
    ⟨_, eq, -⟩ | ⟨task, slot, same, effects⟩
  · rw [eq] at uncounts
    cases uncounts
  · refine ⟨task, slot, same, ?_⟩
    by_contra uncounted
    rcases effects with eq | eq | eq | eq | eq <;>
      simp [eq, Effect.fire, Effect.conclude, Effect.withdraw, Effect.doom, uncounted] at uncounts

end Operation

/-! ## Effects on different tasks -/

namespace Effect

/-- Disarming two entries leaves the same facility in either order. -/
theorem facility_comm (effect other : Effect ν) (facility : Facility TaskId) :
    other.facility (effect.facility facility) = effect.facility (other.facility facility) := by
  unfold Effect.facility
  cases effect.disarms with
  | none => rfl
  | some key =>
      cases other.disarms with
      | none => rfl
      | some key' =>
          cases facility with
          | byHand registry =>
              simp [Facility.disarm, Registry.disarm, Registry.remove, List.filter_filter,
                Bool.and_comm]
          | byClock timer =>
              simp [Facility.disarm, Timer.disarm, Timer.remove, List.filter_filter,
                Bool.and_comm]

end Effect

/-- Two changes of the counter are the same in either order, unless the first takes one away from
nothing. -/
theorem Tally.total_comm (tally other : Tally) {total : Nat}
    (uncounts : tally = .uncount → 0 < total) (uncounts' : other = .uncount → 0 < total) :
    other.total (tally.total total) = tally.total (other.total total) := by
  cases tally <;> cases other <;> simp_all only [Tally.total] <;> grind

/-- Two changes of the hold queue on behalf of different tasks are the same in either order, unless
both append. -/
theorem Queueing.queue_comm (queueing other : Queueing) {id id' : TaskId} (ne : id ≠ id')
    (apart : ¬ (queueing = .join ∧ other = .join)) (held : List TaskId) :
    other.queue id' (queueing.queue id held) = queueing.queue id (other.queue id' held) := by
  have both : (held.filter (· != id)).filter (· != id') =
      (held.filter (· != id')).filter (· != id) := by
    simp [List.filter_filter, Bool.and_comm]
  cases queueing <;> cases other <;>
    simp_all [Queueing.queue, List.filter_append, bne_iff_ne, Ne.symm ne]

/-- **Effects on different tasks leave the same behind in either order**, but for the hold queue. -/
theorem Effect.apply_comm {effect other : Effect ν} {id id' : TaskId} (ne : id ≠ id')
    (same : ∀ task, (effect.record task).id = task.id)
    (same' : ∀ task, (other.record task).id = task.id) {b : Barrier ν}
    (uncounts : effect.tally = .uncount → 0 < b.outstanding)
    (uncounts' : other.tally = .uncount → 0 < b.outstanding) :
    other.apply id' (effect.apply id b) =
      { effect.apply id (other.apply id' b) with
        held := other.queueing.queue id' (effect.queueing.queue id b.held) } := by
  have tasks := congrArg Barrier.tasks (b.modify_comm ne same same')
  have total := effect.tally.total_comm other.tally uncounts uncounts'
  have facility := effect.facility_comm other b.facility
  simp only [Barrier.modify] at tasks
  simp only [apply, Barrier.modify, tasks, total, facility]

/-- An effect on one task leaves all others as they are. -/
theorem Effect.task?_apply_of_ne {effect : Effect ν} {id other : TaskId} (ne : other ≠ id)
    (same : ∀ task, (effect.record task).id = task.id) (b : Barrier ν) :
    (effect.apply id b).task? other = b.task? other :=
  b.task?_modify_of_ne effect.record same ne

/-! ## Two operations -/

namespace Operation

variable {one other : Operation} {b : Barrier ν}

/-- An operation leaves the flag as it is, and all tasks but its own. -/
theorem keeps (ne : other.task ≠ one.task) (b : Barrier ν) :
    (one.perform b).draining = b.draining ∧
      (one.perform b).task? other.task = b.task? other.task := by
  rw [one.perform_eq]
  exact ⟨rfl, Effect.task?_apply_of_ne ne (one.id_record _ _) b⟩

/-- An operation has the same effect before and after another one. -/
theorem effectOn_perform (ne : other.task ≠ one.task) (b : Barrier ν) :
    other.effectOn (one.perform b) = other.effectOn b := by
  obtain ⟨draining, found⟩ := keeps ne b
  simp only [effectOn, Barrier.slotted?, draining, found]

/-- An operation is answered the same before and after another one. -/
theorem reply_perform (ne : other.task ≠ one.task) (b : Barrier ν) :
    other.reply (one.perform b) = other.reply b := by
  rw [other.reply_eq, effectOn_perform ne, other.reply_eq]

/-- **An operation fares the same before and after another one.** -/
theorem dealing_perform (ne : other.task ≠ one.task) (b : Barrier ν) :
    other.dealing (one.perform b) = other.dealing b := by
  have isDue : other.isDue (one.perform b) = other.isDue b := by
    obtain ⟨-, found⟩ := keeps ne b
    cases other with
    | finish task =>
        have found : (one.perform b).task? task = b.task? task := found
        simp only [Operation.isDue, Barrier.phase?, found]
    | fire | cancel => rfl
  rw [dealing, isDue, reply_perform ne, dealing]

/-- While a task is counted, something is outstanding. -/
theorem outstanding_of_uncount (coherent : b.Coherent)
    (uncounts : (one.effectOn b).tally = .uncount) : 0 < b.outstanding := by
  obtain ⟨task, slot, has, counted⟩ := counted_of_uncount uncounts
  obtain ⟨found, slotted⟩ := Barrier.slotted?_eq_some_iff.mp has
  rw [coherent.balanced]
  exact List.countP_pos_iff.mpr
    ⟨task, Barrier.task?_mem found, by simp [Task.isCounted, slotted, counted]⟩

/-- **Two operations on different tasks leave the same behind in either order**, but for the hold
queue. -/
theorem perform_comm (coherent : b.Coherent) (ne : one.task ≠ other.task) :
    other.perform (one.perform b) =
      { one.perform (other.perform b) with held := (other.perform (one.perform b)).held } := by
  have one_first : other.perform (one.perform b) =
      (other.effectOn b).apply other.task ((one.effectOn b).apply one.task b) := by
    rw [other.perform_eq, effectOn_perform ne.symm, one.perform_eq]
  have other_first : one.perform (other.perform b) =
      (one.effectOn b).apply one.task ((other.effectOn b).apply other.task b) := by
    rw [one.perform_eq, effectOn_perform ne, other.perform_eq]
  rw [one_first, other_first]
  exact Effect.apply_comm ne (one.id_record _ _) (other.id_record _ _)
    (outstanding_of_uncount coherent) (outstanding_of_uncount coherent)

/-- What two operations on different tasks make of the hold queue. -/
theorem held_perform_perform (ne : one.task ≠ other.task) (b : Barrier ν) :
    (other.perform (one.perform b)).held =
      (other.effectOn b).queueing.queue other.task
        ((one.effectOn b).queueing.queue one.task b.held) := by
  rw [other.perform_eq, effectOn_perform ne.symm, one.perform_eq]
  rfl

/-- An operation that newly holds its task appends it to the hold queue. -/
theorem queueing_of_holds (holds : one.Holds b) : (one.effectOn b).queueing = .join := by
  rw [Holds, one.reply_eq] at holds
  exact (one.join_iff ..).mpr holds

/-- **Two operations on different tasks, of which one at least does not newly hold its task**, leave
the same behind in either order. -/
theorem perform_comm_of_not_holds (coherent : b.Coherent) (ne : one.task ≠ other.task)
    (apart : ¬ (one.Holds b ∧ other.Holds b)) :
    other.perform (one.perform b) = one.perform (other.perform b) := by
  have apart : ¬ ((one.effectOn b).queueing = .join ∧ (other.effectOn b).queueing = .join) := by
    rintro ⟨joins, joins'⟩
    refine apart ⟨?_, ?_⟩
    · rw [Holds, one.reply_eq]
      exact (one.join_iff ..).mp joins
    · rw [Holds, other.reply_eq]
      exact (other.join_iff ..).mp joins'
  rw [perform_comm coherent ne, held_perform_perform ne, Queueing.queue_comm _ _ ne apart,
    ← held_perform_perform ne.symm]

end Operation

/-! ## Schedules of operations -/

section Schedules

variable {b : Barrier ν} {operation : Operation} {before after : List Operation}

/-- A barrier stays coherent, whatever is done to it. -/
theorem Barrier.Coherent.perform (coherent : b.Coherent) (operation : Operation) :
    (operation.perform b).Coherent := by
  cases operation with
  | fire task => exact coherent.fire task
  | cancel task => exact coherent.cancel task
  | finish task =>
      cases has : b.slotted? task with
      | none =>
          have idle := (Operation.finish task).perform_eq b
          simp only [Operation.effectOn, Operation.task, has, Operation.effect,
            Barrier.apply_idle] at idle
          rwa [idle]
      | some found =>
          obtain ⟨found, slotted⟩ := Barrier.slotted?_eq_some_iff.mp has
          exact coherent.finish found slotted

namespace Barrier

@[simp] theorem carryOut_cons (b : Barrier ν) (operation : Operation) (rest : List Operation) :
    b.carryOut (operation :: rest) = (operation.perform b).carryOut rest := rfl

@[simp] theorem carryOut_append (b : Barrier ν) (before after : List Operation) :
    b.carryOut (before ++ after) = (b.carryOut before).carryOut after :=
  List.foldl_append

@[simp] theorem transcript_append (b : Barrier ν) (before after : List Operation) :
    b.transcript (before ++ after) =
      b.transcript before ++ (b.carryOut before).transcript after := by
  induction before generalizing b with
  | nil => rfl
  | cons operation rest ih => simp [transcript, ih]

theorem newlyHeld_cons (b : Barrier ν) (operation : Operation) (rest : List Operation) :
    b.newlyHeld (operation :: rest) =
      (operation.dealing b).held?.toList ++ (operation.perform b).newlyHeld rest := by
  simp only [newlyHeld, transcript, List.filterMap_cons]
  cases (operation.dealing b).held? <;> rfl

theorem newlyHeld_append (b : Barrier ν) (before after : List Operation) :
    b.newlyHeld (before ++ after) =
      b.newlyHeld before ++ (b.carryOut before).newlyHeld after := by
  simp [newlyHeld]

/-- The operations of a schedule are those that its dealings name. -/
theorem operation_of_mem_transcript {dealing : Dealing} {schedule : List Operation}
    (member : dealing ∈ b.transcript schedule) : dealing.operation ∈ schedule := by
  induction schedule generalizing b with
  | nil => cases member
  | cons operation rest ih =>
      rcases List.mem_cons.mp member with rfl | later
      · exact List.mem_cons_self
      · exact List.mem_cons_of_mem _ (ih later)

/-- What a schedule newly holds is what it is about. -/
theorem mem_of_mem_newlyHeld {id : TaskId} {schedule : List Operation}
    (held : id ∈ b.newlyHeld schedule) : ∃ operation ∈ schedule, operation.task = id := by
  obtain ⟨dealing, member, held⟩ := List.mem_filterMap.mp held
  exact ⟨dealing.operation, operation_of_mem_transcript member, dealing.task_of_held? held⟩

/-- **An operation can be moved ahead of operations on other tasks**, as long as no two firings that
newly hold tasks change places. -/
theorem carryOut_advance (coherent : b.Coherent)
    (apart : ∀ other ∈ before, other.task ≠ operation.task)
    (ordered : operation.Holds b → b.newlyHeld before = []) :
    operation.dealing (b.carryOut before) = operation.dealing b ∧
      (operation.perform b).transcript before = b.transcript before ∧
      operation.perform (b.carryOut before) = (operation.perform b).carryOut before := by
  induction before generalizing b with
  | nil => exact ⟨rfl, rfl, rfl⟩
  | cons other rest ih =>
      have ne : other.task ≠ operation.task := apart other List.mem_cons_self
      have same : operation.dealing (other.perform b) = operation.dealing b :=
        Operation.dealing_perform ne.symm b
      have holds_iff : operation.Holds (other.perform b) ↔ operation.Holds b := by
        rw [Operation.Holds, Operation.reply_perform ne.symm, Operation.Holds]
      have swaps : operation.perform (other.perform b) = other.perform (operation.perform b) := by
        refine Operation.perform_comm_of_not_holds coherent ne fun ⟨holds, holds'⟩ => ?_
        have nothing := ordered holds'
        have reply : other.reply b = .fired .held := holds
        simp [newlyHeld_cons, Dealing.held?, Operation.dealing, reply] at nothing
      obtain ⟨dealing, transcript, barrier⟩ := ih (coherent.perform other)
        (fun another member => apart another (List.mem_cons_of_mem _ member)) fun holds => by
          have nothing := ordered (holds_iff.mp holds)
          rw [newlyHeld_cons] at nothing
          exact (List.append_eq_nil_iff.mp nothing).2
      rw [swaps] at transcript barrier
      refine ⟨dealing.trans same, ?_, barrier⟩
      rw [Barrier.transcript, Barrier.transcript, Operation.dealing_perform ne, transcript]

/-- An operation that has been moved ahead of operations on other tasks leaves the dealings with
each task as they were. -/
theorem ofTask_of_advance {dealing : Dealing} {dealings : List Dealing}
    (apart : ∀ other ∈ dealings, other.operation.task ≠ dealing.operation.task) (id : TaskId)
    (rest : List Dealing) :
    Dealing.ofTask id (dealings ++ dealing :: rest) =
      Dealing.ofTask id (dealing :: (dealings ++ rest)) := by
  simp only [Dealing.ofTask, List.filter_append, List.filter_cons]
  by_cases named : dealing.operation.task = id
  · have none : dealings.filter (·.operation.task == id) = [] :=
      List.filter_eq_nil_iff.mpr fun other member => by simpa [← named] using apart other member
    simp [none]
  · simp [named]

/-- The operation that comes first in one of two schedules comes in the other one after operations
on other tasks, and no firing that newly holds a task overtakes another. -/
theorem SameOrders.of_cons {schedule : List Operation}
    (same : b.SameOrders (operation :: after) schedule) :
    ∃ front rest, schedule = front ++ operation :: rest ∧
      (∀ other ∈ front, other.task ≠ operation.task) ∧
      (operation.Holds b → b.newlyHeld front = []) := by
  have later : Operation.ofTask operation.task schedule =
      operation :: Operation.ofTask operation.task after := by
    rw [← same.orders operation.task]
    simp [Operation.ofTask]
  obtain ⟨front, rest, rfl, others, -, -⟩ := List.filter_eq_cons_iff.mp later
  have apart : ∀ other ∈ front, other.task ≠ operation.task := by simpa using others
  refine ⟨front, rest, rfl, apart, fun holds => ?_⟩
  have reply : operation.reply b = .fired .held := holds
  have holdings := same.holdings
  rw [newlyHeld_cons, newlyHeld_append] at holdings
  cases held : b.newlyHeld front with
  | nil => rfl
  | cons id ids =>
      -- The first task to be newly held would be another one.
      simp only [Dealing.held?, Operation.dealing, reply, held, if_true, Option.toList_some,
        List.cons_append] at holdings
      obtain ⟨other, member, named⟩ :=
        mem_of_mem_newlyHeld (held ▸ List.mem_cons_self : id ∈ b.newlyHeld front)
      exact absurd (named.trans (List.cons.inj holdings).1.symm) (apart other member)

/-- Two schedules go on with the same orders once the operation that comes first in one of them has
been performed. -/
theorem SameOrders.perform {front rest : List Operation} (coherent : b.Coherent)
    (same : b.SameOrders (operation :: after) (front ++ operation :: rest))
    (apart : ∀ other ∈ front, other.task ≠ operation.task)
    (ordered : operation.Holds b → b.newlyHeld front = []) :
    (operation.perform b).SameOrders after (front ++ rest) where
  orders := by
    intro id
    have order := same.orders id
    simp only [Operation.ofTask, List.filter_append, List.filter_cons] at order ⊢
    by_cases named : operation.task = id
    · have none : front.filter (·.task == id) = [] :=
        List.filter_eq_nil_iff.mpr fun other member => by
          simpa [← named] using apart other member
      simpa [named, none] using order
    · simpa [named] using order
  holdings := by
    obtain ⟨dealing, transcript, barrier⟩ := carryOut_advance coherent apart ordered
    have unchanged : (operation.perform b).newlyHeld front = b.newlyHeld front := by
      rw [newlyHeld, transcript, newlyHeld]
    have holdings := same.holdings
    rw [newlyHeld_cons, newlyHeld_append, newlyHeld_cons, dealing, barrier] at holdings
    rw [newlyHeld_append, unchanged]
    by_cases holds : operation.Holds b
    · rw [ordered holds] at holdings ⊢
      exact List.append_cancel_left holdings
    · have reply : ¬ operation.reply b = .fired .held := holds
      simpa [Dealing.held?, Operation.dealing, reply] using holdings

/-- **Schedules with the same orders leave the same behind**, and so do their dealings with each
task. -/
theorem SameOrders.carryOut_eq {schedule schedule' : List Operation} (coherent : b.Coherent)
    (same : b.SameOrders schedule schedule') :
    b.carryOut schedule = b.carryOut schedule' ∧
      ∀ id, Dealing.ofTask id (b.transcript schedule) =
        Dealing.ofTask id (b.transcript schedule') := by
  induction schedule generalizing b schedule' with
  | nil =>
      cases schedule' with
      | nil => exact ⟨rfl, fun _ => rfl⟩
      | cons operation rest => simpa [Operation.ofTask] using same.orders operation.task
  | cons operation after ih =>
      obtain ⟨front, rest, rfl, apart, ordered⟩ := same.of_cons
      obtain ⟨dealing, transcript, barrier⟩ := carryOut_advance coherent apart ordered
      obtain ⟨left, dealings⟩ :=
        ih (coherent.perform operation) (same.perform coherent apart ordered)
      refine ⟨?_, fun id => ?_⟩
      · rw [carryOut_cons, left, carryOut_append, carryOut_append, carryOut_cons, barrier]
      · have others : ∀ other ∈ b.transcript front,
            other.operation.task ≠ (operation.dealing b).operation.task := fun other member =>
          apart _ (operation_of_mem_transcript member)
        have dealings := dealings id
        rw [transcript_append, transcript] at dealings
        rw [transcript_append, Barrier.transcript, Barrier.transcript, dealing, barrier,
          ofTask_of_advance others]
        simp only [Dealing.ofTask, List.filter_cons] at dealings ⊢
        rw [dealings]

end Barrier

end Schedules

/-! ## Interchange -/

/-- Two operations can be performed on a barrier in either order. -/
structure Barrier.Interchange (b : Barrier ν) (one other : Operation) : Prop where
  /-- The first is due, and is answered, as it is after the second. -/
  fares : one.dealing (other.perform b) = one.dealing b
  /-- The second is due, and is answered, as it is after the first. -/
  fares' : other.dealing (one.perform b) = other.dealing b
  /-- Both orders leave the same behind, but for the hold queue. -/
  left : other.perform (one.perform b) =
    { one.perform (other.perform b) with held := (other.perform (one.perform b)).held }
  /-- The hold queue is the same as well, unless both tasks are newly held. -/
  queue : ¬ (one.Holds b ∧ other.Holds b) →
    (other.perform (one.perform b)).held = (one.perform (other.perform b)).held
  /-- Two tasks that are newly held come to stand at the end, one after the other. -/
  newly : one.Holds b → other.Holds b →
    (other.perform (one.perform b)).held = b.held ++ [one.task, other.task] ∧
      (one.perform (other.perform b)).held = b.held ++ [other.task, one.task]

/-- Operations on different tasks can be interchanged. -/
theorem Barrier.Coherent.interchange {b : Barrier ν} (coherent : b.Coherent)
    {one other : Operation} (ne : one.task ≠ other.task) : b.Interchange one other where
  fares := Operation.dealing_perform ne b
  fares' := Operation.dealing_perform ne.symm b
  left := Operation.perform_comm coherent ne
  queue := fun apart => by rw [Operation.perform_comm_of_not_holds coherent ne apart]
  newly := by
    intro holds holds'
    rw [Operation.held_perform_perform ne, Operation.held_perform_perform ne.symm,
      Operation.queueing_of_holds holds, Operation.queueing_of_holds holds']
    simp [Queueing.queue]

/-- A step that goes through the section of an operation performs it. -/
theorem Transition.perform_of_deed {b b' : Barrier ν} {stack stack' : Stack ν}
    {operation : Operation} (transition : Transition b stack (operation.deed b) b' stack') :
    b' = operation.perform b := by
  cases operation with
  | fire task =>
      simp only [Operation.deed] at transition
      generalize (b.fire task).answer = answer at transition
      cases transition <;> rfl
  | finish task =>
      simp only [Operation.deed] at transition
      cases transition
      rfl
  | cancel task =>
      simp only [Operation.deed] at transition
      generalize (b.cancel task).answer = answer at transition
      cases transition <;> rfl

/-- A step from a sound state finds the operation due that it performs. -/
theorem Scheduler.Sound.isDue_of_deed {s s' : Scheduler ν} {thread : ThreadId}
    {operation : Operation} (sound : s.Sound)
    (follows : s.Follows thread (operation.deed s.barrier) s') :
    operation.isDue s.barrier = true := by
  cases operation with
  | fire | cancel => rfl
  | finish task =>
      obtain ⟨record, found, running, -⟩ := (sound.course follows task).of_finish
      simp [Operation.isDue, Barrier.phase?, found, running]

/-- How the operations on different tasks go together, in a scheduler that has come to the state `s`
by the steps of `history`. -/
structure Interchangeable (history : History ν) (s : Scheduler ν) : Prop where
  /-- The steps that go through the section of an operation find it due, and perform it. -/
  steps : ∀ stride ∈ history, ∀ operation : Operation,
    stride.deed = operation.deed stride.before.barrier →
      operation.isDue stride.before.barrier = true ∧
        stride.turn.scheduler.barrier = operation.perform stride.before.barrier
  /-- Any two operations on different tasks can be performed in either order. -/
  pairs : ∀ one other : Operation, one.task ≠ other.task → s.barrier.Interchange one other
  /-- Schedules with the same order on each task, and of the firings that newly hold tasks, have the
  same outcome. -/
  schedules : ∀ schedule schedule', s.barrier.SameOrders schedule schedule' →
    s.barrier.carryOut schedule = s.barrier.carryOut schedule' ∧
      ∀ id, Dealing.ofTask id (s.barrier.transcript schedule) =
        Dealing.ofTask id (s.barrier.transcript schedule')

/-- **In every state of a run, operations on different tasks can be interchanged.** -/
theorem interchangeable_of_run {history : History ν} {s : Scheduler ν} (run : Run history s) :
    Interchangeable history s where
  steps := by
    intro stride member operation performs
    obtain ⟨later, earlier, rfl⟩ := List.append_of_mem member
    obtain ⟨before, taken⟩ := run.stride
    have follows := Scheduler.follows_of_step taken
    rw [show stride.before.deed stride.thread stride.now stride.move = _ from performs] at follows
    exact ⟨before.sound.isDue_of_deed follows, follows.transition.perform_of_deed⟩
  pairs := fun _ _ ne => run.sound.coherent.interchange ne
  schedules := fun _ _ same => same.carryOut_eq run.sound.coherent

/-- The moves by which three tasks are accepted, the second of which is held. -/
def threefoldMoves : List (ThreadId × Instant × Move Unit) :=
  [(0, ⟨0⟩, .request (.accept ⟨0⟩ .once false)),
    (0, ⟨1⟩, .request (.accept ⟨0⟩ .once false)),
    (0, ⟨2⟩, .request (.accept ⟨0⟩ (.fixedRate ⟨5⟩) false)),
    (1, ⟨3⟩, .request (.call ⟨1⟩)), (1, ⟨3⟩, .proceed), (1, ⟨3⟩, .proceed)]

/-- After `threefoldMoves` two firings can be told apart by the hold queue alone, and a cancel of
the task that is held already may come before them, between them or after them. -/
theorem interchangeable_of_threefold : ∃ (history : History Unit) (s : Scheduler Unit),
    Run history s ∧ Interchangeable history s ∧
      (Operation.Holds (.fire ⟨0⟩) s.barrier ∧ Operation.Holds (.fire ⟨2⟩) s.barrier) ∧
      (s.barrier.carryOut [.fire ⟨0⟩, .fire ⟨2⟩]).held = [⟨1⟩, ⟨0⟩, ⟨2⟩] ∧
      (s.barrier.carryOut [.fire ⟨2⟩, .fire ⟨0⟩]).held = [⟨1⟩, ⟨2⟩, ⟨0⟩] ∧
      s.barrier.SameOrders [.cancel ⟨1⟩, .fire ⟨0⟩, .fire ⟨2⟩]
        [.fire ⟨0⟩, .fire ⟨2⟩, .cancel ⟨1⟩] ∧
      s.barrier.carryOut [.cancel ⟨1⟩, .fire ⟨0⟩, .fire ⟨2⟩] =
        s.barrier.carryOut [.fire ⟨0⟩, .fire ⟨2⟩, .cancel ⟨1⟩] := by
  obtain ⟨history, s, played, holds, holds', held, same⟩ : ∃ history s,
      (Scheduler.start 0 .default (.byHand .empty) none).play threefoldMoves = some (history, s) ∧
        Operation.Holds (.fire ⟨0⟩) s.barrier ∧ Operation.Holds (.fire ⟨2⟩) s.barrier ∧
        s.barrier.held = [⟨1⟩] ∧
        s.barrier.newlyHeld [.cancel ⟨1⟩, .fire ⟨0⟩, .fire ⟨2⟩] =
          s.barrier.newlyHeld [.fire ⟨0⟩, .fire ⟨2⟩, .cancel ⟨1⟩] :=
    ⟨_, _, rfl, rfl, rfl, rfl, rfl⟩
  have interchangeable := interchangeable_of_run (Run.of_play played)
  obtain ⟨queue, queue'⟩ := (interchangeable.pairs (.fire ⟨0⟩) (.fire ⟨2⟩) (by decide)).newly
    holds holds'
  have orders : s.barrier.SameOrders [.cancel ⟨1⟩, .fire ⟨0⟩, .fire ⟨2⟩]
      [.fire ⟨0⟩, .fire ⟨2⟩, .cancel ⟨1⟩] := by
    refine ⟨fun id => ?_, same⟩
    simp only [Operation.ofTask, Operation.task, List.filter_cons, List.filter_nil]
    by_cases first : (⟨1⟩ : TaskId) = id
    · subst first
      rfl
    · simp [first]
  refine ⟨history, s, .of_play played, interchangeable, ⟨holds, holds'⟩, ?_, ?_, orders,
    (interchangeable.schedules _ _ orders).1⟩
  · exact queue.trans (by rw [held]; rfl)
  · exact queue'.trans (by rw [held]; rfl)

end TaskBarrier
