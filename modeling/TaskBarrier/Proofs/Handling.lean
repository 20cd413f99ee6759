import TaskBarrier.Proofs.Amend

/-!
# What a step does to a promise

The promise of a task is touched in three ways only: somebody asks for the value, the body of the
task ends, or the body is thrown away.  `Handling` lists them, together with what can be seen of
them in a history, which is what those who ask are told and how the body has ended.

That all other steps leave the promise as it is follows from `Amend`.  They would do the same if the
promise were replaced by another one, and so they do if it is replaced by itself.

## Main Definitions

* `BodyEnd.result`, `Stride.outcome?`: how the body of a task has ended.
* `Scheduler.reading`: the answer to somebody who asks now.
* `Stride.reading?`: what somebody has been told who has asked.
* `Handling`: what a step does to the promise of a task.

The main statement is `handling_of_step`.
-/

namespace TaskBarrier

variable {ν : Type}

/-- The value with which a body ends, if it ends with one. -/
def BodyEnd.result : BodyEnd ν → Option ν
  | returned value => value
  | panicked _ => none

/-- The end of the body of the task, if this step is it, and the value with which it has ended. -/
def Stride.outcome? (stride : Stride ν) (id : TaskId) : Option (Option ν) :=
  match stride.move with
  | .endBody how => if stride.deed = .leave id then some how.result else none
  | .request _ | .proceed | .work => none

/-- What somebody has been told who has asked for the value of the task.  Before the task has been
accepted there is nobody who could ask. -/
def Stride.reading? (stride : Stride ν) (id : TaskId) : Option (Reading ν) :=
  match stride.move, stride.turn.signal with
  | .request (.read task), .answer (.reading reading) =>
      if task = id ∧ (stride.before.barrier.task? id).isSome then some reading else none
  | _, _ => none

/-! ## What is seen of a promise -/

/-- The only way to ask for a value. -/
theorem Move.eq_of_reads {move : Move ν} {id : TaskId} (reads : move.reads id = true) :
    move = .request (.read id) := by
  unfold Move.reads at reads
  split at reads
  · next task =>
    obtain rfl : task = id := by simpa using reads
    rfl
  · cases reads

namespace Stride

variable {stride : Stride ν} {id : TaskId}

/-- Somebody who does not ask is not told. -/
theorem reading?_of_unread (unread : stride.move.reads id = false) : stride.reading? id = none := by
  unfold Stride.reading?
  split
  · next task _ asks _ =>
    rw [asks] at unread
    have other : task ≠ id := by simpa [Move.reads] using unread
    simp [other]
  · rfl

/-- Before a task is accepted nobody is told. -/
theorem reading?_of_none (absent : stride.before.barrier.task? id = none) :
    stride.reading? id = none := by
  unfold Stride.reading?
  split
  · simp [absent]
  · rfl

/-- A body ends where it is left. -/
theorem outcome?_of_ne (stays : stride.deed ≠ .leave id) : stride.outcome? id = none := by
  unfold Stride.outcome?
  split
  · rw [if_neg stays]
  all_goals rfl

/-- The end of a body with a value. -/
theorem eq_of_outcome? {value : ν} (ends : stride.outcome? id = some (some value)) :
    stride.deed = .leave id ∧ stride.move = .endBody (.returned (some value)) := by
  unfold Stride.outcome? at ends
  split at ends
  · next how move =>
    split at ends
    · next leaves =>
      refine ⟨leaves, ?_⟩
      cases how with
      | returned result =>
          obtain rfl : result = some value := Option.some.inj ends
          exact move
      | panicked => cases ends
    · cases ends
  all_goals cases ends

end Stride

namespace Scheduler

variable {s : Scheduler ν} {thread : ThreadId} {now : Instant} {move : Move ν} {turn : Turn ν}
  {id : TaskId} {task : Task ν}

/-- The body of a task is left by user code. -/
theorem endBody_of_leave (taken : s.step thread now move = some turn)
    (leaves : s.deed thread now move = .leave id) :
    ∃ how, move = .endBody how ∧ turn.scheduler.barrier = s.barrier.leaveBody id how.result := by
  cases move with
  | request request =>
      cases request with
      | accept | cancel | cancelByHandle =>
          simp only [deed, requestDeed] at leaves
          split at leaves <;> cases leaves
      | fire | call | await | read | shutdown | drop => cases leaves
  | endBody how =>
      simp only [deed] at leaves
      have taken := attempt_of_step taken
      simp only [attempt, endBody] at taken
      split at leaves
      · next task rest top =>
        obtain rfl := Deed.leave.inj leaves
        rw [top] at taken
        obtain rfl := Option.some.inj taken
        refine ⟨how, rfl, ?_⟩
        cases how <;> rfl
      · cases leaves
  | proceed =>
      simp only [deed] at leaves
      unfold frameDeed at leaves
      split at leaves
      any_goals cases leaves
      all_goals split at leaves <;> cases leaves
  | work => cases leaves

/-- The answer to somebody who asks for the value of the task now. -/
def reading (s : Scheduler ν) (id : TaskId) : Reading ν := (s.barrier.readValue id).1

/-- What is read of a value that has been promised. -/
theorem reading_of_promised (found : s.barrier.task? id = some task) {promise : Promise ν}
    (promised : task.promise = some promise) : s.reading id = promise.read.1 := by
  simp [reading, Barrier.readValue, found, promised]

/-- What is read without a promise. -/
theorem reading_of_none (found : s.barrier.task? id = some task) (none : task.promise = none) :
    s.reading id = .abandoned := by
  simp [reading, Barrier.readValue, found, none]

/-- Somebody who asks for a value is told what has been promised, and the value, if it was there, is
handed out. -/
theorem step_of_reads (taken : s.step thread now (.request (.read id)) = some turn) :
    turn.signal = .answer (.reading (s.reading id)) ∧
      ∀ task, s.barrier.task? id = some task → turn.scheduler.barrier.task? id =
        some { task with promise := task.promise.map (·.read.2) } := by
  obtain rfl : turn = s.requestRead thread id := by
    have taken := attempt_of_step taken
    simp only [attempt, Scheduler.request] at taken
    split at taken
    · cases taken
    · exact (Option.some.inj taken).symm
  refine ⟨rfl, fun task found => ?_⟩
  cases promised : task.promise with
  | none =>
      have answer : s.barrier.readValue id = (.abandoned, s.barrier) := by
        simp [Barrier.readValue, found, promised]
      simp only [requestRead, barrier_turn, answer, found, Option.map_none]
      rw [← promised]
  | some promise =>
      have answer : s.barrier.readValue id = (promise.read.1,
          s.barrier.modify id ({ · with promise := some promise.read.2 })) := by
        simp [Barrier.readValue, found, promised]
      simp only [requestRead, barrier_turn, answer]
      rw [Barrier.task?_modify_self, found]
      · rfl
      · exact fun _ => rfl

end Scheduler

/-- Whoever is told has asked, and is told what can be read. -/
theorem Stride.reading?_eq_some_iff {stride : Stride ν} {id : TaskId} {reading : Reading ν}
    (taken : stride.before.step stride.thread stride.now stride.move = some stride.turn) :
    stride.reading? id = some reading ↔ stride.move.reads id = true ∧
      (stride.before.barrier.task? id).isSome = true ∧ stride.before.reading id = reading := by
  by_cases reads : stride.move.reads id = true
  · have asks := Move.eq_of_reads reads
    rw [asks] at taken
    have told := (Scheduler.step_of_reads taken).1
    unfold Stride.reading?
    rw [asks, told]
    by_cases present : (stride.before.barrier.task? id).isSome = true
    · simp [present, Move.reads]
    · simp [present]
  · have unread : stride.move.reads id = false := by simpa using reads
    simp [Stride.reading?_of_unread unread, reads]

/-! ## What is done to a promise -/

/-- A value that is there after the producer has ended was there before, or comes from it. -/
theorem Promise.of_settle {promise : Promise ν} {result : Option ν} {value : ν}
    (given : promise.settle result = .ready value) :
    promise = .ready value ∨ result = some value := by
  cases promise with
  | pending =>
      cases result with
      | none => cases given
      | some other => exact .inr (congrArg some (Promise.ready.inj given))
  | ready other => exact .inl given
  | closed => cases given

/-- What a step makes of a task, as far as its promise goes. -/
inductive Handling (id : TaskId) (stride : Stride ν) (task : Task ν) : Task ν → Prop
  /-- Somebody asks for the value. -/
  | read (told : ∀ promise, task.promise = some promise →
        stride.reading? id = some promise.read.1)
      (continues : stride.outcome? id = none) (unsettled : stride.deed.settles id = false) :
      Handling id stride task { task with promise := task.promise.map (·.read.2) }
  /-- The body ends. -/
  | leave (untold : stride.reading? id = none) (result : Option ν)
      (ends : stride.outcome? id = some result) (leaves : stride.deed = .leave id) :
      Handling id stride task (task.leave result)
  /-- The body is thrown away. -/
  | discard (untold : stride.reading? id = none) (continues : stride.outcome? id = none)
      (discards : stride.deed = .discard id) : Handling id stride task task.discard
  /-- Nothing happens to the promise. -/
  | keep {task' : Task ν} (untold : stride.reading? id = none)
      (continues : stride.outcome? id = none) (unsettled : stride.deed.settles id = false)
      (same : task'.promise = task.promise) : Handling id stride task task'

/-- No step makes a promise, or takes one back. -/
theorem Handling.isSome_promise {id : TaskId} {stride : Stride ν} {task task' : Task ν}
    (handling : Handling id stride task task') :
    task'.promise.isSome = task.promise.isSome := by
  cases handling with
  | read => simp
  | leave => simp [Task.leave]
  | discard => cases body : task.body <;> simp [Task.discard, body]
  | keep _ _ _ same => rw [same]

namespace Scheduler

variable {s : Scheduler ν} {thread : ThreadId} {now : Instant} {move : Move ν} {turn : Turn ν}
  {id : TaskId} {task : Task ν}

/-- A promise that is replaced by itself. -/
theorem amend_self (sound : s.Sound) (found : s.barrier.task? id = some task) :
    s.amend id (fun _ => task.promise) = s := by
  have same : s.barrier.tasks.map (·.amend id fun _ => task.promise) = s.barrier.tasks := by
    refine (List.map_congr_left fun other member => ?_).trans (List.map_id _)
    by_cases own : other.id = id
    · have seen := sound.coherent.task?_of_mem member
      rw [own, found] at seen
      obtain rfl := Option.some.inj seen
      simp [Task.amend]
    · exact Task.amend_of_ne own
  simp only [amend, Barrier.amend, same]

/-- A promise that is neither read nor settled stays as it is. -/
theorem promise_of_unread (sound : s.Sound) (taken : s.step thread now move = some turn)
    (found : s.barrier.task? id = some task) (unread : move.reads id = false)
    (unsettled : (s.deed thread now move).settles id = false) {task' : Task ν}
    (found' : turn.scheduler.barrier.task? id = some task') : task'.promise = task.promise := by
  have drawn := sound.coherent.drawn id (Barrier.mem_ids_iff.mpr (by rw [found]; rfl))
  have named := Barrier.task?_id found'
  have amended := s.step_amend (f := fun _ => task.promise) thread (nextId_ne drawn) now unread
    fun settles => by simp [unsettled] at settles
  rw [amend_self sound found, taken] at amended
  have same : turn.scheduler.barrier = turn.scheduler.barrier.amend id fun _ => task.promise :=
    congrArg (·.scheduler.barrier) (Option.some.inj amended)
  have own : (task'.amend id fun _ => task.promise).promise = task.promise := if_pos named
  have seen := found'
  rw [same, Barrier.task?_amend, found'] at seen
  have itself : task'.amend id (fun _ => task.promise) = task' := Option.some.inj seen
  rwa [itself] at own

/-- **Every step handles the promise of a task** in one of four ways. -/
theorem handling_of_step (sound : s.Sound) (taken : s.step thread now move = some turn)
    (found : s.barrier.task? id = some task) {task' : Task ν}
    (found' : turn.scheduler.barrier.task? id = some task') :
    Handling id ⟨s, thread, now, move, turn⟩ task task' := by
  by_cases reads : move.reads id = true
  · obtain rfl := Move.eq_of_reads reads
    have seen := (step_of_reads taken).2 task found
    obtain rfl := Option.some.inj (found'.symm.trans seen)
    have aside : (⟨s, thread, now, .request (.read id), turn⟩ : Stride ν).deed = .aside := rfl
    refine .read (fun promise promised => ?_) (Stride.outcome?_of_ne (by simp [aside]))
      (by simp [aside, Deed.settles])
    refine (Stride.reading?_eq_some_iff taken).mpr ⟨reads, ?_, reading_of_promised found promised⟩
    rw [found]
    rfl
  · have untold : (⟨s, thread, now, move, turn⟩ : Stride ν).reading? id = none :=
      Stride.reading?_of_unread (by simpa using reads)
    by_cases leaves : s.deed thread now move = .leave id
    · obtain ⟨how, rfl, left⟩ := endBody_of_leave taken leaves
      have seen : turn.scheduler.barrier.task? id = some (task.leave how.result) := by
        rw [left, Barrier.leaveBody, Barrier.task?_modify_self, found]
        · rfl
        · exact (Task.id_leave · how.result)
      obtain rfl := Option.some.inj (found'.symm.trans seen)
      exact .leave untold how.result (if_pos leaves) leaves
    · have continues : (⟨s, thread, now, move, turn⟩ : Stride ν).outcome? id = none :=
        Stride.outcome?_of_ne leaves
      by_cases discards : s.deed thread now move = .discard id
      · have course := sound.course (follows_of_step taken) id
        rw [found, found', discards] at course
        generalize Stack.stages id (s.stack thread) = stages,
          Stack.stages id (turn.scheduler.stack thread) = stages' at course
        cases course with
        | discard => exact .discard untold continues discards
        | keep apart => simp [Deed.concerns] at apart
      · have unsettled : (s.deed thread now move).settles id = false := by
          unfold Deed.settles
          split
          · next task deed => simpa [deed] using leaves
          · next task deed => simpa [deed] using discards
          · rfl
        have unread : move.reads id = false := by simpa using reads
        exact .keep untold continues unsettled
          (promise_of_unread sound taken found unread unsettled found')

end Scheduler

end TaskBarrier
