import TaskBarrier.Proofs.Agreement

/-!
# The hold queue in the middle of a replay

An await replays the hold queue front by front.  While nobody else does anything, the barrier is
then always one in which some tasks have been replayed, one may be underway, and everything else is
as it was when the replay began.

## Main Definitions

* `Task.Underway`, `Task.Completed`: a record during its replay, and after it.
* `Barrier.Replayed`: a barrier in the middle of a replay.

The main statements are `Barrier.Replayed.replay`, `Barrier.Replayed.body` and
`Barrier.Replayed.finish`: what is replayed next goes through all three.
-/

namespace TaskBarrier

variable {ν : Type}

/-! ## A task that is replayed -/

namespace Task

/-- The first record is that of a task before its replay, and the second one during it. -/
structure Underway (task task' : Task ν) : Prop where
  running : task'.phase = .running
  periodic : task'.periodic = task.periodic
  key : task'.key? = task.key?
  undoomed : task'.isDoomed = false

/-- The first record is that of a task before its replay, and the second one after it. -/
structure Completed (task task' : Task ν) : Prop where
  phase : task'.phase = if task.periodic then .live else .ran
  periodic : task'.periodic = task.periodic
  /-- Only a one-shot task has lost its entry. -/
  key : task.periodic = true → task'.key? = task.key?

/-- A replay is over with the end of the run. -/
theorem Underway.afterRun {task task' : Task ν} (underway : task.Underway task') :
    task.Completed (Barrier.afterRun (task'.setCounted false)) := by
  have undoomed : (task'.setCounted false).isDoomed = false := by
    rw [isDoomed_setCounted, underway.undoomed]
  have same : (task'.setCounted false).periodic = task.periodic := underway.periodic
  rw [Barrier.afterRun, if_neg (by simp [undoomed]), same]
  cases periodic : task.periodic with
  | true =>
      refine ⟨by simp [periodic, setPhase], same, fun _ => ?_⟩
      simp [underway.key]
  | false => exact ⟨by simp [periodic, retire], same, by simp [periodic]⟩

end Task

namespace Course

variable {id : TaskId} {deed : Deed} {before after : Option (Task ν)} {task task' : Task ν}
  {stages stages' : List RunStage}

/-- A deed that concerns other tasks leaves the record of a task as it is, unless somebody reads its
value. -/
theorem eq_of_apart (course : Course id deed before stages after stages')
    (apart : deed.concerns id = false) (concerns : deed ≠ .aside) : after = before := by
  cases course with
  | keep => rfl
  | read => exact absurd rfl concerns
  | reset | absent => cases apart
  | _ => simp [Deed.concerns] at apart

/-- A deed that concerns other tasks, or none, leaves a task in its phase, and its slot as it is. -/
theorem of_apart (course : Course id deed (some task) stages after stages')
    (apart : deed.concerns id = false) :
    ∃ task', after = some task' ∧ task'.phase = task.phase ∧ task'.slot = task.slot := by
  cases course with
  | keep | read => exact ⟨_, rfl, rfl, rfl⟩
  | reset => cases apart
  | _ => simp [Deed.concerns] at apart

/-- A replay begins with a run. -/
theorem underway_of_replay (course : Course id (.replay (.run id)) (some task) stages after stages')
    (undoomed : task.isDoomed = false) : ∃ task', after = some task' ∧ task.Underway task' := by
  cases course with
  | replay => exact ⟨_, rfl, rfl, rfl, rfl, undoomed⟩
  | keep apart => simp [Deed.concerns] at apart

/-- The body of a task that is replayed begins to be executed, or has been executed. -/
theorem underway_of_body (course : Course id deed (some task') stages after stages')
    (body : deed = .enter id true ∨ deed = .leave id) (underway : task.Underway task') :
    ∃ task'', after = some task'' ∧ task.Underway task'' := by
  obtain ⟨running, periodic, key, undoomed⟩ := underway
  rcases body with rfl | rfl
  · cases course with
    | enter => exact ⟨_, rfl, running, periodic, key, undoomed⟩
    | keep apart => simp [Deed.concerns] at apart
  · cases course with
    | leave => exact ⟨_, rfl, running, periodic, key, undoomed⟩
    | keep apart => simp [Deed.concerns] at apart

/-- A replay ends with the run. -/
theorem completed_of_finish (course : Course id (.finish id) (some task') stages after stages')
    (underway : task.Underway task') : ∃ task'', after = some task'' ∧ task.Completed task'' := by
  obtain ⟨_, present, -, rfl⟩ := course.of_finish
  obtain rfl := Option.some.inj present
  exact ⟨_, rfl, underway.afterRun⟩

end Course

/-- The body of a task is thrown away after a run that has doomed the task. -/
theorem Barrier.isDoomed_of_finish {b : Barrier ν} {id : TaskId}
    (doomed : (b.finish id).answer = true) :
    ∃ task, b.task? id = some task ∧ task.isDoomed = true := by
  unfold finish at doomed
  dsimp only at doomed
  split at doomed
  · cases doomed
  · next task slot has =>
    obtain ⟨found, has⟩ := slotted?_eq_some_iff.mp has
    rw [b.task?_uncount id id, b.task?_modify_self id _ (Task.id_setCounted · false),
      Option.map_eq_some_iff] at found
    obtain ⟨before, found, rfl⟩ := found
    refine ⟨before, found, ?_⟩
    rw [← before.isDoomed_setCounted false, Task.isDoomed, has]
    exact doomed

/-- A held task has not been cancelled. -/
theorem Scheduler.Sound.undoomed_of_held {s : Scheduler ν} (sound : s.Sound) :
    ∀ id ∈ s.barrier.held, ∀ task, s.barrier.task? id = some task → task.isDoomed = false := by
  intro id member task found
  have held := (sound.mem_held id).mp member
  rw [Barrier.phase?, found, Option.map_some, Option.some.injEq] at held
  obtain ⟨stage, -, fits⟩ := sound.fits_of_found found
  exact fits.isDoomed_of_ne (by simp [held])

/-! ## A barrier in the middle of a replay -/

/-- **A barrier in the middle of a replay** that began when the barrier was `origin`: some tasks
have been replayed, one may be underway, and nothing else has changed. -/
structure Barrier.Replayed (origin : Barrier ν) (done : List TaskId) (current : Option TaskId)
    (rest : List TaskId) (b : Barrier ν) : Prop where
  held : b.held = rest
  facility : b.facility = origin.facility
  completed : ∀ id ∈ done, ∃ task task', origin.task? id = some task ∧
    b.task? id = some task' ∧ task.Completed task'
  underway : ∀ id ∈ current, ∃ task task', origin.task? id = some task ∧
    b.task? id = some task' ∧ task.Underway task'
  others : ∀ id, id ∉ done → id ∉ current → b.task? id = origin.task? id

namespace Barrier.Replayed

variable {origin b b' : Barrier ν} {done rest : List TaskId} {id : TaskId} {deed : Deed}
  {stages stages' : TaskId → List RunStage}

/-- A section about a task that has not been replayed leaves those that have been as they are. -/
theorem completed_of_same {current : Option TaskId}
    (replayed : origin.Replayed done current rest b) (fresh : id ∉ done)
    (same : ∀ other, other ≠ id → b'.task? other = b.task? other) :
    ∀ other ∈ done, ∃ task task', origin.task? other = some task ∧
      b'.task? other = some task' ∧ task.Completed task' := by
  intro other member
  rw [same other fun eq => fresh (eq ▸ member)]
  exact replayed.completed other member

/-- The front of the hold queue is replayed. -/
theorem replay (replayed : origin.Replayed done none (id :: rest) b) (fresh : id ∉ done)
    {task : Task ν} (found : b.task? id = some task) (undoomed : task.isDoomed = false)
    (course : ∀ other, Course other (.replay (.run id)) (b.task? other) (stages other)
      (b'.task? other) (stages' other))
    (held : b'.held = rest) (facility : b'.facility = b.facility) :
    origin.Replayed done (some id) rest b' := by
  have same : ∀ other, other ≠ id → b'.task? other = b.task? other := fun other ne =>
    (course other).eq_of_apart (by simp [Deed.concerns, Ne.symm ne]) (by simp)
  refine ⟨held, facility.trans replayed.facility, replayed.completed_of_same fresh same, ?_, ?_⟩
  · rintro _ ⟨⟩
    have own := course id
    rw [found] at own
    obtain ⟨task', after, underway⟩ := own.underway_of_replay undoomed
    have known := replayed.others id fresh (Option.not_mem_none id)
    exact ⟨task, task', known.symm.trans found, after, underway⟩
  · intro other unreplayed idle
    rw [same other fun eq => idle (eq ▸ rfl)]
    exact replayed.others other unreplayed (Option.not_mem_none other)

/-- The body of the task begins to be executed, or has been executed. -/
theorem body (replayed : origin.Replayed done (some id) rest b) (fresh : id ∉ done)
    (body : deed = .enter id true ∨ deed = .leave id)
    (course : ∀ other, Course other deed (b.task? other) (stages other) (b'.task? other)
      (stages' other))
    (held : b'.held = b.held) (facility : b'.facility = b.facility) :
    origin.Replayed done (some id) rest b' := by
  have same : ∀ other, other ≠ id → b'.task? other = b.task? other := by
    intro other ne
    refine (course other).eq_of_apart ?_ ?_
    · rcases body with rfl | rfl <;> simp [Deed.concerns, Ne.symm ne]
    · rcases body with rfl | rfl <;> simp
  refine ⟨held.trans replayed.held, facility.trans replayed.facility,
    replayed.completed_of_same fresh same, ?_, ?_⟩
  · rintro _ ⟨⟩
    obtain ⟨task, task', known, found, underway⟩ := replayed.underway id rfl
    have own := course id
    rw [found] at own
    obtain ⟨task'', after, underway⟩ := own.underway_of_body body underway
    exact ⟨task, task'', known, after, underway⟩
  · intro other unreplayed idle
    rw [same other fun eq => idle (eq ▸ rfl)]
    exact replayed.others other unreplayed idle

/-- The run of the task is over. -/
theorem finish (replayed : origin.Replayed done (some id) rest b) (fresh : id ∉ done)
    (course : ∀ other, Course other (.finish id) (b.task? other) (stages other)
      (b'.task? other) (stages' other))
    (held : b'.held = b.held) (facility : b'.facility = b.facility) :
    origin.Replayed (done ++ [id]) none rest b' := by
  have same : ∀ other, other ≠ id → b'.task? other = b.task? other := fun other ne =>
    (course other).eq_of_apart (by simp [Deed.concerns, Ne.symm ne]) (by simp)
  refine ⟨held.trans replayed.held, facility.trans replayed.facility, ?_, by simp, ?_⟩
  · intro other member
    rcases List.mem_append.mp member with member | member
    · exact replayed.completed_of_same fresh same other member
    · obtain rfl := List.mem_singleton.mp member
      obtain ⟨task, task', known, found, underway⟩ := replayed.underway other rfl
      have own := course other
      rw [found] at own
      obtain ⟨task'', after, completed⟩ := own.completed_of_finish underway
      exact ⟨task, task'', known, after, completed⟩
  · intro other unreplayed _
    rw [List.mem_append, List.mem_singleton, not_or] at unreplayed
    rw [same other unreplayed.2]
    exact replayed.others other unreplayed.1 fun eq => unreplayed.2 (Option.some.inj eq).symm

end Barrier.Replayed

end TaskBarrier
