import Mathlib.Algebra.Order.Ring.Nat
import TaskBarrier.Proofs.Execution
import TaskBarrier.Proofs.Upkeep

/-!
# Firings are conserved

The callback of a task can be called at any moment and any number of times.  This module follows
the calls through a run.

* **Every call comes to a decision.**  It is *ignored* if the task has no slot, *coalesced* if the
  task is held or running, and *admitted* if the task is live.  A call that has not been decided
  upon is in flight, on the thread that has made it.
* **No admitted firing is lost or doubled.**  Each has started a run, or has been dropped while the
  task was held, or is being held.
* **An admitted firing is one unit of the counter**, from its admission until its run is over, or
  it is dropped, or a reset clears it, whichever comes first.  The acceptance of a task is a unit
  as well, and the first firing takes that one over if no reset has come in between.

So the counter is known from the history alone: it is the number of the admitted firings and of the
acceptances that are *open*.

## Main Definitions

* `Verdict`, `Verdict.Holds`: the three decisions about a call.
* `Deed.clearsTask`: the deeds that close the unit of a task.
* `History.openFirings`, `History.openAcceptances`: the units of a task.
* `FiringLaw`, `UnitLaw`.

The main statement is `firing_law`.
-/

namespace TaskBarrier

variable {ν : Type}

/-! ## Decisions -/

/-- What the barrier decides about a call of a callback. -/
inductive Verdict where
  | ignored
  | coalesced
  | admitted
  deriving DecidableEq

/-- The decision that an answer of the barrier stands for: an admitted firing runs or is held. -/
def Firing.verdict : Firing → Verdict
  | ignored => .ignored
  | coalesced => .coalesced
  | run | held => .admitted

/-- When each decision is made about the task, with the barrier before and after it. -/
def Verdict.Holds (b b' : Barrier ν) (id : TaskId) : Verdict → Prop
  | ignored => b.slotted? id = none ∧ b' = b
  | coalesced => b' = b ∧
      ∃ task slot, b.slotted? id = some (task, slot) ∧ (task.phase = .held ∨ task.phase = .running)
  | admitted => b'.phase? id = some (if b.draining then .running else .held) ∧
      ∃ task slot, b.slotted? id = some (task, slot) ∧ task.phase = .live

/-- No two decisions are made at once: they need different slots or different phases. -/
theorem Verdict.Holds.unique {b b' : Barrier ν} {id : TaskId} {verdict other : Verdict}
    (holds : verdict.Holds b b' id) (holds' : other.Holds b b' id) : other = verdict := by
  cases verdict <;> cases other <;> simp only [Holds] at holds holds' <;> grind

namespace Scheduler

/-- **A call comes to exactly one decision**, according to the slot and the phase of its task. -/
theorem Sound.verdict_holds {s : Scheduler ν} (sound : s.Sound) (id : TaskId) :
    (s.barrier.fire id).answer.verdict.Holds s.barrier (s.barrier.fire id).barrier id := by
  rcases s.barrier.fire_cases id with ⟨task, found, slotted, live, eq⟩ | ⟨same, answer⟩
  · obtain ⟨slot, has⟩ := Option.isSome_iff_exists.mp slotted
    have admitted : (s.barrier.fire id).answer.verdict = .admitted := by
      rw [eq, s.barrier.answer_fireLive]
      cases s.barrier.draining <;> rfl
    rw [admitted, eq]
    refine ⟨?_, task, slot, Barrier.slotted?_of_task? found has, live⟩
    rw [Barrier.phase?, s.barrier.task?_fireLive, Barrier.task?_modify_self, found]
    · rfl
    · exact fun _ => rfl
  · rw [same]
    -- Which of the two other decisions it is depends on whether there is a slot.
    cases has : s.barrier.slotted? id with
    | none =>
        have ignored : (s.barrier.fire id).answer = .ignored := by simp [Barrier.fire, has]
        rw [ignored]
        exact ⟨has, rfl⟩
    | some entry =>
        obtain ⟨found, slot⟩ := Barrier.slotted?_eq_some_iff.mp has
        obtain ⟨stage, -, fits⟩ := sound.fits_of_found found
        have continues : entry.1.phase.isTerminal = false := by
          simpa [slot] using fits.slotted.symm
        cases phase : entry.1.phase with
        | live =>
            have admitted : (s.barrier.fire id).answer = (s.barrier.fireLive id).answer := by
              simp [Barrier.fire, has, phase]
            rw [admitted, s.barrier.answer_fireLive] at answer
            split at answer <;> simp at answer
        | held | running =>
            have coalesced : (s.barrier.fire id).answer = .coalesced := by
              simp [Barrier.fire, has, phase]
            rw [coalesced]
            exact ⟨rfl, entry.1, entry.2, has, by simp [phase]⟩
        | ran | cancelled =>
            rw [phase] at continues
            cases continues

end Scheduler

/-! ## What opens and closes a unit -/

namespace Deed

/-- Whether the deed is the given decision about a call of the task's callback. -/
def judgesTask (id : TaskId) (verdict : Verdict) : Deed → Bool
  | call other firing => other == id && firing.verdict == verdict
  | _ => false

/-- Whether the deed takes the task out of the hold queue, if it is there, without running it. -/
def withdrawsTask (id : TaskId) : Deed → Bool
  | cancel other .cancelled => other == id
  | reset _ _ => true
  | _ => false

/-- Whether the task stops being counted: a run of it is over, or it is cancelled before it has
started, or a cycle ends. -/
def clearsTask (id : TaskId) (deed : Deed) : Bool := deed.finishesTask id || deed.withdrawsTask id

section Apart

variable {id : TaskId} {deed : Deed}

theorem judgesTask_of_apart (apart : deed.concerns id = false) :
    deed.judgesTask id .admitted = false := by
  unfold judgesTask
  split
  · next other firing =>
    cases firing with
    | ignored | coalesced => exact Bool.and_false _
    | run | held =>
        have apart : (other == id) = false := apart
        simp [apart]
  · rfl

theorem withdrawsTask_of_apart (apart : deed.concerns id = false) :
    deed.withdrawsTask id = false := by
  unfold withdrawsTask
  split
  · exact apart
  · cases apart
  · rfl

theorem clearsTask_of_apart (apart : deed.concerns id = false) : deed.clearsTask id = false := by
  rw [clearsTask, finishesTask_of_apart apart, withdrawsTask_of_apart apart]
  rfl

end Apart

/-- A deed decides about one call, or about none. -/
theorem count_decided (id : TaskId) (deed : Deed) :
    deed.decided.count id = (if deed.judgesTask id .ignored then 1 else 0) +
      (if deed.judgesTask id .coalesced then 1 else 0) +
      if deed.judgesTask id .admitted then 1 else 0 := by
  cases deed with
  | call other firing =>
      by_cases same : other = id <;>
        cases firing <;> simp [decided, judgesTask, Firing.verdict, same]
  | _ => rfl

end Deed

/-- Whether the step drops a firing of the task: it is held, and taken out without being run. -/
def Stride.dropsFiring (id : TaskId) (stride : Stride ν) : Bool :=
  stride.before.barrier.phase? id == some .held && stride.deed.withdrawsTask id

/-- The callbacks that a step calls, if anything is left of the scheduler to hear the call. -/
def Stride.heard (stride : Stride ν) : List TaskId :=
  stride.before.heard (stride.before.called stride.now stride.move)

namespace History

/-- How often the callback of the task has been called. -/
def calls (history : History ν) (id : TaskId) : Nat := (history.flatMap (·.heard)).count id

/-- How often the given decision has been made about a call of the task's callback. -/
def verdicts (history : History ν) (id : TaskId) (verdict : Verdict) : Nat :=
  history.tally (Deed.judgesTask id verdict)

/-- How many firings of the task have been admitted. -/
def admissions (history : History ν) (id : TaskId) : Nat := history.verdicts id .admitted

/-- How many firings of the task have been dropped while the task was held. -/
def heldDrops (history : History ν) (id : TaskId) : Nat := history.countP (·.dropsFiring id)

/-- The steps after the latest one that has cleared the task. -/
def sinceCleared (history : History ν) (id : TaskId) : History ν :=
  history.takeWhile fun stride => !stride.deed.clearsTask id

/-- The admitted firings of the task that nothing has cleared since. -/
def openFirings (history : History ν) (id : TaskId) : Nat := (history.sinceCleared id).admissions id

/-- The acceptances of the task that nothing has cleared, and no firing has taken over, since. -/
def openAcceptances (history : History ν) (id : TaskId) : Nat :=
  History.accepts ((history.sinceCleared id).takeWhile fun stride =>
    !stride.deed.judgesTask id .admitted) id

/-- Whether the next firing of the task is the first one, and no reset has come since the task was
accepted. -/
def Reuses (history : History ν) (id : TaskId) : Prop :=
  history.admissions id = 0 ∧ history.sinceReset.accepts id ≠ 0

instance (history : History ν) (id : TaskId) : Decidable (history.Reuses id) :=
  inferInstanceAs (Decidable (_ ∧ _))

theorem verdicts_cons (stride : Stride ν) (history : History ν) (id : TaskId)
    (verdict : Verdict) : History.verdicts (stride :: history) id verdict =
      history.verdicts id verdict + if stride.deed.judgesTask id verdict then 1 else 0 :=
  tally_cons ..

theorem admissions_cons (stride : Stride ν) (history : History ν) (id : TaskId) :
    History.admissions (stride :: history) id =
      history.admissions id + if stride.deed.judgesTask id .admitted then 1 else 0 :=
  tally_cons ..

theorem heldDrops_cons (stride : Stride ν) (history : History ν) (id : TaskId) :
    History.heldDrops (stride :: history) id =
      history.heldDrops id + if stride.dropsFiring id then 1 else 0 := by
  simp [heldDrops, List.countP_cons]

theorem calls_cons (stride : Stride ν) (history : History ν) (id : TaskId) :
    History.calls (stride :: history) id = stride.heard.count id + history.calls id := by
  simp [calls]

theorem sinceCleared_cons (stride : Stride ν) (history : History ν) (id : TaskId) :
    History.sinceCleared (stride :: history) id =
      if stride.deed.clearsTask id then [] else stride :: history.sinceCleared id := by
  simp only [sinceCleared, List.takeWhile_cons]
  cases stride.deed.clearsTask id <;> rfl

theorem openFirings_cons (stride : Stride ν) (history : History ν) (id : TaskId) :
    History.openFirings (stride :: history) id =
      if stride.deed.clearsTask id then 0
      else history.openFirings id + if stride.deed.judgesTask id .admitted then 1 else 0 := by
  rw [openFirings, sinceCleared_cons]
  split
  · rfl
  · exact admissions_cons ..

theorem openAcceptances_cons (stride : Stride ν) (history : History ν) (id : TaskId) :
    History.openAcceptances (stride :: history) id =
      if stride.deed.clearsTask id || stride.deed.judgesTask id .admitted then 0
      else history.openAcceptances id + if stride.deed.acceptsTask id then 1 else 0 := by
  rw [openAcceptances, sinceCleared_cons]
  cases stride.deed.clearsTask id with
  | true => rfl
  | false =>
      rw [if_neg Bool.false_ne_true, List.takeWhile_cons, Bool.false_or]
      cases stride.deed.judgesTask id .admitted with
      | true => rfl
      | false => exact accepts_cons ..

end History

/-! ## The account of one task -/

/-- The history of a task agrees with its record. -/
structure Conserved (id : TaskId) (history : History ν) (record : Option (Task ν)) : Prop where
  /-- An admitted firing has started a run, has been dropped, or is being held. -/
  balance : history.starts id + history.heldDrops id +
    (if record.map (·.phase) = some .held then 1 else 0) = history.admissions id
  /-- The flag of the task is its unit. -/
  units : history.openFirings id + history.openAcceptances id =
    if record.any (·.isCounted) then 1 else 0
  /-- The unit of a live task is that of its acceptance. -/
  resting : record.map (·.phase) = some .live → history.openFirings id = 0
  /-- A live task has its unit as long as the first firing is to take it over. -/
  reuses : record.map (·.phase) = some .live →
    (record.any (·.isCounted) = true ↔ history.Reuses id)
  /-- A task that runs has fired. -/
  admitted : record.map (·.phase) = some .running → 0 < history.admissions id
  /-- Only tasks that have been accepted fire. -/
  absent : record = none → history.admissions id = 0

namespace Deed

/-- A reset clears every task. -/
theorem isReset_of_clears {id : TaskId} {deed : Deed} (spares : deed.clearsTask id = false) :
    deed.isReset = false := by
  cases deed <;> first | rfl | simp [clearsTask, withdrawsTask] at spares

/-- What clears a task neither starts a run of it nor decides about a call. -/
theorem of_clears {id : TaskId} {deed : Deed} (clears : deed.clearsTask id = true)
    (verdict : Verdict) : deed.startsTask id = false ∧ deed.judgesTask id verdict = false := by
  cases deed <;> first | exact ⟨rfl, rfl⟩ | simp [clearsTask, finishesTask, withdrawsTask] at clears

end Deed

namespace Conserved

variable {id : TaskId} {history : History ν} {stride : Stride ν} {before after : Option (Task ν)}

/-- Steps that neither open nor close a unit, nor start a run, change no account. -/
theorem cons_of_same (conserved : Conserved id history before)
    (phase : after.map (·.phase) = before.map (·.phase))
    (flag : after.any (·.isCounted) = before.any (·.isCounted))
    (starts : stride.deed.startsTask id = false)
    (admits : stride.deed.judgesTask id .admitted = false)
    (accepts : stride.deed.acceptsTask id = false)
    (clears : stride.deed.clearsTask id = false) : Conserved id (stride :: history) after := by
  have withdraws : stride.dropsFiring id = false := by
    rw [Deed.clearsTask, Bool.or_eq_false_iff] at clears
    rw [Stride.dropsFiring, clears.2, Bool.and_false]
  have reuses : History.Reuses (stride :: history) id ↔ history.Reuses id := by
    simp [History.Reuses, History.admissions_cons, History.sinceReset_cons, History.accepts_cons,
      Deed.isReset_of_clears clears, admits, accepts]
  refine ⟨?_, ?_, ?_, ?_, ?_, ?_⟩
  · simpa [History.starts_cons, History.heldDrops_cons, History.admissions_cons, starts, withdraws,
      admits, phase] using conserved.balance
  · simpa [History.openFirings_cons, History.openAcceptances_cons, clears, admits, accepts, flag]
      using conserved.units
  · simpa [History.openFirings_cons, clears, admits, phase] using conserved.resting
  · rw [phase, flag, reuses]
    exact conserved.reuses
  · simpa [History.admissions_cons, admits, phase] using conserved.admitted
  · intro none
    rw [none, Option.map_none, eq_comm, Option.map_eq_none_iff] at phase
    simp [History.admissions_cons, admits, conserved.absent phase]

/-- A task that is not counted, and not held, has no unit, as is so after a deed that clears it. -/
theorem cons_of_clears (conserved : Conserved id history before)
    (held : stride.before.barrier.phase? id = before.map (·.phase))
    (clears : stride.deed.clearsTask id = true)
    (finishes : stride.deed.finishesTask id = true → before.map (·.phase) = some .running)
    (resting : after.map (·.phase) ≠ some .held)
    (flag : after.any (·.isCounted) = false)
    (running : after.map (·.phase) = some .running → before.map (·.phase) = some .running)
    (live : stride.deed.isReset = false → after.map (·.phase) = some .live →
      before.map (·.phase) = some .running)
    (gone : after = none → before = none) : Conserved id (stride :: history) after := by
  obtain ⟨starts, admits⟩ := Deed.of_clears clears .admitted
  have drops : stride.dropsFiring id = true ↔ before.map (·.phase) = some .held := by
    rw [Stride.dropsFiring, held, Bool.and_eq_true, beq_iff_eq]
    rw [Deed.clearsTask, Bool.or_eq_true] at clears
    rcases clears with ended | withdrawn
    · simp [finishes ended]
    · exact and_iff_left withdrawn
  refine ⟨?_, ?_, ?_, ?_, ?_, ?_⟩
  · have balance := conserved.balance
    simp only [History.starts_cons, History.heldDrops_cons, History.admissions_cons, starts, admits,
      drops, resting, if_false, Bool.false_eq_true, Nat.add_zero]
    omega
  · simp [History.openFirings_cons, History.openAcceptances_cons, clears, flag]
  · simp [History.openFirings_cons, clears]
  · intro alive
    rw [flag]
    refine iff_of_false Bool.false_ne_true ?_
    rintro ⟨never, accepted⟩
    by_cases reset : stride.deed.isReset = true
    · simp [History.sinceReset_cons, reset] at accepted
    · have fired := conserved.admitted (live (by simpa using reset) alive)
      rw [History.admissions_cons] at never
      omega
  · intro runs
    rw [History.admissions_cons]
    exact Nat.lt_of_lt_of_le (conserved.admitted (running runs)) (Nat.le_add_right _ _)
  · intro none
    simp [History.admissions_cons, admits, conserved.absent (gone none)]

/-- A live task fires. -/
theorem cons_of_admits {task task' : Task ν} (conserved : Conserved id history (some task))
    (live : task.phase = .live) (flag : task'.isCounted = true)
    (admits : stride.deed.judgesTask id .admitted = true)
    (clears : stride.deed.clearsTask id = false)
    (fires : if stride.deed.startsTask id then task'.phase = .running else task'.phase = .held) :
    Conserved id (stride :: history) (some task') := by
  have balance := conserved.balance
  have none := conserved.resting (by simp [live])
  have withdraws : stride.dropsFiring id = false := by
    rw [Deed.clearsTask, Bool.or_eq_false_iff] at clears
    rw [Stride.dropsFiring, clears.2, Bool.and_false]
  simp only [Option.map_some, live, Option.some.injEq, reduceCtorEq, if_false] at balance
  have moved : task'.phase ≠ .live := by
    split at fires <;> simp [fires]
  refine ⟨?_, ?_, ?_, ?_, ?_, ?_⟩
  · simp only [History.starts_cons, History.heldDrops_cons, History.admissions_cons, withdraws,
      admits, Option.map_some, Option.some.injEq]
    split at fires
    · simp_all
      omega
    · simp_all
  · simp [History.openFirings_cons, History.openAcceptances_cons, clears, admits, none, flag]
  · exact fun alive => absurd (Option.some.inj alive) moved
  · exact fun alive => absurd (Option.some.inj alive) moved
  · intro _
    simp [History.admissions_cons, admits]
  · rintro ⟨⟩

/-- A held task is replayed. -/
theorem cons_of_replay {task : Task ν} (conserved : Conserved id history (some task))
    (held : task.phase = .held) (done : stride.deed = .replay (.run id)) :
    Conserved id (stride :: history) (some (task.setPhase .running)) := by
  have balance := conserved.balance
  have starts : stride.deed.startsTask id = true := by simp [done, Deed.startsTask]
  have admits : stride.deed.judgesTask id .admitted = false := by rw [done]; rfl
  have clears : stride.deed.clearsTask id = false := by rw [done]; rfl
  have accepts : stride.deed.acceptsTask id = false := by rw [done]; rfl
  have drops : stride.dropsFiring id = false := by
    rw [Stride.dropsFiring, done]
    exact Bool.and_false _
  simp only [Option.map_some, held, if_true] at balance
  refine ⟨?_, ?_, ?_, ?_, ?_, ?_⟩
  · simp only [History.starts_cons, History.heldDrops_cons, History.admissions_cons, starts, drops,
      admits]
    simp [Task.setPhase]
    omega
  · simp only [History.openFirings_cons, History.openAcceptances_cons, clears, admits, accepts]
    exact conserved.units
  · rintro ⟨⟩
  · rintro ⟨⟩
  · intro _
    rw [History.admissions_cons]
    omega
  · rintro ⟨⟩

/-- **Every step keeps the account of every task.** -/
theorem step {deed : Deed} {stage stage' : Option RunStage}
    (conserved : Conserved id history before)
    (done : stride.deed = deed) (held : stride.before.barrier.task? id = before)
    (passage : Passage id deed before stage after stage') :
    Conserved id (stride :: history) after := by
  obtain ⟨course, fits, fits', -, -⟩ := passage
  have seen : stride.before.barrier.phase? id = before.map (·.phase) := by
    rw [Barrier.phase?, held]
  generalize stage.toList = stages, stage'.toList = stages' at course
  cases course with
  | accept =>
      have units := conserved.units
      have balance := conserved.balance
      have never := conserved.absent rfl
      have accepts : stride.deed.acceptsTask id = true := by simp [done, Deed.acceptsTask]
      have starts : stride.deed.startsTask id = false := by rw [done]; rfl
      have admits : stride.deed.judgesTask id .admitted = false := by rw [done]; rfl
      have clears : stride.deed.clearsTask id = false := by rw [done]; rfl
      have drops : stride.dropsFiring id = false := by simp [Stride.dropsFiring, seen]
      simp only [Option.any_none, Option.map_none, Bool.false_eq_true, reduceCtorEq, if_false]
        at units balance
      refine ⟨?_, ?_, ?_, ?_, ?_, ?_⟩
      · simpa [History.starts_cons, History.heldDrops_cons, History.admissions_cons, starts, drops,
          admits, Task.accepted] using balance
      · simp [History.openFirings_cons, History.openAcceptances_cons, clears, admits, accepts]
        omega
      · intro _
        simp [History.openFirings_cons, clears, admits]
        omega
      · intro _
        simp [History.Reuses, History.admissions_cons, admits, never, History.sinceReset_cons,
          Deed.isReset_of_clears clears, History.accepts_cons, accepts]
      · rintro ⟨⟩
      · rintro ⟨⟩
  | @run task _ slotted live =>
      refine conserved.cons_of_admits live ?_ ?_ (by rw [done]; rfl) ?_
      · rw [Task.isCounted_setPhase, Task.isCounted_setCounted, slotted]
        rfl
      · simp [done, Deed.judgesTask, Firing.verdict]
      · simp [done, Deed.startsTask, Task.setPhase]
  | @hold task _ slotted live =>
      refine conserved.cons_of_admits live (fits'.of_some.counted (.inl rfl)) ?_
        (by rw [done]; rfl) ?_
      · simp [done, Deed.judgesTask, Firing.verdict]
      · simp [done, Deed.startsTask, Task.setPhase]
  | @replay task _ slotted waiting =>
      exact conserved.cons_of_replay waiting done
  | enter | leave | read =>
      exact conserved.cons_of_same rfl rfl (by rw [done]; rfl) (by rw [done]; rfl)
        (by rw [done]; rfl) (by rw [done]; rfl)
  | @finish task _ running =>
      have uncounted : (task.setCounted false).isCounted = false := by simp
      refine conserved.cons_of_clears seen ?_ ?_ ?_ ?_ ?_ ?_ ?_
      · simp [done, Deed.clearsTask, Deed.finishesTask]
      · simp [running]
      · exact fun held => Task.phase_afterRun_ne_held _ (Option.some.inj held)
      · exact Task.isCounted_afterRun uncounted
      · simp [running]
      · simp [running]
      · rintro ⟨⟩
  | @withdraw task _ waiting =>
      refine conserved.cons_of_clears seen ?_ ?_ ?_ rfl ?_ ?_ ?_
      · simp [done, Deed.clearsTask, Deed.withdrawsTask]
      · simp [done, Deed.finishesTask]
      · simp [Task.retire]
      · simp [Task.retire]
      · simp [Task.retire]
      · rintro ⟨⟩
  | @doom task _ running periodic undoomed =>
      exact conserved.cons_of_same rfl task.isCounted_doom (by rw [done]; rfl) (by rw [done]; rfl)
        (by rw [done]; rfl) (by rw [done]; rfl)
  | @reset _ _ task _ listed cleared =>
      have reset : stride.deed.isReset = true := by rw [done]; rfl
      refine conserved.cons_of_clears seen (by rw [done]; rfl) ?_ ?_ task.isCounted_reset ?_ ?_ ?_
      · simp [done, Deed.finishesTask]
      · exact fun held => fits.of_some.phase_reset_ne_held (Option.some.inj held)
      · intro running
        rw [Option.map_some, fits.of_some.phase_of_reset_running (Option.some.inj running)]
      · simp [reset]
      · rintro ⟨⟩
  | absent unlisted =>
      refine conserved.cons_of_clears seen (by rw [done]; rfl) ?_ ?_ rfl ?_ ?_ fun _ => rfl
      · simp [done, Deed.finishesTask]
      · simp
      · simp
      · simp
  | @discard task _ cancelled =>
      obtain ⟨body, promise, eq⟩ := task.discard_eq
      rw [eq]
      exact conserved.cons_of_same rfl rfl (by rw [done]; rfl) (by rw [done]; rfl)
        (by rw [done]; rfl) (by rw [done]; rfl)
  | keep apart =>
      rw [← done] at apart
      exact conserved.cons_of_same rfl rfl (Deed.startsTask_of_apart apart)
        (Deed.judgesTask_of_apart apart) (Deed.acceptsTask_of_apart apart)
        (Deed.clearsTask_of_apart apart)

end Conserved

/-- In every state of a run, the history of every task agrees with its record. -/
theorem Run.conserved {history : History ν} {s : Scheduler ν} (run : Run history s) (id : TaskId) :
    Conserved id history (s.barrier.task? id) := by
  obtain ⟨-, -, -, conserved⟩ := run.induct_task id
    (motive := fun history record _ => Conserved id history record)
    ⟨rfl, rfl, fun _ => rfl, (nomatch ·), (nomatch ·), fun _ => rfl⟩
    (fun done seen passage conserved => conserved.step done seen passage)
  exact conserved

/-! ## Calls and decisions -/

/-- **On every thread, calls and decisions balance**: what has been called has been decided upon or
is in flight. -/
theorem Path.calls_balance {s s' : Scheduler ν} {later : History ν} (path : Path s later s')
    (thread : ThreadId) (id : TaskId) :
    (later.byThread thread).verdicts id .ignored + (later.byThread thread).verdicts id .coalesced +
        (later.byThread thread).admissions id + (Stack.called (s'.stack thread)).count id =
      (later.byThread thread).calls id + (Stack.called (s.stack thread)).count id := by
  induction path with
  | start => rfl
  | @step history middle stepping now move turn path taken ih =>
      rw [History.byThread_cons]
      by_cases own : stepping = thread
      · subst own
        have flight := congrArg (List.count id) (Scheduler.flies_of_step taken).flight
        have stride : Stride.deed ⟨middle, stepping, now, move, turn⟩ =
          middle.deed stepping now move := rfl
        have heard : Stride.heard ⟨middle, stepping, now, move, turn⟩ =
          middle.heard (middle.called now move) := rfl
        rw [List.count_append, List.count_append, Deed.count_decided] at flight
        rw [if_pos rfl, History.verdicts_cons, History.verdicts_cons, History.admissions_cons,
          History.calls_cons, stride, heard]
        omega
      · rw [if_neg own, (Scheduler.follows_of_step taken).others thread (Ne.symm own)]
        exact ih

/-- **Calling a callback changes the facility alone.**  What becomes of the call is decided
later. -/
theorem Scheduler.barrier_of_called {s : Scheduler ν} {thread : ThreadId} {now : Instant}
    {move : Move ν} {turn : Turn ν} (taken : s.step thread now move = some turn)
    (calls : s.called now move ≠ []) :
    ∃ facility, turn.scheduler.barrier = { s.barrier with facility := facility } := by
  have taken := attempt_of_step taken
  cases move with
  | endBody | proceed => exact absurd rfl calls
  | request request =>
      have taken : s.request thread now request = some turn := taken
      unfold Scheduler.request at taken
      split at taken
      · cases taken
      · cases request with
        | call task =>
            obtain rfl := Option.some.inj taken
            exact ⟨s.barrier.facility, rfl⟩
        | fire key =>
            obtain rfl := Option.some.inj taken
            unfold requestFire
            split
            · exact ⟨s.barrier.facility, rfl⟩
            · split
              · exact ⟨s.barrier.facility, rfl⟩
              · exact ⟨_, rfl⟩
        | _ => exact absurd rfl calls
  | work =>
      have taken : s.work thread now = some turn := taken
      unfold Scheduler.work at taken
      split at taken
      · split at taken
        · cases taken
        · split at taken
          · cases taken
          · cases taken
          · obtain rfl := Option.some.inj taken
            exact ⟨_, rfl⟩
          · split at taken <;>
            · obtain rfl := Option.some.inj taken
              exact ⟨_, rfl⟩
      · cases taken

/-! ## The unit of a firing -/

/-- A section that decides about a call is that of the barrier. -/
theorem Transition.of_call {b b' : Barrier ν} {stack stack' : Stack ν} {id : TaskId}
    {firing : Firing} (transition : Transition b stack (.call id firing) b' stack') :
    firing = (b.fire id).answer ∧ b' = (b.fire id).barrier := by
  generalize done : Deed.call id firing = deed at transition
  cases transition with
  | run answer | pass =>
      obtain ⟨rfl, rfl⟩ := Deed.call.inj done
      simp_all
  | _ => cases done

/-- A live task that fires adds to the counter, unless it is counted already. -/
theorem Barrier.outstanding_fireLive {b : Barrier ν} {id : TaskId} {task : Task ν}
    (found : b.task? id = some task) (slotted : task.slot.isSome = true) :
    (b.fireLive id).barrier.outstanding = b.outstanding + if task.isCounted then 0 else 1 := by
  obtain ⟨slot, has⟩ := Option.isSome_iff_exists.mp slotted
  have counted : (b.fireLive id).barrier.outstanding = (b.count id).outstanding := by
    unfold fireLive
    split <;> rfl
  have flag : task.isCounted = slot.counted := by simp [Task.isCounted, has]
  rw [counted, count, slotted?_of_task? found has, flag]
  simp only
  split <;> simp_all

/-- The end of a run lowers the counter by the flag of the task. -/
theorem Barrier.outstanding_finish (b : Barrier ν) (id : TaskId) :
    (b.finish id).barrier.outstanding = (b.uncount id).outstanding := by
  unfold finish
  simp only
  split <;> rfl

namespace Scheduler.Sound

variable {s s' : Scheduler ν} {thread : ThreadId} {deed : Deed} {id : TaskId}

/-- **An admitted firing adds one to the counter**, unless its task has a unit already. -/
theorem outstanding_of_admits (follows : s.Follows thread deed s')
    (admits : deed.judgesTask id .admitted = true) :
    ∃ task, s.barrier.task? id = some task ∧ task.phase = .live ∧
      s'.barrier.outstanding = s.barrier.outstanding + if task.isCounted then 0 else 1 := by
  cases deed with
  | call other firing =>
      obtain ⟨same, admitted⟩ := Bool.and_eq_true_iff.mp admits
      obtain rfl := beq_iff_eq.mp same
      obtain ⟨rfl, fired⟩ := follows.transition.of_call
      rcases s.barrier.fire_cases other with ⟨task, found, slotted, live, eq⟩ |
        ⟨-, answer | answer⟩
      · refine ⟨task, found, live, ?_⟩
        rw [fired, eq]
        exact Barrier.outstanding_fireLive found slotted
      all_goals
        rw [answer] at admitted
        cases admitted
  | _ => cases admits

/-- **What clears a task that is counted takes one from the counter**, or everything if it is a
reset. -/
theorem outstanding_of_clears (sound : s.Sound) (follows : s.Follows thread deed s')
    (clears : deed.clearsTask id = true) {task : Task ν} (found : s.barrier.task? id = some task)
    (counted : task.isCounted = true) : 0 < s.barrier.outstanding ∧
      s'.barrier.outstanding = if deed.isReset then 0 else s.barrier.outstanding - 1 := by
  have positive : 0 < s.barrier.outstanding := by
    rw [Nat.pos_iff_ne_zero]
    intro settled
    have uncounted := sound.isCounted_of_outstanding settled (Barrier.task?_mem found)
    rw [counted] at uncounted
    cases uncounted
  refine ⟨positive, ?_⟩
  have transition := follows.transition
  generalize s.stack thread = stack, s'.barrier = barrier, s'.stack thread = stack' at transition
  have lowered : ∀ b : Barrier ν, b.Coherent → b.task? id = some task →
      (b.uncount id).outstanding = b.outstanding - 1 := by
    intro b coherent found
    have lowered := (coherent.outstanding_uncount found).1
    rw [if_pos counted] at lowered
    omega
  cases transition with
  | @finish other =>
      obtain rfl : other = id := by
        simpa [Deed.clearsTask, Deed.finishesTask, Deed.withdrawsTask] using clears
      rw [Barrier.outstanding_finish]
      exact lowered s.barrier sound.coherent found
  | @withdraw _ other _ answer =>
      obtain rfl : other = id := by
        simpa [Deed.clearsTask, Deed.finishesTask, Deed.withdrawsTask] using clears
      rcases s.barrier.cancel_cases other with ⟨_, slot, -, -, ⟨-, eq⟩ | ⟨-, eq⟩⟩ |
        ⟨_, _, -, -, -, -, -, doomed, -⟩ | ⟨late, -⟩
      · rw [eq]
        exact lowered (s.barrier.disarm slot.key)
          (sound.coherent.transfer rfl rfl (Nat.le_refl _)) found
      · rw [eq]
        exact lowered ((s.barrier.disarm slot.key).unhold other)
          (sound.coherent.transfer rfl rfl (Nat.le_refl _)) found
      · rw [answer] at doomed
        cases doomed
      · rw [answer] at late
        cases late
  | @cancel _ other _ answer =>
      -- Only a cancel of a task that has not started clears it.
      cases given : (s.barrier.cancel other).answer with
      | cancelled => exact absurd given answer
      | tooLate | doomed =>
          rw [given] at clears
          cases clears
  | settle | expire | guard | unwind => rfl
  | _ => cases clears

end Scheduler.Sound

namespace History

/-- While nothing clears a task, its open firings stay open. -/
theorem openFirings_append_of_spares {later : History ν} {id : TaskId}
    (spares : ∀ stride ∈ later, stride.deed.clearsTask id = false) (history : History ν) :
    History.openFirings (later ++ history) id = later.admissions id + history.openFirings id := by
  induction later with
  | nil => exact (Nat.zero_add _).symm
  | cons stride later ih =>
      have rest := ih fun other member => spares other (List.mem_cons_of_mem _ member)
      rw [List.cons_append, openFirings_cons, admissions_cons, rest,
        spares stride List.mem_cons_self, if_neg Bool.false_ne_true]
      omega

/-- A task that has been cleared has no unit. -/
theorem open_of_clears {stride : Stride ν} {id : TaskId}
    (clears : stride.deed.clearsTask id = true) (history : History ν) :
    History.openFirings (stride :: history) id = 0 ∧
      History.openAcceptances (stride :: history) id = 0 := by
  rw [openFirings_cons, openAcceptances_cons, clears]
  exact ⟨rfl, rfl⟩

end History

/-- A decision about a call clears no task. -/
theorem Deed.clearsTask_of_judges {id : TaskId} {verdict : Verdict} {deed : Deed}
    (judges : deed.judgesTask id verdict = true) : deed.clearsTask id = false := by
  by_contra clears
  rw [(Deed.of_clears (by simpa using clears) verdict).2] at judges
  cases judges

/-- **The unit of one admitted firing**: the step `firing` admits it after the steps `earlier`, and
the steps `later` lead on to the state `s`. -/
structure UnitLaw (later : History ν) (firing : Stride ν) (earlier : History ν) (s : Scheduler ν)
    (id : TaskId) : Prop where
  /-- The firing adds one to the counter, or takes over the unit of the acceptance. -/
  opens : firing.turn.scheduler.barrier.outstanding =
    firing.before.barrier.outstanding + if earlier.Reuses id then 0 else 1
  /-- As long as nothing clears the task, the firing is the one unit of the task, which is held or
  running and is counted. -/
  stands : (∀ stride ∈ later, stride.deed.clearsTask id = false) →
    History.openFirings (later ++ firing :: earlier) id = 1 ∧
      History.openAcceptances (later ++ firing :: earlier) id = 0 ∧
      ∃ task, s.barrier.task? id = some task ∧ (task.phase = .held ∨ task.phase = .running) ∧
        task.isCounted = true
  /-- The first step that clears the task takes the unit from the counter: that one alone if it is
  the end of the run or a cancel, and all others with it if it is a reset. -/
  closes : ∀ {since clearing between}, later = since ++ clearing :: between →
    (∀ stride ∈ between, stride.deed.clearsTask id = false) →
    clearing.deed.clearsTask id = true →
      0 < clearing.before.barrier.outstanding ∧
        clearing.turn.scheduler.barrier.outstanding =
          (if clearing.deed.isReset then 0 else clearing.before.barrier.outstanding - 1) ∧
        History.openFirings (clearing :: (between ++ firing :: earlier)) id = 0 ∧
        History.openAcceptances (clearing :: (between ++ firing :: earlier)) id = 0

/-- **What becomes of the firings of a task**, after the steps of `history` have led to `s`. -/
structure FiringLaw (history : History ν) (s : Scheduler ν) (id : TaskId) : Prop where
  /-- Whoever calls the callback changes nothing but the facility: what becomes of the call is
  decided later. -/
  called : ∀ stride ∈ history, id ∈ stride.before.called stride.now stride.move →
    ∃ facility, stride.turn.scheduler.barrier = { stride.before.barrier with facility := facility }
  /-- Every call that something is left of the scheduler to hear has been ignored, coalesced or
  admitted, or is in flight on the thread that has made it. -/
  calls : ∀ thread, (history.byThread thread).calls id =
    (history.byThread thread).verdicts id .ignored +
      (history.byThread thread).verdicts id .coalesced +
      (history.byThread thread).verdicts id .admitted + (Stack.called (s.stack thread)).count id
  /-- A call comes to exactly one decision: it is ignored if there is no slot, coalesced if the task
  is held or running, and admitted if the task is live. -/
  decided : ∀ stride ∈ history, ∀ firing, stride.deed = .call id firing → ∀ verdict : Verdict,
    verdict.Holds stride.before.barrier stride.turn.scheduler.barrier id ↔ verdict = firing.verdict
  /-- An admitted firing has started a run, has been dropped while the task was held, or is being
  held. -/
  conserved : history.starts id + history.heldDrops id +
    (if s.barrier.phase? id = some .held then 1 else 0) = history.verdicts id .admitted
  /-- The counter is the number of the open firings and open acceptances of all tasks. -/
  outstanding : s.barrier.outstanding =
    (s.barrier.tasks.map fun task =>
      history.openFirings task.id + history.openAcceptances task.id).sum
  /-- A task never has more than one unit. -/
  single : history.openFirings id + history.openAcceptances id ≤ 1
  /-- Every admitted firing has its unit. -/
  units : ∀ {later firing earlier}, history = later ++ firing :: earlier →
    firing.deed.judgesTask id .admitted = true → UnitLaw later firing earlier s id

/-- The counter is the number of units. -/
theorem Run.outstanding_eq_units {history : History ν} {s : Scheduler ν} (run : Run history s) :
    s.barrier.outstanding =
      (s.barrier.tasks.map fun task =>
        history.openFirings task.id + history.openAcceptances task.id).sum := by
  have units : ∀ task ∈ s.barrier.tasks,
      history.openFirings task.id + history.openAcceptances task.id =
        if task.isCounted then 1 else 0 := by
    intro task member
    have units := (run.conserved task.id).units
    rwa [run.sound.coherent.task?_of_mem member] at units
  rw [run.sound.coherent.balanced, Barrier.counted]
  generalize s.barrier.tasks = tasks at units
  induction tasks with
  | nil => rfl
  | cons task tasks ih =>
      rw [List.countP_cons, List.map_cons, List.sum_cons, units task List.mem_cons_self,
        ih fun other member => units other (List.mem_cons_of_mem _ member), Nat.add_comm]

/-- An admitted firing that nothing has cleared since is the one unit of its task. -/
theorem Run.unit_stands {later earlier : History ν} {firing : Stride ν} {s : Scheduler ν}
    {id : TaskId} (run : Run (later ++ firing :: earlier) s)
    (admits : firing.deed.judgesTask id .admitted = true)
    (spares : ∀ stride ∈ later, stride.deed.clearsTask id = false) :
    History.openFirings (later ++ firing :: earlier) id = 1 ∧
      History.openAcceptances (later ++ firing :: earlier) id = 0 ∧
      ∃ task, s.barrier.task? id = some task ∧ (task.phase = .held ∨ task.phase = .running) ∧
        task.isCounted = true := by
  have conserved := run.conserved id
  have units := conserved.units
  have stays : 1 ≤ History.openFirings (later ++ firing :: earlier) id := by
    rw [History.openFirings_append_of_spares spares, History.openFirings_cons, admits,
      Deed.clearsTask_of_judges admits, if_neg Bool.false_ne_true, if_pos rfl]
    omega
  cases found : s.barrier.task? id with
  | none =>
      simp only [found, Option.any_none, Bool.false_eq_true, if_false] at units
      omega
  | some task =>
      have counted : task.isCounted = true := by
        by_contra uncounted
        simp only [found, Option.any_some, uncounted, if_false] at units
        omega
      simp only [found, Option.any_some, counted, if_true] at units
      refine ⟨by omega, by omega, task, rfl, ?_, counted⟩
      obtain ⟨stage, -, fits⟩ := run.sound.fits_of_found found
      cases phase : task.phase with
      | live =>
          have resting := conserved.resting (by rw [found, Option.map_some, phase])
          omega
      | held => exact .inl rfl
      | running => exact .inr rfl
      | ran | cancelled =>
          have gone : task.slot = none := by simpa [phase, Phase.isTerminal] using fits.slotted
          rw [Task.isCounted, gone] at counted
          cases counted

/-- **Every state of a run obeys the law of firings**, for every task. -/
theorem firing_law {history : History ν} {s : Scheduler ν} (run : Run history s) (id : TaskId) :
    FiringLaw history s id where
  called := by
    intro stride member calls
    obtain ⟨later, earlier, rfl⟩ := List.append_of_mem member
    exact Scheduler.barrier_of_called run.stride.2 (List.ne_nil_of_mem calls)
  calls := by
    intro thread
    obtain ⟨number, config, facility, worker, path⟩ := run
    exact (path.calls_balance thread id).symm
  decided := by
    intro stride member firing decides verdict
    obtain ⟨later, earlier, rfl⟩ := List.append_of_mem member
    obtain ⟨earlier, taken⟩ := run.stride
    have transition := (Scheduler.follows_of_step taken).transition
    rw [show stride.before.deed stride.thread stride.now stride.move = _ from decides] at transition
    obtain ⟨rfl, fired⟩ := transition.of_call
    have holds := earlier.sound.verdict_holds id
    rw [← fired] at holds
    exact ⟨holds.unique, fun same => same ▸ holds⟩
  conserved := (run.conserved id).balance
  outstanding := run.outstanding_eq_units
  single := by
    rw [(run.conserved id).units]
    split <;> omega
  units := by
    rintro later firing earlier rfl admits
    refine ⟨?_, run.unit_stands admits, ?_⟩
    · obtain ⟨before, taken⟩ := run.stride
      obtain ⟨task, found, live, outstanding⟩ :=
        Scheduler.Sound.outstanding_of_admits (Scheduler.follows_of_step taken) admits
      have reuses := (before.conserved id).reuses
      rw [found] at reuses
      rw [outstanding]
      congr 1
      refine if_congr (reuses ?_) rfl rfl
      rw [Option.map_some, live]
    · rintro since clearing between rfl spares clears
      rw [List.append_assoc] at run
      obtain ⟨before, taken⟩ := run.stride
      obtain ⟨-, -, task, found, -, counted⟩ := before.unit_stands admits spares
      obtain ⟨positive, lowered⟩ := before.sound.outstanding_of_clears
        (Scheduler.follows_of_step taken) clears found counted
      exact ⟨positive, lowered, History.open_of_clears clears _⟩

/-- The moves of a periodic task whose callback is called three times: it is held, is called again
while it is held, and once more after it has been cancelled. -/
def withdrawnMoves : List (ThreadId × Instant × Move Unit) :=
  [(0, ⟨0⟩, .request (.accept ⟨0⟩ (.fixedDelay ⟨1⟩) false)),
    (1, ⟨0⟩, .request (.call ⟨0⟩)), (1, ⟨0⟩, .proceed), (1, ⟨0⟩, .proceed),
    (1, ⟨1⟩, .request (.call ⟨0⟩)), (1, ⟨1⟩, .proceed), (1, ⟨1⟩, .proceed),
    (0, ⟨2⟩, .request (.cancelByHandle ⟨0⟩)),
    (1, ⟨3⟩, .request (.call ⟨0⟩)), (1, ⟨3⟩, .proceed)]

/-- Each of the calls in `withdrawnMoves` comes to another decision, and the firing that is admitted
is dropped with the unit that it has taken over. -/
theorem firing_law_of_withdrawn : ∃ (history : History Unit) (s : Scheduler Unit),
    Run history s ∧ (∀ verdict, history.verdicts ⟨0⟩ verdict = 1) ∧ history.starts ⟨0⟩ = 0 ∧
      history.heldDrops ⟨0⟩ = 1 ∧ s.barrier.outstanding = 0 := by
  obtain ⟨history, s, played, verdicts, starts, ended, opened⟩ : ∃ history s,
      (Scheduler.start 0 .default (.byHand .empty) none).play withdrawnMoves =
        some (history, s) ∧ (∀ verdict, history.verdicts ⟨0⟩ verdict = 1) ∧
        history.starts ⟨0⟩ = 0 ∧ s.barrier.phase? ⟨0⟩ = some .cancelled ∧
        (s.barrier.tasks.map fun task =>
          history.openFirings task.id + history.openAcceptances task.id) = [0] :=
    ⟨_, _, rfl, fun verdict => by cases verdict <;> rfl, rfl, rfl, rfl⟩
  have law := firing_law (Run.of_play played) ⟨0⟩
  have conserved := law.conserved
  rw [starts, ended, verdicts] at conserved
  refine ⟨history, s, .of_play played, verdicts, starts, by simpa using conserved, ?_⟩
  rw [law.outstanding, opened]
  rfl

end TaskBarrier
