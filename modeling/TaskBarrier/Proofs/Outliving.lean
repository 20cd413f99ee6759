import TaskBarrier.Proofs.Cancelling
import TaskBarrier.Proofs.Orphaned

/-!
# Handles that outlive their scheduler

A handle of a task refers weakly to its scheduler, and one might expect that it can do nothing once
the scheduler has been dropped.  But every call in progress holds on to what the lock guards, and a
body that is being executed belongs to a call in progress.  So after the drop there are two cases.

* *No call is in progress.*  Then a cancel through a handle fails and changes nothing, and this
  stays so for ever.
* *Some call is in progress*, for instance that of a body which an await has given up on.  Then a
  cancel through a handle does all that it did before the drop: it succeeds on exactly the same
  tasks, and ends them.

## Main Definitions

* `Scheduler.InUse`: some call in progress holds on to the scheduler.

The main statement is `cancel_of_dropped`.
-/

namespace TaskBarrier

variable {ν : Type}

/-- Some call in progress, on whatever thread, holds on to what the lock guards. -/
def Scheduler.InUse (s : Scheduler ν) : Prop :=
  ∃ thread, ∃ frame ∈ s.stack thread, frame.keepsAlive = true

/-- A dropped scheduler is alive as long as it is in use. -/
theorem Run.isAlive_iff {history : History ν} {s : Scheduler ν} (run : Run history s)
    (dropped : s.dropped = true) : s.isAlive = true ↔ s.InUse := by
  obtain ⟨number, config, facility, worker, path⟩ := run
  have tidy : s.calls.Tidy := path.tidy List.nodup_nil
  simp only [Scheduler.isAlive, dropped, Bool.not_true, Bool.false_or]
  exact tidy.keepAlive_iff

/-- What a handle does depends on whether its scheduler is alive, and not on whether it has been
dropped. -/
theorem Scheduler.cancelByHandle_of_step {s : Scheduler ν} {thread : ThreadId} {now : Instant}
    {id : TaskId} {turn : Turn ν}
    (taken : s.step thread now (.request (.cancelByHandle id)) = some turn) :
    Stack.isUser (s.stack thread) = true ∧
      turn = if s.isAlive then s.requestCancel thread id else s.refuse := by
  have taken : s.request thread now (.cancelByHandle id) = some turn := attempt_of_step taken
  unfold Scheduler.request at taken
  split at taken
  · cases taken
  · next userCode =>
    exact ⟨isUser_of_isUserCode (by simpa using userCode), (Option.some.inj taken).symm⟩

/-- **A cancel through a handle, after the scheduler has been dropped.**

* While no call in progress holds on to the scheduler, the caller is told no and nothing changes;
  and so it is in every later state, in which no task has come any further.
* While some call in progress holds on to it, the cancel is as exact as any other. -/
theorem cancel_of_dropped {history : History ν} {s : Scheduler ν} (run : Run history s)
    (dropped : s.dropped = true) {thread : ThreadId} {now : Instant} {id : TaskId} {turn : Turn ν}
    (taken : s.step thread now (.request (.cancelByHandle id)) = some turn) :
    (¬ s.InUse → turn = s.refuse ∧ ∀ later s', Path s later s' →
        (∀ other, s'.barrier.phase? other = s.barrier.phase? other) ∧
        ∀ thread' now' id' turn',
          s'.step thread' now' (.request (.cancelByHandle id')) = some turn' →
            turn' = s'.refuse) ∧
      (s.InUse →
        CancelVerdict history s thread id turn (s.barrier.cancel id).answer.succeeded) := by
  obtain ⟨isUser, rfl⟩ := Scheduler.cancelByHandle_of_step taken
  refine ⟨fun unused => ?_, fun inUse => ?_⟩
  · have gone : s.isAlive = false := by
      rw [← run.isAlive_iff dropped] at unused
      simpa using unused
    refine ⟨if_neg (by simp [gone]), fun later s' path => ?_⟩
    obtain ⟨-, dead, phases, -⟩ := path.dead run.sound (Scheduler.dead_iff.mpr gone)
    refine ⟨phases, fun thread' now' id' turn' taken' => ?_⟩
    obtain ⟨-, rfl⟩ := Scheduler.cancelByHandle_of_step taken'
    exact if_neg (by simp [Scheduler.dead_iff.mp dead])
  · rw [if_pos ((run.isAlive_iff dropped).mpr inUse)]
    exact run.cancelVerdict isUser id

/-- The moves of a task whose body outlasts an await, of a second task, and of an owner who drops
the scheduler while that body is still being executed. -/
def outlivedMoves : List (ThreadId × Instant × Move Unit) :=
  [(0, ⟨0⟩, .request (.accept ⟨0⟩ .once false)),
    (0, ⟨0⟩, .request (.await .plain)), (0, ⟨0⟩, .proceed),
    (1, ⟨0⟩, .request (.call ⟨0⟩)), (1, ⟨0⟩, .proceed), (1, ⟨0⟩, .proceed),
    (0, ⟨300000000⟩, .proceed), (0, ⟨300000000⟩, .proceed), (0, ⟨300000000⟩, .proceed),
    (0, ⟨300000000⟩, .proceed),
    (0, ⟨300000000⟩, .request (.accept ⟨0⟩ .once false)),
    (0, ⟨300000000⟩, .request .drop), (0, ⟨300000000⟩, .proceed)]

/-- What `outlivedMoves` lead to: a dropped scheduler that is in use, with a live task, on which a
cancel through its handle succeeds. -/
theorem exists_outlived : ∃ (history : History Unit) (s : Scheduler Unit) (turn : Turn Unit),
    Run history s ∧ s.dropped = true ∧ s.InUse ∧
      s.step 0 ⟨300000000⟩ (.request (.cancelByHandle ⟨1⟩)) = some turn ∧
      s.barrier.phase? ⟨1⟩ = some .live ∧ turn.scheduler.barrier.phase? ⟨1⟩ = some .cancelled := by
  obtain ⟨history, s, turn, played, dropped, top, taken, live, cancelled⟩ : ∃ history s turn,
      (Scheduler.start 0 .default (.byHand .empty) none).play outlivedMoves = some (history, s) ∧
        s.dropped = true ∧ s.stack 1 = [.run ⟨0⟩ .executing, .answering (.flag true)] ∧
        s.step 0 ⟨300000000⟩ (.request (.cancelByHandle ⟨1⟩)) = some turn ∧
        s.barrier.phase? ⟨1⟩ = some .live ∧
        turn.scheduler.barrier.phase? ⟨1⟩ = some .cancelled :=
    ⟨_, _, _, rfl, rfl, rfl, rfl, rfl, rfl⟩
  refine ⟨history, s, turn, .of_play played, dropped, ⟨1, .run ⟨0⟩ .executing, ?_, rfl⟩, taken,
    live, cancelled⟩
  rw [top]
  exact List.mem_cons_self

/-- In `outlivedMoves` a cancel through the handle of the live task is told yes. -/
theorem cancel_of_dropped_of_outlived : ∃ (history : History Unit) (s : Scheduler Unit)
    (turn : Turn Unit), Run history s ∧ s.dropped = true ∧ s.InUse ∧
      s.step 0 ⟨300000000⟩ (.request (.cancelByHandle ⟨1⟩)) = some turn ∧
      CancelVerdict history s 0 ⟨1⟩ turn true := by
  obtain ⟨history, s, turn, run, dropped, inUse, taken, live, -⟩ := exists_outlived
  have verdict := (cancel_of_dropped run dropped taken).2 inUse
  obtain ⟨task, found, phase⟩ := Option.map_eq_some_iff.mp live
  rw [verdict.succeeds_iff.mpr ⟨task, found, .inl phase⟩] at verdict
  exact ⟨history, s, turn, run, dropped, inUse, taken, verdict⟩

/-- **A handle may cancel after its scheduler has been dropped**, while a body that was started
earlier is still being executed. -/
theorem cancels_after_drop : ¬ ∀ (history : History Unit) (s : Scheduler Unit) (thread : ThreadId)
    (now : Instant) (id : TaskId) (turn : Turn Unit), Run history s → s.dropped = true →
    s.step thread now (.request (.cancelByHandle id)) = some turn →
      turn.Answers s thread false ∧
        ∀ other, turn.scheduler.barrier.phase? other = s.barrier.phase? other := by
  intro refuses
  obtain ⟨history, s, turn, run, dropped, -, taken, live, cancelled⟩ := exists_outlived
  have same := (refuses history s 0 _ ⟨1⟩ turn run dropped taken).2 ⟨1⟩
  rw [live, cancelled] at same
  cases same

end TaskBarrier
