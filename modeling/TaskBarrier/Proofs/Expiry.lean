import TaskBarrier.Proofs.CycleEnd
import TaskBarrier.Proofs.Station

/-!
# An await whose budget is used up

Such an await reports how many tasks were outstanding, and what the budget was.  It has found that
out in the section in which it has reset the barrier, so the number tells exactly what the reset has
done: each of the tasks is one that the reset has cancelled, or one that is running, or a periodic
one that fires again.

The report comes later than the reset.  In between the call announces how many tasks were dropped,
and throws their bodies away, while other threads may have begun the next cycle.

## Main Definitions

* `TimeoutReport`: what is true of the reset, and from then on.

The main statement is `timeout_report`.
-/

namespace TaskBarrier

variable {ν : Type}

/-- **What an await reports whose budget is used up.**  The cycle has ended with the step `reset`,
after the `earlier` ones. -/
structure TimeoutReport (earlier : History ν) (reset : Stride ν) (remaining : Nat)
    (budget : Duration) : Prop where
  run : Run (reset :: earlier) reset.turn.scheduler
  /-- Within one section the await has looked how many tasks were counted, and has reset the
  barrier. -/
  deed : reset.deed = .reset .timedOut reset.before.barrier.dropped
  barrier : reset.turn.scheduler.barrier = reset.before.barrier.reset
  remaining_eq : remaining = reset.before.barrier.counted
  remaining_pos : 1 ≤ remaining
  budget_eq : budget = reset.before.barrier.config.awaitBudget
  /-- The tasks that remained have been cancelled, or are running, or are periodic and live on. -/
  parts : remaining = reset.before.barrier.dropped.length +
    reset.before.barrier.tasks.countP (·.isCountedRun) +
    reset.before.barrier.tasks.countP (·.isCountedRepeat)
  /-- What the reset has done to tasks of all kinds. -/
  cycleEnd : CycleEnd reset.before.barrier
  /-- The tasks that it has cancelled never run. -/
  never : ∀ id ∈ reset.before.barrier.dropped, ∀ later s, Path reset.turn.scheduler later s →
    s.barrier.phase? id = some .cancelled ∧ History.starts later id = 0 ∧
      History.executions later id = 0
  /-- The tasks that it has left running come to their ends. -/
  runsOn : ∀ id task, reset.before.barrier.task? id = some task → task.phase = .running →
    RunsOn (reset :: earlier) reset.turn.scheduler (task.setCounted false)

namespace Await

variable {await : Await ν} {earlier : History ν} {reset : Stride ν}

/-- What an await that gives an answer has come to. -/
theorem eq_timedOut_of_signal {outcome : Outcome} {remaining : Nat} {budget : Duration}
    (told : await.signal outcome = .answer (.failed (.timedOut remaining budget))) :
    outcome = .timedOut remaining budget := by
  cases outcome with
  | settled | unwound => cases told
  | timedOut =>
      simp only [signal] at told
      split at told
      · cases told
      · obtain ⟨rfl, rfl⟩ := by simpa using told
        rfl

/-- **What an await has seen whose budget is used up** is what it reports. -/
theorem Resets.timeoutReport {remaining : Nat} {budget : Duration}
    (resets : await.Resets reset (.timedOut remaining budget))
    (run : Run (reset :: earlier) reset.turn.scheduler) :
    TimeoutReport earlier reset remaining budget := by
  obtain ⟨-, deed, barrier, saw⟩ := resets
  obtain ⟨before, -, -⟩ := run.of_cons
  have ends := before.cycleEnd
  cases saw with
  | timedOut _ _ outstanding =>
      refine ⟨run, deed, barrier, before.sound.coherent.balanced, outstanding, rfl,
        ends.outstanding_eq, ends, fun id listed later s path => ?_,
        fun id task found running => ?_⟩
      · refine path.never_of_cancelled run.sound ?_
        rw [barrier]
        exact ends.phase?_of_mem listed
      · have kept : reset.turn.scheduler.barrier.task? id = some (task.setCounted false) := by
          obtain ⟨_, left, resolved⟩ := ends.of_found found
          rw [barrier, left, resolved.of_running running]
        exact run.runsOn kept running

end Await

/-- **What an await reports whose budget is used up.**  It has come to the end of its cycle in one
section, in which it has counted `remaining` tasks and reset the barrier.  The one-shot tasks among
them that waited are cancelled, and never run.  The periodic ones that waited are live.  Those that
are running come to their ends.  There are no others, and nothing is counted any more. -/
theorem timeout_report (await : Await ν) {earlier since : History ν} {s s' : Scheduler ν}
    {turn : Turn ν} {last : Stride ν} {remaining : Nat} {budget : Duration} (run : Run earlier s)
    (base : s.stack await.thread = await.base)
    (asked : s.step await.thread await.start (.request (.await await.manner)) = some turn)
    (path : Path turn.scheduler (last :: since) s') (lasting : await.Lasts since)
    (own : last.thread = await.thread)
    (home : last.turn.scheduler.stack await.thread = await.base)
    (told : last.turn.signal = .answer (.failed (.timedOut remaining budget))) :
    ∃ between reset before, since = between ++ reset :: before ∧ await.ends reset = true ∧
      (∀ stride ∈ between ++ before, await.ends stride = false) ∧
      TimeoutReport
        (before ++ ⟨s, await.thread, await.start, .request (.await await.manner), turn⟩ :: earlier)
        reset remaining budget := by
  obtain ⟨outcome, exit, signal, progress⟩ := Await.returns run base asked path lasting own home
  obtain rfl := Await.eq_timedOut_of_signal (signal.symm.trans told)
  obtain ⟨between, reset, before, rfl, resets, others⟩ := progress.ended _ rfl
  have begins : Path s [⟨s, await.thread, await.start, _, turn⟩] turn.scheduler :=
    .step .start asked
  have whole := (run.append begins).append path
  rw [List.cons_append, List.append_assoc] at whole
  obtain ⟨before', taken⟩ := whole.of_cons.1.stride
  exact ⟨between, reset, before, rfl, resets.ends, others,
    resets.timeoutReport (before'.append (.step .start taken))⟩

/-- The moves of a thread that accepts two one-shot tasks and a periodic one, and awaits them. -/
def mixedMoves : List (ThreadId × Instant × Move Unit) :=
  [(0, ⟨0⟩, .request (.accept ⟨0⟩ .once false)), (0, ⟨0⟩, .request (.accept ⟨0⟩ .once false)),
    (0, ⟨0⟩, .request (.accept ⟨0⟩ (.fixedRate ⟨5⟩) false))]

/-- The moves of an await during which the first task fires and does not end, so that the budget is
used up. -/
def stuckMoves : List (ThreadId × Instant × Move Unit) :=
  [(0, ⟨0⟩, .proceed), (1, ⟨1⟩, .request (.call ⟨0⟩)), (1, ⟨1⟩, .proceed), (1, ⟨1⟩, .proceed),
    (0, ⟨200000000⟩, .proceed), (0, ⟨200000000⟩, .proceed), (0, ⟨200000000⟩, .proceed),
    (0, ⟨200000000⟩, .proceed), (0, ⟨200000000⟩, .proceed)]

/-- Of three tasks the first is running, the second is cancelled, and the third fires again. -/
theorem timeout_report_of_mixed : ∃ (earlier : History Unit) (reset : Stride Unit),
    TimeoutReport earlier reset 3 ⟨200000000⟩ ∧ reset.before.barrier.dropped = [⟨1⟩] ∧
      reset.turn.scheduler.barrier.phase? ⟨0⟩ = some .running ∧
      reset.turn.scheduler.barrier.phase? ⟨2⟩ = some .live := by
  obtain ⟨earlier, since, last, s, s', turn, begun, asked, played, base, busy, own, home, told,
      seen⟩ :
      ∃ earlier since last s s' turn,
        (Scheduler.start 0 .default (.byHand .empty) none).play mixedMoves = some (earlier, s) ∧
        s.step 0 ⟨0⟩ (.request (.await .plain)) = some turn ∧
        turn.scheduler.play stuckMoves = some (last :: since, s') ∧
        s.stack 0 = [] ∧
        since.all (fun stride => !(stride.turn.scheduler.stack 0).isEmpty) = true ∧
        last.thread = 0 ∧ last.turn.scheduler.stack 0 = [] ∧
        last.turn.signal = .answer (.failed (.timedOut 3 ⟨200000000⟩)) ∧
        since.all (fun stride => !stride.deed.isReset ||
          (stride.before.barrier.dropped == [⟨1⟩] &&
            stride.turn.scheduler.barrier.phase? ⟨0⟩ == some .running &&
            stride.turn.scheduler.barrier.phase? ⟨2⟩ == some .live)) = true :=
    ⟨_, _, _, _, _, _, rfl, rfl, rfl, rfl, rfl, rfl, rfl, rfl, rfl⟩
  obtain ⟨between, reset, before, rfl, ends, -, report⟩ := timeout_report ⟨0, ⟨0⟩, .plain, []⟩
    (.of_play begun) base asked (.of_play played) (.of_base_nil rfl busy) own home told
  have isReset : reset.deed.isReset = true := by
    rw [report.deed]
    rfl
  have seen := List.all_eq_true.mp seen reset (List.mem_append_right _ (.head _))
  simp only [isReset, Bool.not_true, Bool.false_or, Bool.and_eq_true, beq_iff_eq] at seen
  obtain ⟨⟨dropped, running⟩, live⟩ := seen
  exact ⟨_, reset, report, dropped, running, live⟩

end TaskBarrier
