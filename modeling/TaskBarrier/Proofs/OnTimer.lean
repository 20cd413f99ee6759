import TaskBarrier.Proofs.Armed
import TaskBarrier.Proofs.Punctual

/-!
# A scheduler on a timer

A scheduler whose facility is a timer asks that timer to arm and to disarm entries, and to shut
down, and lets the worker of the timer look and come back.  So whatever the threads of the scheduler
do, its timer goes through a run of its own, and all that is true of the runs of a timer is true of
it: it has its timetable, and it is punctual.

The moves of the timer are not the steps of the scheduler.  Most steps leave the timer alone, and
the reset of a cycle disarms a number of entries at once.

## Main Definitions

* `Timer.Leads`, `Facility.IsLedTo`: some moves lead from one state to another.

The main statements are `Path.timerRun` and `Path.isTurnOf`.
-/

namespace TaskBarrier

variable {ν : Type} {κ : Type}

namespace Timer

/-- Some moves lead from one state of a timer to another. -/
def Leads (timer timer' : Timer κ) : Prop := ∃ moves, TimerPath timer moves timer'

namespace Leads

theorem refl (timer : Timer κ) : timer.Leads timer := ⟨[], .start⟩

theorem trans {first second third : Timer κ} (before : first.Leads second)
    (after : second.Leads third) : first.Leads third := by
  obtain ⟨earlier, before⟩ := before
  obtain ⟨later, after⟩ := after
  exact ⟨later ++ earlier, before.append after⟩

theorem of_move {timer after : Timer κ} (move : TimerMove κ)
    (moved : timer.advance move = some after) : timer.Leads after := by
  have path : TimerPath timer [⟨timer, move, after⟩] after := .step .start moved
  exact ⟨_, path⟩

/-- The worker may be asked to look at any time: it does nothing unless it is idle. -/
theorem poll (timer : Timer κ) (now : Instant) : timer.Leads (timer.poll now).2 := by
  by_cases idle : timer.worker = .idle
  · exact of_move (.poll now) (if_pos idle)
  · rcases timer.poll_cases now with ⟨-, eq⟩ | ⟨idle', -⟩ | ⟨idle', -⟩ | ⟨idle', -⟩
    · rw [eq]
      exact refl timer
    all_goals exact absurd idle' idle

/-- The worker does nothing if it comes back without having been away. -/
theorem conclude (timer : Timer κ) (finished : Instant) :
    timer.Leads (timer.conclude finished) := by
  by_cases firing : timer.isFiring = true
  · exact of_move (.conclude finished) (if_pos firing)
  · have same : timer.conclude finished = timer := by
      unfold Timer.conclude
      split
      · next worker => simp [isFiring, firingKey?, worker] at firing
      all_goals rfl
    rw [same]
    exact refl timer

end Leads

end Timer

namespace Facility

/-- Some moves lead from a timer to the timer that the facility is. -/
def IsLedTo (timer : Timer κ) (facility : Facility κ) : Prop :=
  ∃ timer', facility = .byClock timer' ∧ timer.Leads timer'

theorem IsLedTo.refl (timer : Timer κ) : IsLedTo timer (.byClock timer) := ⟨timer, rfl, .refl timer⟩

theorem IsLedTo.disarms (timer : Timer κ) (keys : List TimerKey) :
    IsLedTo timer (keys.foldl disarm (.byClock timer)) := by
  induction keys generalizing timer with
  | nil => exact .refl timer
  | cons key keys ih =>
      obtain ⟨timer', eq, leads⟩ := ih (timer.disarm key).2
      exact ⟨timer', eq, .trans (.of_move (.disarm key) rfl) leads⟩

end Facility

/-- **What a step does to the timer**: it makes moves, or none. -/
theorem Upkeep.isLedTo {b b' : Barrier ν} {move : Move ν} {deed : Deed} {called : List TaskId}
    (upkeep : Upkeep b move deed b' called) {timer : Timer TaskId}
    (byClock : b.facility = .byClock timer) : b'.facility.IsLedTo timer := by
  have accepts : ∀ now delay cadence produces,
      (b.accept now delay cadence produces).barrier.facility.IsLedTo timer := by
    intro now delay cadence produces
    rcases b.facility_accept now delay cadence produces with same | armed
    · rw [same, byClock]
      exact .refl timer
    · rw [armed, byClock]
      exact ⟨_, rfl, .of_move (.arm now delay cadence b.nextId) rfl⟩
  cases upkeep with
  | rest _ same | call same =>
      rw [same, byClock]
      exact .refl timer
  | accept | decline => exact accepts ..
  | fire byHand => cases byClock.symm.trans byHand
  | @cancel _ id =>
      rcases b.facility_cancel id with ⟨-, same⟩ | ⟨-, task, slot, -, -, disarmed⟩
      · rw [same, byClock]
        exact .refl timer
      · rw [disarmed, byClock]
        exact .disarms timer [slot.key]
  | shutdown down =>
      rw [down, byClock]
      exact ⟨_, rfl, .of_move .shutdown rfl⟩
  | reset =>
      have disarms := Facility.IsLedTo.disarms timer (b.tasks.filterMap (·.droppedKey?))
      rwa [← byClock] at disarms
  | poll own looks looked =>
      obtain rfl := Facility.byClock.inj (byClock.symm.trans own)
      rw [looked, ← (Prod.mk.inj looks).2]
      exact ⟨_, rfl, .poll timer _⟩
  | conclude own concluded =>
      obtain rfl := Facility.byClock.inj (byClock.symm.trans own)
      rw [concluded]
      exact ⟨_, rfl, .conclude timer _⟩

namespace Path

variable {number : Nat} {config : Config} {worker : Option ThreadId} {history : History ν}
  {s : Scheduler ν}

/-- **The timer of a scheduler goes through a run of its own**, whatever the threads do. -/
theorem timerRun (path : Path (.start number config (.byClock .start) worker) history s) :
    ∃ timer moves, s.barrier.facility = .byClock timer ∧ TimerRun moves timer := by
  suffices ledTo : s.barrier.facility.IsLedTo .start by
    obtain ⟨timer, byClock, moves, run⟩ := ledTo
    exact ⟨timer, moves, byClock, run⟩
  induction path with
  | start => exact .refl .start
  | step _ taken ih =>
      obtain ⟨timer, byClock, leads⟩ := ih
      obtain ⟨called, upkeep, -⟩ := Scheduler.tends_of_step taken
      obtain ⟨timer', byClock', further⟩ := upkeep.isLedTo byClock
      exact ⟨timer', byClock', leads.trans further⟩

/-- **The worker of a scheduler's timer runs the task whose turn it is**: the task of the first of
all entries that are armed, and not before it is due. -/
theorem isTurnOf (path : Path (.start number config (.byClock .start) worker) history s)
    {timer : Timer TaskId} (byClock : s.barrier.facility = .byClock timer) {now : Instant}
    {key : TimerKey} {task : TaskId} (fires : (timer.poll now).1 = .firing key task) :
    timer.IsTurnOf now key task := by
  obtain ⟨timer', moves, own, run⟩ := path.timerRun
  obtain rfl := Facility.byClock.inj (byClock.symm.trans own)
  exact run.tidy.isTurnOf fires

end Path

end TaskBarrier
