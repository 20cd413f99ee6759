import TaskBarrier.Proofs.Punctual

/-!
# What the worker of a timer survives

Whatever a callback does, be it that it returns, panics, or disarms its own entry, the worker comes
back from it in the same way.  It computes when the entry is due next, and gives the entry its next
appointment if it is still armed.  The first of these is clock arithmetic on a period that a caller
has chosen, and the sum may lie beyond the last instant.  Then the worker dies, and it does so even
if the entry has been disarmed in the meantime.

Nothing else can happen to the worker of a timer that has not been shut down.

* It has ended if and only if a next due time has **overflowed**.
* If none has, each return from a callback leaves all other entries armed and their appointments
  where they were, and an entry that has been disarmed during its own callback leaves no trace.
* Whenever the worker looks and an armed entry is due, it starts the callback whose turn it is.

An overflow takes a period that reaches from the readings of the clock to the last instant.  A timer
whose periods are shorter keeps its worker.

## Main Definitions

* `TimerStride.Overflows`: the worker comes back from a callback, and the next due time of the entry
  lies beyond the last instant.
* `TimerMove.Within`: readings and periods stay clear of the last instant.
* `Survival`.

The main statement is `survival_of_running`; `dies_of_revoked_entry` is a run in which the worker
dies of an entry that is not armed any more.
-/

namespace TaskBarrier

variable {κ : Type}

/-- What it takes for a next due time to lie beyond the last instant. -/
theorem Cadence.nextDue_eq_overflow_iff {cadence : Cadence} {due finished : Instant} :
    cadence.nextDue due finished = .overflow ↔
      (∃ period, cadence = .fixedRate period ∧ Instant.limit ≤ due.nanos + period.nanos) ∨
      ∃ delay, cadence = .fixedDelay delay ∧ Instant.limit ≤ finished.nanos + delay.nanos := by
  have after : ∀ (t : Instant) (d : Duration),
      NextDue.after t d = .overflow ↔ Instant.limit ≤ t.nanos + d.nanos := by
    intro t d
    rw [← Instant.after?_eq_none_iff, NextDue.after]
    cases t.after? d <;> simp
  cases cadence <;> simp [after]

/-- The worker comes back from a callback, and the next due time of the entry lies beyond the last
instant. -/
def TimerStride.Overflows (stride : TimerStride κ) : Prop :=
  ∃ finished appointment cadence, stride.move = .conclude finished ∧
    stride.before.worker = .firing appointment cadence ∧
    cadence.nextDue appointment.due finished = .overflow

/-! ## How a worker ends -/

namespace Timer

variable {timer after : Timer κ} {move : TimerMove κ} {deed : TimerDeed}

@[simp] theorem isShutdown_take (timer : Timer κ) (first : Appointment) (rest : Agenda)
    (entry : ArmedEntry κ) : (timer.take first rest entry).isShutdown = timer.isShutdown := by
  unfold take
  cases entry.cadence.isPeriodic <;> rfl

/-- Only a shutdown shuts a timer down, and for good. -/
theorem Advance.isShutdown_iff (change : timer.Advance move deed after) :
    after.isShutdown = true ↔ timer.isShutdown = true ∨ move = .shutdown := by
  cases change with
  | shutdown => simp
  | fire => simp
  | arm | refuse | overflow | disarm | miss | exit | wait | finish | rearm | die =>
      exact (or_iff_left (by simp)).symm

/-- A worker exits after a shutdown. -/
theorem Advance.of_exited (change : timer.Advance move deed after)
    (exited : after.worker = .exited) : timer.worker = .exited ∨ timer.isShutdown = true := by
  cases change with
  | exit _ down => exact .inr down
  | arm | refuse | overflow | disarm | miss | shutdown => exact .inl exited
  | wait idle => cases idle.symm.trans exited
  | fire | finish | rearm | die => cases exited

/-- A worker dies of an overflow. -/
theorem Advance.of_died (change : timer.Advance move deed after) (died : after.worker = .died) :
    timer.worker = .died ∨ (⟨timer, move, after⟩ : TimerStride κ).Overflows := by
  cases change with
  | die firing sum => exact .inr ⟨_, _, _, rfl, firing, sum⟩
  | arm | refuse | overflow | disarm | miss | shutdown => exact .inl died
  | wait idle => cases idle.symm.trans died
  | exit | fire | finish | rearm => cases died

/-- A worker that has died makes no more moves. -/
theorem Advance.died (change : timer.Advance move deed after) (died : timer.worker = .died) :
    after.worker = .died := by
  cases change with
  | arm | refuse | overflow | disarm | miss | shutdown => exact died
  | exit idle | wait idle | fire idle => cases idle.symm.trans died
  | finish firing | rearm firing | die firing => cases firing.symm.trans died

theorem conclude_of_overflow {appointment : Appointment} {cadence : Cadence} {finished : Instant}
    (firing : timer.worker = .firing appointment cadence)
    (sum : cadence.nextDue appointment.due finished = .overflow) :
    timer.conclude finished = { timer with worker := .died } := by
  simp only [conclude, firing, sum]

end Timer

/-- **A worker dies of an overflow**, and of nothing else. -/
theorem TimerStride.died_iff {stride : TimerStride κ}
    (moved : stride.before.advance stride.move = some stride.after) :
    stride.after.worker = .died ↔ stride.before.worker = .died ∨ stride.Overflows := by
  refine ⟨(stride.change moved).of_died, ?_⟩
  rintro (died | ⟨finished, appointment, cadence, concludes, firing, sum⟩)
  · exact (stride.change moved).died died
  · rw [concludes] at moved
    obtain ⟨-, back⟩ := Option.ite_none_right_eq_some.mp moved
    rw [← Option.some.inj back, Timer.conclude_of_overflow firing sum]

namespace TimerRun

variable {history : TimerHistory κ} {timer : Timer κ}

/-- A timer has been shut down if and only if somebody has asked for it. -/
theorem isShutdown_iff (run : TimerRun history timer) :
    timer.isShutdown = true ↔ ∃ stride ∈ history, stride.move = .shutdown := by
  refine run.induct (motive := fun history timer =>
    timer.isShutdown = true ↔ ∃ stride ∈ history, stride.move = .shutdown)
    (by simp [Timer.start]) ?_
  intro history stride _ moved ih
  rw [(stride.change moved).isShutdown_iff, ih, or_comm]
  simp only [List.mem_cons, exists_eq_or_imp]

/-- A worker exits after a shutdown. -/
theorem isShutdown_of_exited (run : TimerRun history timer) :
    timer.worker = .exited → timer.isShutdown = true := by
  refine run.induct (motive := fun _ timer => timer.worker = .exited → timer.isShutdown = true)
    (fun exited => nomatch exited) ?_
  intro _ stride _ moved ih exited
  have change := stride.change moved
  exact change.isShutdown_iff.mpr (.inl ((change.of_exited exited).elim ih id))

/-- A worker has died if and only if a next due time has overflowed. -/
theorem died_iff (run : TimerRun history timer) :
    timer.worker = .died ↔ ∃ stride ∈ history, stride.Overflows := by
  refine run.induct (motive := fun history timer =>
    timer.worker = .died ↔ ∃ stride ∈ history, stride.Overflows) (by simp [Timer.start]) ?_
  intro history stride _ moved ih
  rw [stride.died_iff moved, ih, or_comm]
  simp only [List.mem_cons, exists_eq_or_imp]

end TimerRun

/-! ## Timers that keep clear of the last instant -/

/-- The move reads the clock at `horizon` at the latest, and arms no entry whose period reaches from
there beyond the last instant. -/
def TimerMove.Within (horizon : Instant) : TimerMove κ → Prop
  | .arm _ _ cadence _ => ∀ period ∈ cadence.period?, horizon.nanos + period.nanos < Instant.limit
  | .poll now => now.nanos ≤ horizon.nanos
  | .conclude finished => finished.nanos ≤ horizon.nanos
  | .disarm _ | .shutdown => True

namespace Timer

/-- What has been armed, and what is in flight, has no period that reaches from `horizon` beyond the
last instant. -/
structure Within (timer : Timer κ) (horizon : Instant) : Prop where
  armed : ∀ entry ∈ timer.armed, ∀ period ∈ entry.cadence.period?,
    horizon.nanos + period.nanos < Instant.limit
  flying : ∀ appointment cadence, timer.worker = .firing appointment cadence →
    appointment.due.nanos ≤ horizon.nanos ∧
      ∀ period ∈ cadence.period?, horizon.nanos + period.nanos < Instant.limit

variable {timer after : Timer κ} {horizon : Instant}

theorem Within.advance (within : timer.Within horizon) {move : TimerMove κ}
    (clear : move.Within horizon) {deed : TimerDeed} (change : timer.Advance move deed after) :
    after.Within horizon := by
  cases change with
  | arm =>
      refine ⟨fun entry among => ?_, within.flying⟩
      rcases List.mem_append.mp among with old | new
      · exact within.armed entry old
      · rw [List.mem_singleton.mp new]
        exact clear
  | disarm => exact ⟨fun entry among => within.armed entry (mem_armed_remove.mp among).1,
      within.flying⟩
  | exit => exact ⟨fun _ among => absurd among List.not_mem_nil, fun _ _ firing => by cases firing⟩
  | @fire now _ _ first _ _ _ _ _ current due =>
      refine ⟨fun entry among => within.armed entry (mem_armed_take.mp among).1, ?_⟩
      rintro _ _ ⟨⟩
      have reached : first.due.nanos ≤ now.nanos := by simpa [Instant.before] using due
      exact ⟨Nat.le_trans reached clear, within.armed _ (of_entryOf? current).1⟩
  | rearm =>
      refine ⟨fun entry among => ?_, fun _ _ firing => by cases firing⟩
      obtain ⟨old, member, rfl⟩ := List.mem_map.mp among
      have same := within.armed old member
      split <;> exact same
  | finish | die => exact ⟨within.armed, fun _ _ firing => by cases firing⟩
  | refuse | overflow | miss | shutdown | wait => exact ⟨within.armed, within.flying⟩

/-- Within the horizon no next due time overflows. -/
theorem Within.not_overflows {stride : TimerStride κ} (within : stride.before.Within horizon)
    (clear : stride.move.Within horizon) : ¬ stride.Overflows := by
  rintro ⟨finished, appointment, cadence, concludes, firing, sum⟩
  obtain ⟨due, period⟩ := within.flying appointment cadence firing
  rw [concludes] at clear
  have finished_le : finished.nanos ≤ horizon.nanos := clear
  rcases Cadence.nextDue_eq_overflow_iff.mp sum with ⟨d, rfl, beyond⟩ | ⟨d, rfl, beyond⟩
  all_goals
    have below := period d rfl
    omega

end Timer

/-- **A timer that keeps clear of the last instant** does not overflow. -/
theorem TimerRun.not_overflows {history : TimerHistory κ} {timer : Timer κ}
    (run : TimerRun history timer) {horizon : Instant}
    (clear : ∀ stride ∈ history, stride.move.Within horizon) :
    ∀ stride ∈ history, ¬ stride.Overflows := by
  refine (run.induct (motive := fun history timer =>
    (∀ stride ∈ history, stride.move.Within horizon) →
      timer.Within horizon ∧ ∀ stride ∈ history, ¬ stride.Overflows) ?_ ?_ clear).2
  · intro _
    exact ⟨⟨fun _ among => absurd among List.not_mem_nil, fun _ _ firing => by cases firing⟩,
      List.forall_mem_nil _⟩
  · intro history stride _ moved ih clear
    obtain ⟨clear, others⟩ := List.forall_mem_cons.mp clear
    obtain ⟨within, none⟩ := ih others
    exact ⟨within.advance clear (stride.change moved),
      List.forall_mem_cons.mpr ⟨within.not_overflows clear, none⟩⟩

/-- What has been played consists of the moves that were to be played. -/
theorem Timer.move_mem_of_play {timer last : Timer κ} {moves : List (TimerMove κ)}
    {history : TimerHistory κ} (played : timer.play moves = some (history, last))
    {stride : TimerStride κ} (member : stride ∈ history) : stride.move ∈ moves := by
  induction moves generalizing timer history with
  | nil =>
      obtain ⟨rfl, rfl⟩ := Prod.mk.inj (Option.some.inj played)
      cases member
  | cons move moves ih =>
      unfold Timer.play at played
      split at played
      · cases played
      · obtain ⟨⟨later, last⟩, rest, eq⟩ := Option.map_eq_some_iff.mp played
        obtain ⟨rfl, rfl⟩ := Prod.mk.inj eq
        rcases List.mem_append.mp member with member | member
        · exact List.mem_cons_of_mem move (ih rest member)
        · rw [List.mem_singleton.mp member]
          exact List.mem_cons_self

/-! ## Returns from callbacks -/

namespace Timer

variable {timer : Timer κ}

/-- An armed entry whose callback is not in flight has its appointment. -/
theorem Tidy.keeps (tidy : timer.Tidy) (alive : timer.worker ≠ .died) {entry : ArmedEntry κ}
    (armed : entry ∈ timer.armed) (grounded : timer.firingKey? ≠ some entry.key) :
    ∃ appointment, timer.Keeps entry appointment := by
  obtain ⟨appointment, member, same⟩ := (tidy.listed alive entry armed).resolve_left grounded
  exact ⟨appointment, member, same, (tidy.current appointment member entry armed same.symm).symm⟩

/-- The next appointment of one entry changes nothing for another. -/
theorem Keeps.rebook {entry : ArmedEntry κ} {appointment : Appointment}
    (keeps : timer.Keeps entry appointment) (armed : entry ∈ timer.armed) {key : TimerKey}
    (other : entry.key ≠ key) (next : Instant) :
    entry ∈ (timer.rebook key next).armed ∧ (timer.rebook key next).Keeps entry appointment := by
  refine ⟨List.mem_map.mpr ⟨entry, armed, ?_⟩, Agenda.mem_insert.mpr (.inr keeps.1), keeps.2⟩
  rw [if_neg (by simpa using other)]

/-- The first appointment of an agenda is due no later than any other. -/
theorem Tidy.head_due_le (tidy : timer.Tidy) {passed kept : Agenda}
    (agenda : timer.agenda = passed ++ kept) {appointment : Appointment}
    (member : appointment ∈ kept) :
    ∃ first ∈ kept.head?, first.due.nanos ≤ appointment.due.nanos := by
  cases kept with
  | nil => cases member
  | cons first rest =>
      refine ⟨first, rfl, ?_⟩
      rcases List.mem_cons.mp member with rfl | behind
      · exact Nat.le_refl _
      · have ordered := tidy.orderly.ordered
        rw [agenda] at ordered
        have first_precedes :=
          (List.pairwise_cons.mp (List.pairwise_append.mp ordered).2.1).1 appointment behind
        rcases Appointment.precedes_iff.mp first_precedes with earlier | ⟨equal, -⟩ <;> omega

/-- **A worker that looks finds what is due.** -/
theorem Tidy.fires (tidy : timer.Tidy) (running : timer.isShutdown = false)
    (idle : timer.worker = .idle) (now : Instant) {entry : ArmedEntry κ}
    (armed : entry ∈ timer.armed) :
    ∃ appointment, timer.Keeps entry appointment ∧ (appointment.due.nanos ≤ now.nanos →
      ∃ key callback, (timer.poll now).1 = .firing key callback ∧
        timer.IsTurnOf now key callback) := by
  rcases timer.poll_cases now with ⟨busy, -⟩ | ⟨-, down, -⟩ |
    ⟨-, -, passed, kept, agenda, stale, early, -⟩ |
    ⟨-, -, passed, first, rest, taken, agenda, stale, current, due, eq⟩
  · exact absurd idle busy
  · cases running.symm.trans down
  · obtain ⟨appointment, member, key, sequence⟩ := tidy.listed_of_idle idle agenda stale armed
    refine ⟨appointment, ⟨agenda ▸ List.mem_append_right _ member, key, sequence.symm⟩, ?_⟩
    intro due
    obtain ⟨first, front, le⟩ := tidy.head_due_le agenda member
    have later := Instant.before_iff.mp (early first front)
    omega
  · obtain ⟨appointment, keeps, -⟩ := tidy.first_of_current idle agenda stale armed
    have fires : (timer.poll now).1 = .firing taken.key taken.callback := by rw [eq]
    exact ⟨appointment, keeps, fun _ => ⟨_, _, fires, tidy.isTurnOf fires⟩⟩

end Timer

/-- **What a return from a callback does** if the next due time does not overflow. -/
theorem TimerStride.back_cases {stride : TimerStride κ}
    (change : stride.before.Advance stride.move stride.deed stride.after)
    (sound : ¬ stride.Overflows) {finished : Instant} (concludes : stride.move = .conclude finished)
    {key : TimerKey} (flies : stride.before.firingKey? = some key) :
    stride.after = { stride.before with worker := .idle } ∨
      stride.before.isArmed key = true ∧
        ∃ next, stride.after = stride.before.rebook key next := by
  unfold Overflows at sound
  generalize stride.deed = deed at change
  generalize stride.before = before, stride.move = move, stride.after = after at *
  subst concludes
  cases change with
  | finish => exact .inl rfl
  | @rearm _ next appointment _ firing _ armed =>
      obtain rfl := Option.some.inj ((Timer.firingKey?_of_firing firing).symm.trans flies)
      exact .inr ⟨armed, next, rfl⟩
  | die firing sum => exact absurd ⟨_, _, _, rfl, firing, sum⟩ sound

/-! ## Survival -/

/-- What becomes of the worker and the entries of a timer that has come to the state `timer` by the
moves of `history`. -/
structure Survival (history : TimerHistory κ) (timer : Timer κ) : Prop where
  /-- The worker has ended if and only if a next due time has overflowed. -/
  ended : timer.workerEnded = true ↔ ∃ stride ∈ history, stride.Overflows
  /-- After a return from a callback the worker goes on, and every other entry is armed and has the
  appointment that it had. -/
  others : ∀ stride ∈ history, ¬ stride.Overflows → ∀ finished key,
    stride.move = .conclude finished → stride.before.firingKey? = some key →
    stride.after.worker = .idle ∧ ∀ entry ∈ stride.before.armed, entry.key ≠ key →
      entry ∈ stride.after.armed ∧
        ∃ appointment, stride.before.Keeps entry appointment ∧ stride.after.Keeps entry appointment
  /-- An entry that has been disarmed during its own callback leaves no trace. -/
  revoked : ∀ stride ∈ history, ¬ stride.Overflows → ∀ finished key,
    stride.move = .conclude finished → stride.before.firingKey? = some key →
    stride.before.isArmed key = false →
    stride.after = { stride.before with worker := .idle } ∧ stride.after.appointmentsOf key = []
  /-- An entry that is armed stays armed until it is disarmed or fires. -/
  stays : ∀ later stride earlier key, history = later ++ stride :: earlier →
    stride.after.isArmed key = true → TimerHistory.disarmsOf later key = 0 →
    TimerHistory.firingsOf later key = 0 → timer.isArmed key = true
  /-- Between two callbacks every armed entry has its appointment.  When that is due, the worker
  starts a callback, and it is the one whose turn it is. -/
  selects : timer.worker = .idle → ∀ now, ∀ entry ∈ timer.armed,
    ∃ appointment, timer.Keeps entry appointment ∧ (appointment.due.nanos ≤ now.nanos →
      ∃ key callback, (timer.poll now).1 = .firing key callback ∧
        timer.IsTurnOf now key callback)

namespace TimerRun

variable {history : TimerHistory κ} {timer : Timer κ}

/-- The worker of a timer that has not been shut down ends by an overflow, and by nothing else. -/
theorem workerEnded_iff (run : TimerRun history timer) (running : timer.isShutdown = false) :
    timer.workerEnded = true ↔ ∃ stride ∈ history, stride.Overflows := by
  rw [← run.died_iff]
  have alive : timer.worker ≠ .exited := by
    intro exited
    cases running.symm.trans (run.isShutdown_of_exited exited)
  unfold Timer.workerEnded
  cases worker : timer.worker <;> simp_all

end TimerRun

/-- **The worker of a timer that has not been shut down survives everything but an overflow.** -/
theorem survival_of_running {history : TimerHistory κ} {timer : Timer κ}
    (run : TimerRun history timer) (running : timer.isShutdown = false) :
    Survival history timer where
  ended := run.workerEnded_iff running
  others := by
    intro stride member sound finished key concludes flies
    obtain ⟨later, earlier, rfl⟩ := List.append_of_mem member
    obtain ⟨run, change, -⟩ := run.stride
    have kept : ∀ entry ∈ stride.before.armed, entry.key ≠ key →
        ∃ appointment, stride.before.Keeps entry appointment := by
      intro entry armed other
      obtain ⟨_, _, firing, -⟩ := Timer.firingKey?_eq_some_iff.mp flies
      refine run.tidy.keeps (by simp [firing]) armed fun own => other ?_
      exact Option.some.inj (own.symm.trans flies)
    rcases stride.back_cases change sound concludes flies with eq | ⟨-, next, eq⟩
    · rw [eq]
      refine ⟨rfl, fun entry armed other => ⟨armed, ?_⟩⟩
      obtain ⟨appointment, keeps⟩ := kept entry armed other
      exact ⟨appointment, keeps, keeps⟩
    · rw [eq]
      refine ⟨rfl, fun entry armed other => ?_⟩
      obtain ⟨appointment, keeps⟩ := kept entry armed other
      obtain ⟨still, same⟩ := keeps.rebook armed other next
      exact ⟨still, appointment, keeps, same⟩
  revoked := by
    intro stride member sound finished key concludes flies unarmed
    obtain ⟨later, earlier, rfl⟩ := List.append_of_mem member
    obtain ⟨run, change, -⟩ := run.stride
    rcases stride.back_cases change sound concludes flies with eq | ⟨armed, -⟩
    · refine ⟨eq, ?_⟩
      rw [eq]
      obtain ⟨appointment, cadence, firing, rfl⟩ := Timer.firingKey?_eq_some_iff.mp flies
      obtain ⟨-, unlisted, -⟩ := run.tidy.flying appointment cadence firing
      exact List.filter_eq_nil_iff.mpr fun other member same =>
        unlisted other member (beq_iff_eq.mp same)
    · cases unarmed.symm.trans armed
  stays := by
    rintro later stride earlier key rfl armed disarms firings
    have alive : timer.worker ≠ .exited := by
      intro exited
      cases running.symm.trans (run.isShutdown_of_exited exited)
    exact run.stride.2.2.isArmed armed disarms firings alive
  selects := fun idle now _ armed => run.tidy.fires running idle now armed

/-- In the run of `revokedMoves` an entry is disarmed during its own callback, and the worker goes
on to the next. -/
theorem survival_of_revoked : ∃ (history : TimerHistory Unit) (timer : Timer Unit),
    TimerRun history timer ∧ timer.isShutdown = false ∧ history.disarms = 1 ∧
      Survival history timer ∧ timer.workerEnded = false ∧ timer.pending = 1 := by
  obtain ⟨history, timer, played, running, disarms, alive, pending⟩ : ∃ history timer,
      (Timer.start : Timer Unit).play revokedMoves = some (history, timer) ∧
        timer.isShutdown = false ∧ history.disarms = 1 ∧ timer.workerEnded = false ∧
        timer.pending = 1 :=
    ⟨_, _, rfl, rfl, rfl, rfl, rfl⟩
  have run := TimerRun.of_play played
  exact ⟨history, timer, run, running, disarms, survival_of_running run running, alive, pending⟩

/-- Neither a look nor a return from a callback is left to a worker that has died. -/
theorem TimerPath.of_died {origin timer : Timer κ} {history : TimerHistory κ}
    (path : TimerPath origin history timer) (died : origin.worker = .died) :
    timer.worker = .died ∧ ∀ key, history.firingsOf key = 0 := by
  induction path with
  | start => exact ⟨died, fun _ => rfl⟩
  | @step history stride path moved ih =>
      have change := TimerStride.change moved
      refine ⟨change.died ih.1, fun key => ?_⟩
      have silent : ¬ stride.deed.firesKey key = true := by
        intro fires
        cases (change.of_fires fires).1.symm.trans ih.1
      have before := ih.2 key
      simp only [TimerHistory.firingsOf, TimerHistory.tally_cons, if_neg silent] at before ⊢
      exact before

/-- The moves of an entry with the longest period there is, which is disarmed during its own
callback, and of another one, which is armed in the meantime. -/
def overlongMoves : List (TimerMove Unit) :=
  [.arm ⟨0⟩ ⟨0⟩ (.fixedRate (.ofParts 18446744073709551615 0)) (), .poll ⟨0⟩, .disarm ⟨0⟩,
    .arm ⟨1⟩ ⟨0⟩ .once (), .conclude ⟨2⟩]

/-- **The worker may die of an entry that is not armed any more.**  After `overlongMoves` the other
entry is still armed, its appointment has come, and it never fires. -/
theorem dies_of_revoked_entry : ∃ (history : TimerHistory Unit) (timer : Timer Unit),
    TimerRun history timer ∧ timer.isShutdown = false ∧ history.arms = 2 ∧
      timer.isArmed ⟨0⟩ = false ∧ timer.isArmed ⟨1⟩ = true ∧ timer.workerEnded = true ∧
      ∀ later last, TimerPath timer later last →
        last.workerEnded = true ∧ TimerHistory.firingsOf later ⟨1⟩ = 0 := by
  obtain ⟨history, timer, played, running, arms, revoked, armed, died⟩ : ∃ history timer,
      (Timer.start : Timer Unit).play overlongMoves = some (history, timer) ∧
        timer.isShutdown = false ∧ history.arms = 2 ∧ timer.isArmed ⟨0⟩ = false ∧
        timer.isArmed ⟨1⟩ = true ∧ timer.worker = .died :=
    ⟨_, _, rfl, rfl, rfl, rfl, rfl, rfl⟩
  refine ⟨history, timer, .of_play played, running, arms, revoked, armed, ?_, ?_⟩
  · rw [Timer.workerEnded, died]
  · intro later last path
    obtain ⟨dead, silent⟩ := path.of_died died
    exact ⟨by rw [Timer.workerEnded, dead], silent ⟨1⟩⟩

end TaskBarrier
