import TaskBarrier.Proofs.Timetable

/-!
# A timer is punctual

The worker of a timer never calls a callback early, and never in the wrong order.  It looks only at
the front of its agenda, and drops what it finds there and is not current; but every armed entry has
its current appointment in the agenda when the worker looks, so the first current appointment from
the front is the first of all.

* The entry that fires is armed, its current appointment is due, and precedes the current
  appointments of all other armed entries.
* An appointment that is not current does not fire, and will not.
* Of two one-shot entries that are not disarmed, the one that was armed first fires first, if its
  delay is not the longer one.

The last of these is about readings of the clock as well.  Of these no more is asked than that the
clock had not gone back between the two arms.

## Main Definitions

* `Timer.Keeps`: the current appointment of an entry.
* `Timer.IsTurnOf`: the entry to fire next.
* `Timer.Void`: an appointment that will not be kept any more.
* `TimerStride.ArmsOnce`: a one-shot entry is armed.
* `Punctual`.

The main statement is `punctual_of_run`.
-/

namespace TaskBarrier

variable {κ : Type}

namespace Timer

/-! ## The first appointment -/

/-- The appointment is the current one of the entry. -/
def Keeps (timer : Timer κ) (entry : ArmedEntry κ) (appointment : Appointment) : Prop :=
  appointment ∈ timer.agenda ∧ appointment.key = entry.key ∧
    appointment.sequence = entry.sequence

/-- It is the turn of the callback: it is that of the armed entry with the key, whose current
appointment is due at the reading `now`, and precedes those of all other armed entries. -/
def IsTurnOf (timer : Timer κ) (now : Instant) (key : TimerKey) (callback : κ) : Prop :=
  ∃ entry ∈ timer.armed, entry.key = key ∧ entry.callback = callback ∧
    ∃ appointment, timer.Keeps entry appointment ∧ appointment.due.nanos ≤ now.nanos ∧
      ∀ other ∈ timer.armed, other.key ≠ key →
        ∃ later, timer.Keeps other later ∧ appointment.precedes later = true

/-- A worker that starts a callback has come from the front of its agenda to the first appointment
that is current, and has found it due. -/
theorem of_firing {timer : Timer κ} {now : Instant} {key : TimerKey} {callback : κ}
    (fires : (timer.poll now).1 = .firing key callback) :
    timer.worker = .idle ∧ ∃ passed first rest entry,
      timer.agenda = passed ++ first :: rest ∧
      (∀ appointment ∈ passed, timer.entryOf? appointment = none) ∧
      timer.entryOf? first = some entry ∧ now.before first.due = false ∧
      entry.key = key ∧ entry.callback = callback := by
  rcases timer.poll_cases now with ⟨-, eq⟩ | ⟨-, -, eq⟩ | ⟨-, -, _, _, -, -, -, eq⟩ |
    ⟨idle, -, passed, first, rest, entry, agenda, stale, current, due, eq⟩
  all_goals
    rw [eq] at fires
    cases fires
  exact ⟨idle, passed, first, rest, entry, agenda, stale, current, due, rfl, rfl⟩

/-- A move that starts a callback is a look of the worker. -/
theorem Advance.of_fires {timer after : Timer κ} {move : TimerMove κ} {deed : TimerDeed}
    (change : timer.Advance move deed after) {key : TimerKey} (fires : deed.firesKey key = true) :
    timer.worker = .idle ∧ ∃ passed first rest, timer.agenda = passed ++ first :: rest ∧
      (∀ appointment ∈ passed, timer.entryOf? appointment = none) ∧ first.key = key := by
  cases change with
  | @fire _ passed rest first _ idle _ agenda stale =>
      exact ⟨idle, passed, first, rest, agenda, stale, beq_iff_eq.mp fires⟩
  | arm | refuse | overflow | disarm | miss | shutdown | exit | wait | finish | rearm | die =>
      simp at fires

/-- **The first current appointment is the first of all**: every armed entry has its own among those
that follow it. -/
theorem Tidy.first_of_current {timer : Timer κ} (tidy : timer.Tidy) (idle : timer.worker = .idle)
    {passed rest : Agenda} {first : Appointment}
    (agenda : timer.agenda = passed ++ first :: rest)
    (stale : ∀ appointment ∈ passed, timer.entryOf? appointment = none) {other : ArmedEntry κ}
    (armed : other ∈ timer.armed) :
    ∃ appointment, timer.Keeps other appointment ∧
      (appointment = first ∨ first.precedes appointment = true) := by
  obtain ⟨appointment, member, key, sequence⟩ := tidy.listed_of_idle idle agenda stale armed
  refine ⟨appointment, ⟨agenda ▸ List.mem_append_right _ member, key, sequence.symm⟩, ?_⟩
  rcases List.mem_cons.mp member with same | behind
  · exact .inl same
  · have ordered := tidy.orderly.ordered
    rw [agenda] at ordered
    exact .inr ((List.pairwise_cons.mp (List.pairwise_append.mp ordered).2.1).1 appointment behind)

/-- **The worker starts the callback whose turn it is.** -/
theorem Tidy.isTurnOf {timer : Timer κ} (tidy : timer.Tidy) {now : Instant} {key : TimerKey}
    {callback : κ} (fires : (timer.poll now).1 = .firing key callback) :
    timer.IsTurnOf now key callback := by
  obtain ⟨idle, passed, first, rest, entry, agenda, stale, current, due, rfl, rfl⟩ :=
    of_firing fires
  obtain ⟨armed, same, sequence⟩ := of_entryOf? current
  have listed : first ∈ timer.agenda := agenda ▸ List.mem_append_right _ List.mem_cons_self
  refine ⟨entry, armed, rfl, rfl, first, ⟨listed, same.symm, sequence.symm⟩, ?_, ?_⟩
  · simpa [Instant.before] using due
  · intro other among apart
    obtain ⟨appointment, keeps, order⟩ := tidy.first_of_current idle agenda stale among
    refine ⟨appointment, keeps, order.resolve_left fun equal => apart ?_⟩
    rw [← keeps.2.1, equal, same]

/-! ## Appointments that are not kept -/

theorem entryOf?_eq_none_iff {timer : Timer κ} {appointment : Appointment} :
    timer.entryOf? appointment = none ↔
      ∀ entry ∈ timer.armed, entry.key = appointment.key →
        entry.sequence ≠ appointment.sequence := by
  simp [entryOf?, List.find?_eq_none]

/-- The appointment has been made, and if it is still in the agenda it is not current. -/
def Void (timer : Timer κ) (appointment : Appointment) : Prop :=
  appointment.sequence < timer.nextSequence ∧
    (appointment ∈ timer.agenda → timer.entryOf? appointment = none)

variable {timer after : Timer κ} {move : TimerMove κ} {deed : TimerDeed}
  {appointment : Appointment}

/-- No move takes back a number. -/
theorem Advance.nextSequence (change : timer.Advance move deed after) :
    timer.nextSequence ≤ after.nextSequence := by
  cases change with
  | arm | rearm => exact Nat.le_succ _
  | fire => simp
  | refuse | overflow | disarm | miss | shutdown | exit | wait | finish | die =>
      exact Nat.le_refl _

/-- An appointment that has been made before a move, and is there after it, was there before. -/
theorem Advance.mem_agenda (change : timer.Advance move deed after)
    (made : appointment.sequence < timer.nextSequence) (member : appointment ∈ after.agenda) :
    appointment ∈ timer.agenda := by
  cases change with
  | arm | rearm =>
      refine (Agenda.mem_insert.mp member).resolve_left fun new => ?_
      rw [new] at made
      exact Nat.lt_irrefl _ made
  | exit => cases member
  | wait _ _ agenda => exact agenda ▸ List.mem_append_right _ member
  | fire _ _ agenda => exact agenda ▸ List.mem_append_right _ (List.mem_cons_of_mem _ member)
  | refuse | overflow | disarm | miss | shutdown | finish | die => exact member

/-- An appointment that is not current does not become current again. -/
theorem Advance.entryOf?_eq_none (change : timer.Advance move deed after)
    (made : appointment.sequence < timer.nextSequence)
    (stale : timer.entryOf? appointment = none) : after.entryOf? appointment = none := by
  rw [entryOf?_eq_none_iff] at stale ⊢
  intro entry among same
  cases change with
  | arm =>
      rcases List.mem_append.mp among with old | new
      · exact stale entry old same
      · rw [List.mem_singleton.mp new]
        exact (Nat.ne_of_lt made).symm
  | disarm => exact stale entry (mem_armed_remove.mp among).1 same
  | exit => cases among
  | fire => exact stale entry (mem_armed_take.mp among).1 same
  | rearm =>
      obtain ⟨old, member, rfl⟩ := List.mem_map.mp among
      have before := stale old member
      split at same
      · next own =>
        rw [if_pos own]
        exact (Nat.ne_of_lt made).symm
      · next other =>
        rw [if_neg other]
        exact before same
  | refuse | overflow | miss | shutdown | wait | finish | die => exact stale entry among same

namespace Void

/-- An appointment that will not be kept is not kept by the next move. -/
theorem advance (void : timer.Void appointment) (change : timer.Advance move deed after) :
    after.Void appointment ∧ ∀ cadence, deed ≠ .fire appointment cadence := by
  refine ⟨⟨Nat.lt_of_lt_of_le void.1 change.nextSequence, fun member => ?_⟩, ?_⟩
  · exact change.entryOf?_eq_none void.1 (void.2 (change.mem_agenda void.1 member))
  · rintro cadence rfl
    cases change with
    | fire _ _ agenda _ current =>
        have stale := void.2 (agenda ▸ List.mem_append_right _ List.mem_cons_self)
        cases stale.symm.trans current

/-- An appointment is kept once. -/
theorem of_fire (tidy : timer.Tidy) {cadence : Cadence}
    (change : timer.Advance move (.fire appointment cadence) after) : after.Void appointment := by
  cases change with
  | @fire _ passed rest _ _ _ _ agenda =>
      have suffix : (appointment :: rest).Sublist timer.agenda :=
        agenda ▸ List.sublist_append_right passed (appointment :: rest)
      have distinct := List.nodup_cons.mp (tidy.booked.sublist (suffix.map _))
      refine ⟨?_, fun again => absurd (List.mem_map_of_mem again) distinct.1⟩
      rw [nextSequence_take]
      exact tidy.orderly.numbered appointment (suffix.subset List.mem_cons_self)

end Void

/-! ## Entries that wait for their turn -/

/-- **How a key leaves the table**: it is disarmed, it fires, or the worker ends. -/
theorem Advance.isArmed_of_armed {key : TimerKey} (change : timer.Advance move deed after)
    (armed : timer.isArmed key = true) :
    after.isArmed key = true ∨ deed.disarmsKey key = true ∨ deed.firesKey key = true ∨
      after.worker = .exited := by
  cases change with
  | arm => exact .inl (by rw [isArmed_book, armed, Bool.true_or])
  | @disarm other =>
      by_cases own : other = key
      · exact .inr (.inl (beq_iff_eq.mpr own))
      · exact .inl (by rw [isArmed_remove, armed, bne_iff_ne.mpr (Ne.symm own), Bool.and_true])
  | exit => exact .inr (.inr (.inr rfl))
  | @fire _ _ _ first entry _ _ _ _ current =>
      by_cases own : first.key = key
      · exact .inr (.inr (.inl (beq_iff_eq.mpr own)))
      · have apart : (key != entry.key) = true :=
          bne_iff_ne.mpr ((of_entryOf? current).2.1 ▸ Ne.symm own)
        exact .inl (by rw [isArmed_take, armed, apart, Bool.or_true, Bool.and_true])
  | rearm => exact .inl (by rw [isArmed_rebook, armed])
  | refuse | overflow | miss | shutdown | wait | finish | die => exact .inl armed

end Timer

/-- The move arms a one-shot entry at the reading `now`, which is due after `delay`. -/
def TimerStride.ArmsOnce (stride : TimerStride κ) (now : Instant) (delay : Duration)
    (key : TimerKey) : Prop :=
  (∃ callback, stride.move = .arm now delay .once callback) ∧ stride.deed = .arm key .once

/-- What is there after a one-shot entry has been armed: the entry, and its appointment. -/
theorem TimerStride.ArmsOnce.booked {stride : TimerStride κ} {now : Instant} {delay : Duration}
    {key : TimerKey} (arms : stride.ArmsOnce now delay key) (tidy : stride.before.Tidy)
    (change : stride.before.Advance stride.move stride.deed stride.after) :
    stride.after.OneShot key ∧ stride.after.isArmed key = true ∧
      stride.after.nextSequence = stride.before.nextSequence + 1 ∧
      ∀ appointment ∈ stride.after.agenda, appointment.key = key →
        appointment.due.nanos = now.nanos + delay.nanos ∧
          appointment.sequence = stride.before.nextSequence := by
  obtain ⟨⟨callback, move⟩, deed⟩ := arms
  rw [move, deed] at change
  refine ⟨.of_arm tidy rfl change, ?_⟩
  generalize stride.before = before at change tidy ⊢
  generalize stride.after = after at change ⊢
  cases change with
  | arm _ sum =>
      refine ⟨by simp, rfl, fun appointment member own => ?_⟩
      rcases Agenda.mem_insert.mp member with rfl | old
      · exact ⟨(Instant.after?_eq_some_iff.mp sum).2, rfl⟩
      · exact absurd own (tidy.orderly.booked_ne old)

namespace TimerPath

variable {origin timer : Timer κ} {history : TimerHistory κ} {appointment : Appointment}
  {key : TimerKey}

theorem nextSequence (path : TimerPath origin history timer) :
    origin.nextSequence ≤ timer.nextSequence := by
  induction path with
  | start => exact Nat.le_refl _
  | step _ moved ih => exact Nat.le_trans ih (TimerStride.change moved).nextSequence

/-- An appointment that will not be kept is never kept. -/
theorem void (path : TimerPath origin history timer) (void : origin.Void appointment) :
    timer.Void appointment ∧
      ∀ stride ∈ history, ∀ cadence, stride.deed ≠ .fire appointment cadence := by
  induction path with
  | start => exact ⟨void, fun _ member => nomatch member⟩
  | step _ moved ih =>
      obtain ⟨void, none⟩ := ih
      obtain ⟨void, unkept⟩ := void.advance (TimerStride.change moved)
      exact ⟨void, List.forall_mem_cons.mpr ⟨unkept, none⟩⟩

/-- A key that is neither disarmed nor fires stays armed until the worker ends. -/
theorem isArmed (path : TimerPath origin history timer) (armed : origin.isArmed key = true)
    (disarms : history.disarmsOf key = 0) (firings : history.firingsOf key = 0)
    (alive : timer.worker ≠ .exited) : timer.isArmed key = true := by
  induction path with
  | start => exact armed
  | step _ moved ih =>
      have change := TimerStride.change moved
      simp only [TimerHistory.disarmsOf, TimerHistory.firingsOf, TimerHistory.tally_cons,
        Nat.add_eq_zero_iff] at disarms firings
      have before := ih disarms.1 firings.1 (change.alive alive)
      rcases change.isArmed_of_armed before with armed | disarmed | fires | ended
      · exact armed
      · rw [if_pos disarmed] at disarms
        cases disarms.2
      · rw [if_pos fires] at firings
        cases firings.2
      · exact absurd ended alive

end TimerPath

/-! ## Punctuality -/

/-- The law of the order in which the entries of a timer fire. -/
structure Punctual (history : TimerHistory κ) : Prop where
  /-- Whenever the worker starts a callback, it is that of an armed entry whose current appointment
  is due, and precedes those of all other armed entries. -/
  first : ∀ stride ∈ history, ∀ now key callback, stride.move = .poll now →
    (stride.before.poll now).1 = .firing key callback → stride.before.IsTurnOf now key callback
  /-- An appointment that has been made and is not current is never kept, be it that its entry has
  been disarmed, or that its entry has got another one since. -/
  stale : ∀ later stride earlier appointment, history = later ++ stride :: earlier →
    appointment.sequence < stride.before.nextSequence →
    stride.before.entryOf? appointment = none →
    ∀ other ∈ later ++ [stride], ∀ cadence, other.deed ≠ .fire appointment cadence
  /-- No appointment is kept twice. -/
  once : ∀ later stride earlier appointment cadence, history = later ++ stride :: earlier →
    stride.deed = .fire appointment cadence →
    ∀ other ∈ later, ∀ cadence, other.deed ≠ .fire appointment cadence
  /-- When a one-shot entry fires, one that was armed before it with a delay that is not longer, and
  has not been disarmed, has fired. -/
  inTurn : ∀ later firing middle second between first earlier now now' delay delay' key key',
    history = later ++ firing :: (middle ++ second :: between) ++ first :: earlier →
    first.ArmsOnce now delay key → second.ArmsOnce now' delay' key' →
    now.nanos ≤ now'.nanos → delay.nanos ≤ delay'.nanos →
    firing.deed.firesKey key' = true →
    TimerHistory.disarmsOf (middle ++ second :: between) key = 0 →
    0 < TimerHistory.firingsOf (middle ++ second :: between) key

namespace TimerRun

/-- Of two one-shot entries, the one that was armed first with a delay that is not the longer one
fires first. -/
theorem fires_in_turn {middle between earlier : TimerHistory κ}
    {firing second first : TimerStride κ} {now now' : Instant} {delay delay' : Duration}
    {key key' : TimerKey} (run : TimerRun ((middle ++ second :: between) ++ first :: earlier)
      firing.before)
    (change : firing.before.Advance firing.move firing.deed firing.after)
    (arms : first.ArmsOnce now delay key) (arms' : second.ArmsOnce now' delay' key')
    (clock : now.nanos ≤ now'.nanos) (delays : delay.nanos ≤ delay'.nanos)
    (fires : firing.deed.firesKey key' = true)
    (disarms : TimerHistory.disarmsOf (middle ++ second :: between) key = 0) :
    0 < TimerHistory.firingsOf (middle ++ second :: between) key := by
  by_contra none
  have tidy := run.tidy
  -- Both entries have the appointments that were made when they were armed.
  obtain ⟨armedRun, armedChange, path⟩ := run.stride
  obtain ⟨oneShot, isArmed, numbered, booked⟩ := arms.booked armedRun.tidy armedChange
  have run' : TimerRun (middle ++ second :: (between ++ first :: earlier)) firing.before := by
    simpa using run
  obtain ⟨armedRun', armedChange', path'⟩ := run'.stride
  obtain ⟨oneShot', -, -, booked'⟩ := arms'.booked armedRun'.tidy armedChange'
  obtain ⟨-, -, between⟩ := armedRun'.stride
  have sequences := between.nextSequence
  -- The first entry is still waiting, so the one that fires precedes it.
  obtain ⟨idle, passed, fired, rest, agenda, stale, own'⟩ := change.of_fires fires
  have waits := path.isArmed isArmed disarms (Nat.eq_zero_of_not_pos none) (by simp [idle])
  obtain ⟨entry, armed, rfl⟩ := Timer.isArmed_eq_true_iff.mp waits
  obtain ⟨appointment, ⟨listed, own, -⟩, order⟩ := tidy.first_of_current idle agenda stale armed
  obtain ⟨due, sequence⟩ := booked appointment (path.mem_agenda oneShot listed own) own
  have there : fired ∈ firing.before.agenda :=
    agenda ▸ List.mem_append_right _ List.mem_cons_self
  obtain ⟨due', sequence'⟩ := booked' fired (path'.mem_agenda oneShot' there own') own'
  rcases order with rfl | precedes
  · omega
  · rw [Appointment.precedes_iff] at precedes
    omega

end TimerRun

/-- **Every run of a timer is punctual.** -/
theorem punctual_of_run {history : TimerHistory κ} {timer : Timer κ}
    (run : TimerRun history timer) : Punctual history where
  first := by
    intro stride member now key callback _ fires
    obtain ⟨later, earlier, rfl⟩ := List.append_of_mem member
    exact run.stride.1.tidy.isTurnOf fires
  stale := by
    rintro later stride earlier appointment rfl made stale other member
    obtain ⟨-, change, path⟩ := run.stride
    have void : stride.before.Void appointment := ⟨made, fun _ => stale⟩
    obtain ⟨void, unkept⟩ := void.advance change
    rcases List.mem_append.mp member with member | member
    · exact (path.void void).2 other member
    · exact List.mem_singleton.mp member ▸ unkept
  once := by
    rintro later stride earlier appointment cadence rfl fires other member
    obtain ⟨before, change, path⟩ := run.stride
    rw [fires] at change
    exact (path.void (.of_fire before.tidy change)).2 other member
  inTurn := by
    rintro later firing middle second between first earlier now now' delay delay' key key' rfl
      arms arms' clock delays fires disarms
    have run : TimerRun (later ++ firing :: ((middle ++ second :: between) ++ first :: earlier))
      timer := by simpa using run
    obtain ⟨run, change, -⟩ := run.stride
    exact run.fires_in_turn change arms arms' clock delays fires disarms

/-- The moves of two one-shot entries that are due at the same instant. -/
def tiedMoves : List (TimerMove Unit) :=
  [.arm ⟨0⟩ ⟨5⟩ .once (), .arm ⟨0⟩ ⟨5⟩ .once (), .poll ⟨7⟩, .conclude ⟨8⟩, .poll ⟨8⟩]

/-- In `tiedMoves` the entry that was armed first has fired when the other one does. -/
theorem punctual_of_tied : ∃ (firing finish look second first : TimerStride Unit)
    (timer : Timer Unit), TimerRun [firing, finish, look, second, first] timer ∧
      firing.deed.firesKey ⟨1⟩ = true ∧
      0 < TimerHistory.firingsOf ([finish, look] ++ second :: []) ⟨0⟩ := by
  obtain ⟨firing, finish, look, second, first, timer, played, arms, arms', fires, disarms⟩ :
      ∃ firing finish look second first timer,
        (Timer.start : Timer Unit).play tiedMoves =
          some ([firing, finish, look, second, first], timer) ∧
        first.ArmsOnce ⟨0⟩ ⟨5⟩ ⟨0⟩ ∧ second.ArmsOnce ⟨0⟩ ⟨5⟩ ⟨1⟩ ∧
        firing.deed.firesKey ⟨1⟩ = true ∧
        TimerHistory.disarmsOf ([finish, look] ++ second :: []) ⟨0⟩ = 0 :=
    ⟨_, _, _, _, _, _, rfl, ⟨⟨(), rfl⟩, rfl⟩, ⟨⟨(), rfl⟩, rfl⟩, rfl, rfl⟩
  have run := TimerRun.of_play played
  exact ⟨firing, finish, look, second, first, timer, run, fires,
    (punctual_of_run run).inTurn [] firing [finish, look] second [] first [] ⟨0⟩ ⟨0⟩ ⟨5⟩ ⟨5⟩ ⟨0⟩ ⟨1⟩
      rfl arms arms' (Nat.le_refl _) (Nat.le_refl _) fires disarms⟩

end TaskBarrier
