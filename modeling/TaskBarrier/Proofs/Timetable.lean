import Mathlib.Data.List.Nodup
import TaskBarrier.Proofs.TimerRun

/-!
# The timetable of a timer

A timer keeps its entries in a table and its appointments in an agenda, and the two are changed
apart.  Disarming an entry leaves its appointment behind, a firing takes an appointment out while a
periodic entry stays, and between the start of a callback and its end anybody may come in between.
Nevertheless the two belong together in every state of a run.

* **Nothing is lost.**  As long as the worker has not died, every armed entry has its current
  appointment in the agenda, unless its callback is in flight.
* **Nothing is there twice.**  A key has at most one appointment, and no number is used by two.
* **What is left behind is harmless.**  An appointment that is not current belongs to a key that is
  not armed any more, and never will be.

So an entry that is armed leaves the table at most once.  It fires as a one-shot entry, or it is
disarmed, and afterwards nothing happens to its key.

## Main Definitions

* `Timer.Tidy`: entries and appointments belong together.
* `Timer.OneShot`: the key has been drawn, and leaves the table at its next firing.
* `Timer.appointmentsOf`: the appointments of a key.
* `Timetable`.

The main statement is `timetable_of_run`.
-/

namespace TaskBarrier

variable {κ : Type}

/-- Making an appointment adds it, wherever it goes. -/
theorem Agenda.insert_perm (a : Appointment) (agenda : Agenda) :
    (agenda.insert a).Perm (a :: agenda) := by
  induction agenda with
  | nil => exact .refl _
  | cons b rest ih =>
      rw [insert_cons]
      split
      · exact (ih.cons b).trans (.swap a b rest)
      · exact .refl _

/-- A new appointment keeps what is said of appointments apart, if it is said of no other. -/
theorem Agenda.nodup_map_insert {α : Type} {agenda : Agenda} {f : Appointment → α}
    (nodup : (agenda.map f).Nodup) {a : Appointment} (new : ∀ b ∈ agenda, f b ≠ f a) :
    ((agenda.insert a).map f).Nodup := by
  refine ((insert_perm a agenda).map f).nodup_iff.mpr (List.nodup_cons.mpr ⟨?_, nodup⟩)
  rintro member
  obtain ⟨b, member, same⟩ := List.mem_map.mp member
  exact new b member same

namespace Timer

theorem Orderly.start : (Timer.start : Timer κ).Orderly where
  ordered := .nil
  numbered := fun _ member => nomatch member
  booked := fun _ member => nomatch member
  drawn := fun _ member => nomatch member

section Fresh

variable {timer : Timer κ} (orderly : timer.Orderly)
include orderly

/-- No entry is armed under the next key. -/
theorem Orderly.armed_ne {entry : ArmedEntry κ} (member : entry ∈ timer.armed) :
    entry.key ≠ timer.nextKey :=
  fun same => Nat.lt_irrefl _ (same ▸ orderly.drawn entry member)

/-- No appointment is for the next key. -/
theorem Orderly.booked_ne {appointment : Appointment} (member : appointment ∈ timer.agenda) :
    appointment.key ≠ timer.nextKey :=
  fun same => Nat.lt_irrefl _ (same ▸ orderly.booked appointment member)

/-- No appointment has the next number. -/
theorem Orderly.numbered_ne {appointment : Appointment} (member : appointment ∈ timer.agenda) :
    appointment.sequence ≠ timer.nextSequence :=
  fun same => Nat.lt_irrefl _ (same ▸ orderly.numbered appointment member)

end Fresh

/-- No move brings a timer out of order. -/
theorem Orderly.advance {timer after : Timer κ} (orderly : timer.Orderly) {move : TimerMove κ}
    (moved : timer.advance move = some after) : after.Orderly := by
  cases move with
  | arm now delay cadence callback =>
      cases moved
      exact orderly.arm now delay cadence callback
  | disarm key =>
      cases moved
      exact orderly.disarm key
  | shutdown =>
      cases moved
      exact orderly.shutdown
  | poll now =>
      obtain ⟨-, ⟨⟩⟩ := Option.ite_none_right_eq_some.mp moved
      exact orderly.poll now
  | conclude finished =>
      obtain ⟨-, ⟨⟩⟩ := Option.ite_none_right_eq_some.mp moved
      exact orderly.conclude finished

/-- **The entries and the appointments of a timer belong together.** -/
structure Tidy (timer : Timer κ) : Prop where
  orderly : timer.Orderly
  /-- A key is armed once. -/
  armed : (timer.armed.map (·.key)).Nodup
  /-- A key has at most one appointment. -/
  booked : (timer.agenda.map (·.key)).Nodup
  /-- No two appointments have the same number. -/
  numbered : (timer.agenda.map (·.sequence)).Nodup
  /-- The appointment of an armed key is its current one. -/
  current : ∀ appointment ∈ timer.agenda, ∀ entry ∈ timer.armed, entry.key = appointment.key →
    entry.sequence = appointment.sequence
  /-- An armed key has an appointment, unless it is in flight. -/
  listed : timer.worker ≠ .died → ∀ entry ∈ timer.armed,
    timer.firingKey? = some entry.key ∨ ∃ appointment ∈ timer.agenda, appointment.key = entry.key
  /-- A key in flight has no appointment, and if it is still armed it comes back. -/
  flying : ∀ appointment cadence, timer.worker = .firing appointment cadence →
    appointment.key.number < timer.nextKey.number ∧
      (∀ other ∈ timer.agenda, other.key ≠ appointment.key) ∧
      ∀ entry ∈ timer.armed, entry.key = appointment.key →
        entry.cadence = cadence ∧ cadence.isPeriodic = true

namespace Tidy

variable {timer : Timer κ}

theorem start : (Timer.start : Timer κ).Tidy where
  orderly := .start
  armed := .nil
  booked := .nil
  numbered := .nil
  current := fun _ member => nomatch member
  listed := fun _ _ member => nomatch member
  flying := fun _ _ firing => nomatch firing

/-- Entries under the same key are one. -/
theorem eq_of_key (tidy : timer.Tidy) {one other : ArmedEntry κ} (first : one ∈ timer.armed)
    (second : other ∈ timer.armed) (same : one.key = other.key) : one = other :=
  List.inj_on_of_nodup_map tidy.armed first second same

/-- **What is left behind is harmless**: an appointment that is not current belongs to a key that is
not armed. -/
theorem isArmed_of_stale (tidy : timer.Tidy) {appointment : Appointment}
    (member : appointment ∈ timer.agenda) (stale : timer.entryOf? appointment = none) :
    timer.isArmed appointment.key = false := by
  refine isArmed_eq_false_iff.mpr fun entry armed same => ?_
  have passed := List.find?_eq_none.mp stale entry armed
  simp [same, tidy.current appointment member entry armed same] at passed

/-- Between two callbacks every armed entry has its current appointment behind those that are
stale. -/
theorem listed_of_idle (tidy : timer.Tidy) (idle : timer.worker = .idle) {passed kept : Agenda}
    (agenda : timer.agenda = passed ++ kept)
    (stale : ∀ appointment ∈ passed, timer.entryOf? appointment = none) {entry : ArmedEntry κ}
    (armed : entry ∈ timer.armed) :
    ∃ appointment ∈ kept, appointment.key = entry.key ∧
      entry.sequence = appointment.sequence := by
  have alive : timer.worker ≠ .died := by simp [idle]
  rcases tidy.listed alive entry armed with flying | ⟨appointment, member, same⟩
  · obtain ⟨_, _, firing, -⟩ := firingKey?_eq_some_iff.mp flying
    cases idle.symm.trans firing
  · have current := tidy.current appointment member entry armed same.symm
    rw [agenda] at member
    rcases List.mem_append.mp member with member | member
    · have unarmed := tidy.isArmed_of_stale (agenda ▸ List.mem_append_left _ member)
        (stale appointment member)
      exact absurd same.symm (isArmed_eq_false_iff.mp unarmed entry armed)
    · exact ⟨appointment, member, same, current⟩

/-! ### What the moves keep -/

/-- A timer that has lost entries and appointments, and has got none. -/
theorem shrink (tidy : timer.Tidy) {after : Timer κ} (orderly : after.Orderly)
    (agenda : after.agenda.Sublist timer.agenda) (armed : after.armed.Sublist timer.armed)
    (listed : after.worker ≠ .died → ∀ entry ∈ after.armed, after.firingKey? = some entry.key ∨
      ∃ appointment ∈ after.agenda, appointment.key = entry.key)
    (flying : ∀ appointment cadence, after.worker = .firing appointment cadence →
      appointment.key.number < after.nextKey.number ∧
        (∀ other ∈ after.agenda, other.key ≠ appointment.key) ∧
        ∀ entry ∈ after.armed, entry.key = appointment.key →
          entry.cadence = cadence ∧ cadence.isPeriodic = true) : after.Tidy where
  orderly := orderly
  armed := tidy.armed.sublist (armed.map _)
  booked := tidy.booked.sublist (agenda.map _)
  numbered := tidy.numbered.sublist (agenda.map _)
  current := fun appointment member entry among =>
    tidy.current appointment (agenda.subset member) entry (armed.subset among)
  listed := listed
  flying := flying

/-- A new entry has the appointment that is made for it. -/
theorem book (tidy : timer.Tidy) {due : Instant} {cadence : Cadence} {callback : κ}
    (orderly : (timer.book due cadence callback).Orderly) :
    (timer.book due cadence callback).Tidy where
  orderly := orderly
  armed := by
    simp only [Timer.book, List.map_append, List.map_cons, List.map_nil]
    refine List.nodup_append.mpr ⟨tidy.armed, List.nodup_singleton _, ?_⟩
    rintro _ old _ new rfl
    obtain ⟨entry, member, same⟩ := List.mem_map.mp old
    exact tidy.orderly.armed_ne member (same.trans (List.mem_singleton.mp new))
  booked := Agenda.nodup_map_insert tidy.booked fun _ => tidy.orderly.booked_ne
  numbered := Agenda.nodup_map_insert tidy.numbered fun _ => tidy.orderly.numbered_ne
  current := by
    intro appointment member entry among same
    rcases Agenda.mem_insert.mp member with rfl | member
    all_goals rcases List.mem_append.mp among with old | new
    · exact absurd same (tidy.orderly.armed_ne old)
    · rw [List.mem_singleton.mp new]
    · exact tidy.current appointment member entry old same
    · rw [List.mem_singleton.mp new] at same
      exact absurd same.symm (tidy.orderly.booked_ne member)
  listed := by
    intro alive entry among
    rcases List.mem_append.mp among with old | new
    · refine (tidy.listed alive entry old).imp_right ?_
      rintro ⟨appointment, member, same⟩
      exact ⟨appointment, Agenda.mem_insert.mpr (.inr member), same⟩
    · rw [List.mem_singleton.mp new]
      exact .inr ⟨_, Agenda.mem_insert.mpr (.inl rfl), rfl⟩
  flying := by
    intro appointment cadence firing
    obtain ⟨below, unlisted, periodic⟩ := tidy.flying appointment cadence firing
    have drawn : timer.nextKey ≠ appointment.key := fun same => Nat.lt_irrefl _ (same ▸ below)
    refine ⟨Nat.lt_succ_of_lt below, fun other member => ?_, fun entry among same => ?_⟩
    · rcases Agenda.mem_insert.mp member with rfl | member
      · exact drawn
      · exact unlisted other member
    · rcases List.mem_append.mp among with old | new
      · exact periodic entry old same
      · rw [List.mem_singleton.mp new] at same
        exact absurd same drawn

/-- An entry that comes back has the appointment that is made for it. -/
theorem rebook (tidy : timer.Tidy) {appointment : Appointment} {cadence : Cadence}
    (firing : timer.worker = .firing appointment cadence) {next : Instant}
    (orderly : (timer.rebook appointment.key next).Orderly) :
    (timer.rebook appointment.key next).Tidy := by
  obtain ⟨-, unlisted, -⟩ := tidy.flying appointment cadence firing
  have origin : ∀ {entry}, entry ∈ (timer.rebook appointment.key next).armed →
      ∃ old ∈ timer.armed, old.key = entry.key ∧
        entry.sequence =
          if old.key = appointment.key then timer.nextSequence else old.sequence := by
    intro entry among
    obtain ⟨old, member, rfl⟩ := List.mem_map.mp among
    refine ⟨old, member, ?_⟩
    by_cases own : old.key = appointment.key <;> simp [own]
  refine
    { orderly := orderly
      armed := ?_
      booked := Agenda.nodup_map_insert tidy.booked unlisted
      numbered := Agenda.nodup_map_insert tidy.numbered fun _ => tidy.orderly.numbered_ne
      current := ?_
      listed := ?_
      flying := fun _ _ firing => nomatch firing }
  · have keys : (timer.rebook appointment.key next).armed.map (·.key) =
        timer.armed.map (·.key) := by
      rw [Timer.rebook, List.map_map]
      refine List.map_congr_left fun entry _ => ?_
      simp only [Function.comp_apply]
      split <;> rfl
    exact keys ▸ tidy.armed
  · intro other member entry among same
    obtain ⟨old, armed, key, sequence⟩ := origin among
    rw [sequence]
    rcases Agenda.mem_insert.mp member with rfl | member
    · rw [if_pos (key.trans same)]
    · rw [if_neg fun own => unlisted other member (same.symm.trans (key.symm.trans own))]
      exact tidy.current other member old armed (key.trans same)
  · intro _ entry among
    obtain ⟨old, armed, key, -⟩ := origin among
    have alive : timer.worker ≠ .died := by simp [firing]
    rcases tidy.listed alive old armed with own | ⟨other, member, same⟩
    · have own := Option.some.inj ((firingKey?_of_firing firing).symm.trans own)
      exact .inr ⟨_, Agenda.mem_insert.mpr (.inl rfl), own.trans key⟩
    · exact .inr ⟨other, Agenda.mem_insert.mpr (.inr member), same.trans key⟩

theorem armed_take_sublist (timer : Timer κ) (first : Appointment) (rest : Agenda)
    (entry : ArmedEntry κ) : (timer.take first rest entry).armed.Sublist timer.armed := by
  unfold take
  cases entry.cadence.isPeriodic with
  | true => exact .refl _
  | false => exact List.filter_sublist

/-- The worker takes an appointment, which is in flight from then on. -/
theorem take (tidy : timer.Tidy) (idle : timer.worker = .idle) {passed rest : Agenda}
    {first : Appointment} {entry : ArmedEntry κ} (agenda : timer.agenda = passed ++ first :: rest)
    (stale : ∀ appointment ∈ passed, timer.entryOf? appointment = none)
    (current : timer.entryOf? first = some entry)
    (orderly : (timer.take first rest entry).Orderly) : (timer.take first rest entry).Tidy := by
  have suffix : (first :: rest).Sublist timer.agenda :=
    agenda ▸ List.sublist_append_right passed (first :: rest)
  refine tidy.shrink orderly ((List.sublist_cons_self first rest).trans suffix)
    (armed_take_sublist timer first rest entry) ?_ ?_
  · intro _ other among
    obtain ⟨appointment, member, same, -⟩ :=
      tidy.listed_of_idle idle agenda stale (mem_armed_take.mp among).1
    rcases List.mem_cons.mp member with rfl | member
    · exact .inl (congrArg some same)
    · exact .inr ⟨appointment, member, same⟩
  · rintro _ _ ⟨⟩
    obtain ⟨armed, key, -⟩ := of_entryOf? current
    have booked := List.nodup_cons.mp (tidy.booked.sublist (suffix.map _))
    refine ⟨?_, fun other member same => booked.1 (same ▸ List.mem_map_of_mem member), ?_⟩
    · rw [nextKey_take]
      exact tidy.orderly.booked first (suffix.subset List.mem_cons_self)
    · intro other among same
      obtain ⟨member, kept⟩ := mem_armed_take.mp among
      obtain rfl := tidy.eq_of_key member armed (same.trans key.symm)
      refine ⟨rfl, ?_⟩
      by_contra once
      exact kept (by simpa using once) rfl

/-- **No move tears entries and appointments apart.** -/
theorem advance (tidy : timer.Tidy) {after : Timer κ} {move : TimerMove κ}
    (moved : timer.advance move = some after) : after.Tidy := by
  have orderly := tidy.orderly.advance moved
  have change := advance_of_move moved
  generalize timer.deed move = deed at change
  cases change with
  | arm => exact tidy.book orderly
  | refuse | miss => exact tidy
  | overflow =>
      exact tidy.shrink orderly (.refl _) (.refl _) tidy.listed fun appointment cadence firing =>
        (tidy.flying appointment cadence firing).imp_left Nat.lt_succ_of_lt
  | @disarm key =>
      have sub : (timer.remove key).armed.Sublist timer.armed := List.filter_sublist
      refine tidy.shrink orderly (.refl _) sub
        (fun alive entry among => tidy.listed alive entry (sub.subset among))
        fun appointment cadence firing => ?_
      obtain ⟨below, unlisted, periodic⟩ := tidy.flying appointment cadence firing
      exact ⟨below, unlisted, fun entry among => periodic entry (sub.subset among)⟩
  | shutdown => exact tidy.shrink orderly (.refl _) (.refl _) tidy.listed tidy.flying
  | exit =>
      exact tidy.shrink orderly (List.nil_sublist _) (List.nil_sublist _)
        (fun _ _ among => nomatch among) (fun _ _ firing => nomatch firing)
  | wait idle _ agenda stale =>
      refine tidy.shrink orderly (agenda ▸ List.sublist_append_right _ _) (.refl _) ?_ ?_
      · intro _ entry among
        obtain ⟨appointment, member, same, -⟩ := tidy.listed_of_idle idle agenda stale among
        exact .inr ⟨appointment, member, same⟩
      · intro _ _ firing
        cases idle.symm.trans firing
  | fire idle _ agenda stale current => exact tidy.take idle agenda stale current orderly
  | @finish _ appointment cadence firing gone =>
      refine tidy.shrink orderly (.refl _) (.refl _) ?_ (fun _ _ firing => nomatch firing)
      intro _ entry among
      have alive : timer.worker ≠ .died := by simp [firing]
      refine .inr ((tidy.listed alive entry among).resolve_left fun own => ?_)
      have own := Option.some.inj ((firingKey?_of_firing firing).symm.trans own)
      -- The entry would come back, but it is a one-shot entry or has been disarmed.
      rcases gone with once | unarmed
      · simp [((tidy.flying appointment cadence firing).2.2 entry among own.symm).2] at once
      · exact isArmed_eq_false_iff.mp unarmed entry among own.symm
  | rearm firing => exact tidy.rebook firing orderly
  | die =>
      exact tidy.shrink orderly (.refl _) (.refl _) (fun alive => absurd rfl alive)
        (fun _ _ firing => nomatch firing)

/-- Disarming an armed key takes out one entry. -/
theorem pending_remove (tidy : timer.Tidy) {key : TimerKey} (armed : timer.isArmed key = true) :
    (timer.remove key).pending + 1 = timer.pending := by
  obtain ⟨entry, member, same⟩ := isArmed_eq_true_iff.mp armed
  have once : (timer.armed.map (·.key)).count key = 1 :=
    List.count_eq_one_of_mem tidy.armed (same ▸ List.mem_map_of_mem member)
  have parts := timer.armed.length_eq_length_filter_add (·.key == key)
  have own : (timer.armed.filter (·.key == key)).length = 1 := by
    rw [← List.countP_eq_length_filter, ← once, List.count, List.countP_map]
    rfl
  rw [show timer.pending = _ from parts, own, Nat.add_comm]
  rfl

end Tidy

end Timer

/-- **Entries and appointments belong together in every state of a run.** -/
theorem TimerRun.tidy {history : TimerHistory κ} {timer : Timer κ} (run : TimerRun history timer) :
    timer.Tidy :=
  run.induct (motive := fun _ timer => timer.Tidy) .start fun _ moved tidy => tidy.advance moved

/-! ## Keys that leave the table once -/

namespace Timer

/-- The key has been drawn, and if it is armed, its next firing takes it out for good. -/
structure OneShot (timer : Timer κ) (key : TimerKey) : Prop where
  drawn : key.number < timer.nextKey.number
  once : ∀ entry ∈ timer.armed, entry.key = key → entry.cadence.isPeriodic = false
  /-- A key in flight has been taken out. -/
  taken : timer.firingKey? = some key → timer.isArmed key = false

/-- How often the key can still leave the table, if it is a one-shot key. -/
def remaining (timer : Timer κ) (key : TimerKey) : Nat := if timer.isArmed key then 1 else 0

theorem remaining_le_one (timer : Timer κ) (key : TimerKey) : timer.remaining key ≤ 1 := by
  unfold remaining
  split <;> omega

/-- A key that is disarmed by a caller or fires has been armed. -/
theorem Advance.isArmed {timer after : Timer κ} {move : TimerMove κ} {deed : TimerDeed}
    (change : timer.Advance move deed after) {key : TimerKey}
    (leaves : deed.firesKey key = true ∨ deed.disarmsKey key = true) :
    timer.isArmed key = true := by
  cases change with
  | disarm armed =>
      have own := leaves.resolve_left (by simp)
      exact beq_iff_eq.mp own ▸ armed
  | fire _ _ _ _ current =>
      have own := leaves.resolve_right (by simp)
      exact beq_iff_eq.mp own ▸ isArmed_of_entryOf? current
  | arm | refuse | overflow | miss | shutdown | exit | wait | finish | rearm | die =>
      simp at leaves

/-- A new entry is armed under the next key. -/
theorem Advance.key_of_arm {timer after : Timer κ} {move : TimerMove κ} {key : TimerKey}
    {cadence : Cadence} (change : timer.Advance move (.arm key cadence) after) :
    key = timer.nextKey := by
  cases change
  rfl

/-- Disarming leaves all appointments. -/
theorem Advance.agenda_of_disarm {timer after : Timer κ} {move : TimerMove κ} {key : TimerKey}
    (change : timer.Advance move (.disarm key) after) : after.agenda = timer.agenda := by
  cases change
  rfl

/-- No move takes back a key. -/
theorem Advance.nextKey {timer after : Timer κ} {move : TimerMove κ} {deed : TimerDeed}
    (change : timer.Advance move deed after) :
    timer.nextKey.number ≤ after.nextKey.number := by
  cases change with
  | arm | overflow => exact Nat.le_succ _
  | fire => simp
  | refuse | disarm | miss | shutdown | exit | wait | finish | rearm | die => exact Nat.le_refl _

namespace OneShot

variable {timer after : Timer κ} {move : TimerMove κ} {deed : TimerDeed} {key : TimerKey}

theorem nextKey_ne (oneShot : timer.OneShot key) : timer.nextKey ≠ key :=
  fun same => Nat.lt_irrefl _ (same ▸ oneShot.drawn)

/-- A one-shot entry that has just been armed. -/
theorem of_arm (tidy : timer.Tidy) {cadence : Cadence} (once : cadence.isPeriodic = false)
    (change : timer.Advance move (.arm key cadence) after) : after.OneShot key := by
  cases change with
  | arm =>
      refine ⟨Nat.lt_succ_self _, fun entry among same => ?_, fun firing => ?_⟩
      · rcases List.mem_append.mp among with old | new
        · exact absurd same (tidy.orderly.armed_ne old)
        · rw [List.mem_singleton.mp new]
          exact once
      · have firing : timer.firingKey? = some timer.nextKey := firing
        obtain ⟨appointment, cadence, worker, same⟩ := firingKey?_eq_some_iff.mp firing
        have below := (tidy.flying appointment cadence worker).1
        rw [same] at below
        exact absurd below (Nat.lt_irrefl _)

/-- An entry that has just been disarmed. -/
theorem of_disarm (tidy : timer.Tidy) (change : timer.Advance move (.disarm key) after) :
    after.OneShot key ∧ after.remaining key = 0 := by
  cases change with
  | disarm armed =>
      obtain ⟨entry, member, same⟩ := isArmed_eq_true_iff.mp armed
      have unarmed : (timer.remove key).isArmed key = false := timer.isArmed_disarm key
      refine ⟨⟨same ▸ tidy.orderly.drawn entry member, fun other among own => ?_,
        fun _ => unarmed⟩, by simp [remaining, unarmed]⟩
      exact absurd own (isArmed_eq_false_iff.mp unarmed other among)

/-- A one-shot key stays one. -/
theorem advance (oneShot : timer.OneShot key) (change : timer.Advance move deed after) :
    after.OneShot key := by
  have drawn := Nat.lt_of_lt_of_le oneShot.drawn change.nextKey
  cases change with
  | arm =>
      refine ⟨drawn, fun entry among same => ?_, fun firing => ?_⟩
      · rcases List.mem_append.mp among with old | new
        · exact oneShot.once entry old same
        · rw [List.mem_singleton.mp new] at same
          exact absurd same oneShot.nextKey_ne
      · rw [isArmed_book, oneShot.taken firing, beq_eq_false_iff_ne.mpr oneShot.nextKey_ne]
        rfl
  | refuse | miss => exact oneShot
  | overflow | shutdown | wait => exact ⟨drawn, oneShot.once, oneShot.taken⟩
  | disarm =>
      refine ⟨drawn, fun entry among => oneShot.once entry (mem_armed_remove.mp among).1, ?_⟩
      intro firing
      rw [isArmed_remove, oneShot.taken firing]
      rfl
  | exit => exact ⟨drawn, fun _ among => (nomatch among), fun _ => rfl⟩
  | fire _ _ _ _ current =>
      obtain ⟨armed, own, -⟩ := of_entryOf? current
      refine ⟨drawn, fun entry among => oneShot.once entry (mem_armed_take.mp among).1, ?_⟩
      intro firing
      have same := own.trans (Option.some.inj firing)
      rw [isArmed_take, oneShot.once _ armed same, same]
      simp
  | finish | die => exact ⟨drawn, oneShot.once, fun firing => nomatch firing⟩
  | rearm =>
      refine ⟨drawn, fun entry among => ?_, fun firing => nomatch firing⟩
      obtain ⟨old, member, rfl⟩ := List.mem_map.mp among
      have once := oneShot.once old member
      split <;> exact once

/-- **A one-shot key leaves the table once**: it is taken out when it fires and when it is
disarmed. -/
theorem remaining_le (oneShot : timer.OneShot key) (change : timer.Advance move deed after) :
    (if deed.firesKey key then 1 else 0) + (if deed.disarmsKey key then 1 else 0) +
      after.remaining key ≤ timer.remaining key := by
  cases change with
  | arm =>
      simp [remaining, oneShot.nextKey_ne]
  | @disarm other armed =>
      by_cases own : other = key
      · subst own
        simp [remaining, armed]
      · have apart : (key != other) = true := bne_iff_ne.mpr (Ne.symm own)
        simp [remaining, own, apart]
  | @fire _ _ _ first entry _ _ _ _ current =>
      obtain ⟨member, same, -⟩ := of_entryOf? current
      by_cases own : first.key = key
      · have armed := isArmed_of_entryOf? current
        rw [own] at same armed
        simp [remaining, own, armed, same, oneShot.once entry member same]
      · have apart : (key != entry.key) = true := bne_iff_ne.mpr (same ▸ Ne.symm own)
        simp [remaining, own, apart]
  | rearm | exit => simp [remaining]
  | refuse | overflow | miss | shutdown | wait | finish | die => exact Nat.le_of_eq (Nat.zero_add _)

/-- No appointment is made any more for a key that has been drawn, unless it comes back. -/
theorem mem_agenda (oneShot : timer.OneShot key) (change : timer.Advance move deed after)
    {appointment : Appointment} (member : appointment ∈ after.agenda)
    (own : appointment.key = key) : appointment ∈ timer.agenda := by
  cases change with
  | arm =>
      refine (Agenda.mem_insert.mp member).resolve_left fun new => ?_
      exact oneShot.nextKey_ne (by rw [← own, new])
  | @rearm _ _ fired _ firing _ armed =>
      refine (Agenda.mem_insert.mp member).resolve_left fun new => ?_
      have same : fired.key = key := by rw [← own, new]
      have unarmed := oneShot.taken (same ▸ firingKey?_of_firing firing)
      exact absurd (same ▸ armed) (by simp [unarmed])
  | exit => cases member
  | wait _ _ agenda => exact agenda ▸ List.mem_append_right _ member
  | fire _ _ agenda => exact agenda ▸ List.mem_append_right _ (List.mem_cons_of_mem _ member)
  | refuse | overflow | disarm | miss | shutdown | finish | die => exact member

end OneShot

end Timer

namespace TimerPath

variable {origin timer : Timer κ} {history : TimerHistory κ} {key : TimerKey}

theorem oneShot (path : TimerPath origin history timer) (oneShot : origin.OneShot key) :
    timer.OneShot key := by
  induction path with
  | start => exact oneShot
  | step _ moved ih => exact ih.advance (TimerStride.change moved)

/-- The firings and disarmings of a one-shot key. -/
theorem leaves_le (path : TimerPath origin history timer) (oneShot : origin.OneShot key) :
    history.firingsOf key + history.disarmsOf key + timer.remaining key ≤
      origin.remaining key := by
  induction path with
  | start => exact Nat.le_of_eq (Nat.zero_add _)
  | step path moved ih =>
      have step := (path.oneShot oneShot).remaining_le (TimerStride.change moved)
      simp only [TimerHistory.firingsOf, TimerHistory.disarmsOf, TimerHistory.tally_cons] at ih ⊢
      omega

/-- The appointments of a one-shot key have been there before. -/
theorem mem_agenda (path : TimerPath origin history timer) (oneShot : origin.OneShot key)
    {appointment : Appointment} (member : appointment ∈ timer.agenda)
    (own : appointment.key = key) : appointment ∈ origin.agenda := by
  induction path with
  | start => exact member
  | step path moved ih =>
      exact ih ((path.oneShot oneShot).mem_agenda (TimerStride.change moved) member own)

end TimerPath

/-- Nothing has happened to a key that has not been drawn. -/
theorem TimerRun.leaves_eq_zero {history : TimerHistory κ} {timer : Timer κ}
    (run : TimerRun history timer) {key : TimerKey}
    (undrawn : timer.nextKey.number ≤ key.number) :
    history.firingsOf key = 0 ∧ history.disarmsOf key = 0 := by
  refine run.induct (motive := fun history timer => timer.nextKey.number ≤ key.number →
    history.firingsOf key = 0 ∧ history.disarmsOf key = 0) (fun _ => ⟨rfl, rfl⟩) ?_ undrawn
  intro history stride run moved ih undrawn
  have change := TimerStride.change moved
  have undrawn := Nat.le_trans change.nextKey undrawn
  have unarmed : ¬ stride.before.isArmed key = true := by
    intro armed
    obtain ⟨entry, member, rfl⟩ := Timer.isArmed_eq_true_iff.mp armed
    exact Nat.not_lt.mpr undrawn (run.tidy.orderly.drawn entry member)
  obtain ⟨firings, disarms⟩ := ih undrawn
  simp only [TimerHistory.firingsOf, TimerHistory.disarmsOf, TimerHistory.tally_cons] at *
  rw [firings, disarms, if_neg fun fires => unarmed (change.isArmed (.inl fires)),
    if_neg fun disarms => unarmed (change.isArmed (.inr disarms))]
  exact ⟨rfl, rfl⟩

/-! ## Arms, disarms and firings balance -/

namespace Timer

variable {timer after : Timer κ} {move : TimerMove κ} {deed : TimerDeed}

/-- A worker that has ended does not begin again. -/
theorem Advance.alive (change : timer.Advance move deed after) (alive : after.worker ≠ .exited) :
    timer.worker ≠ .exited := by
  intro exited
  cases change with
  | arm | refuse | overflow | disarm | miss | shutdown => exact alive exited
  | exit idle | wait idle | fire idle => cases idle.symm.trans exited
  | finish firing | rearm firing | die firing => cases firing.symm.trans exited

theorem pending_take (timer : Timer κ) (first : Appointment) (rest : Agenda)
    (entry : ArmedEntry κ) : (timer.take first rest entry).pending =
      if entry.cadence.isPeriodic then timer.pending else (timer.remove entry.key).pending := by
  unfold Timer.take
  cases entry.cadence.isPeriodic <;> rfl

/-- An entry that is armed is pending until it is disarmed or fires as a one-shot entry. -/
theorem Tidy.balance (tidy : timer.Tidy) (change : timer.Advance move deed after)
    (alive : after.worker ≠ .exited) :
    after.pending + (if deed.isDisarm then 1 else 0) + (if deed.isOnceFiring then 1 else 0) =
      timer.pending + if deed.isArm then 1 else 0 := by
  cases change with
  | arm => exact List.length_append
  | disarm armed => exact tidy.pending_remove armed
  | exit => exact absurd rfl alive
  | @fire _ _ _ first entry _ _ _ _ current =>
      obtain ⟨member, -, -⟩ := of_entryOf? current
      have taken := tidy.pending_remove (isArmed_eq_true_iff.mpr ⟨entry, member, rfl⟩)
      rw [pending_take]
      cases periodic : entry.cadence.isPeriodic with
      | true => simp [periodic]
      | false => simpa [periodic]
  | rearm => exact List.length_map _
  | refuse | overflow | miss | shutdown | wait | finish | die => rfl

end Timer

/-- **The number of pending entries** is what has been armed without what has been disarmed and what
has fired as a one-shot entry. -/
theorem TimerRun.pending_balance {history : TimerHistory κ} {timer : Timer κ}
    (run : TimerRun history timer) (alive : timer.worker ≠ .exited) :
    timer.pending + history.disarms + history.onceFirings = history.arms := by
  refine run.induct (motive := fun history timer => timer.worker ≠ .exited →
    timer.pending + history.disarms + history.onceFirings = history.arms) (fun _ => rfl) ?_ alive
  intro history stride run moved ih alive
  have change := TimerStride.change moved
  have before := ih (change.alive alive)
  have step := run.tidy.balance change alive
  simp only [TimerHistory.disarms, TimerHistory.onceFirings, TimerHistory.arms,
    TimerHistory.tally_cons] at before ⊢
  omega

/-! ## The timetable -/

namespace Timer

/-- The appointments of a key, stale ones included. -/
def appointmentsOf (timer : Timer κ) (key : TimerKey) : Agenda :=
  timer.agenda.filter (·.key == key)

theorem mem_appointmentsOf {timer : Timer κ} {key : TimerKey} {appointment : Appointment} :
    appointment ∈ timer.appointmentsOf key ↔
      appointment ∈ timer.agenda ∧ appointment.key = key := by
  simp [appointmentsOf]

theorem Tidy.appointmentsOf_eq {timer : Timer κ} (tidy : timer.Tidy) {appointment : Appointment}
    (member : appointment ∈ timer.agenda) :
    timer.appointmentsOf appointment.key = [appointment] := by
  have booked := tidy.booked
  obtain ⟨front, back, agenda⟩ := List.append_of_mem member
  rw [agenda, List.map_append, List.map_cons] at booked
  have others := List.nodup_cons.mp (List.nodup_middle.mp booked) |>.1
  rw [← List.map_append, List.mem_map] at others
  have none : ∀ {part : Agenda}, (∀ other ∈ part, other ∈ front ++ back) →
      part.filter (·.key == appointment.key) = [] := by
    intro part among
    refine List.filter_eq_nil_iff.mpr fun other member same => ?_
    exact others ⟨other, among other member, beq_iff_eq.mp same⟩
  rw [appointmentsOf, agenda, List.filter_append, List.filter_cons,
    if_pos (beq_self_eq_true _), none fun _ => List.mem_append_left back,
    none fun _ => List.mem_append_right front]
  rfl

end Timer

/-- The timetable of a timer that has come to the state `timer` by the moves of `history`. -/
structure Timetable (history : TimerHistory κ) (timer : Timer κ) : Prop where
  /-- No key is armed twice. -/
  keys : (timer.armed.map (·.key)).Nodup
  /-- No two appointments have the same number. -/
  sequences : (timer.agenda.map (·.sequence)).Nodup
  /-- As long as the worker has not died, an armed key that is not in flight has one appointment,
  which is its current one. -/
  booked : timer.worker ≠ .died → ∀ entry ∈ timer.armed, timer.firingKey? ≠ some entry.key →
    ∃ appointment, timer.appointmentsOf entry.key = [appointment] ∧
      appointment.sequence = entry.sequence
  /-- The key in flight has no appointment, and if it is armed it is a periodic one. -/
  flying : ∀ key, timer.firingKey? = some key → timer.appointmentsOf key = [] ∧
    ∀ entry ∈ timer.armed, entry.key = key → entry.cadence.isPeriodic = true
  /-- An appointment that is not current belongs to a key that is not armed. -/
  stale : ∀ appointment ∈ timer.agenda, timer.entryOf? appointment = none →
    timer.isArmed appointment.key = false
  /-- A one-shot key fires or is disarmed, and that at most once. -/
  oneShot : ∀ stride ∈ history, ∀ key cadence, stride.deed = .arm key cadence →
    cadence.isPeriodic = false → history.firingsOf key + history.disarmsOf key ≤ 1
  /-- A key that has been disarmed does not fire any more, whatever was in flight; it is not armed,
  and no appointment is made for it. -/
  disarmed : ∀ later stride earlier key, history = later ++ stride :: earlier →
    stride.deed = .disarm key → TimerHistory.firingsOf later key = 0 ∧
      timer.isArmed key = false ∧ timer.appointmentsOf key ⊆ stride.before.appointmentsOf key
  /-- Until the worker has ended, what is pending has been armed, and has neither been disarmed nor
  fired as a one-shot entry. -/
  pending : timer.worker ≠ .exited →
    timer.pending + history.disarms + history.onceFirings = history.arms

namespace TimerRun

variable {later earlier : TimerHistory κ} {stride : TimerStride κ} {timer : Timer κ}
  {key : TimerKey}

/-- A one-shot key fires or is disarmed at most once, and neither before it is armed. -/
theorem leaves_le_one (run : TimerRun (later ++ stride :: earlier) timer) {cadence : Cadence}
    (arms : stride.deed = .arm key cadence) (once : cadence.isPeriodic = false) :
    TimerHistory.firingsOf (later ++ stride :: earlier) key +
      TimerHistory.disarmsOf (later ++ stride :: earlier) key ≤ 1 := by
  obtain ⟨run, change, path⟩ := run.stride
  rw [arms] at change
  have fresh : stride.before.nextKey.number ≤ key.number := Nat.le_of_eq (by rw [change.key_of_arm])
  have after := path.leaves_le (Timer.OneShot.of_arm run.tidy once change)
  have before := run.leaves_eq_zero fresh
  have single := stride.after.remaining_le_one key
  simp only [TimerHistory.firingsOf, TimerHistory.disarmsOf, TimerHistory.tally_append,
    TimerHistory.tally_cons] at *
  rw [arms, before.1, before.2]
  simp only [TimerDeed.firesKey, TimerDeed.disarmsKey, Bool.false_eq_true, if_false]
  omega

/-- Nothing happens to a key that has been disarmed. -/
theorem of_disarmed (run : TimerRun (later ++ stride :: earlier) timer)
    (disarms : stride.deed = .disarm key) : TimerHistory.firingsOf later key = 0 ∧
      timer.isArmed key = false ∧ timer.appointmentsOf key ⊆ stride.before.appointmentsOf key := by
  obtain ⟨run, change, path⟩ := run.stride
  rw [disarms] at change
  obtain ⟨oneShot, spent⟩ := Timer.OneShot.of_disarm run.tidy change
  have leaves := path.leaves_le oneShot
  rw [spent] at leaves
  refine ⟨by omega, ?_, fun appointment member => ?_⟩
  · by_contra armed
    rw [Timer.remaining, if_pos (by simpa using armed)] at leaves
    omega
  · obtain ⟨member, own⟩ := Timer.mem_appointmentsOf.mp member
    refine Timer.mem_appointmentsOf.mpr ⟨?_, own⟩
    exact change.agenda_of_disarm ▸ path.mem_agenda oneShot member own

end TimerRun

/-- **Every state of a run has its timetable.** -/
theorem timetable_of_run {history : TimerHistory κ} {timer : Timer κ}
    (run : TimerRun history timer) : Timetable history timer where
  keys := run.tidy.armed
  sequences := run.tidy.numbered
  booked := by
    intro alive entry armed grounded
    obtain ⟨appointment, member, same⟩ := (run.tidy.listed alive entry armed).resolve_left grounded
    refine ⟨appointment, ?_, (run.tidy.current appointment member entry armed same.symm).symm⟩
    rw [← same]
    exact run.tidy.appointmentsOf_eq member
  flying := by
    intro key flies
    obtain ⟨appointment, cadence, firing, rfl⟩ := Timer.firingKey?_eq_some_iff.mp flies
    obtain ⟨-, unlisted, periodic⟩ := run.tidy.flying appointment cadence firing
    refine ⟨List.filter_eq_nil_iff.mpr fun other member same => ?_, fun entry armed own => ?_⟩
    · exact unlisted other member (beq_iff_eq.mp same)
    · obtain ⟨same, comesBack⟩ := periodic entry armed own
      rw [same, comesBack]
  stale := fun _ member stale => run.tidy.isArmed_of_stale member stale
  oneShot := by
    intro stride member key cadence arms once
    obtain ⟨later, earlier, rfl⟩ := List.append_of_mem member
    exact run.leaves_le_one arms once
  disarmed := by
    rintro later stride earlier key rfl disarms
    exact run.of_disarmed disarms
  pending := run.pending_balance

/-- The moves of three entries: a periodic one is disarmed during its callback, and of two one-shot
ones the first fires. -/
def revokedMoves : List (TimerMove Unit) :=
  [.arm ⟨0⟩ ⟨5⟩ (.fixedRate ⟨10⟩) (), .arm ⟨0⟩ ⟨5⟩ .once (), .arm ⟨1⟩ ⟨50⟩ .once (),
    .poll ⟨5⟩, .disarm ⟨0⟩, .conclude ⟨6⟩, .poll ⟨6⟩, .conclude ⟨7⟩]

/-- After `revokedMoves` one entry is left, and has its appointment. -/
theorem timetable_of_revoked : ∃ (history : TimerHistory Unit) (timer : Timer Unit),
    TimerRun history timer ∧ history.arms = 3 ∧ history.disarms = 1 ∧ history.onceFirings = 1 ∧
      timer.pending = 1 ∧ history.firingsOf ⟨1⟩ + history.disarmsOf ⟨1⟩ ≤ 1 ∧
      ∀ entry ∈ timer.armed, ∃ appointment, timer.appointmentsOf entry.key = [appointment] := by
  obtain ⟨history, timer, played, arms, disarms, firings, worker, armed⟩ : ∃ history timer,
      (Timer.start : Timer Unit).play revokedMoves = some (history, timer) ∧
        history.arms = 3 ∧ history.disarms = 1 ∧ history.onceFirings = 1 ∧
        timer.worker = .idle ∧ (history.map (·.deed))[6]? = some (.arm ⟨1⟩ .once) :=
    ⟨_, _, rfl, rfl, rfl, rfl, rfl, rfl⟩
  have table := timetable_of_run (TimerRun.of_play played)
  have pending := table.pending (by simp [worker])
  rw [disarms, firings, arms] at pending
  obtain ⟨stride, member, arms'⟩ := List.mem_map.mp (List.mem_of_getElem? armed)
  refine ⟨history, timer, .of_play played, arms, disarms, firings, by omega,
    table.oneShot stride member ⟨1⟩ .once arms' rfl, fun entry among => ?_⟩
  have grounded : timer.firingKey? ≠ some entry.key := by simp [Timer.firingKey?, worker]
  obtain ⟨appointment, only, -⟩ := table.booked (by simp [worker]) entry among grounded
  exact ⟨appointment, only⟩

end TaskBarrier
