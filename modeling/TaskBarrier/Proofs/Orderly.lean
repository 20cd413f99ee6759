import Mathlib.Data.List.Basic
import TaskBarrier.Timer.Facility
import TaskBarrier.Timer.Worker

/-!
# Orderly facilities

Both kinds of facility are looked at through their *entries*: the armed keys, each with the callback
that it calls and with whether it comes back.  What an operation does to a facility is said in terms
of its entries.

* Only arming adds an entry, under the next key.
* Disarming takes out the entries under a key, and a shutdown may take out all.
* Firing a one-shot entry takes it out before its callback is called, and firing a periodic one
  leaves it.

A facility is *orderly* if its numbers are: keys and sequence numbers are used once, in ascending
order, and the agenda of a timer is ordered.  Nothing that can be done to a facility brings it out
of order.

## Main Definitions

* `Entry`, `Facility.entries`: what is armed.
* `Timer.Orderly`, `Facility.Orderly`.
-/

namespace TaskBarrier

variable {κ : Type}

/-- An entry that is armed on a facility of whatever kind. -/
structure Entry (κ : Type) where
  key : TimerKey
  callback : κ
  /-- Whether the entry stays armed when it fires. -/
  periodic : Bool
  deriving DecidableEq

/-- An armed entry of a timer, without its appointment. -/
def ArmedEntry.entry (armed : ArmedEntry κ) : Entry κ :=
  ⟨armed.key, armed.callback, armed.cadence.isPeriodic⟩

/-- An entry of a registry, without its delay. -/
def Registration.entry (registered : Registration κ) : Entry κ :=
  ⟨registered.key, registered.callback, registered.cadence.isPeriodic⟩

/-- The callback that the worker is told to call, if it is told to call one. -/
def Polled.callback? : Polled κ → Option κ
  | firing _ callback => some callback
  | waiting _ | ended => none

/-! ## Agendas -/

theorem Appointment.precedes_trans {a b c : Appointment} (first : a.precedes b = true)
    (second : b.precedes c = true) : a.precedes c = true := by
  rw [precedes_iff] at first second ⊢
  omega

/-- Of two appointments with different numbers, one precedes the other. -/
theorem Appointment.precedes_of_not {a b : Appointment} (ne : a.sequence ≠ b.sequence)
    (not : ¬ a.precedes b = true) : b.precedes a = true := by
  rw [precedes_iff] at not ⊢
  omega

/-- A new appointment keeps an agenda in order. -/
theorem Agenda.Ordered.insert {agenda : Agenda} (ordered : agenda.Ordered) {a : Appointment}
    (new : ∀ b ∈ agenda, b.sequence < a.sequence) : (agenda.insert a).Ordered := by
  induction agenda with
  | nil => exact List.pairwise_singleton _ a
  | cons b rest ih =>
      obtain ⟨first, ordered⟩ := List.pairwise_cons.mp ordered
      rw [insert_cons]
      split
      · next precedes =>
        refine List.pairwise_cons.mpr ⟨fun c member => ?_, ih ordered fun c member =>
          new c (List.mem_cons_of_mem _ member)⟩
        rcases mem_insert.mp member with rfl | member
        · exact precedes
        · exact first c member
      · next not =>
        have before : a.precedes b = true :=
          Appointment.precedes_of_not (Nat.ne_of_lt (new b List.mem_cons_self)) not
        refine List.pairwise_cons.mpr ⟨fun c member => ?_, List.pairwise_cons.mpr ⟨first, ordered⟩⟩
        rcases List.mem_cons.mp member with rfl | member
        · exact before
        · exact Appointment.precedes_trans before (first c member)

/-! ## Timers -/

namespace Timer

/-- The numbers of a timer are used once, in ascending order, and its agenda is ordered. -/
structure Orderly (timer : Timer κ) : Prop where
  ordered : timer.agenda.Ordered
  numbered : ∀ appointment ∈ timer.agenda, appointment.sequence < timer.nextSequence
  booked : ∀ appointment ∈ timer.agenda, appointment.key.number < timer.nextKey.number
  drawn : ∀ armed ∈ timer.armed, armed.key.number < timer.nextKey.number

theorem mem_armed_remove {timer : Timer κ} {key : TimerKey} {armed : ArmedEntry κ} :
    armed ∈ (timer.remove key).armed ↔ armed ∈ timer.armed ∧ armed.key ≠ key := by
  simp [remove]

/-- What the worker finds is an armed entry with the key and the number of the appointment. -/
theorem of_entryOf? {timer : Timer κ} {appointment : Appointment} {armed : ArmedEntry κ}
    (current : timer.entryOf? appointment = some armed) :
    armed ∈ timer.armed ∧ armed.key = appointment.key ∧
      armed.sequence = appointment.sequence := by
  have same := List.find?_some current
  exact ⟨List.mem_of_find?_eq_some current, by simpa using same⟩

/-- The worker passes over the appointments that are no longer current, and stops at the first one
that is: it waits for it, or takes its entry if that is due. -/
theorem look_cases (timer : Timer κ) (now : Instant) (agenda : Agenda) :
    (∃ stale kept, agenda = stale ++ kept ∧ (∀ passed ∈ stale, timer.entryOf? passed = none) ∧
      (∀ first ∈ kept.head?, now.before first.due = true) ∧
      timer.look now agenda =
        (.waiting (kept.head?.map (·.due)), { timer with agenda := kept })) ∨
    (∃ stale first rest armed, agenda = stale ++ first :: rest ∧
      (∀ passed ∈ stale, timer.entryOf? passed = none) ∧ timer.entryOf? first = some armed ∧
      now.before first.due = false ∧
      timer.look now agenda =
        (.firing armed.key armed.callback, timer.take first rest armed)) := by
  induction agenda with
  | nil => exact .inl ⟨[], [], rfl, by simp, by simp, rfl⟩
  | cons first rest ih =>
      unfold look
      cases current : timer.entryOf? first with
      | none =>
          have further : ∀ {stale : Agenda}, (∀ passed ∈ stale, timer.entryOf? passed = none) →
              ∀ passed ∈ first :: stale, timer.entryOf? passed = none :=
            fun passes => List.forall_mem_cons.mpr ⟨current, passes⟩
          rcases ih with ⟨stale, kept, rfl, passes, waits, eq⟩ |
            ⟨stale, first', rest', armed, rfl, passes, current', due, eq⟩
          · exact .inl ⟨first :: stale, kept, rfl, further passes, waits, eq⟩
          · exact .inr
              ⟨first :: stale, first', rest', armed, rfl, further passes, current', due, eq⟩
      | some armed =>
          simp only
          split
          · next waits =>
            exact .inl ⟨[], first :: rest, rfl, by simp, by simpa using waits, rfl⟩
          · next due =>
            exact .inr ⟨[], first, rest, armed, rfl, by simp, current, by simpa using due, rfl⟩

/-- **What the worker does when it looks**: nothing unless it is between two callbacks; it ends
after a shutdown; and otherwise it waits, or takes an entry. -/
theorem poll_cases (timer : Timer κ) (now : Instant) :
    (timer.worker ≠ .idle ∧ timer.poll now = (.ended, timer)) ∨
    (timer.worker = .idle ∧ timer.isShutdown = true ∧ timer.poll now = (.ended, timer.exit)) ∨
    (timer.worker = .idle ∧ timer.isShutdown = false ∧ ∃ stale kept,
      timer.agenda = stale ++ kept ∧ (∀ passed ∈ stale, timer.entryOf? passed = none) ∧
      (∀ first ∈ kept.head?, now.before first.due = true) ∧
      timer.poll now = (.waiting (kept.head?.map (·.due)), { timer with agenda := kept })) ∨
    (timer.worker = .idle ∧ timer.isShutdown = false ∧ ∃ stale first rest armed,
      timer.agenda = stale ++ first :: rest ∧
      (∀ passed ∈ stale, timer.entryOf? passed = none) ∧ timer.entryOf? first = some armed ∧
      now.before first.due = false ∧
      timer.poll now = (.firing armed.key armed.callback, timer.take first rest armed)) := by
  unfold poll
  split
  · next firing => exact .inl ⟨by simp [firing], rfl⟩
  · next exited => exact .inl ⟨by simp [exited], rfl⟩
  · next died => exact .inl ⟨by simp [died], rfl⟩
  · next idle =>
    split
    · next down => exact .inr (.inl ⟨idle, down, rfl⟩)
    · next running =>
      have running : timer.isShutdown = false := by simpa using running
      rcases timer.look_cases now timer.agenda with waits | fires
      · exact .inr (.inr (.inl ⟨idle, running, waits⟩))
      · exact .inr (.inr (.inr ⟨idle, running, fires⟩))

theorem mem_armed_take {timer : Timer κ} {first : Appointment} {rest : Agenda}
    {taken armed : ArmedEntry κ} :
    armed ∈ (timer.take first rest taken).armed ↔
      armed ∈ timer.armed ∧ (taken.cadence.isPeriodic = false → armed.key ≠ taken.key) := by
  unfold take
  cases taken.cadence.isPeriodic <;> simp [mem_armed_remove]

@[simp] theorem nextKey_take (timer : Timer κ) (first : Appointment) (rest : Agenda)
    (taken : ArmedEntry κ) : (timer.take first rest taken).nextKey = timer.nextKey := by
  unfold take
  cases taken.cadence.isPeriodic <;> rfl

@[simp] theorem nextSequence_take (timer : Timer κ) (first : Appointment) (rest : Agenda)
    (taken : ArmedEntry κ) : (timer.take first rest taken).nextSequence = timer.nextSequence := by
  unfold take
  cases taken.cadence.isPeriodic <;> rfl

@[simp] theorem agenda_take (timer : Timer κ) (first : Appointment) (rest : Agenda)
    (taken : ArmedEntry κ) : (timer.take first rest taken).agenda = rest := rfl

/-- The worker comes back: it ends, goes on, or gives an armed entry its next appointment. -/
theorem conclude_cases (timer : Timer κ) (finished : Instant) :
    (∃ worker, timer.conclude finished = { timer with worker := worker }) ∨
    (∃ key due, timer.isArmed key = true ∧
      timer.conclude finished = ({ timer with worker := .idle } : Timer κ).rearm key due) := by
  unfold conclude
  split
  · next appointment cadence firing =>
    simp only
    split
    · exact .inl ⟨.idle, rfl⟩
    · next due _ =>
      by_cases armed : timer.isArmed appointment.key = true
      · exact .inr ⟨appointment.key, due, armed, rfl⟩
      · refine .inl ⟨.idle, rearm_of_not_isArmed ?_ due⟩
        simpa [isArmed] using armed
    · exact .inl ⟨.died, rfl⟩
  all_goals exact .inl ⟨timer.worker, rfl⟩

/-- Giving entries new appointments changes none of them otherwise. -/
theorem entries_conclude (timer : Timer κ) (finished : Instant) :
    (timer.conclude finished).armed.map (·.entry) = timer.armed.map (·.entry) := by
  rcases timer.conclude_cases finished with ⟨worker, eq⟩ | ⟨key, due, armed, eq⟩
  · rw [eq]
  · rw [eq, rearm]
    split
    · rw [List.map_map]
      refine List.map_congr_left fun entry _ => ?_
      simp only [Function.comp_apply]
      split <;> rfl
    · rfl

namespace Orderly

variable {timer : Timer κ}

/-- A part of the agenda is as much in order as the whole. -/
theorem transfer (orderly : timer.Orderly) {timer' : Timer κ}
    (agenda : timer'.agenda <:+ timer.agenda) (armed : ∀ entry ∈ timer'.armed, entry ∈ timer.armed)
    (nextSequence : timer'.nextSequence = timer.nextSequence)
    (nextKey : timer.nextKey.number ≤ timer'.nextKey.number) : timer'.Orderly where
  ordered := orderly.ordered.sublist agenda.sublist
  numbered := fun appointment member =>
    nextSequence ▸ orderly.numbered appointment (agenda.subset member)
  booked := fun appointment member =>
    Nat.lt_of_lt_of_le (orderly.booked appointment (agenda.subset member)) nextKey
  drawn := fun entry member => Nat.lt_of_lt_of_le (orderly.drawn entry (armed entry member)) nextKey

/-- Making an appointment for a key that has been drawn. -/
theorem schedule (orderly : timer.Orderly) {key : TimerKey}
    (drawn : key.number < timer.nextKey.number) (due : Instant) :
    (timer.schedule key due).Orderly where
  ordered := orderly.ordered.insert orderly.numbered
  numbered := by
    intro appointment member
    rcases Agenda.mem_insert.mp member with rfl | member
    · exact Nat.lt_succ_self _
    · exact Nat.lt_succ_of_lt (orderly.numbered appointment member)
  booked := by
    intro appointment member
    rcases Agenda.mem_insert.mp member with rfl | member
    · exact drawn
    · exact orderly.booked appointment member
  drawn := orderly.drawn

theorem arm (orderly : timer.Orderly) (now : Instant) (delay : Duration) (cadence : Cadence)
    (callback : κ) : (timer.arm now delay cadence callback).2.Orderly := by
  have drawn : ({ timer with nextKey := timer.nextKey.next } : Timer κ).Orderly :=
    orderly.transfer List.suffix_rfl (fun _ member => member) rfl (Nat.le_succ _)
  unfold Timer.arm
  split
  · exact orderly
  · simp only
    split
    · exact drawn
    · next due _ =>
      have booked : timer.nextKey.number < timer.nextKey.next.number := Nat.lt_succ_self _
      refine { drawn.schedule booked due with drawn := fun entry member => ?_ }
      rcases List.mem_append.mp member with old | new
      · exact drawn.drawn entry old
      · obtain rfl := List.mem_singleton.mp new
        exact booked

theorem disarm (orderly : timer.Orderly) (key : TimerKey) : (timer.disarm key).2.Orderly :=
  orderly.transfer List.suffix_rfl (fun _ member => (mem_armed_remove.mp member).1) rfl
    (Nat.le_refl _)

theorem shutdown (orderly : timer.Orderly) : timer.shutdown.2.Orderly := by
  unfold Timer.shutdown
  split
  · exact orderly
  · exact orderly.transfer List.suffix_rfl (fun _ member => member) rfl (Nat.le_refl _)

theorem poll (orderly : timer.Orderly) (now : Instant) : (timer.poll now).2.Orderly := by
  rcases timer.poll_cases now with ⟨-, eq⟩ | ⟨-, -, eq⟩ | ⟨-, -, stale, kept, agenda, -, -, eq⟩ |
    ⟨-, -, stale, first, rest, taken, agenda, -, -, -, eq⟩
  · rwa [eq]
  · rw [eq]
    exact orderly.transfer List.nil_suffix (fun _ member => absurd member List.not_mem_nil) rfl
      (Nat.le_refl _)
  · rw [eq]
    exact orderly.transfer ⟨stale, agenda.symm⟩ (fun _ member => member) rfl (Nat.le_refl _)
  · rw [eq]
    exact orderly.transfer ((List.suffix_cons first rest).trans ⟨stale, agenda.symm⟩)
      (fun _ member => (mem_armed_take.mp member).1) (by simp) (by simp)

theorem conclude (orderly : timer.Orderly) (finished : Instant) :
    (timer.conclude finished).Orderly := by
  have transfer : ∀ worker, ({ timer with worker := worker } : Timer κ).Orderly := fun worker =>
    orderly.transfer List.suffix_rfl (fun _ member => member) rfl (Nat.le_refl _)
  rcases timer.conclude_cases finished with ⟨worker, eq⟩ | ⟨key, due, armed, eq⟩
  · rw [eq]
    exact transfer worker
  · obtain ⟨holder, member, same⟩ := List.any_eq_true.mp armed
    have drawn : key.number < timer.nextKey.number :=
      beq_iff_eq.mp same ▸ orderly.drawn holder member
    rw [eq, rearm]
    split
    · refine { (transfer .idle).schedule drawn due with drawn := fun entry member => ?_ }
      -- An entry keeps its key when it gets its next appointment.
      obtain ⟨old, before, rfl⟩ := List.mem_map.mp member
      have below := orderly.drawn old before
      split <;> exact below
    · exact transfer .idle

end Orderly

end Timer

/-! ## Facilities -/

namespace Facility

/-- The entries that are armed on a facility. -/
def entries : Facility κ → List (Entry κ)
  | byHand registry => registry.entries.map (·.entry)
  | byClock timer => timer.armed.map (·.entry)

/-- The key that is drawn next. -/
def nextKey : Facility κ → TimerKey
  | byHand registry => registry.nextKey
  | byClock timer => timer.nextKey

/-- The numbers of a facility are used once, in ascending order. -/
def Orderly : Facility κ → Prop
  | byHand registry => ∀ registered ∈ registry.entries,
      registered.key.number < registry.nextKey.number
  | byClock timer => timer.Orderly

theorem arm_byHand (registry : Registry κ) (now : Instant) (delay : Duration) (cadence : Cadence)
    (callback : κ) : (byHand registry).arm now delay cadence callback =
      ((registry.arm delay cadence callback).1, byHand (registry.arm delay cadence callback).2) :=
  rfl

theorem arm_byClock (timer : Timer κ) (now : Instant) (delay : Duration) (cadence : Cadence)
    (callback : κ) : (byClock timer).arm now delay cadence callback =
      ((timer.arm now delay cadence callback).1,
        byClock (timer.arm now delay cadence callback).2) :=
  rfl

theorem shutdown_byClock (timer : Timer κ) :
    (byClock timer).shutdown = (some timer.shutdown.1, byClock timer.shutdown.2) := rfl

/-- Entries are armed under their keys. -/
theorem armedKeys_eq (facility : Facility κ) :
    facility.armedKeys = facility.entries.map (·.key) := by
  cases facility <;>
    simp [armedKeys, entries, Registry.keys, Function.comp_def, Registration.entry,
      ArmedEntry.entry]

/-- **What arming does**: it is refused, or it uses up a key, or it adds an entry under the next
key. -/
theorem arm_cases (facility : Facility κ) (now : Instant) (delay : Duration) (cadence : Cadence)
    (callback : κ) :
    ((facility.arm now delay cadence callback).1 = .refused ∧
      (facility.arm now delay cadence callback).2 = facility) ∨
    ((facility.arm now delay cadence callback).1 = .overflow ∧
      (facility.arm now delay cadence callback).2.entries = facility.entries) ∨
    ((facility.arm now delay cadence callback).1 = .armed facility.nextKey ∧
      (facility.arm now delay cadence callback).2.entries =
        facility.entries ++ [⟨facility.nextKey, callback, cadence.isPeriodic⟩]) := by
  cases facility with
  | byHand registry =>
      rw [arm_byHand, Registry.arm]
      split
      · exact .inl ⟨rfl, rfl⟩
      · exact .inr (.inr ⟨rfl, by simp [entries, nextKey, Registration.entry]⟩)
  | byClock timer =>
      rw [arm_byClock, Timer.arm]
      split
      · exact .inl ⟨rfl, rfl⟩
      · simp only
        split
        · exact .inr (.inl ⟨rfl, rfl⟩)
        · exact .inr (.inr ⟨rfl, by simp [entries, nextKey, ArmedEntry.entry]⟩)

theorem mem_entries_disarm {facility : Facility κ} {key : TimerKey} {entry : Entry κ} :
    entry ∈ (facility.disarm key).entries ↔ entry ∈ facility.entries ∧ entry.key ≠ key := by
  cases facility with
  | byHand registry =>
      simp only [disarm, entries, Registry.disarm, Registry.remove, List.mem_map, List.mem_filter]
      constructor
      · rintro ⟨registered, ⟨listed, other⟩, rfl⟩
        exact ⟨⟨registered, listed, rfl⟩, bne_iff_ne.mp other⟩
      · rintro ⟨⟨registered, listed, rfl⟩, other⟩
        exact ⟨registered, ⟨listed, bne_iff_ne.mpr other⟩, rfl⟩
  | byClock timer =>
      simp only [disarm, entries, Timer.disarm, List.mem_map, Timer.mem_armed_remove]
      constructor
      · rintro ⟨armed, ⟨listed, other⟩, rfl⟩
        exact ⟨⟨armed, listed, rfl⟩, other⟩
      · rintro ⟨⟨armed, listed, rfl⟩, other⟩
        exact ⟨armed, ⟨listed, other⟩, rfl⟩

/-- Disarming a number of keys, one after the other. -/
theorem mem_entries_disarms {facility : Facility κ} {keys : List TimerKey} {entry : Entry κ} :
    entry ∈ (keys.foldl disarm facility).entries ↔ entry ∈ facility.entries ∧ entry.key ∉ keys := by
  induction keys generalizing facility with
  | nil => simp
  | cons key keys ih =>
      rw [List.foldl_cons, ih, mem_entries_disarm, List.mem_cons, not_or, and_assoc]

theorem mem_entries_shutdown {facility : Facility κ} {entry : Entry κ}
    (member : entry ∈ facility.shutdown.2.entries) : entry ∈ facility.entries := by
  cases facility with
  | byHand registry => cases member
  | byClock timer =>
      rw [shutdown_byClock, Timer.shutdown] at member
      split at member <;> exact member

/-- The entry `fired` is fired: if it is a one-shot one it is taken out, and all others stay. -/
structure Fires (before after : Facility κ) (fired : Entry κ) : Prop where
  listed : fired ∈ before.entries
  mem_iff : ∀ entry, entry ∈ after.entries ↔
    entry ∈ before.entries ∧ (fired.periodic = false → entry.key ≠ fired.key)

/-- **Firing an entry of a registry** calls the callback of an entry. -/
theorem of_fire? {registry after : Registry κ} {key : TimerKey} {callback : κ}
    (fires : registry.fire? key = some (callback, after)) :
    ∃ fired, (byHand registry).Fires (byHand after) fired ∧ fired.callback = callback := by
  unfold Registry.fire? at fires
  split at fires
  · cases fires
  · next registered found =>
    obtain ⟨rfl, rfl⟩ := Prod.mk.inj (Option.some.inj fires)
    have same : registered.key = key := by simpa using List.find?_some found
    refine ⟨registered.entry, ⟨List.mem_map_of_mem (List.mem_of_find?_eq_some found), ?_⟩, rfl⟩
    intro entry
    split
    · next periodic => simp [Registration.entry, periodic]
    · next once =>
      have once : registered.entry.periodic = false := by simpa [Registration.entry] using once
      have disarmed : entry ∈ ((byHand registry).disarm key).entries ↔
          entry ∈ (byHand registry).entries ∧ entry.key ≠ key := mem_entries_disarm
      rw [once, show registered.entry.key = key from same]
      exact disarmed.trans (and_congr_right fun _ => ⟨fun other _ => other, fun other => other rfl⟩)

/-- **The worker that looks** calls the callback of an entry, or none.  If it calls none it leaves
all entries armed, unless the timer has been shut down. -/
theorem of_poll {timer after : Timer κ} {now : Instant} {polled : Polled κ}
    (looks : timer.poll now = (polled, after)) :
    (polled.callback? = none ∧ ((byClock after).entries = (byClock timer).entries ∨
      timer.isShutdown = true ∧ (byClock after).entries = [])) ∨
    ∃ fired, (byClock timer).Fires (byClock after) fired ∧
      polled.callback? = some fired.callback := by
  rcases timer.poll_cases now with ⟨-, eq⟩ | ⟨-, down, eq⟩ | ⟨-, -, _, _, -, -, -, eq⟩ |
    ⟨-, -, _, first, rest, taken, -, -, current, -, eq⟩
  all_goals
    obtain ⟨rfl, rfl⟩ := Prod.mk.inj (looks.symm.trans eq)
  · exact .inl ⟨rfl, .inl rfl⟩
  · exact .inl ⟨rfl, .inr ⟨down, rfl⟩⟩
  · exact .inl ⟨rfl, .inl rfl⟩
  · refine .inr ⟨taken.entry, ⟨List.mem_map_of_mem (Timer.of_entryOf? current).1, ?_⟩, rfl⟩
    intro entry
    simp only [entries, List.mem_map, Timer.mem_armed_take]
    constructor
    · rintro ⟨armed, ⟨listed, other⟩, rfl⟩
      exact ⟨⟨armed, listed, rfl⟩, other⟩
    · rintro ⟨⟨armed, listed, rfl⟩, other⟩
      exact ⟨armed, ⟨listed, other⟩, rfl⟩

namespace Orderly

variable {facility : Facility κ}

theorem arm (orderly : facility.Orderly) (now : Instant) (delay : Duration) (cadence : Cadence)
    (callback : κ) : (facility.arm now delay cadence callback).2.Orderly := by
  cases facility with
  | byHand registry =>
      rw [arm_byHand, Registry.arm]
      split
      · exact orderly
      · intro registered member
        rcases List.mem_append.mp member with old | new
        · exact Nat.lt_succ_of_lt (orderly registered old)
        · obtain rfl := List.mem_singleton.mp new
          exact Nat.lt_succ_self _
  | byClock timer => exact Timer.Orderly.arm orderly now delay cadence callback

theorem disarm (orderly : facility.Orderly) (key : TimerKey) : (facility.disarm key).Orderly := by
  cases facility with
  | byHand registry =>
      exact fun registered member => orderly registered (List.mem_of_mem_filter member)
  | byClock timer => exact Timer.Orderly.disarm orderly key

theorem disarms (orderly : facility.Orderly) (keys : List TimerKey) :
    (keys.foldl Facility.disarm facility).Orderly := by
  induction keys generalizing facility with
  | nil => exact orderly
  | cons key keys ih => exact ih (orderly.disarm key)

theorem shutdown (orderly : facility.Orderly) : facility.shutdown.2.Orderly := by
  cases facility with
  | byHand registry => exact fun _ member => nomatch member
  | byClock timer => exact Timer.Orderly.shutdown orderly

theorem fire? {registry after : Registry κ} {key : TimerKey} {callback : κ}
    (orderly : (byHand registry).Orderly) (fires : registry.fire? key = some (callback, after)) :
    (byHand after).Orderly := by
  unfold Registry.fire? at fires
  split at fires
  · cases fires
  · obtain ⟨-, rfl⟩ := Prod.mk.inj (Option.some.inj fires)
    split
    · exact orderly
    · exact orderly.disarm key

end Orderly

/-! ## Numbers go up, and a shutdown is for good -/

/-- What every operation keeps of a facility: keys are drawn in ascending order, and a facility that
has been shut down stays so. -/
structure Later (before after : Facility κ) : Prop where
  nextKey : before.nextKey.number ≤ after.nextKey.number
  isShutdown : before.isShutdown = true → after.isShutdown = true

theorem Later.refl (facility : Facility κ) : facility.Later facility := ⟨Nat.le_refl _, id⟩

theorem Later.trans {first second third : Facility κ} (before : first.Later second)
    (after : second.Later third) : first.Later third :=
  ⟨Nat.le_trans before.nextKey after.nextKey, fun down => after.isShutdown (before.isShutdown down)⟩

theorem later_arm (facility : Facility κ) (now : Instant) (delay : Duration) (cadence : Cadence)
    (callback : κ) : facility.Later (facility.arm now delay cadence callback).2 := by
  cases facility with
  | byHand registry =>
      rw [arm_byHand, Registry.arm]
      split
      · exact .refl _
      · exact ⟨Nat.le_succ _, id⟩
  | byClock timer =>
      rw [arm_byClock, Timer.arm]
      split
      · exact .refl _
      · simp only
        split <;> exact ⟨Nat.le_succ _, id⟩

/-- An entry that is armed uses up its key. -/
theorem nextKey_arm {facility : Facility κ} {now : Instant} {delay : Duration} {cadence : Cadence}
    {callback : κ} {key : TimerKey}
    (armed : (facility.arm now delay cadence callback).1 = .armed key) :
    (facility.arm now delay cadence callback).2.nextKey = facility.nextKey.next := by
  cases facility with
  | byHand registry =>
      rw [arm_byHand, Registry.arm] at armed ⊢
      split at armed
      · cases armed
      · next running =>
        rw [if_neg running]
        rfl
  | byClock timer =>
      rw [arm_byClock, Timer.arm] at armed ⊢
      split at armed
      · cases armed
      · next running =>
        rw [if_neg running]
        simp only
        split <;> rfl

theorem later_disarm (facility : Facility κ) (key : TimerKey) :
    facility.Later (facility.disarm key) := by
  cases facility <;> exact ⟨Nat.le_refl _, id⟩

theorem later_disarms (facility : Facility κ) (keys : List TimerKey) :
    facility.Later (keys.foldl disarm facility) := by
  induction keys generalizing facility with
  | nil => exact .refl facility
  | cons key keys ih => exact (facility.later_disarm key).trans (ih (facility.disarm key))

/-- Disarming shuts nothing down. -/
theorem isShutdown_disarms (facility : Facility κ) (keys : List TimerKey) :
    (keys.foldl disarm facility).isShutdown = facility.isShutdown := by
  induction keys generalizing facility with
  | nil => rfl
  | cons key keys ih =>
      rw [List.foldl_cons, ih]
      cases facility <;> rfl

/-- A facility that has been asked to shut down has been shut down. -/
theorem isShutdown_shutdown (facility : Facility κ) : facility.shutdown.2.isShutdown = true := by
  cases facility with
  | byHand registry => rfl
  | byClock timer =>
      rw [shutdown_byClock, Timer.shutdown]
      split
      · next down => exact down
      · rfl

theorem later_shutdown (facility : Facility κ) : facility.Later facility.shutdown.2 := by
  refine ⟨?_, fun _ => facility.isShutdown_shutdown⟩
  cases facility with
  | byHand registry => exact Nat.le_refl _
  | byClock timer =>
      rw [shutdown_byClock, Timer.shutdown]
      split <;> exact Nat.le_refl _

theorem later_fire? {registry after : Registry κ} {key : TimerKey} {callback : κ}
    (fires : registry.fire? key = some (callback, after)) :
    (byHand registry).Later (byHand after) := by
  unfold Registry.fire? at fires
  split at fires
  · cases fires
  · obtain ⟨-, rfl⟩ := Prod.mk.inj (Option.some.inj fires)
    split <;> exact ⟨Nat.le_refl _, id⟩

theorem later_poll (timer : Timer κ) (now : Instant) :
    (byClock timer).Later (byClock (timer.poll now).2) := by
  rcases timer.poll_cases now with ⟨-, eq⟩ | ⟨-, -, eq⟩ | ⟨-, -, _, _, -, -, -, eq⟩ |
    ⟨-, -, _, _, _, taken, -, -, -, -, eq⟩
  all_goals rw [eq]
  · exact .refl _
  · exact ⟨Nat.le_refl _, id⟩
  · exact ⟨Nat.le_refl _, id⟩
  · refine ⟨by simp [nextKey], fun down => ?_⟩
    show (Timer.take ..).isShutdown = true
    unfold Timer.take
    cases taken.cadence.isPeriodic <;> exact down

theorem later_conclude (timer : Timer κ) (finished : Instant) :
    (byClock timer).Later (byClock (timer.conclude finished)) := by
  rcases timer.conclude_cases finished with ⟨_, eq⟩ | ⟨_, _, -, eq⟩
  · rw [eq]
    exact ⟨Nat.le_refl _, id⟩
  · rw [eq, Timer.rearm]
    split <;> exact ⟨Nat.le_refl _, id⟩

end Facility

end TaskBarrier
