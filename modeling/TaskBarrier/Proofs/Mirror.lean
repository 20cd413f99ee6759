import TaskBarrier.Proofs.Orderly
import TaskBarrier.Proofs.Shift

/-!
# Facilities that mirror each other

A used facility *mirrors* a fresh one if it does for shifted keys what the fresh one does for the
keys themselves, now and after any further operation on both.  The two need not be the same up to
the shift, since a used facility may have kept something of what went on before.

* A registry may have kept entries under old keys.  They call callbacks of old tasks.
* A timer may have kept appointments for old keys in its agenda, but no entries.  So the worker
  passes over the appointments, and since an agenda is ordered, they do not come between a new
  appointment and its place.

## Main Definitions

* `Shift.appointment`, `Shift.armedEntry`, `Shift.polled`, and so on.
* `Timer.Mirrors`, `Facility.Mirrors`.

Each operation has its fact: what the two answer is the same up to the shift, and they mirror each
other afterwards.
-/

namespace TaskBarrier

namespace Shift

variable (σ : Shift)

/-- Moves an appointment. -/
def appointment (a : Appointment) : Appointment := ⟨a.due, σ.sequences + a.sequence, σ.key a.key⟩

/-- Moves an armed entry of a timer. -/
def armedEntry (armed : ArmedEntry TaskId) : ArmedEntry TaskId :=
  ⟨σ.key armed.key, σ.id armed.callback, armed.cadence, σ.sequences + armed.sequence⟩

/-- Moves an entry of a registry. -/
def registration (registered : Registration TaskId) : Registration TaskId :=
  ⟨σ.key registered.key, registered.delay, registered.cadence, σ.id registered.callback⟩

/-- Moves the key in what a worker is doing. -/
def worker : WorkerState → WorkerState
  | .firing appointment cadence => .firing (σ.appointment appointment) cadence
  | .idle => .idle
  | .exited => .exited
  | .died => .died

/-- Moves the numbers in what a worker finds. -/
def polled : Polled TaskId → Polled TaskId
  | .firing key callback => .firing (σ.key key) (σ.id callback)
  | .waiting wake => .waiting wake
  | .ended => .ended

/-- Moves the key under which an entry is armed. -/
def arming : Arming → Arming
  | .armed key => .armed (σ.key key)
  | .refused => .refused
  | .overflow => .overflow

@[simp] theorem key_appointment (a : Appointment) : (σ.appointment a).key = σ.key a.key := rfl

@[simp] theorem precedes_appointment (a b : Appointment) :
    (σ.appointment a).precedes (σ.appointment b) = a.precedes b := by
  simp [Appointment.precedes, appointment]

/-- Making an appointment commutes with a shift. -/
theorem insert_appointment (a : Appointment) (agenda : Agenda) :
    Agenda.insert (σ.appointment a) (agenda.map σ.appointment) =
      (agenda.insert a).map σ.appointment := by
  induction agenda with
  | nil => rfl
  | cons b rest ih =>
      rw [List.map_cons, Agenda.insert_cons, Agenda.insert_cons, precedes_appointment]
      split
      · rw [ih, List.map_cons]
      · rfl

end Shift

/-! ## Agendas -/

namespace Agenda

/-- An appointment that is preceded by none goes to the front. -/
theorem insert_of_first {a : Appointment} {agenda : Agenda}
    (first : ∀ b ∈ agenda, b.precedes a = false) : agenda.insert a = a :: agenda := by
  cases agenda with
  | nil => rfl
  | cons b rest => rw [insert_cons, first b List.mem_cons_self, if_neg Bool.false_ne_true]

/-- **Making an appointment in a part of an ordered agenda** is making it in the whole. -/
theorem Ordered.filter_insert {agenda : Agenda} (ordered : agenda.Ordered) {a : Appointment}
    {keeps : Appointment → Bool} (kept : keeps a = true) :
    (agenda.insert a).filter keeps = Agenda.insert a (agenda.filter keeps) := by
  induction agenda with
  | nil => simp [kept]
  | cons b rest ih =>
      obtain ⟨before, ordered⟩ := List.pairwise_cons.mp ordered
      rw [insert_cons]
      by_cases precedes : b.precedes a = true
      · rw [if_pos precedes, List.filter_cons, List.filter_cons, ih ordered]
        split
        · rw [insert_cons, if_pos precedes]
        · rfl
      · -- What stands behind `b` does not precede `a`, or else `b` would.
        have first : ∀ c ∈ (b :: rest).filter keeps, c.precedes a = false := by
          intro c member
          rcases List.mem_cons.mp (List.mem_of_mem_filter member) with rfl | behind
          · simpa using precedes
          · by_contra sooner
            exact precedes (Appointment.precedes_trans (before c behind) (by simpa using sooner))
        rw [if_neg precedes, List.filter_cons, if_pos kept, insert_of_first first]

end Agenda

/-! ## Timers -/

namespace Timer

/-- The used timer does for shifted keys what the fresh one does. -/
structure Mirrors (σ : Shift) (used fresh : Timer TaskId) : Prop where
  orderly : used.Orderly
  armed : used.armed = fresh.armed.map σ.armedEntry
  /-- Appointments for old keys may be left over. -/
  agenda : (used.agenda.filter fun a => !σ.isOldKey a.key) = fresh.agenda.map σ.appointment
  nextKey : used.nextKey = σ.key fresh.nextKey
  nextSequence : used.nextSequence = σ.sequences + fresh.nextSequence
  worker : used.worker = σ.worker fresh.worker
  isShutdown : used.isShutdown = fresh.isShutdown

namespace Mirrors

variable {σ : Shift} {used fresh : Timer TaskId}

theorem isArmed (mirrors : Mirrors σ used fresh) (key : TimerKey) :
    used.isArmed (σ.key key) = fresh.isArmed key := by
  unfold Timer.isArmed
  rw [mirrors.armed, List.any_map]
  refine congrArg (List.any fresh.armed) (funext fun armed => ?_)
  exact σ.key_beq armed.key key

theorem entryOf? (mirrors : Mirrors σ used fresh) (a : Appointment) :
    used.entryOf? (σ.appointment a) = (fresh.entryOf? a).map σ.armedEntry := by
  unfold Timer.entryOf?
  rw [mirrors.armed, List.find?_map]
  congr 2
  funext armed
  rw [Bool.eq_iff_iff]
  simp [Shift.armedEntry, Shift.appointment]

/-- No appointment for an old key is current. -/
theorem entryOf?_of_isOldKey (mirrors : Mirrors σ used fresh) {a : Appointment}
    (old : σ.isOldKey a.key = true) : used.entryOf? a = none := by
  unfold Timer.entryOf?
  rw [mirrors.armed, List.find?_eq_none]
  intro armed member
  obtain ⟨entry, -, rfl⟩ := List.mem_map.mp member
  simp [Shift.armedEntry, σ.key_ne_of_isOldKey old]

theorem firingKey? (mirrors : Mirrors σ used fresh) :
    used.firingKey? = fresh.firingKey?.map σ.key := by
  unfold Timer.firingKey?
  rw [mirrors.worker]
  cases fresh.worker <;> rfl

theorem isFiring (mirrors : Mirrors σ used fresh) : used.isFiring = fresh.isFiring := by
  simp [Timer.isFiring, mirrors.firingKey?]

theorem remove (mirrors : Mirrors σ used fresh) (key : TimerKey) :
    Mirrors σ (used.remove (σ.key key)) (fresh.remove key) where
  orderly := mirrors.orderly.disarm (σ.key key)
  armed := by
    simp only [Timer.remove, mirrors.armed, List.filter_map]
    congr 2
    funext armed
    simp [Shift.armedEntry, bne]
  agenda := mirrors.agenda
  nextKey := mirrors.nextKey
  nextSequence := mirrors.nextSequence
  worker := mirrors.worker
  isShutdown := mirrors.isShutdown

theorem schedule (mirrors : Mirrors σ used fresh) {key : TimerKey}
    (drawn : (σ.key key).number < used.nextKey.number) (due : Instant) :
    Mirrors σ (used.schedule (σ.key key) due) (fresh.schedule key due) where
  orderly := mirrors.orderly.schedule drawn due
  armed := mirrors.armed
  agenda := by
    have moved : (⟨due, used.nextSequence, σ.key key⟩ : Appointment) =
        σ.appointment ⟨due, fresh.nextSequence, key⟩ := by
      rw [mirrors.nextSequence]
      rfl
    simp only [Timer.schedule]
    rw [mirrors.orderly.ordered.filter_insert (by simp), mirrors.agenda, moved,
      σ.insert_appointment]
  nextKey := mirrors.nextKey
  nextSequence := by
    simp only [Timer.schedule]
    rw [mirrors.nextSequence]
    rfl
  worker := mirrors.worker
  isShutdown := mirrors.isShutdown

theorem setWorker (mirrors : Mirrors σ used fresh) (worker : WorkerState) :
    Mirrors σ { used with worker := σ.worker worker } { fresh with worker := worker } where
  orderly := mirrors.orderly.transfer List.suffix_rfl (fun _ member => member) rfl (Nat.le_refl _)
  armed := mirrors.armed
  agenda := mirrors.agenda
  nextKey := mirrors.nextKey
  nextSequence := mirrors.nextSequence
  worker := rfl
  isShutdown := mirrors.isShutdown

/-- **Arming.** -/
theorem arm (mirrors : Mirrors σ used fresh) (now : Instant) (delay : Duration)
    (cadence : Cadence) (callback : TaskId) :
    (used.arm now delay cadence (σ.id callback)).1 =
        σ.arming (fresh.arm now delay cadence callback).1 ∧
      Mirrors σ (used.arm now delay cadence (σ.id callback)).2
        (fresh.arm now delay cadence callback).2 := by
  have drawn : Mirrors σ { used with nextKey := used.nextKey.next }
      { fresh with nextKey := fresh.nextKey.next } :=
    { mirrors with
      orderly := mirrors.orderly.transfer List.suffix_rfl (fun _ member => member) rfl
        (Nat.le_succ _)
      nextKey := by rw [mirrors.nextKey]; rfl }
  by_cases down : fresh.isShutdown = true
  · rw [Timer.arm_of_isShutdown down, Timer.arm_of_isShutdown (mirrors.isShutdown.trans down)]
    exact ⟨rfl, mirrors⟩
  · have up : ¬ used.isShutdown = true := by rwa [mirrors.isShutdown]
    unfold Timer.arm
    rw [if_neg down, if_neg up]
    cases now.after? delay with
    | none => exact ⟨rfl, drawn⟩
    | some due =>
        have key := mirrors.nextKey
        have below : (σ.key fresh.nextKey).number < used.nextKey.next.number := by
          rw [key]
          exact Nat.lt_succ_self _
        have scheduled := drawn.schedule below due
        rw [← key] at scheduled
        refine ⟨congrArg Arming.armed key, { scheduled with orderly := ?_, armed := ?_ }⟩
        · refine { scheduled.orderly with drawn := fun armed member => ?_ }
          rcases List.mem_append.mp member with old | new
          · exact Nat.lt_succ_of_lt (mirrors.orderly.drawn armed old)
          · obtain rfl := List.mem_singleton.mp new
            exact Nat.lt_succ_self _
        · simp only [mirrors.armed, List.map_append, List.map_cons, List.map_nil, key,
            mirrors.nextSequence]
          rfl

/-- **A shutdown.** -/
theorem shutdown (mirrors : Mirrors σ used fresh) :
    used.shutdown.1 = fresh.shutdown.1 ∧ Mirrors σ used.shutdown.2 fresh.shutdown.2 := by
  unfold Timer.shutdown
  by_cases down : fresh.isShutdown = true
  · rw [if_pos down, if_pos (mirrors.isShutdown.trans down)]
    exact ⟨rfl, mirrors⟩
  · rw [if_neg down, if_neg (by rwa [mirrors.isShutdown]), mirrors.isFiring]
    exact ⟨rfl, { mirrors with
      orderly := mirrors.orderly.transfer List.suffix_rfl (fun _ member => member) rfl
        (Nat.le_refl _)
      isShutdown := rfl }⟩

/-- A part of the agenda. -/
theorem setAgenda (mirrors : Mirrors σ used fresh) {agenda agenda' : Agenda}
    (suffix : agenda <:+ used.agenda)
    (same : (agenda.filter fun a => !σ.isOldKey a.key) = agenda'.map σ.appointment) :
    Mirrors σ { used with agenda := agenda } { fresh with agenda := agenda' } :=
  { mirrors with
    orderly := mirrors.orderly.transfer suffix (fun _ member => member) rfl (Nat.le_refl _)
    agenda := same }

theorem take (mirrors : Mirrors σ used fresh) {first : Appointment} {rest rest' : Agenda}
    (suffix : rest <:+ used.agenda)
    (same : (rest.filter fun a => !σ.isOldKey a.key) = rest'.map σ.appointment)
    (taken : ArmedEntry TaskId) :
    Mirrors σ (used.take (σ.appointment first) rest (σ.armedEntry taken))
      (fresh.take first rest' taken) := by
  have periodic : (σ.armedEntry taken).cadence.isPeriodic = taken.cadence.isPeriodic := rfl
  unfold Timer.take
  rw [periodic]
  by_cases stays : taken.cadence.isPeriodic = true
  · simp only [if_pos stays]
    exact (mirrors.setAgenda suffix same).setWorker (.firing first taken.cadence)
  · simp only [if_neg stays]
    exact ((mirrors.remove taken.key).setAgenda suffix same).setWorker
      (.firing first taken.cadence)

/-- The way of the worker through the agenda: appointments for old keys are passed over. -/
theorem look (mirrors : Mirrors σ used fresh) (now : Instant) {agenda agenda' : Agenda}
    (suffix : agenda <:+ used.agenda)
    (same : (agenda.filter fun a => !σ.isOldKey a.key) = agenda'.map σ.appointment) :
    (used.look now agenda).1 = σ.polled (fresh.look now agenda').1 ∧
      Mirrors σ (used.look now agenda).2 (fresh.look now agenda').2 := by
  induction agenda generalizing agenda' with
  | nil =>
      obtain rfl : agenda' = [] := List.map_eq_nil_iff.mp same.symm
      exact ⟨rfl, mirrors.setAgenda suffix rfl⟩
  | cons a rest ih =>
      have shorter := (List.suffix_cons a rest).trans suffix
      by_cases old : σ.isOldKey a.key = true
      · have passed : (used.look now (a :: rest)) = used.look now rest := by
          rw [Timer.look, mirrors.entryOf?_of_isOldKey old]
        rw [passed]
        refine ih shorter ?_
        simpa [old] using same
      · rw [List.filter_cons, if_pos (by simpa using old)] at same
        cases agenda' with
        | nil => cases same
        | cons b rest' =>
            obtain ⟨rfl, same'⟩ := List.cons.inj same
            rw [Timer.look, Timer.look, mirrors.entryOf?]
            cases fresh.entryOf? b with
            | none => exact ih shorter same'
            | some armed =>
                simp only [Option.map_some]
                by_cases early : now.before b.due = true
                · have early' : now.before (σ.appointment b).due = true := early
                  rw [if_pos early, if_pos early']
                  refine ⟨rfl, mirrors.setAgenda suffix ?_⟩
                  rw [List.filter_cons, if_pos (by simp), same', List.map_cons]
                · have late : ¬ now.before (σ.appointment b).due = true := early
                  rw [if_neg early, if_neg late]
                  exact ⟨rfl, mirrors.take shorter same' armed⟩

/-- **The worker looks.** -/
theorem poll (mirrors : Mirrors σ used fresh) (now : Instant) :
    (used.poll now).1 = σ.polled (fresh.poll now).1 ∧
      Mirrors σ (used.poll now).2 (fresh.poll now).2 := by
  unfold Timer.poll
  rw [mirrors.worker]
  cases working : fresh.worker with
  | firing | exited | died => exact ⟨rfl, mirrors⟩
  | idle =>
      simp only [Shift.worker]
      rw [mirrors.isShutdown]
      split
      · exact ⟨rfl, { mirrors with
          orderly := mirrors.orderly.transfer List.nil_suffix
            (fun _ member => absurd member List.not_mem_nil) rfl (Nat.le_refl _)
          armed := rfl
          agenda := rfl
          worker := rfl }⟩
      · exact mirrors.look now List.suffix_rfl mirrors.agenda

theorem rearm (mirrors : Mirrors σ used fresh) (key : TimerKey) (due : Instant) :
    Mirrors σ (used.rearm (σ.key key) due) (fresh.rearm key due) := by
  unfold Timer.rearm
  rw [mirrors.isArmed]
  by_cases armed : fresh.isArmed key = true
  · have holder := armed
    rw [← mirrors.isArmed] at holder
    obtain ⟨entry, listed, same⟩ := List.any_eq_true.mp holder
    have below : (σ.key key).number < used.nextKey.number :=
      beq_iff_eq.mp same ▸ mirrors.orderly.drawn entry listed
    have scheduled := mirrors.schedule below due
    rw [if_pos armed, if_pos armed]
    refine { scheduled with orderly := ?_, armed := ?_ }
    · refine { scheduled.orderly with drawn := fun entry member => ?_ }
      obtain ⟨old, before, rfl⟩ := List.mem_map.mp member
      have below := mirrors.orderly.drawn old before
      split <;> exact below
    · simp only [mirrors.armed, List.map_map]
      refine List.map_congr_left fun entry _ => ?_
      simp only [Function.comp_apply, Shift.armedEntry, Shift.key_beq, mirrors.nextSequence]
      split <;> rfl
  · rw [if_neg armed, if_neg armed]
    exact mirrors

/-- **The worker comes back.** -/
theorem conclude (mirrors : Mirrors σ used fresh) (finished : Instant) :
    Mirrors σ (used.conclude finished) (fresh.conclude finished) := by
  unfold Timer.conclude
  rw [mirrors.worker]
  cases working : fresh.worker with
  | idle | exited | died => exact mirrors
  | firing appointment cadence =>
      simp only [Shift.worker]
      have due : (σ.appointment appointment).due = appointment.due := rfl
      rw [due]
      split
      · exact mirrors.setWorker .idle
      · exact (mirrors.setWorker .idle).rearm appointment.key _
      · exact mirrors.setWorker .died

end Mirrors

end Timer

/-! ## Registries -/

namespace Registry

/-- The used registry does for shifted keys what the fresh one does. -/
structure Mirrors (σ : Shift) (used fresh : Registry TaskId) : Prop where
  /-- Entries under old keys may be left over. -/
  entries : ∃ past, (∀ registered ∈ past, σ.isOldKey registered.key = true ∧
      σ.isOld registered.callback = true) ∧
    used.entries = past ++ fresh.entries.map σ.registration
  nextKey : used.nextKey = σ.key fresh.nextKey
  isShutdown : used.isShutdown = fresh.isShutdown

namespace Mirrors

variable {σ : Shift} {used fresh : Registry TaskId}

/-- No entry that is left over has a shifted key. -/
theorem find? (mirrors : Mirrors σ used fresh) (key : TimerKey) :
    used.find? (σ.key key) = (fresh.find? key).map σ.registration := by
  obtain ⟨past, old, entries⟩ := mirrors.entries
  have absent : past.find? (·.key == σ.key key) = none := by
    rw [List.find?_eq_none]
    intro registered member same
    exact σ.key_ne_of_isOldKey (old registered member).1 (beq_iff_eq.mp same).symm
  unfold Registry.find?
  rw [entries, List.find?_append, absent, Option.none_or, List.find?_map]
  congr 2
  funext registered
  simp [Shift.registration]

/-- An entry with an old key is left over, and calls the callback of an old task. -/
theorem isOld_of_find? (mirrors : Mirrors σ used fresh) {key : TimerKey}
    (oldKey : σ.isOldKey key = true) {registered : Registration TaskId}
    (found : used.find? key = some registered) : σ.isOld registered.callback = true := by
  obtain ⟨past, old, entries⟩ := mirrors.entries
  have same : registered.key = key := by simpa using List.find?_some found
  have listed := List.mem_of_find?_eq_some found
  rw [entries] at listed
  rcases List.mem_append.mp listed with kept | new
  · exact (old registered kept).2
  · obtain ⟨entry, -, rfl⟩ := List.mem_map.mp new
    exact absurd same (σ.key_ne_of_isOldKey oldKey)

theorem arm (mirrors : Mirrors σ used fresh) (delay : Duration) (cadence : Cadence)
    (callback : TaskId) :
    (used.arm delay cadence (σ.id callback)).1 = σ.arming (fresh.arm delay cadence callback).1 ∧
      Mirrors σ (used.arm delay cadence (σ.id callback)).2
        (fresh.arm delay cadence callback).2 := by
  unfold Registry.arm
  by_cases down : fresh.isShutdown = true
  · rw [if_pos down, if_pos (mirrors.isShutdown.trans down)]
    exact ⟨rfl, mirrors⟩
  · rw [if_neg down, if_neg (by rwa [mirrors.isShutdown])]
    obtain ⟨past, old, entries⟩ := mirrors.entries
    refine ⟨congrArg Arming.armed mirrors.nextKey, ⟨past, old, ?_⟩, ?_, mirrors.isShutdown⟩
    · simp only [entries, mirrors.nextKey, List.map_append, List.append_assoc, List.map_cons,
        List.map_nil]
      rfl
    · simp only [mirrors.nextKey]
      rfl

/-- An entry is removed under its shifted key. -/
theorem remove (mirrors : Mirrors σ used fresh) (key : TimerKey) :
    Mirrors σ (used.remove (σ.key key)) (fresh.remove key) where
  entries := by
    obtain ⟨past, old, entries⟩ := mirrors.entries
    refine ⟨past.filter (·.key != σ.key key),
      fun registered member => old registered (List.mem_of_mem_filter member), ?_⟩
    simp only [Registry.remove, entries, List.filter_append, List.filter_map]
    congr 3
    funext registered
    simp [Shift.registration, bne]
  nextKey := mirrors.nextKey
  isShutdown := mirrors.isShutdown

/-- The fresh registry has no entry under an old key. -/
theorem remove_of_isOldKey (mirrors : Mirrors σ used fresh) {key : TimerKey}
    (oldKey : σ.isOldKey key = true) : Mirrors σ (used.remove key) fresh where
  entries := by
    obtain ⟨past, old, entries⟩ := mirrors.entries
    refine ⟨past.filter (·.key != key),
      fun registered member => old registered (List.mem_of_mem_filter member), ?_⟩
    simp only [Registry.remove, entries, List.filter_append]
    congr 1
    refine List.filter_eq_self.mpr fun registered member => ?_
    obtain ⟨entry, -, rfl⟩ := List.mem_map.mp member
    simpa [Shift.registration] using σ.key_ne_of_isOldKey oldKey
  nextKey := mirrors.nextKey
  isShutdown := mirrors.isShutdown

theorem shutdown (mirrors : Mirrors σ used fresh) : Mirrors σ used.shutdown fresh.shutdown where
  entries := ⟨[], fun _ none => absurd none List.not_mem_nil, rfl⟩
  nextKey := mirrors.nextKey
  isShutdown := rfl

/-- **Firing an entry under a shifted key.** -/
theorem fire? (mirrors : Mirrors σ used fresh) (key : TimerKey) :
    (fresh.fire? key = none ∧ used.fire? (σ.key key) = none) ∨
    ∃ task after after', fresh.fire? key = some (task, after) ∧
      used.fire? (σ.key key) = some (σ.id task, after') ∧ Mirrors σ after' after := by
  unfold Registry.fire?
  rw [mirrors.find?]
  cases fresh.find? key with
  | none => exact .inl ⟨rfl, rfl⟩
  | some registered =>
      refine .inr ⟨_, _, _, rfl, rfl, ?_⟩
      have periodic : (σ.registration registered).cadence = registered.cadence := rfl
      rw [periodic]
      split
      · exact mirrors
      · exact mirrors.remove key

/-- **Firing an entry that is left over** calls the callback of an old task. -/
theorem fire?_of_isOldKey (mirrors : Mirrors σ used fresh) {key : TimerKey}
    (oldKey : σ.isOldKey key = true) {task : TaskId} {after : Registry TaskId}
    (fires : used.fire? key = some (task, after)) :
    σ.isOld task = true ∧ Mirrors σ after fresh := by
  unfold Registry.fire? at fires
  split at fires
  · cases fires
  · next registered found =>
    obtain ⟨rfl, rfl⟩ := Prod.mk.inj (Option.some.inj fires)
    refine ⟨mirrors.isOld_of_find? oldKey found, ?_⟩
    split
    · exact mirrors
    · exact mirrors.remove_of_isOldKey oldKey

end Mirrors

end Registry

/-! ## Facilities -/

namespace Facility

/-- The used facility does for shifted keys what the fresh one does. -/
inductive Mirrors (σ : Shift) : Facility TaskId → Facility TaskId → Prop
  | byHand {used fresh : Registry TaskId} (mirrors : Registry.Mirrors σ used fresh) :
      Mirrors σ (.byHand used) (.byHand fresh)
  | byClock {used fresh : Timer TaskId} (mirrors : Timer.Mirrors σ used fresh) :
      Mirrors σ (.byClock used) (.byClock fresh)

namespace Mirrors

variable {σ : Shift} {used fresh : Facility TaskId}

theorem arm (mirrors : Mirrors σ used fresh) (now : Instant) (delay : Duration)
    (cadence : Cadence) (callback : TaskId) :
    (used.arm now delay cadence (σ.id callback)).1 =
        σ.arming (fresh.arm now delay cadence callback).1 ∧
      Mirrors σ (used.arm now delay cadence (σ.id callback)).2
        (fresh.arm now delay cadence callback).2 := by
  cases mirrors with
  | byHand mirrors => exact (mirrors.arm delay cadence callback).imp_right .byHand
  | byClock mirrors => exact (mirrors.arm now delay cadence callback).imp_right .byClock

theorem disarm (mirrors : Mirrors σ used fresh) (key : TimerKey) :
    Mirrors σ (used.disarm (σ.key key)) (fresh.disarm key) := by
  cases mirrors with
  | byHand mirrors => exact .byHand (mirrors.remove key)
  | byClock mirrors => exact .byClock (mirrors.remove key)

theorem disarms (mirrors : Mirrors σ used fresh) (keys : List TimerKey) :
    Mirrors σ ((keys.map σ.key).foldl Facility.disarm used) (keys.foldl Facility.disarm fresh) := by
  induction keys generalizing used fresh with
  | nil => exact mirrors
  | cons key keys ih => exact ih (mirrors.disarm key)

theorem isShutdown (mirrors : Mirrors σ used fresh) : used.isShutdown = fresh.isShutdown := by
  cases mirrors with
  | byHand mirrors => exact mirrors.isShutdown
  | byClock mirrors => exact mirrors.isShutdown

/-- The keys that are armed, but for old ones. -/
theorem armedKeys (mirrors : Mirrors σ used fresh) :
    used.armedKeys.filter (!σ.isOldKey ·) = fresh.armedKeys.map σ.key := by
  have keeps : ∀ keys : List TimerKey, (keys.map σ.key).filter (!σ.isOldKey ·) =
      keys.map σ.key := fun keys => List.filter_eq_self.mpr fun key listed => by
    obtain ⟨key, -, rfl⟩ := List.mem_map.mp listed
    simp
  cases mirrors with
  | @byHand used fresh mirrors =>
      obtain ⟨past, old, entries⟩ := mirrors.entries
      have none : (past.map (·.key)).filter (!σ.isOldKey ·) = [] := by
        refine List.filter_eq_nil_iff.mpr fun key listed => ?_
        obtain ⟨registered, member, rfl⟩ := List.mem_map.mp listed
        simp [(old registered member).1]
      have moved : (fresh.entries.map σ.registration).map (·.key) =
          (fresh.entries.map (·.key)).map σ.key := by
        rw [List.map_map, List.map_map]
        rfl
      simp only [Facility.armedKeys, Registry.keys, entries, List.map_append, List.filter_append,
        none, moved, keeps, List.nil_append]
  | @byClock used fresh mirrors =>
      have moved : (fresh.armed.map σ.armedEntry).map (·.key) =
          (fresh.armed.map (·.key)).map σ.key := by
        rw [List.map_map, List.map_map]
        rfl
      simp only [Facility.armedKeys, mirrors.armed, moved, keeps]

theorem shutdown (mirrors : Mirrors σ used fresh) :
    used.shutdown.1 = fresh.shutdown.1 ∧ Mirrors σ used.shutdown.2 fresh.shutdown.2 := by
  cases mirrors with
  | byHand mirrors => exact ⟨rfl, .byHand mirrors.shutdown⟩
  | byClock mirrors =>
      obtain ⟨answer, mirrors⟩ := mirrors.shutdown
      exact ⟨congrArg some answer, .byClock mirrors⟩

end Mirrors

end Facility

end TaskBarrier
