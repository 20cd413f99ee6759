import TaskBarrier.Proofs.Survival

/-!
# The journey of a key

An armed entry of a timer goes back and forth between two places.  It **waits** in the agenda with
its current appointment, and it is **in flight** while the worker executes its callback.  Whatever
else is done to the timer, what a move can do to one key is one of three things.

* It **stays** where it is, or goes out of the table.
* It **departs**: its appointment was due, and preceded those of all other entries.
* It comes **back**.  If it waits from then on, its next appointment is what its cadence says, given
  the appointment that has been kept and the end of the callback.

Statements about the firings of one key are inductions over its journey, and do not speak of other
entries.

## Main Definitions

* `Timer.Waits`: an entry with a cadence and its current appointment.
* `Timer.Journey`: what a move can do to a key.

The main statement is `Timer.Advance.journey`.
-/

namespace TaskBarrier

variable {κ : Type}

/-- A next due time is a sum. -/
theorem NextDue.nanos_of_after {t next : Instant} {d : Duration} (after : after t d = .due next) :
    next.nanos = t.nanos + d.nanos := by
  unfold NextDue.after at after
  split at after
  · next instant sum =>
    cases after
    exact (Instant.after?_eq_some_iff.mp sum).2
  · cases after

namespace Timer

/-- An armed entry with this cadence has this appointment. -/
def Waits (timer : Timer κ) (cadence : Cadence) (appointment : Appointment) : Prop :=
  ∃ entry ∈ timer.armed, entry.cadence = cadence ∧ timer.Keeps entry appointment

variable {timer after : Timer κ} {move : TimerMove κ} {deed : TimerDeed} {key : TimerKey}
  {cadence : Cadence} {appointment : Appointment}

theorem Waits.listed (waits : timer.Waits cadence appointment) :
    appointment ∈ timer.agenda := by
  obtain ⟨_, _, _, keeps⟩ := waits
  exact keeps.1

theorem Waits.isArmed (waits : timer.Waits cadence appointment) :
    timer.isArmed appointment.key = true := by
  obtain ⟨entry, armed, _, keeps⟩ := waits
  exact isArmed_eq_true_iff.mpr ⟨entry, armed, keeps.2.1.symm⟩

/-- Appointments of the same key are one. -/
theorem Tidy.eq_of_listed (tidy : timer.Tidy) {one other : Appointment}
    (first : one ∈ timer.agenda) (second : other ∈ timer.agenda) (same : one.key = other.key) :
    one = other :=
  List.inj_on_of_nodup_map tidy.booked first second same

/-- A key waits in one place. -/
theorem Tidy.waits_unique (tidy : timer.Tidy) (waits : timer.Waits cadence appointment)
    {cadence' : Cadence} {other : Appointment} (waits' : timer.Waits cadence' other)
    (same : other.key = appointment.key) : cadence' = cadence ∧ other = appointment := by
  obtain rfl := tidy.eq_of_listed waits'.listed waits.listed same
  obtain ⟨entry, armed, rfl, keeps⟩ := waits
  obtain ⟨entry', armed', rfl, keeps'⟩ := waits'
  obtain rfl := tidy.eq_of_key armed' armed (keeps'.2.1.symm.trans keeps.2.1)
  exact ⟨rfl, rfl⟩

/-- A key in flight does not wait. -/
theorem Tidy.waits_ne_of_firing (tidy : timer.Tidy) {flown : Appointment}
    (firing : timer.worker = .firing flown cadence) {cadence' : Cadence}
    (waits : timer.Waits cadence' appointment) : appointment.key ≠ flown.key :=
  (tidy.flying flown cadence firing).2.1 appointment waits.listed

/-- An armed entry that is not in flight waits, unless the worker has died. -/
theorem Tidy.waits_of_grounded (tidy : timer.Tidy) (alive : timer.worker ≠ .died)
    {entry : ArmedEntry κ} (armed : entry ∈ timer.armed)
    (grounded : timer.firingKey? ≠ some entry.key) :
    ∃ appointment, appointment.key = entry.key ∧ timer.Waits entry.cadence appointment := by
  obtain ⟨appointment, keeps⟩ := tidy.keeps alive armed grounded
  exact ⟨appointment, keeps.2.1, entry, armed, rfl, keeps⟩

/-- A key that has just been armed waits with the appointment that has been made for it. -/
theorem Waits.of_arm (tidy : timer.Tidy) {now : Instant} {delay : Duration} {callback : κ}
    (change : timer.Advance (.arm now delay cadence callback) (.arm key cadence) after) :
    after.Waits cadence ⟨⟨now.nanos + delay.nanos⟩, timer.nextSequence, key⟩ ∧
      after.firingKey? ≠ some key := by
  cases change with
  | @arm _ due _ _ _ _ sum =>
      have instant : (⟨now.nanos + delay.nanos⟩ : Instant) = due := by
        rw [← (Instant.after?_eq_some_iff.mp sum).2]
      rw [instant]
      refine ⟨⟨_, List.mem_append_right _ (List.mem_singleton.mpr rfl), rfl,
        Agenda.mem_insert.mpr (.inl rfl), rfl, rfl⟩, fun flies => ?_⟩
      obtain ⟨flown, _, firing, own⟩ :=
        firingKey?_eq_some_iff.mp (show timer.firingKey? = _ from flies)
      have below := (tidy.flying flown _ firing).1
      rw [own] at below
      exact Nat.lt_irrefl _ below

/-- **What a move can do to a key** that has been drawn. -/
inductive Journey (timer : Timer κ) (key : TimerKey) :
    TimerMove κ → TimerDeed → Timer κ → Prop
  /-- The key stays where it is, or goes out of the table. -/
  | stay {move : TimerMove κ} {deed : TimerDeed} {after : Timer κ}
      (silent : deed.firesKey key = false)
      (grounded : ∀ finished, move = .conclude finished → timer.firingKey? ≠ some key)
      (waits : ∀ cadence appointment, appointment.key = key →
        after.Waits cadence appointment → timer.Waits cadence appointment)
      (flies : ∀ cadence appointment, appointment.key = key →
        after.worker = .firing appointment cadence → timer.worker = .firing appointment cadence) :
      Journey timer key move deed after
  /-- The key departs. -/
  | depart {now : Instant} {appointment : Appointment} {cadence : Cadence} {after : Timer κ}
      (own : appointment.key = key) (idle : timer.worker = .idle)
      (waits : timer.Waits cadence appointment) (due : appointment.due.nanos ≤ now.nanos)
      (first : ∀ cadence' other, timer.Waits cadence' other → other.key ≠ key →
        appointment.precedes other = true)
      (flies : after.worker = .firing appointment cadence)
      (gone : ∀ cadence' other, after.Waits cadence' other → other.key ≠ key) :
      Journey timer key (.poll now) (.fire appointment cadence) after
  /-- The key comes back. -/
  | back {finished : Instant} {appointment : Appointment} {cadence : Cadence} {after : Timer κ}
      (own : appointment.key = key) (flies : timer.worker = .firing appointment cadence)
      (again : ∀ cadence' next, next.key = key → after.Waits cadence' next →
        cadence' = cadence ∧ cadence.nextDue appointment.due finished = .due next.due)
      (grounded : after.firingKey? = none) :
      Journey timer key (.conclude finished) .aside after

/-- Where less is armed and the agenda is shorter, nothing waits that has not waited. -/
theorem Waits.of_subset (waits : after.Waits cadence appointment)
    (armed : ∀ entry ∈ after.armed, entry ∈ timer.armed)
    (agenda : ∀ listed ∈ after.agenda, listed ∈ timer.agenda) :
    timer.Waits cadence appointment := by
  obtain ⟨entry, among, same, keeps⟩ := waits
  exact ⟨entry, armed entry among, same, agenda appointment keeps.1, keeps.2⟩

/-- What waits after an entry has been armed, but for that entry, has waited before. -/
theorem Waits.of_book {due : Instant} {cadence' : Cadence} {callback : κ}
    (waits : (timer.book due cadence' callback).Waits cadence appointment)
    (other : appointment.key ≠ timer.nextKey) : timer.Waits cadence appointment := by
  obtain ⟨entry, among, same, keeps⟩ := waits
  have old : entry ∈ timer.armed := by
    refine (List.mem_append.mp among).resolve_right fun new => other ?_
    rw [keeps.2.1, List.mem_singleton.mp new]
  have listed : appointment ∈ timer.agenda :=
    (Agenda.mem_insert.mp keeps.1).resolve_left fun new => other (by rw [new])
  exact ⟨entry, old, same, listed, keeps.2⟩

/-- What waits after a key has come back, but for that key, has waited before. -/
theorem Waits.of_rebook {next : Instant} (waits : (timer.rebook key next).Waits cadence appointment)
    (other : appointment.key ≠ key) : timer.Waits cadence appointment := by
  obtain ⟨entry, among, same, keeps⟩ := waits
  have apart : entry.key ≠ key := fun own => other (keeps.2.1.trans own)
  have old : entry ∈ timer.armed := by
    obtain ⟨old, member, rfl⟩ := List.mem_map.mp among
    have apart : ¬ old.key = key := by
      intro own
      simp [own] at apart
    simpa [apart] using member
  have listed : appointment ∈ timer.agenda :=
    (Agenda.mem_insert.mp keeps.1).resolve_left fun new => other (by rw [new])
  exact ⟨entry, old, same, listed, keeps.2⟩

/-- A key departs when its appointment is due and precedes all others. -/
theorem Journey.of_fire (tidy : timer.Tidy) {now : Instant} {passed rest : Agenda}
    {entry : ArmedEntry κ} (idle : timer.worker = .idle)
    (agenda : timer.agenda = passed ++ appointment :: rest)
    (stale : ∀ other ∈ passed, timer.entryOf? other = none)
    (current : timer.entryOf? appointment = some entry)
    (due : now.before appointment.due = false) :
    timer.Journey appointment.key (.poll now) (.fire appointment entry.cadence)
      (timer.take appointment rest entry) := by
  have suffix : (appointment :: rest).Sublist timer.agenda :=
    agenda ▸ List.sublist_append_right passed (appointment :: rest)
  have distinct := List.nodup_cons.mp (tidy.booked.sublist (suffix.map _))
  obtain ⟨armed, same, sequence⟩ := of_entryOf? current
  have waits : timer.Waits entry.cadence appointment :=
    ⟨entry, armed, rfl, suffix.subset List.mem_cons_self, same.symm, sequence.symm⟩
  refine .depart rfl idle waits (by simpa [Instant.before] using due) ?_ rfl ?_
  · rintro cadence' other ⟨entry', armed', -, keeps'⟩ apart
    obtain ⟨listed, keeps, order⟩ := tidy.first_of_current idle agenda stale armed'
    obtain rfl := tidy.eq_of_listed keeps'.1 keeps.1 (keeps'.2.1.trans keeps.2.1.symm)
    exact order.resolve_left fun equal => apart (by rw [equal])
  · rintro cadence' other ⟨_, -, -, keeps'⟩ twice
    exact distinct.1 (twice ▸ List.mem_map_of_mem keeps'.1)

/-- A key that gets no new appointment when it comes back does not wait. -/
theorem Journey.of_landing (tidy : timer.Tidy) {flown : Appointment} {worker : WorkerState}
    (firing : timer.worker = .firing flown cadence)
    (landed : ({ timer with worker := worker } : Timer κ).firingKey? = none) (finished : Instant) :
    timer.Journey key (.conclude finished) .aside { timer with worker := worker } := by
  have same : ∀ cadence' appointment,
      ({ timer with worker := worker } : Timer κ).Waits cadence' appointment →
        timer.Waits cadence' appointment :=
    fun _ _ waits => waits.of_subset (fun _ among => among) fun _ member => member
  by_cases own : flown.key = key
  · refine .back own firing (fun cadence' next again waits => ?_) landed
    exact absurd (again.trans own.symm)
      (tidy.waits_ne_of_firing firing (same cadence' next waits))
  · refine .stay rfl (fun _ _ flies => own ?_) (fun cadence appointment _ waits =>
      same cadence appointment waits) fun _ _ _ flies => ?_
    · exact Option.some.inj ((firingKey?_of_firing firing).symm.trans flies)
    · cases landed.symm.trans (firingKey?_of_firing flies)

/-- A key gets its next appointment when it comes back. -/
theorem Journey.of_rearm (tidy : timer.Tidy) {flown : Appointment} {finished next : Instant}
    (firing : timer.worker = .firing flown cadence)
    (due : cadence.nextDue flown.due finished = .due next) :
    timer.Journey key (.conclude finished) .aside (timer.rebook flown.key next) := by
  obtain ⟨-, unlisted, periodic⟩ := tidy.flying flown cadence firing
  by_cases own : flown.key = key
  · subst own
    refine .back rfl firing ?_ rfl
    rintro cadence' again same ⟨entry, among, rfl, keeps⟩
    obtain ⟨old, member, rfl⟩ := List.mem_map.mp among
    rcases Agenda.mem_insert.mp keeps.1 with rfl | before
    · have back : old.key = flown.key := by
        by_contra other
        have kept := keeps.2.1
        simp only [beq_eq_false_iff_ne.mpr other, Bool.false_eq_true, if_false] at kept
        exact other kept.symm
      refine ⟨?_, due⟩
      rw [← (periodic old member back).1]
      split <;> rfl
    · exact absurd same (unlisted again before)
  · refine .stay rfl (fun _ _ flies => own ?_) ?_ fun _ _ _ firing => nomatch firing
    · exact Option.some.inj ((firingKey?_of_firing firing).symm.trans flies)
    · rintro _ appointment rfl waits
      exact waits.of_rebook (Ne.symm own)

/-- **A move does one of three things to a key.** -/
theorem Advance.journey (change : timer.Advance move deed after) (tidy : timer.Tidy)
    (drawn : key.number < timer.nextKey.number) : timer.Journey key move deed after := by
  have undrawn : key ≠ timer.nextKey := fun same => Nat.lt_irrefl _ (same ▸ drawn)
  cases change with
  | arm =>
      refine .stay rfl (fun _ concludes => nomatch concludes) ?_ fun _ _ _ firing => firing
      rintro cadence appointment rfl waits
      exact waits.of_book undrawn
  | refuse | overflow | miss | shutdown =>
      exact .stay rfl (fun _ concludes => nomatch concludes)
        (fun _ _ _ waits => waits.of_subset (fun _ among => among) fun _ member => member)
        fun _ _ _ firing => firing
  | disarm =>
      refine .stay rfl (fun _ concludes => nomatch concludes) ?_ fun _ _ _ firing => firing
      intro _ _ _ waits
      exact waits.of_subset (fun _ among => (mem_armed_remove.mp among).1) fun _ member => member
  | exit =>
      refine .stay rfl (fun _ concludes => nomatch concludes) ?_ fun _ _ _ firing => nomatch firing
      rintro _ _ _ ⟨_, among, -⟩
      cases among
  | wait _ _ agenda =>
      refine .stay rfl (fun _ concludes => nomatch concludes) ?_ fun _ _ _ firing => firing
      intro _ _ _ waits
      exact waits.of_subset (fun _ among => among) fun _ member =>
        agenda ▸ List.mem_append_right _ member
  | @fire now passed rest first entry idle _ agenda stale current due =>
      by_cases own : first.key = key
      · subst own
        exact .of_fire tidy idle agenda stale current due
      · refine .stay (by simpa using own) (fun _ concludes => nomatch concludes) ?_ ?_
        · intro _ _ _ waits
          exact waits.of_subset (fun _ among => (mem_armed_take.mp among).1) fun _ member =>
            agenda ▸ List.mem_append_right _ (List.mem_cons_of_mem _ member)
        · rintro _ _ same ⟨⟩
          exact absurd same own
  | finish firing => exact .of_landing tidy firing rfl _
  | rearm firing due => exact .of_rearm tidy firing due
  | die firing => exact .of_landing tidy firing rfl _

end Timer

end TaskBarrier
