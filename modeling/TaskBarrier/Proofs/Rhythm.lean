import TaskBarrier.Proofs.Journey

/-!
# The rhythm of an entry

An entry that is armed at the reading `now` is due for the first time `delay` after it, and from
then on its cadence says when it is due.

* At a **fixed rate** it is due for the `n`-th time exactly `n` periods after the first time, however
  late its callbacks were started and however long they took.
* With a **fixed delay** it is due again when the delay has passed since the end of its last
  callback, however long it was overdue before that.
* A **one-shot** entry is due once.

No due time is skipped and none is used twice.  The list of the departures of a key, the oldest
first, tells when each firing was due and when its callback was started, which is never earlier.
The list of its landings tells when its callbacks ended.  Until the key is disarmed or the worker
ends, a periodic key is in flight, or waits for the due time that comes after the departures so far.

Nothing is asked of the clock.  A due time is computed from the readings that have been taken,
whatever these are.

## Main Definitions

* `Departure`, `TimerHistory.departures`, `TimerHistory.landings`: the firings of a key.
* `Cadence.IsDue`: when an entry is due for the `n`-th time.
* `Rhythm`.

The main statement is `rhythm_of_arming`.
-/

namespace TaskBarrier

variable {κ : Type}

/-! ## Departures and landings -/

/-- A firing: when the entry was due, and the reading at which its callback was started. -/
structure Departure where
  due : Instant
  start : Instant
  deriving DecidableEq

/-- The departure of the key, if a move and its deed are one. -/
def TimerMove.departure? (key : TimerKey) : TimerMove κ → TimerDeed → Option Departure
  | .poll now, .fire appointment _ =>
      if appointment.key = key then some ⟨appointment.due, now⟩ else none
  | _, _ => none

/-- The reading at which the callback of the key ended, if a move is the return from it. -/
def Timer.landing? (timer : Timer κ) (key : TimerKey) : TimerMove κ → Option Instant
  | .conclude finished => if timer.firingKey? = some key then some finished else none
  | .arm .. | .disarm _ | .shutdown | .poll _ => none

namespace TimerHistory

/-- The firings of a key, the oldest first. -/
def departures (history : TimerHistory κ) (key : TimerKey) : List Departure :=
  history.reverse.filterMap fun stride => stride.move.departure? key stride.deed

/-- The readings at which the callbacks of a key ended, the oldest first. -/
def landings (history : TimerHistory κ) (key : TimerKey) : List Instant :=
  history.reverse.filterMap fun stride => stride.before.landing? key stride.move

theorem departures_append (later earlier : TimerHistory κ) (key : TimerKey) :
    TimerHistory.departures (later ++ earlier) key =
      earlier.departures key ++ later.departures key := by
  simp only [departures, List.reverse_append, List.filterMap_append]

theorem landings_append (later earlier : TimerHistory κ) (key : TimerKey) :
    TimerHistory.landings (later ++ earlier) key = earlier.landings key ++ later.landings key := by
  simp only [landings, List.reverse_append, List.filterMap_append]

theorem departures_cons (stride : TimerStride κ) (history : TimerHistory κ) (key : TimerKey) :
    TimerHistory.departures (stride :: history) key =
      history.departures key ++ (stride.move.departure? key stride.deed).toList :=
  departures_append [stride] history key

theorem landings_cons (stride : TimerStride κ) (history : TimerHistory κ) (key : TimerKey) :
    TimerHistory.landings (stride :: history) key =
      history.landings key ++ (stride.before.landing? key stride.move).toList :=
  landings_append [stride] history key

end TimerHistory

/-! ## When an entry is due -/

/-- By its cadence an entry that is due at `first`, and whose callbacks have ended at the readings
`landings`, is due for the `n`-th time at `due`, counting from 0. -/
def Cadence.IsDue (first : Instant) (landings : List Instant) : Cadence → Nat → Instant → Prop
  | .once, n, due => n = 0 ∧ due = first
  | .fixedRate period, n, due => due.nanos = first.nanos + n * period.nanos
  | .fixedDelay _, 0, due => due = first
  | .fixedDelay delay, n + 1, due =>
      ∃ finished, landings[n]? = some finished ∧ due.nanos = finished.nanos + delay.nanos

namespace Cadence

variable {cadence : Cadence} {first due : Instant} {landings : List Instant} {n : Nat}

theorem isDue_first (cadence : Cadence) (first : Instant) (landings : List Instant) :
    cadence.IsDue first landings 0 first := by
  cases cadence with
  | once => exact ⟨rfl, rfl⟩
  | fixedRate period =>
      show first.nanos = first.nanos + 0 * period.nanos
      rw [Nat.zero_mul, Nat.add_zero]
  | fixedDelay => rfl

/-- What an entry was due for does not depend on later callbacks. -/
theorem IsDue.landed (isDue : cadence.IsDue first landings n due) (finished : Instant) :
    cadence.IsDue first (landings ++ [finished]) n due := by
  cases cadence with
  | once => exact isDue
  | fixedRate => exact isDue
  | fixedDelay delay =>
      cases n with
      | zero => exact isDue
      | succ n =>
          obtain ⟨ended, landed, sum⟩ := isDue
          have among : n < landings.length := (List.getElem?_eq_some_iff.mp landed).1
          exact ⟨ended, by rw [List.getElem?_append_left among, landed], sum⟩

/-- **From one due time to the next.** -/
theorem IsDue.next (isDue : cadence.IsDue first landings landings.length due)
    {finished again : Instant} (next : cadence.nextDue due finished = .due again) :
    cadence.IsDue first (landings ++ [finished]) (landings.length + 1) again := by
  cases cadence with
  | once => cases next
  | fixedRate period =>
      have isDue : due.nanos = first.nanos + landings.length * period.nanos := isDue
      show again.nanos = first.nanos + (landings.length + 1) * period.nanos
      rw [NextDue.nanos_of_after next, isDue, Nat.succ_mul, Nat.add_assoc]
  | fixedDelay delay =>
      refine ⟨finished, ?_, NextDue.nanos_of_after next⟩
      rw [List.getElem?_append_right (Nat.le_refl _), Nat.sub_self]
      rfl

end Cadence

/-! ## The rhythm of a key -/

namespace Timer

variable {timer after : Timer κ} {move : TimerMove κ} {deed : TimerDeed} {key : TimerKey}
  {cadence : Cadence} {first : Instant} {departures : List Departure} {landings : List Instant}

/-- The key has kept to its cadence. -/
structure Keeping (timer : Timer κ) (key : TimerKey) (cadence : Cadence) (first : Instant)
    (departures : List Departure) (landings : List Instant) : Prop where
  drawn : key.number < timer.nextKey.number
  departed : ∀ n departure, departures[n]? = some departure →
    cadence.IsDue first landings n departure.due ∧ departure.due.nanos ≤ departure.start.nanos
  level : landings.length ≤ departures.length ∧ departures.length ≤ landings.length + 1
  /-- A key that waits is back from all its flights. -/
  waiting : ∀ cadence' appointment, appointment.key = key → timer.Waits cadence' appointment →
    cadence' = cadence ∧ landings.length = departures.length ∧
      cadence.IsDue first landings departures.length appointment.due
  /-- A key in flight is back from all but one. -/
  flying : ∀ cadence' appointment, appointment.key = key →
    timer.worker = .firing appointment cadence' →
    cadence' = cadence ∧ departures.length = landings.length + 1 ∧
      cadence.IsDue first landings landings.length appointment.due

theorem departure?_of_silent (silent : deed.firesKey key = false) :
    move.departure? key deed = none := by
  cases move with
  | poll now =>
      cases deed with
      | fire appointment _ => exact if_neg (by simpa using silent)
      | aside | arm | disarm => rfl
  | arm | disarm | shutdown | conclude => rfl

namespace Keeping

/-- A key that has just been armed. -/
theorem of_arm (tidy : timer.Tidy) {now : Instant} {delay : Duration} {callback : κ}
    (change : timer.Advance (.arm now delay cadence callback) (.arm key cadence) after)
    (tidy' : after.Tidy) : after.Keeping key cadence ⟨now.nanos + delay.nanos⟩ [] [] := by
  obtain ⟨waits, grounded⟩ := Waits.of_arm tidy change
  refine ⟨tidy'.orderly.booked _ waits.listed, fun _ _ found => (nomatch found), by simp, ?_, ?_⟩
  · intro cadence' appointment own waits'
    obtain ⟨rfl, rfl⟩ := tidy'.waits_unique waits waits' own
    exact ⟨rfl, rfl, cadence'.isDue_first _ _⟩
  · rintro cadence' appointment rfl firing
    exact absurd (firingKey?_of_firing firing) grounded

/-- A key that departs keeps its appointment. -/
theorem depart (keeping : timer.Keeping key cadence first departures landings)
    (drawn : key.number < after.nextKey.number) {now : Instant} {appointment : Appointment}
    {cadence' : Cadence} (own : appointment.key = key)
    (waits : timer.Waits cadence' appointment) (due : appointment.due.nanos ≤ now.nanos)
    (flies : after.worker = .firing appointment cadence')
    (gone : ∀ cadence'' other, after.Waits cadence'' other → other.key ≠ key) :
    after.Keeping key cadence first (departures ++ [⟨appointment.due, now⟩]) landings := by
  obtain ⟨rfl, level, isDue⟩ := keeping.waiting cadence' appointment own waits
  refine ⟨drawn, ?_, ?_, ?_, ?_⟩
  · intro n departed found
    rcases Nat.lt_or_ge n departures.length with before | last
    · rw [List.getElem?_append_left before] at found
      exact keeping.departed n departed found
    · rw [List.getElem?_append_right last] at found
      obtain ⟨here, rfl⟩ := List.getElem?_eq_some_iff.mp found
      have here : n - departures.length < 1 := here
      obtain rfl : n = departures.length := by omega
      simpa using ⟨isDue, due⟩
  · simp only [List.length_append, List.length_singleton]
    omega
  · intro _ again own' now
    exact absurd own' (gone _ again now)
  · intro _ again _ now
    cases flies.symm.trans now
    refine ⟨rfl, by simp [level], ?_⟩
    rwa [level]

/-- A key that comes back is due again when its cadence says so. -/
theorem back (keeping : timer.Keeping key cadence first departures landings)
    (drawn : key.number < after.nextKey.number) {finished : Instant} {appointment : Appointment}
    {cadence' : Cadence} (own : appointment.key = key)
    (flies : timer.worker = .firing appointment cadence')
    (again : ∀ cadence'' next, next.key = key → after.Waits cadence'' next →
      cadence'' = cadence' ∧ cadence'.nextDue appointment.due finished = .due next.due)
    (grounded : after.firingKey? = none) :
    after.Keeping key cadence first departures (landings ++ [finished]) := by
  obtain ⟨rfl, level, isDue⟩ := keeping.flying cadence' appointment own flies
  refine ⟨drawn, ?_, ?_, ?_, ?_⟩
  · intro n departed found
    exact (keeping.departed n departed found).imp_left fun isDue => isDue.landed finished
  · simp only [List.length_append, List.length_singleton]
    omega
  · intro cadence'' next own' now
    obtain ⟨rfl, due⟩ := again cadence'' next own' now
    refine ⟨rfl, by simp [level], ?_⟩
    rw [level]
    exact isDue.next due
  · intro _ _ _ now
    cases grounded.symm.trans (firingKey?_of_firing now)

/-- **A key keeps to its cadence**, whatever is done to the timer. -/
theorem advance (keeping : timer.Keeping key cadence first departures landings)
    (journey : timer.Journey key move deed after)
    (nextKey : timer.nextKey.number ≤ after.nextKey.number) :
    after.Keeping key cadence first (departures ++ (move.departure? key deed).toList)
      (landings ++ (timer.landing? key move).toList) := by
  have drawn := Nat.lt_of_lt_of_le keeping.drawn nextKey
  cases journey with
  | stay silent grounded waits flies =>
      have landing : timer.landing? key move = none := by
        cases move with
        | conclude finished => exact if_neg (grounded finished rfl)
        | arm | disarm | shutdown | poll => rfl
      simp only [departure?_of_silent silent, landing, Option.toList_none, List.append_nil]
      exact ⟨drawn, keeping.departed, keeping.level,
        fun cadence' appointment own now =>
          keeping.waiting cadence' appointment own (waits cadence' appointment own now),
        fun cadence' appointment own now =>
          keeping.flying cadence' appointment own (flies cadence' appointment own now)⟩
  | @depart now appointment cadence' _ own _ waits due _ flies gone =>
      have departure : (TimerMove.poll now : TimerMove κ).departure? key
          (.fire appointment cadence') = some ⟨appointment.due, now⟩ := if_pos own
      have landing : timer.landing? key (.poll now) = none := rfl
      simp only [departure, landing, Option.toList_none, List.append_nil, Option.toList_some]
      exact keeping.depart drawn own waits due flies gone
  | @back finished appointment cadence' _ own flies again grounded =>
      have departure : (TimerMove.conclude finished : TimerMove κ).departure? key .aside = none :=
        rfl
      have landing : timer.landing? key (.conclude finished) = some finished :=
        if_pos (own ▸ firingKey?_of_firing flies)
      simp only [departure, landing, Option.toList_none, List.append_nil, Option.toList_some]
      exact keeping.back drawn own flies again grounded

/-- A key that is armed is in flight, or waits for the due time after its departures so far. -/
theorem pending (keeping : timer.Keeping key cadence first departures landings)
    (tidy : timer.Tidy) (alive : timer.worker ≠ .died) {entry : ArmedEntry κ}
    (armed : entry ∈ timer.armed) (own : entry.key = key) : entry.cadence = cadence ∧
      ((∃ appointment, appointment.key = key ∧ timer.worker = .firing appointment cadence) ∨
        ∃ appointment, appointment.key = key ∧ timer.Waits cadence appointment ∧
          cadence.IsDue first landings departures.length appointment.due) := by
  by_cases flies : timer.firingKey? = some entry.key
  · obtain ⟨appointment, cadence', firing, same⟩ := firingKey?_eq_some_iff.mp flies
    obtain ⟨rfl, -⟩ := (tidy.flying appointment cadence' firing).2.2 entry armed same.symm
    obtain ⟨rfl, -⟩ := keeping.flying entry.cadence appointment (same.trans own) firing
    exact ⟨rfl, .inl ⟨appointment, same.trans own, firing⟩⟩
  · obtain ⟨appointment, same, waits⟩ := tidy.waits_of_grounded alive armed flies
    obtain ⟨rfl, -, isDue⟩ := keeping.waiting entry.cadence appointment (same.trans own) waits
    exact ⟨rfl, .inr ⟨appointment, same.trans own, waits, isDue⟩⟩

end Keeping

/-- A periodic key leaves the table only when it is disarmed, or the worker ends. -/
theorem Advance.isArmed_of_periodic (change : timer.Advance move deed after)
    (armed : timer.isArmed key = true)
    (periodic : ∀ entry ∈ timer.armed, entry.key = key → entry.cadence.isPeriodic = true)
    (undisarmed : deed.disarmsKey key = false) (alive : after.worker ≠ .exited) :
    after.isArmed key = true := by
  rcases change.isArmed_of_armed armed with stays | disarmed | fires | ended
  · exact stays
  · cases undisarmed.symm.trans disarmed
  · cases change with
    | @fire _ _ _ flown entry _ _ _ _ current =>
        obtain ⟨member, same, -⟩ := of_entryOf? current
        have own : flown.key = key := beq_iff_eq.mp fires
        rw [isArmed_take, armed, periodic entry member (same.trans own)]
        rfl
    | arm | refuse | overflow | disarm | miss | shutdown | exit | wait | finish | rearm | die =>
        simp at fires
  · exact absurd ended alive

/-- A firing is a departure. -/
theorem Advance.length_departure? (change : timer.Advance move deed after) (key : TimerKey) :
    (move.departure? key deed).toList.length = if deed.firesKey key then 1 else 0 := by
  cases fires : deed.firesKey key with
  | false =>
      rw [departure?_of_silent fires]
      rfl
  | true =>
      cases change with
      | fire =>
          rw [TimerMove.departure?, if_pos (beq_iff_eq.mp fires)]
          rfl
      | arm | refuse | overflow | disarm | miss | shutdown | exit | wait | finish | rearm | die =>
          simp at fires

end Timer

namespace TimerPath

variable {earlier later : TimerHistory κ} {origin timer : Timer κ} {key : TimerKey}
  {cadence : Cadence} {first : Instant}

/-- Every firing is listed. -/
theorem length_departures (path : TimerPath origin later timer) (key : TimerKey) :
    (later.departures key).length = later.firingsOf key := by
  induction path with
  | start => rfl
  | @step later stride _ moved ih =>
      rw [TimerHistory.departures_cons, List.length_append, ih,
        (stride.change moved).length_departure? key]
      exact (TimerHistory.tally_cons stride later _).symm

/-- What keeps to its cadence at one moment of a run does so ever after. -/
theorem keeping (path : TimerPath origin later timer) (run : TimerRun earlier origin)
    (keeping : origin.Keeping key cadence first [] []) :
    timer.Keeping key cadence first (later.departures key) (later.landings key) := by
  induction path with
  | start => exact keeping
  | @step later stride path moved ih =>
      have tidy := TimerRun.tidy (TimerPath.append run path)
      have change := stride.change moved
      rw [TimerHistory.departures_cons, TimerHistory.landings_cons]
      exact ih.advance (change.journey tidy ih.drawn) change.nextKey

/-- A periodic key that is not disarmed stays armed until the worker ends. -/
theorem isArmed_of_periodic (path : TimerPath origin later timer) (run : TimerRun earlier origin)
    (keeping : origin.Keeping key cadence first [] []) (periodic : cadence.isPeriodic = true)
    (armed : origin.isArmed key = true) (undisarmed : later.disarmsOf key = 0)
    (exited : timer.worker ≠ .exited) (died : timer.worker ≠ .died) : timer.isArmed key = true := by
  induction path with
  | start => exact armed
  | @step later stride path moved ih =>
      have tidy := TimerRun.tidy (TimerPath.append run path)
      have change := stride.change moved
      simp only [TimerHistory.disarmsOf, TimerHistory.tally_cons, Nat.add_eq_zero_iff,
        ite_eq_right_iff, Nat.one_ne_zero, imp_false, Bool.not_eq_true] at undisarmed
      have alive : stride.before.worker ≠ .died := fun before => died (change.died before)
      have before := ih undisarmed.1 (change.alive exited) alive
      refine change.isArmed_of_periodic before (fun entry among own => ?_) undisarmed.2 exited
      rw [((path.keeping run keeping).pending tidy alive among own).1]
      exact periodic

end TimerPath

/-- A key that has not been drawn has not been under way. -/
theorem TimerRun.landings_eq_nil {history : TimerHistory κ} {timer : Timer κ}
    (run : TimerRun history timer) {key : TimerKey}
    (undrawn : timer.nextKey.number ≤ key.number) : history.landings key = [] := by
  refine run.induct (motive := fun history timer => timer.nextKey.number ≤ key.number →
    history.landings key = []) (fun _ => rfl) ?_ undrawn
  intro history stride run moved ih undrawn
  have undrawn := Nat.le_trans (stride.change moved).nextKey undrawn
  have grounded : stride.before.firingKey? ≠ some key := by
    intro flies
    obtain ⟨appointment, cadence, firing, rfl⟩ := Timer.firingKey?_eq_some_iff.mp flies
    exact Nat.not_lt.mpr undrawn (run.tidy.flying appointment cadence firing).1
  have landing : stride.before.landing? key stride.move = none := by
    cases stride.move with
    | conclude => exact if_neg grounded
    | arm | disarm | shutdown | poll => rfl
  rw [TimerHistory.landings_cons, ih undrawn, landing]
  rfl

/-! ## Rhythm -/

/-- The firings of the entry with the key, which is due at `first` for the first time. -/
structure Rhythm (key : TimerKey) (cadence : Cadence) (first : Instant) (history : TimerHistory κ)
    (timer : Timer κ) : Prop where
  /-- Every firing is listed. -/
  counted : (history.departures key).length = history.firingsOf key
  /-- Callbacks of the entry are started and end by turns. -/
  level : (history.landings key).length ≤ (history.departures key).length ∧
    (history.departures key).length ≤ (history.landings key).length + 1
  /-- The `n`-th firing is the one that the entry is due for at the `n`-th time, and is not started
  before that. -/
  departed : ∀ n departure, (history.departures key)[n]? = some departure →
    cadence.IsDue first (history.landings key) n departure.due ∧
      departure.due.nanos ≤ departure.start.nanos
  /-- Until it is disarmed or the worker ends, a periodic entry is in flight or waits for its next
  firing, and so does a one-shot entry that has not fired. -/
  pending : history.disarmsOf key = 0 → timer.workerEnded = false →
    cadence.isPeriodic = true ∨ history.firingsOf key = 0 →
    (∃ appointment, appointment.key = key ∧ timer.worker = .firing appointment cadence) ∨
      ∃ appointment, appointment.key = key ∧ timer.Waits cadence appointment ∧
        cadence.IsDue first (history.landings key) (history.departures key).length appointment.due

/-- **Every entry keeps to its rhythm**, from the reading at which it was armed. -/
theorem rhythm_of_arming {later earlier : TimerHistory κ} {arming : TimerStride κ} {timer : Timer κ}
    (run : TimerRun (later ++ arming :: earlier) timer) {now : Instant} {delay : Duration}
    {cadence : Cadence} {callback : κ} {key : TimerKey}
    (move : arming.move = .arm now delay cadence callback) (deed : arming.deed = .arm key cadence) :
    Rhythm key cadence ⟨now.nanos + delay.nanos⟩ (later ++ arming :: earlier) timer := by
  obtain ⟨before, change, path⟩ := run.stride
  have begun : TimerRun (arming :: earlier) arming.after :=
    .step before (TimerPath.stride run).2.1
  rw [move, deed] at change
  have origin : arming.after.Keeping key cadence ⟨now.nanos + delay.nanos⟩ [] [] :=
    .of_arm before.tidy change begun.tidy
  have keeping := path.keeping begun origin
  -- Nothing has happened to the key before.
  have undrawn : arming.before.nextKey.number ≤ key.number :=
    Nat.le_of_eq (congrArg _ change.key_of_arm.symm)
  obtain ⟨unfired, undisarmed⟩ := before.leaves_eq_zero undrawn
  have departures : TimerHistory.departures (later ++ arming :: earlier) key =
      later.departures key := by
    have none := List.eq_nil_of_length_eq_zero ((TimerPath.length_departures before key).trans unfired)
    rw [TimerHistory.departures_append, TimerHistory.departures_cons, none, move]
    rfl
  have landings : TimerHistory.landings (later ++ arming :: earlier) key = later.landings key := by
    rw [TimerHistory.landings_append, TimerHistory.landings_cons, before.landings_eq_nil undrawn,
      move]
    rfl
  refine ⟨TimerPath.length_departures run key, ?_, ?_, ?_⟩
  · rw [departures, landings]
    exact keeping.level
  · rw [departures, landings]
    exact keeping.departed
  · rw [departures, landings]
    intro disarms alive due
    have exited : timer.worker ≠ .exited := fun ended => by simp [Timer.workerEnded, ended] at alive
    have died : timer.worker ≠ .died := fun ended => by simp [Timer.workerEnded, ended] at alive
    simp only [TimerHistory.disarmsOf, TimerHistory.firingsOf, TimerHistory.tally_append,
      Nat.add_eq_zero_iff] at disarms due
    have armed : arming.after.isArmed key = true :=
      (Timer.Waits.of_arm before.tidy change).1.isArmed
    have still : timer.isArmed key = true := by
      rcases due with periodic | unfired
      · exact path.isArmed_of_periodic begun origin periodic armed disarms.1 exited died
      · exact path.isArmed armed disarms.1 unfired.1 exited
    obtain ⟨entry, among, own⟩ := Timer.isArmed_eq_true_iff.mp still
    exact (keeping.pending run.tidy died among own).2

/-- The moves of two entries that are due at 5, one at a fixed rate and one with a fixed delay, on a
timer whose worker looks for the first time at 30. -/
def unhurriedMoves : List (TimerMove Unit) :=
  [.poll ⟨30⟩, .conclude ⟨31⟩, .poll ⟨31⟩, .conclude ⟨33⟩, .poll ⟨33⟩, .conclude ⟨34⟩, .poll ⟨34⟩,
    .conclude ⟨35⟩, .poll ⟨41⟩, .conclude ⟨42⟩, .poll ⟨42⟩]

/-- In `unhurriedMoves` the fixed rate has caught up by its fourth firing, and the fixed delay has
counted from the end of its first. -/
theorem rhythm_of_unhurried : ∃ (later : TimerHistory Unit) (second first : TimerStride Unit)
    (timer : Timer Unit), TimerRun (later ++ [second, first]) timer ∧
      Rhythm ⟨0⟩ (.fixedRate ⟨10⟩) ⟨5⟩ (later ++ [second, first]) timer ∧
      Rhythm ⟨1⟩ (.fixedDelay ⟨7⟩) ⟨5⟩ (later ++ [second, first]) timer ∧
      TimerHistory.departures (later ++ [second, first]) ⟨0⟩ =
        [⟨⟨5⟩, ⟨30⟩⟩, ⟨⟨15⟩, ⟨33⟩⟩, ⟨⟨25⟩, ⟨34⟩⟩, ⟨⟨35⟩, ⟨41⟩⟩] ∧
      TimerHistory.departures (later ++ [second, first]) ⟨1⟩ =
        [⟨⟨5⟩, ⟨31⟩⟩, ⟨⟨40⟩, ⟨42⟩⟩] ∧
      (TimerHistory.landings (later ++ [second, first]) ⟨1⟩)[0]? = some ⟨33⟩ := by
  obtain ⟨later, second, first, origin, timer, begun, played, move, deed, move', deed', rate, delay,
      landed⟩ : ∃ later second first origin timer,
      (Timer.start : Timer Unit).play [.arm ⟨0⟩ ⟨5⟩ (.fixedRate ⟨10⟩) (),
        .arm ⟨1⟩ ⟨4⟩ (.fixedDelay ⟨7⟩) ()] = some ([second, first], origin) ∧
      origin.play unhurriedMoves = some (later, timer) ∧
      first.move = .arm ⟨0⟩ ⟨5⟩ (.fixedRate ⟨10⟩) () ∧
      first.deed = .arm ⟨0⟩ (.fixedRate ⟨10⟩) ∧
      second.move = .arm ⟨1⟩ ⟨4⟩ (.fixedDelay ⟨7⟩) () ∧
      second.deed = .arm ⟨1⟩ (.fixedDelay ⟨7⟩) ∧
      TimerHistory.departures (later ++ [second, first]) ⟨0⟩ =
        [⟨⟨5⟩, ⟨30⟩⟩, ⟨⟨15⟩, ⟨33⟩⟩, ⟨⟨25⟩, ⟨34⟩⟩, ⟨⟨35⟩, ⟨41⟩⟩] ∧
      TimerHistory.departures (later ++ [second, first]) ⟨1⟩ =
        [⟨⟨5⟩, ⟨31⟩⟩, ⟨⟨40⟩, ⟨42⟩⟩] ∧
      (TimerHistory.landings (later ++ [second, first]) ⟨1⟩)[0]? = some ⟨33⟩ :=
    ⟨_, _, _, _, _, rfl, rfl, rfl, rfl, rfl, rfl, rfl, rfl, rfl⟩
  have run : TimerRun (later ++ [second, first]) timer :=
    TimerPath.append (.of_play begun) (.of_play played)
  have shifted : later ++ [second, first] = (later ++ [second]) ++ first :: [] := by simp
  refine ⟨later, second, first, timer, run, ?_, rhythm_of_arming run move' deed', rate, delay,
    landed⟩
  rw [shifted] at run ⊢
  exact rhythm_of_arming run move deed

end TaskBarrier
