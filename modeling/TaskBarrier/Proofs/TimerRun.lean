import TaskBarrier.Proofs.Orderly

/-!
# Runs of a timer

A timer of its own, apart from any barrier, is used by two parties.  Any number of threads arm and
disarm entries and shut the timer down, among them callbacks that are being executed, and the worker
looks for entries that are due and comes back from callbacks.  Each of these is a move, made while
the lock of the timer is held once.  A *run* of a timer is any sequence of moves, at any readings of
the clock, and its *history* is the list of the moves made, the latest first.

The worker cannot make every move at every time.  It looks only between two callbacks and comes back
only from a callback, and once it has ended it makes no more moves.

What a move did to an entry is its *deed*.  Moves that neither add an entry, nor take one out at the
request of a caller, nor start a callback, share the deed `TimerDeed.aside`.

## Main Definitions

* `TimerMove`, `Timer.advance`: the moves, and what they lead to.
* `TimerDeed`, `Timer.deed`: what a move does.
* `TimerStride`, `TimerHistory`, `TimerPath`, `TimerRun`: the moves made so far.
* `Timer.Advance`: everything that a move can do.
* `Timer.play`: the path that a list of moves makes.

### design decisions

* **A firing is a decision.**  A callback is started in the section in which the worker takes its
  appointment, and not when the code of the callback is entered.
* Nothing is asked of the readings of the clock here.  Where the order of readings matters, a
  statement says so.
-/

namespace TaskBarrier

variable {κ : Type}

/-- What is done to a timer while its lock is held once. -/
inductive TimerMove (κ : Type) where
  | arm (now : Instant) (delay : Duration) (cadence : Cadence) (callback : κ)
  | disarm (key : TimerKey)
  | shutdown
  /-- The worker looks for an entry that is due. -/
  | poll (now : Instant)
  /-- The worker comes back from a callback, which ended at the given reading. -/
  | conclude (finished : Instant)

/-- What a move did to the entries of a timer. -/
inductive TimerDeed where
  /-- Neither of the others. -/
  | aside
  /-- An entry has been armed. -/
  | arm (key : TimerKey) (cadence : Cadence)
  /-- An entry has been disarmed by a caller, who has been told so. -/
  | disarm (key : TimerKey)
  /-- The callback of the entry with this appointment has been started. -/
  | fire (appointment : Appointment) (cadence : Cadence)
  deriving DecidableEq

namespace TimerDeed

/-- Whether the deed disarms the entry with the key. -/
@[simp] def disarmsKey (key : TimerKey) : TimerDeed → Bool
  | disarm other => other == key
  | _ => false

/-- Whether the deed starts the callback of the entry with the key. -/
@[simp] def firesKey (key : TimerKey) : TimerDeed → Bool
  | fire appointment _ => appointment.key == key
  | _ => false

/-- Whether the deed arms an entry. -/
@[simp] def isArm : TimerDeed → Bool
  | arm _ _ => true
  | _ => false

/-- Whether the deed disarms an entry. -/
@[simp] def isDisarm : TimerDeed → Bool
  | disarm _ => true
  | _ => false

/-- Whether the deed starts the callback of a one-shot entry. -/
@[simp] def isOnceFiring : TimerDeed → Bool
  | fire _ cadence => !cadence.isPeriodic
  | _ => false

end TimerDeed

namespace Timer

/-- What a move leads to.  The worker cannot look while it is in a callback or after it has ended,
and cannot come back from a callback that it is not in. -/
def advance (timer : Timer κ) : TimerMove κ → Option (Timer κ)
  | .arm now delay cadence callback => some (timer.arm now delay cadence callback).2
  | .disarm key => some (timer.disarm key).2
  | .shutdown => some timer.shutdown.2
  | .poll now => if timer.worker = .idle then some (timer.poll now).2 else none
  | .conclude finished => if timer.isFiring then some (timer.conclude finished) else none

/-- What a move does to the entries. -/
def deed (timer : Timer κ) : TimerMove κ → TimerDeed
  | .arm now delay cadence callback =>
      match (timer.arm now delay cadence callback).1 with
      | .armed key => .arm key cadence
      | .refused | .overflow => .aside
  | .disarm key => if (timer.disarm key).1 then .disarm key else .aside
  | .poll now =>
      match (timer.poll now).1, (timer.poll now).2.worker with
      | .firing _ _, .firing appointment cadence => .fire appointment cadence
      | _, _ => .aside
  | .shutdown | .conclude _ => .aside

end Timer

/-- One move of a run: the state in which it was made, and the state that it led to. -/
structure TimerStride (κ : Type) where
  before : Timer κ
  move : TimerMove κ
  after : Timer κ

/-- What a move of a run did to the entries. -/
def TimerStride.deed (stride : TimerStride κ) : TimerDeed := stride.before.deed stride.move

/-- The moves made so far, the latest first. -/
abbrev TimerHistory (κ : Type) := List (TimerStride κ)

namespace TimerHistory

/-- How many moves of a history did something that `which` tells. -/
def tally (history : TimerHistory κ) (which : TimerDeed → Bool) : Nat :=
  history.countP fun stride => which stride.deed

/-- How often an entry has been armed. -/
def arms (history : TimerHistory κ) : Nat := history.tally TimerDeed.isArm

/-- How often a caller has disarmed an entry. -/
def disarms (history : TimerHistory κ) : Nat := history.tally TimerDeed.isDisarm

/-- How often the callback of a one-shot entry has been started. -/
def onceFirings (history : TimerHistory κ) : Nat := history.tally TimerDeed.isOnceFiring

/-- How often a caller has disarmed the entry with the key. -/
def disarmsOf (history : TimerHistory κ) (key : TimerKey) : Nat :=
  history.tally (TimerDeed.disarmsKey key)

/-- How often the callback of the entry with the key has been started. -/
def firingsOf (history : TimerHistory κ) (key : TimerKey) : Nat :=
  history.tally (TimerDeed.firesKey key)

theorem tally_cons (stride : TimerStride κ) (history : TimerHistory κ) (which : TimerDeed → Bool) :
    TimerHistory.tally (stride :: history) which =
      history.tally which + if which stride.deed then 1 else 0 := by
  simp [tally, List.countP_cons]

theorem tally_append (later earlier : TimerHistory κ) (which : TimerDeed → Bool) :
    TimerHistory.tally (later ++ earlier) which = later.tally which + earlier.tally which :=
  List.countP_append

end TimerHistory

/-- The moves of `history` lead from the state `origin` to another one. -/
inductive TimerPath (origin : Timer κ) : TimerHistory κ → Timer κ → Prop
  /-- No move leads nowhere. -/
  | start : TimerPath origin [] origin
  /-- One more move. -/
  | step {history : TimerHistory κ} {stride : TimerStride κ}
      (path : TimerPath origin history stride.before)
      (moved : stride.before.advance stride.move = some stride.after) :
      TimerPath origin (stride :: history) stride.after

/-- The moves of `history` lead from the start of a timer to the state `timer`. -/
def TimerRun (history : TimerHistory κ) (timer : Timer κ) : Prop := TimerPath .start history timer

/-! ## What a move can do -/

namespace Timer

/-- A timer with one more entry, which is due at `due`. -/
def book (timer : Timer κ) (due : Instant) (cadence : Cadence) (callback : κ) : Timer κ :=
  { timer with
    agenda := timer.agenda.insert ⟨due, timer.nextSequence, timer.nextKey⟩
    armed := timer.armed ++ [⟨timer.nextKey, callback, cadence, timer.nextSequence⟩]
    nextKey := timer.nextKey.next
    nextSequence := timer.nextSequence + 1 }

/-- A timer in which the entries with a key have got their next appointment, at `due`. -/
def rebook (timer : Timer κ) (key : TimerKey) (due : Instant) : Timer κ :=
  { timer with
    agenda := timer.agenda.insert ⟨due, timer.nextSequence, key⟩
    armed := timer.armed.map fun entry =>
      if entry.key == key then { entry with sequence := timer.nextSequence } else entry
    nextSequence := timer.nextSequence + 1
    worker := .idle }

theorem firingKey?_of_firing {timer : Timer κ} {appointment : Appointment} {cadence : Cadence}
    (firing : timer.worker = .firing appointment cadence) :
    timer.firingKey? = some appointment.key := by
  rw [firingKey?, firing]

theorem firingKey?_eq_some_iff {timer : Timer κ} {key : TimerKey} :
    timer.firingKey? = some key ↔
      ∃ appointment cadence, timer.worker = .firing appointment cadence ∧
        appointment.key = key := by
  unfold firingKey?
  cases timer.worker <;> simp

section Armed

variable (timer : Timer κ) (key : TimerKey)

theorem isArmed_eq_true_iff {timer : Timer κ} {key : TimerKey} :
    timer.isArmed key = true ↔ ∃ entry ∈ timer.armed, entry.key = key := by
  simp [isArmed]

theorem isArmed_eq_false_iff {timer : Timer κ} {key : TimerKey} :
    timer.isArmed key = false ↔ ∀ entry ∈ timer.armed, entry.key ≠ key := by
  simp [isArmed]

theorem isArmed_of_entryOf? {timer : Timer κ} {appointment : Appointment} {entry : ArmedEntry κ}
    (current : timer.entryOf? appointment = some entry) : timer.isArmed appointment.key = true :=
  isArmed_eq_true_iff.mpr ⟨entry, (of_entryOf? current).1, (of_entryOf? current).2.1⟩

@[simp] theorem isArmed_exit : timer.exit.isArmed key = false := rfl

@[simp] theorem isArmed_remove (other : TimerKey) :
    (timer.remove other).isArmed key = (timer.isArmed key && key != other) := by
  rw [Bool.eq_iff_iff, Bool.and_eq_true, bne_iff_ne, isArmed_eq_true_iff, isArmed_eq_true_iff]
  constructor
  · rintro ⟨entry, member, rfl⟩
    obtain ⟨member, kept⟩ := mem_armed_remove.mp member
    exact ⟨⟨entry, member, rfl⟩, kept⟩
  · rintro ⟨⟨entry, member, rfl⟩, kept⟩
    exact ⟨entry, mem_armed_remove.mpr ⟨member, kept⟩, rfl⟩

@[simp] theorem isArmed_book (due : Instant) (cadence : Cadence) (callback : κ) :
    (timer.book due cadence callback).isArmed key =
      (timer.isArmed key || timer.nextKey == key) := by
  simp [isArmed, book]

@[simp] theorem isArmed_rebook (other : TimerKey) (due : Instant) :
    (timer.rebook other due).isArmed key = timer.isArmed key := by
  rw [isArmed, rebook, List.any_map]
  congr 1
  funext entry
  simp only [Function.comp_apply]
  split <;> rfl

@[simp] theorem isArmed_take (first : Appointment) (rest : Agenda) (entry : ArmedEntry κ) :
    (timer.take first rest entry).isArmed key =
      (timer.isArmed key && (entry.cadence.isPeriodic || key != entry.key)) := by
  unfold take
  cases entry.cadence.isPeriodic with
  | true => simp [isArmed]
  | false => exact isArmed_remove timer key entry.key

end Armed

/-- **Everything that a move can do** to a timer, with the deed that it is. -/
inductive Advance (timer : Timer κ) : TimerMove κ → TimerDeed → Timer κ → Prop
  /-- An entry is armed. -/
  | arm {now due : Instant} {delay : Duration} {cadence : Cadence} {callback : κ}
      (running : timer.isShutdown = false) (sum : now.after? delay = some due) :
      Advance timer (.arm now delay cadence callback) (.arm timer.nextKey cadence)
        (timer.book due cadence callback)
  /-- The timer has been shut down. -/
  | refuse {now : Instant} {delay : Duration} {cadence : Cadence} {callback : κ}
      (down : timer.isShutdown = true) :
      Advance timer (.arm now delay cadence callback) .aside timer
  /-- The entry would be due beyond the last instant; its key is used up. -/
  | overflow {now : Instant} {delay : Duration} {cadence : Cadence} {callback : κ}
      (running : timer.isShutdown = false) (sum : now.after? delay = none) :
      Advance timer (.arm now delay cadence callback) .aside
        { timer with nextKey := timer.nextKey.next }
  /-- An entry is disarmed; its appointment stays behind. -/
  | disarm {key : TimerKey} (armed : timer.isArmed key = true) :
      Advance timer (.disarm key) (.disarm key) (timer.remove key)
  /-- There is no entry to disarm. -/
  | miss {key : TimerKey} (unarmed : timer.isArmed key = false) :
      Advance timer (.disarm key) .aside timer
  | shutdown : Advance timer .shutdown .aside { timer with isShutdown := true }
  /-- The worker ends after a shutdown. -/
  | exit {now : Instant} (idle : timer.worker = .idle) (down : timer.isShutdown = true) :
      Advance timer (.poll now) .aside timer.exit
  /-- Nothing is due.  What has been passed over was not current. -/
  | wait {now : Instant} {passed kept : Agenda} (idle : timer.worker = .idle)
      (running : timer.isShutdown = false) (agenda : timer.agenda = passed ++ kept)
      (stale : ∀ appointment ∈ passed, timer.entryOf? appointment = none)
      (early : ∀ first ∈ kept.head?, now.before first.due = true) :
      Advance timer (.poll now) .aside { timer with agenda := kept }
  /-- The first appointment that is current is due, and its entry fires. -/
  | fire {now : Instant} {passed rest : Agenda} {first : Appointment} {entry : ArmedEntry κ}
      (idle : timer.worker = .idle) (running : timer.isShutdown = false)
      (agenda : timer.agenda = passed ++ first :: rest)
      (stale : ∀ appointment ∈ passed, timer.entryOf? appointment = none)
      (current : timer.entryOf? first = some entry) (due : now.before first.due = false) :
      Advance timer (.poll now) (.fire first entry.cadence) (timer.take first rest entry)
  /-- The entry that has fired does not come back: it is a one-shot entry, or has been disarmed. -/
  | finish {finished : Instant} {appointment : Appointment} {cadence : Cadence}
      (firing : timer.worker = .firing appointment cadence)
      (gone : cadence.isPeriodic = false ∨ timer.isArmed appointment.key = false) :
      Advance timer (.conclude finished) .aside { timer with worker := .idle }
  /-- The entry that has fired gets its next appointment. -/
  | rearm {finished next : Instant} {appointment : Appointment} {cadence : Cadence}
      (firing : timer.worker = .firing appointment cadence)
      (due : cadence.nextDue appointment.due finished = .due next)
      (armed : timer.isArmed appointment.key = true) :
      Advance timer (.conclude finished) .aside (timer.rebook appointment.key next)
  /-- The next appointment would be beyond the last instant. -/
  | die {finished : Instant} {appointment : Appointment} {cadence : Cadence}
      (firing : timer.worker = .firing appointment cadence)
      (sum : cadence.nextDue appointment.due finished = .overflow) :
      Advance timer (.conclude finished) .aside { timer with worker := .died }

/-- What arming an entry does. -/
theorem arm_cases (timer : Timer κ) (now : Instant) (delay : Duration) (cadence : Cadence)
    (callback : κ) :
    (timer.isShutdown = true ∧ timer.arm now delay cadence callback = (.refused, timer)) ∨
    (timer.isShutdown = false ∧ now.after? delay = none ∧
      timer.arm now delay cadence callback =
        (.overflow, { timer with nextKey := timer.nextKey.next })) ∨
    (timer.isShutdown = false ∧ ∃ due, now.after? delay = some due ∧
      timer.arm now delay cadence callback =
        (.armed timer.nextKey, timer.book due cadence callback)) := by
  unfold arm
  split
  · next down => exact .inl ⟨down, rfl⟩
  · next running =>
    have running : timer.isShutdown = false := by simpa using running
    simp only
    split
    · next sum => exact .inr (.inl ⟨running, sum, rfl⟩)
    · next due sum => exact .inr (.inr ⟨running, due, sum, rfl⟩)

theorem advance_of_arm (timer : Timer κ) (now : Instant) (delay : Duration) (cadence : Cadence)
    (callback : κ) : timer.Advance (.arm now delay cadence callback)
      (timer.deed (.arm now delay cadence callback))
      (timer.arm now delay cadence callback).2 := by
  simp only [deed]
  rcases timer.arm_cases now delay cadence callback with ⟨down, eq⟩ | ⟨running, sum, eq⟩ |
    ⟨running, due, sum, eq⟩ <;> rw [eq]
  · exact .refuse down
  · exact .overflow running sum
  · exact .arm running sum

theorem remove_of_unarmed {timer : Timer κ} {key : TimerKey} (unarmed : timer.isArmed key = false) :
    timer.remove key = timer := by
  have all : timer.armed.filter (·.key != key) = timer.armed :=
    List.filter_eq_self.mpr fun entry member =>
      bne_iff_ne.mpr (isArmed_eq_false_iff.mp unarmed entry member)
  rw [remove, all]

theorem advance_of_disarm (timer : Timer κ) (key : TimerKey) :
    timer.Advance (.disarm key) (timer.deed (.disarm key)) (timer.disarm key).2 := by
  have eq : timer.deed (.disarm key) = if timer.isArmed key then .disarm key else .aside := rfl
  rw [eq, Timer.disarm]
  split
  · next armed => exact .disarm armed
  · next unarmed =>
    have unarmed : timer.isArmed key = false := by simpa using unarmed
    rw [remove_of_unarmed unarmed]
    exact .miss unarmed

theorem advance_of_shutdown (timer : Timer κ) :
    timer.Advance .shutdown (timer.deed .shutdown) timer.shutdown.2 := by
  unfold Timer.shutdown
  split
  · next down =>
    have same : ({ timer with isShutdown := true } : Timer κ) = timer := by rw [← down]
    exact same ▸ .shutdown
  · exact .shutdown

theorem advance_of_poll {timer : Timer κ} (idle : timer.worker = .idle) (now : Instant) :
    timer.Advance (.poll now) (timer.deed (.poll now)) (timer.poll now).2 := by
  simp only [deed]
  rcases timer.poll_cases now with ⟨busy, -⟩ | ⟨-, down, eq⟩ |
    ⟨-, running, passed, kept, agenda, stale, early, eq⟩ |
    ⟨-, running, passed, first, rest, entry, agenda, stale, current, due, eq⟩
  · exact absurd idle busy
  · rw [eq]
    exact .exit idle down
  · rw [eq]
    exact .wait idle running agenda stale early
  · rw [eq]
    exact .fire idle running agenda stale current due

theorem advance_of_conclude {timer : Timer κ} (firing : timer.isFiring = true)
    (finished : Instant) : timer.Advance (.conclude finished) (timer.deed (.conclude finished))
      (timer.conclude finished) := by
  unfold Timer.conclude
  split
  · next appointment cadence firing =>
    simp only
    split
    · next never =>
      refine .finish firing (.inl ?_)
      cases cadence with
      | once => rfl
      | fixedRate | fixedDelay =>
          simp only [Cadence.nextDue, NextDue.after] at never
          split at never <;> cases never
    · next next due =>
      unfold Timer.rearm
      split
      · next armed => exact .rearm firing due armed
      · next unarmed => exact .finish firing (.inr (by simpa [isArmed] using unarmed))
    · next sum => exact .die firing sum
  all_goals
    next worker => simp [isFiring, firingKey?, worker] at firing

/-- **A move does one of the things that it can do.** -/
theorem advance_of_move {timer after : Timer κ} {move : TimerMove κ}
    (moved : timer.advance move = some after) : timer.Advance move (timer.deed move) after := by
  cases move with
  | arm now delay cadence callback =>
      cases moved
      exact timer.advance_of_arm now delay cadence callback
  | disarm key =>
      cases moved
      exact timer.advance_of_disarm key
  | shutdown =>
      cases moved
      exact timer.advance_of_shutdown
  | poll now =>
      obtain ⟨idle, ⟨⟩⟩ := Option.ite_none_right_eq_some.mp moved
      exact advance_of_poll idle now
  | conclude finished =>
      obtain ⟨firing, ⟨⟩⟩ := Option.ite_none_right_eq_some.mp moved
      exact advance_of_conclude firing finished

end Timer

/-- What a move of a path has done. -/
theorem TimerStride.change {stride : TimerStride κ}
    (moved : stride.before.advance stride.move = some stride.after) :
    stride.before.Advance stride.move stride.deed stride.after :=
  Timer.advance_of_move moved

/-! ## Paths -/

namespace TimerPath

variable {origin timer : Timer κ} {later earlier : TimerHistory κ}

/-- Two paths make one if the second begins where the first ends. -/
theorem append {middle : Timer κ} (first : TimerPath origin earlier middle)
    (second : TimerPath middle later timer) : TimerPath origin (later ++ earlier) timer := by
  induction second with
  | start => exact first
  | step _ moved ih => exact ih.step moved

/-- **Every move of a path was made in a state of that path**, and the path goes on from what it led
to. -/
theorem stride {stride : TimerStride κ}
    (path : TimerPath origin (later ++ stride :: earlier) timer) :
    TimerPath origin earlier stride.before ∧
      stride.before.advance stride.move = some stride.after ∧
      TimerPath stride.after later timer := by
  -- The induction is on the path to the last state; the stride is one of the moves on it.
  generalize whole : later ++ stride :: earlier = history at path
  induction path generalizing later with
  | start => simp at whole
  | step path moved ih =>
      cases later with
      | nil =>
          obtain ⟨rfl, rfl⟩ := List.cons.inj whole
          exact ⟨path, moved, .start⟩
      | cons _ later =>
          obtain ⟨rfl, rest⟩ := List.cons.inj whole
          obtain ⟨before, made, path⟩ := ih rest
          exact ⟨before, made, path.step moved⟩

end TimerPath

namespace TimerRun

variable {timer : Timer κ} {history later earlier : TimerHistory κ}

/-- Every move of a run was made in a state of that run, and did one of the things that it can
do. -/
theorem stride {stride : TimerStride κ} (run : TimerRun (later ++ stride :: earlier) timer) :
    TimerRun earlier stride.before ∧
      stride.before.Advance stride.move stride.deed stride.after ∧
      TimerPath stride.after later timer := by
  obtain ⟨earlier, moved, later⟩ := TimerPath.stride run
  exact ⟨earlier, stride.change moved, later⟩

/-- Induction over runs: what holds at the start, and is kept by every move of a run, holds
throughout. -/
theorem induct {motive : TimerHistory κ → Timer κ → Prop} (run : TimerRun history timer)
    (start : motive [] .start)
    (step : ∀ {history : TimerHistory κ} {stride : TimerStride κ},
      TimerRun history stride.before → stride.before.advance stride.move = some stride.after →
      motive history stride.before → motive (stride :: history) stride.after) :
    motive history timer := by
  unfold TimerRun at run
  induction run with
  | start => exact start
  | step path moved ih => exact step path moved ih

end TimerRun

/-! ## Playing moves -/

namespace Timer

/-- Makes moves one after the other, as long as each of them can be made. -/
def play (timer : Timer κ) : List (TimerMove κ) → Option (TimerHistory κ × Timer κ)
  | [] => some ([], timer)
  | move :: moves =>
      match timer.advance move with
      | none => none
      | some after =>
          (after.play moves).map fun (later, last) => (later ++ [⟨timer, move, after⟩], last)

end Timer

/-- What has been played is a path. -/
theorem TimerPath.of_play {timer last : Timer κ} {history : TimerHistory κ}
    {moves : List (TimerMove κ)} (played : timer.play moves = some (history, last)) :
    TimerPath timer history last := by
  induction moves generalizing timer history with
  | nil =>
      obtain ⟨rfl, rfl⟩ := Prod.mk.inj (Option.some.inj played)
      exact .start
  | cons move moves ih =>
      unfold Timer.play at played
      split at played
      · cases played
      · next after moved =>
        obtain ⟨⟨later, last⟩, rest, eq⟩ := Option.map_eq_some_iff.mp played
        obtain ⟨rfl, rfl⟩ := Prod.mk.inj eq
        have first : TimerPath timer [⟨timer, move, after⟩] after := .step .start moved
        exact first.append (ih rest)

/-- What has been played from the start is a run. -/
theorem TimerRun.of_play {timer : Timer κ} {history : TimerHistory κ}
    {moves : List (TimerMove κ)} (played : Timer.start.play moves = some (history, timer)) :
    TimerRun history timer :=
  TimerPath.of_play played

end TaskBarrier
