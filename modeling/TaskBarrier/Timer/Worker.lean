import TaskBarrier.Timer.Basic

/-!
# The worker of a timer

The worker alternates between two critical sections.  In the first it looks for an entry that is
due: it drops the stale appointments at the front of the agenda, and then either waits, or takes
the first appointment and leaves the lock to call the entry's callback.  In the second, once the
callback has returned or panicked, it arms a periodic entry again.

The order of the second section matters.  The next due time is computed *before* the worker looks
whether the entry is still armed, so clock arithmetic that leaves the range of instants ends the
worker also for an entry that has been disarmed during its own callback.

## Main Definitions

- `Polled`: what the worker finds when it looks.
- `Timer.poll`: the first section.
- `Timer.conclude`: the second section.

### design decisions

* A callback that panics leaves a payload behind, which the worker throws away before the second
  section.  Its destructor is taken to return and to leave the timer alone.  One that panics would
  end the worker where it stands.
* The worker throws callbacks away while it holds the lock: that of a one-shot entry once it has
  been called (`Timer.conclude`), and those of all entries that are left when it ends
  (`Timer.exit`).  Their destructors are taken to return and to leave the timer alone as well.  One
  that calls into the timer would wait for the lock for ever.
-/

namespace TaskBarrier

/-- What the worker finds when it looks at its timer. -/
inductive Polled (κ : Type) where
  /-- Nothing is due.  The worker waits for a change, and not beyond the given instant. -/
  | waiting (wake : Option Instant)
  /-- The entry with this key is due: its callback is called next. -/
  | firing (key : TimerKey) (callback : κ)
  /-- The timer has been shut down, or the worker has ended before. -/
  | ended

namespace Timer

variable {κ : Type}

/-- The worker ends after a shutdown and leaves nothing behind. -/
def exit (timer : Timer κ) : Timer κ :=
  { timer with agenda := [], armed := [], worker := .exited }

/-- The worker takes the entry of the first appointment: a one-shot entry leaves the table before
its callback is called, a periodic one stays. -/
def take (timer : Timer κ) (appointment : Appointment) (rest : Agenda) (entry : ArmedEntry κ) :
    Timer κ :=
  let taken := if entry.cadence.isPeriodic then timer else timer.remove entry.key
  { taken with agenda := rest, worker := .firing appointment entry.cadence }

/-- The worker goes through the agenda from the front at the reading `now`: it drops appointments
that are no longer current, and stops at the first that is. -/
def look (timer : Timer κ) (now : Instant) : Agenda → Polled κ × Timer κ
  | [] => (.waiting none, { timer with agenda := [] })
  | first :: rest =>
      match timer.entryOf? first with
      | none => timer.look now rest
      | some entry =>
          if now.before first.due then
            (.waiting (some first.due), { timer with agenda := first :: rest })
          else (.firing entry.key entry.callback, timer.take first rest entry)

/-- The worker looks for an entry that is due at the reading `now`. -/
def poll (timer : Timer κ) (now : Instant) : Polled κ × Timer κ :=
  match timer.worker with
  | .firing _ _ | .exited | .died => (.ended, timer)
  | .idle => if timer.isShutdown then (.ended, timer.exit) else timer.look now timer.agenda

/-- Gives an armed entry its next appointment.  A key that is no longer armed gets none. -/
def rearm (timer : Timer κ) (key : TimerKey) (due : Instant) : Timer κ :=
  if timer.isArmed key then
    { timer.schedule key due with
      armed := timer.armed.map fun entry =>
        if entry.key == key then { entry with sequence := timer.nextSequence } else entry }
  else timer

/-- The worker is back from a callback, which ended at the reading `finished`. -/
def conclude (timer : Timer κ) (finished : Instant) : Timer κ :=
  match timer.worker with
  | .firing appointment cadence =>
      let back := { timer with worker := .idle }
      match cadence.nextDue appointment.due finished with
      | .never => back
      | .due next => back.rearm appointment.key next
      | .overflow => { timer with worker := .died }
  | .idle | .exited | .died => timer

theorem rearm_of_not_isArmed {timer : Timer κ} {key : TimerKey} (gone : timer.isArmed key = false)
    (due : Instant) : timer.rearm key due = timer := by
  simp [rearm, gone]

end Timer

end TaskBarrier
