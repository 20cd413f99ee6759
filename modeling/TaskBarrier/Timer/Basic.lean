import TaskBarrier.Time.Cadence
import TaskBarrier.Timer.Agenda
import TaskBarrier.Timer.Arming

/-!
# The timer

A timer keeps a table of *armed* entries and an agenda of appointments, and one worker goes
through the agenda.  All three are guarded by one lock; each function of this file and of
`TaskBarrier.Timer.Worker` is what happens while the lock is held once.

An armed entry has one *current* appointment, the one whose sequence number it remembers.
Disarming an entry only takes it out of the table, and arming it again only makes a new
appointment, so the agenda may hold appointments that are no longer current.  The worker skips
them.

## Main Definitions

- `ArmedEntry`, `WorkerState`, `Timer`.
- `Timer.arm`, `Timer.disarm`, `Timer.shutdown`: what other threads do.
- `Timer.entryOf?`: the entry that an appointment stands for, if it is current.

### design decisions

* A callback is any value `κ`.  Calling it is the business of whoever runs the worker, who is
  told which callback to call.
* The state of the worker is part of the timer, because shutting down depends on it.
* The callback of an entry that is disarmed is thrown away under the lock.  Its destructor is taken
  to return and to leave the timer alone, so that `Timer.disarm` is one section.
-/

namespace TaskBarrier

/-- An entry that will fire. -/
structure ArmedEntry (κ : Type) where
  key : TimerKey
  callback : κ
  cadence : Cadence
  /-- The sequence number of the entry's current appointment. -/
  sequence : Nat

/-- What the worker of a timer is doing. -/
inductive WorkerState where
  /-- Between two callbacks. -/
  | idle
  /-- Executing the callback of the entry with this appointment. -/
  | firing (appointment : Appointment) (cadence : Cadence)
  /-- Ended after a shutdown. -/
  | exited
  /-- Ended by clock arithmetic that left the range of instants. -/
  | died
  deriving DecidableEq

/-- A timer with a single worker. -/
structure Timer (κ : Type) where
  agenda : Agenda
  armed : List (ArmedEntry κ)
  nextKey : TimerKey
  nextSequence : Nat
  worker : WorkerState
  isShutdown : Bool

/-- The three ways in which a request to shut down goes. -/
inductive Shutdown where
  /-- The timer had been shut down before; nothing happens. -/
  | repeated
  /-- A callback is being executed.  The worker is left to end on its own. -/
  | detached
  /-- The caller waits until the worker has ended. -/
  | joining
  deriving DecidableEq

namespace Timer

variable {κ : Type}

/-- A timer that has just been started. -/
def start : Timer κ where
  agenda := []
  armed := []
  nextKey := ⟨0⟩
  nextSequence := 0
  worker := .idle
  isShutdown := false

/-- The number of armed entries. -/
def pending (timer : Timer κ) : Nat := timer.armed.length

/-- The armed entry with the given key. -/
def find? (timer : Timer κ) (key : TimerKey) : Option (ArmedEntry κ) :=
  timer.armed.find? (·.key == key)

/-- Whether an entry with the given key is armed. -/
def isArmed (timer : Timer κ) (key : TimerKey) : Bool := timer.armed.any (·.key == key)

/-- The armed entry whose current appointment this is. -/
def entryOf? (timer : Timer κ) (appointment : Appointment) : Option (ArmedEntry κ) :=
  timer.armed.find? fun entry =>
    entry.key == appointment.key && entry.sequence == appointment.sequence

/-- The key of the entry whose callback the worker is executing. -/
def firingKey? (timer : Timer κ) : Option TimerKey :=
  match timer.worker with
  | .firing appointment _ => some appointment.key
  | .idle | .exited | .died => none

/-- Whether the worker is executing a callback. -/
def isFiring (timer : Timer κ) : Bool := timer.firingKey?.isSome

/-- Makes an appointment for a key under the next sequence number. -/
def schedule (timer : Timer κ) (key : TimerKey) (due : Instant) : Timer κ :=
  { timer with
    agenda := timer.agenda.insert ⟨due, timer.nextSequence, key⟩
    nextSequence := timer.nextSequence + 1 }

/-- Takes an entry out of the table. -/
def remove (timer : Timer κ) (key : TimerKey) : Timer κ :=
  { timer with armed := timer.armed.filter (·.key != key) }

/-- Arms an entry that is due `delay` after the reading `now`.  The key is drawn first, so it is
used up also when the due time overflows. -/
def arm (timer : Timer κ) (now : Instant) (delay : Duration) (cadence : Cadence) (callback : κ) :
    Arming × Timer κ :=
  if timer.isShutdown then (.refused, timer)
  else
    let key := timer.nextKey
    let drawn := { timer with nextKey := key.next }
    match now.after? delay with
    | none => (.overflow, drawn)
    | some due =>
        let entry : ArmedEntry κ := ⟨key, callback, cadence, timer.nextSequence⟩
        (.armed key, { drawn.schedule key due with armed := timer.armed ++ [entry] })

/-- Disarms an entry.  The answer says whether it was armed. -/
def disarm (timer : Timer κ) (key : TimerKey) : Bool × Timer κ :=
  (timer.isArmed key, timer.remove key)

/-- Asks the timer to shut down. -/
def shutdown (timer : Timer κ) : Shutdown × Timer κ :=
  if timer.isShutdown then (.repeated, timer)
  else (if timer.isFiring then .detached else .joining, { timer with isShutdown := true })

/-- Whether the worker has ended. -/
def workerEnded (timer : Timer κ) : Bool :=
  match timer.worker with
  | .exited | .died => true
  | .idle | .firing _ _ => false

@[simp] theorem find?_start (key : TimerKey) : (start : Timer κ).find? key = none := rfl

@[simp] theorem pending_start : (start : Timer κ).pending = 0 := rfl

/-- After a shutdown nothing is armed any more. -/
theorem arm_of_isShutdown {timer : Timer κ} (down : timer.isShutdown = true) (now : Instant)
    (delay : Duration) (cadence : Cadence) (callback : κ) :
    timer.arm now delay cadence callback = (.refused, timer) := by
  simp [arm, down]

/-- A disarmed entry is no longer armed. -/
theorem isArmed_disarm (timer : Timer κ) (key : TimerKey) :
    (timer.disarm key).2.isArmed key = false := by
  simp [disarm, remove, isArmed]

end Timer

end TaskBarrier
