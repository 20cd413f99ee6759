import TaskBarrier.Time.Instant

/-!
# Cadences

A `Cadence` says whether a timer entry fires once or keeps coming back, and how its next due time
follows from the firing that has just ended.

* A **fixed rate** counts from one due time to the next.  A firing that runs late does not push
  back the ones after it, so a slow callback is followed by firings in quick succession.
* A **fixed delay** counts from the end of one firing to the start of the next.

## Main Definitions

- `Cadence`: once, at a fixed rate, or with a fixed delay.
- `Cadence.period?`: the period of a cadence that comes back.
- `NextDue`: what becomes of an entry after a firing.
- `Cadence.nextDue`: the next due time of an entry.
-/

namespace TaskBarrier

/-- How a timer entry is armed again after it has fired. -/
inductive Cadence where
  /-- Fires a single time and is then forgotten. -/
  | once
  /-- Fires every `period`, measured from the previous due time. -/
  | fixedRate (period : Duration)
  /-- Fires `delay` after the end of the previous firing. -/
  | fixedDelay (delay : Duration)
  deriving DecidableEq

/-- What becomes of an entry after it has fired. -/
inductive NextDue where
  /-- The entry does not come back. -/
  | never
  /-- The entry is due again at the given instant. -/
  | due (instant : Instant)
  /-- The next due time lies beyond the last instant. -/
  | overflow
  deriving DecidableEq

namespace NextDue

/-- The instant `d` after `t`, as the next due time of an entry. -/
def after (t : Instant) (d : Duration) : NextDue :=
  match t.after? d with
  | some instant => due instant
  | none => overflow

end NextDue

namespace Cadence

/-- The time between two firings, for a cadence that comes back. -/
def period? : Cadence → Option Duration
  | once => none
  | fixedRate period => some period
  | fixedDelay delay => some delay

/-- Whether an entry with this cadence is armed again after it has fired. -/
def isPeriodic (c : Cadence) : Bool := c.period?.isSome

/-- Whether the cadence comes back without any time in between.  Such a cadence is refused. -/
def isDegenerate (c : Cadence) : Bool := c.period?.any Duration.isZero

/-- The next due time of an entry that was due at `due` and whose firing ended at `finished`. -/
def nextDue : Cadence → (due finished : Instant) → NextDue
  | once, _, _ => .never
  | fixedRate period, due, _ => .after due period
  | fixedDelay delay, _, finished => .after finished delay

/-- The name of the cadence with its period in brackets. -/
def text : Cadence → String
  | once => "Once"
  | fixedRate period => "FixedRate(" ++ period.text ++ ")"
  | fixedDelay delay => "FixedDelay(" ++ delay.text ++ ")"

@[simp] theorem isPeriodic_once : once.isPeriodic = false := rfl

@[simp] theorem isPeriodic_fixedRate (p : Duration) : (fixedRate p).isPeriodic = true := rfl

@[simp] theorem isPeriodic_fixedDelay (d : Duration) : (fixedDelay d).isPeriodic = true := rfl

@[simp] theorem nextDue_once (due finished : Instant) : once.nextDue due finished = .never := rfl

@[simp] theorem nextDue_fixedRate (p : Duration) (due finished : Instant) :
    (fixedRate p).nextDue due finished = .after due p := rfl

@[simp] theorem nextDue_fixedDelay (d : Duration) (due finished : Instant) :
    (fixedDelay d).nextDue due finished = .after finished d := rfl

end Cadence

end TaskBarrier
