import TaskBarrier.Time.Duration

/-!
# Instants

An `Instant` is a reading of a monotonic clock.  A clock counts whole seconds in a signed
64-bit number, so there is a last instant, and moving an instant forward may fail.  Failure is
an ordinary answer here: `Instant.after?` is `none` exactly when the sum lies beyond the last
instant, and each caller says what it does then.

## Main Definitions

- `Instant`: nanoseconds since the clock's origin.
- `Instant.limit`: the first number of nanoseconds that no clock can show.
- `Instant.after?`: the instant a given duration later, if the clock can show it.
- `Instant.since`: how long after another instant this one lies.

### design decisions

* An instant is not bounded by its type.  Readings of a clock that runs forever are not errors;
  only *arithmetic* with a duration chosen by a caller can leave the range, and that is what
  `after?` guards.
-/

namespace TaskBarrier

/-- A reading of a monotonic clock, in nanoseconds since the clock's origin. -/
structure Instant where
  nanos : Nat
  deriving DecidableEq

namespace Instant

/-- The first number of nanoseconds beyond every instant: whole seconds stay below `2 ^ 63`. -/
def limit : Nat := Nat.pow 2 63 * Duration.nanosPerSecond

/-- The instant `d` later, if there is one. -/
def after? (t : Instant) (d : Duration) : Option Instant :=
  if t.nanos + d.nanos < limit then some ⟨t.nanos + d.nanos⟩ else none

/-- The time that has passed from `earlier` to `t`, and nothing if `t` is not later. -/
def since (t earlier : Instant) : Duration := ⟨t.nanos - earlier.nanos⟩

/-- Whether `t` is `u` or later. -/
def reached (t u : Instant) : Bool := decide (u.nanos ≤ t.nanos)

/-- Whether `t` is strictly before `u`. -/
def before (t u : Instant) : Bool := decide (t.nanos < u.nanos)

/-- The earlier of two instants. -/
def earlier (t u : Instant) : Instant := if t.before u then t else u

/-- The next nanosecond. -/
def tick (t : Instant) : Instant := ⟨t.nanos + 1⟩

theorem after?_eq_some_iff {t u : Instant} {d : Duration} :
    t.after? d = some u ↔ t.nanos + d.nanos < limit ∧ u.nanos = t.nanos + d.nanos := by
  cases u with
  | mk n =>
    simp only [after?]
    split
    · simp_all [eq_comm]
    · simp
      omega

theorem after?_eq_none_iff {t : Instant} {d : Duration} :
    t.after? d = none ↔ limit ≤ t.nanos + d.nanos := by
  simp only [after?]
  split <;> simp <;> omega

theorem reached_iff {t u : Instant} : t.reached u = true ↔ u.nanos ≤ t.nanos := by
  simp [reached]

theorem before_iff {t u : Instant} : t.before u = true ↔ t.nanos < u.nanos := by
  simp [before]

end Instant

end TaskBarrier
