/-!
# Durations

A `Duration` is a length of time, held as a whole number of nanoseconds.  Everything that is
compared, added or printed in this library is exact: no rounding takes place except where a
rule asks for whole milliseconds, and there the rest is dropped.

## Main Definitions

- `Duration`: a whole number of nanoseconds.
- `Duration.ofParts`, `Duration.ofMillis`: build one from seconds and nanoseconds, or from
  milliseconds.
- `Duration.seconds`, `Duration.subseconds`: the two parts that `ofParts` puts together.
- `Duration.wholeMillis`: the number of complete milliseconds.
- `Duration.text`: the shortest exact text, in the largest unit that fits.
-/

namespace TaskBarrier

/-- A length of time in whole nanoseconds. -/
structure Duration where
  nanos : Nat
  deriving DecidableEq

namespace Duration

/-- Nanoseconds in one second. -/
def nanosPerSecond : Nat := 1000000000

/-- Nanoseconds in one millisecond. -/
def nanosPerMilli : Nat := 1000000

/-- The empty duration. -/
def zero : Duration := ⟨0⟩

/-- So many seconds and so many nanoseconds. -/
def ofParts (seconds nanos : Nat) : Duration := ⟨seconds * nanosPerSecond + nanos⟩

/-- So many milliseconds. -/
def ofMillis (millis : Nat) : Duration := ⟨millis * nanosPerMilli⟩

/-- The number of complete seconds. -/
def seconds (d : Duration) : Nat := d.nanos / nanosPerSecond

/-- The nanoseconds beyond the last complete second. -/
def subseconds (d : Duration) : Nat := d.nanos % nanosPerSecond

/-- The number of complete milliseconds. -/
def wholeMillis (d : Duration) : Nat := d.nanos / nanosPerMilli

/-- Whether the duration is empty. -/
def isZero (d : Duration) : Bool := d.nanos == 0

/-- The longer of two durations. -/
def longer (a b : Duration) : Duration := ⟨max a.nanos b.nanos⟩

/-- The shorter of two durations. -/
def shorter (a b : Duration) : Duration := ⟨min a.nanos b.nanos⟩

/-! ## Text -/

/-- The decimal digits of `n`, filled up with zeros on the left to `width` places, with the zeros
at the right end dropped. -/
def fractionDigits (width n : Nat) : List Char :=
  let digits := Nat.toDigits 10 n
  ((List.replicate (width - digits.length) '0' ++ digits).reverse.dropWhile (· == '0')).reverse

/-- The number `whole + part / 10 ^ width` in positional notation, with as many digits after the
point as are needed and no point when none are. -/
def decimal (width whole part : Nat) : String :=
  match fractionDigits width part with
  | [] => toString whole
  | digits => toString whole ++ "." ++ String.ofList digits

/-- The exact value in the largest unit of which there is at least one: seconds, milliseconds,
microseconds, and nanoseconds when nothing else fits. -/
def text (d : Duration) : String :=
  if d.seconds > 0 then
    decimal 9 d.seconds d.subseconds ++ "s"
  else if d.nanos ≥ nanosPerMilli then
    decimal 6 (d.nanos / nanosPerMilli) (d.nanos % nanosPerMilli) ++ "ms"
  else if d.nanos ≥ 1000 then
    decimal 3 (d.nanos / 1000) (d.nanos % 1000) ++ "µs"
  else
    toString d.nanos ++ "ns"

end Duration

end TaskBarrier
