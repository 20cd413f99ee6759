import TaskBarrier.Identifier

/-!
# Arming an entry

Both timing facilities answer a request to arm an entry in one of three ways.

## Main Definitions

- `Arming`: the answer to a request to arm an entry.
-/

namespace TaskBarrier

/-- The answer to a request to arm an entry. -/
inductive Arming where
  /-- The entry is armed under the given key. -/
  | armed (key : TimerKey)
  /-- The facility has been shut down. -/
  | refused
  /-- The entry would be due beyond the last instant.  The call unwinds. -/
  | overflow
  deriving DecidableEq

end TaskBarrier
