/-!
# Identifiers

Tasks and timer entries are numbered in the order in which they are drawn, each kind by a counter
of its own.  The two kinds of number are different types, because a task and the entry that fires
it usually differ.

## Main Definitions

- `TaskId`, written `#3`.
- `TimerKey`, written `TimerKey(3)`.
- `TimerKey.ascending`: keys in ascending order, each once.
-/

namespace TaskBarrier

/-- The number of a task within its scheduler. -/
structure TaskId where
  number : Nat
  deriving DecidableEq

namespace TaskId

/-- A number sign and the number. -/
def text (id : TaskId) : String := "#" ++ toString id.number

/-- The number drawn after this one. -/
def next (id : TaskId) : TaskId := ⟨id.number + 1⟩

end TaskId

/-- The number of an entry within its timing facility. -/
structure TimerKey where
  number : Nat
  deriving DecidableEq

namespace TimerKey

/-- The name of the type with the number in brackets. -/
def text (key : TimerKey) : String := "TimerKey(" ++ toString key.number ++ ")"

/-- The number drawn after this one. -/
def next (key : TimerKey) : TimerKey := ⟨key.number + 1⟩

/-- Puts a key into its place of an ascending list, unless it is there. -/
def insertAscending (key : TimerKey) : List TimerKey → List TimerKey
  | [] => [key]
  | k :: rest =>
      if key.number < k.number then key :: k :: rest
      else if key = k then k :: rest
      else k :: insertAscending key rest

/-- The given keys in ascending order, each once. -/
def ascending (keys : List TimerKey) : List TimerKey := keys.foldr insertAscending []

end TimerKey

end TaskBarrier
