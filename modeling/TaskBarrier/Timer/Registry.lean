import TaskBarrier.Time.Cadence
import TaskBarrier.Timer.Arming

/-!
# A registry of entries fired by hand

A registry is a timing facility without a clock.  It records what has been armed, and an entry
fires when somebody asks for it, on the thread that asks.  Keys are drawn in ascending order and
entries are listed by key.

## Main Definitions

- `Registration`, `Registry`.
- `Registry.arm`, `Registry.disarm`, `Registry.shutdown`.
- `Registry.fire?`: the callback of an armed entry; a one-shot entry is removed by it.
-/

namespace TaskBarrier

/-- An entry that waits to be fired by hand. -/
structure Registration (κ : Type) where
  key : TimerKey
  delay : Duration
  cadence : Cadence
  callback : κ

/-- The entries that can be fired by hand, by ascending key. -/
structure Registry (κ : Type) where
  entries : List (Registration κ)
  nextKey : TimerKey
  isShutdown : Bool

namespace Registry

variable {κ : Type}

/-- A registry that nothing has been armed in. -/
def empty : Registry κ := ⟨[], ⟨0⟩, false⟩

/-- The armed keys, ascending. -/
def keys (registry : Registry κ) : List TimerKey := registry.entries.map (·.key)

/-- The armed entry with the given key. -/
def find? (registry : Registry κ) (key : TimerKey) : Option (Registration κ) :=
  registry.entries.find? (·.key == key)

/-- Records an entry under the next key. -/
def arm (registry : Registry κ) (delay : Duration) (cadence : Cadence) (callback : κ) :
    Arming × Registry κ :=
  if registry.isShutdown then (.refused, registry)
  else
    (.armed registry.nextKey,
      { registry with
        entries := registry.entries ++ [⟨registry.nextKey, delay, cadence, callback⟩]
        nextKey := registry.nextKey.next })

/-- Takes an entry out. -/
def remove (registry : Registry κ) (key : TimerKey) : Registry κ :=
  { registry with entries := registry.entries.filter (·.key != key) }

/-- Removes an entry.  The answer says whether it was armed. -/
def disarm (registry : Registry κ) (key : TimerKey) : Bool × Registry κ :=
  ((registry.find? key).isSome, registry.remove key)

/-- Removes all entries and accepts no more. -/
def shutdown (registry : Registry κ) : Registry κ :=
  { registry with entries := [], isShutdown := true }

/-- Fires an armed entry: the callback to call, and the registry without the entry if it was a
one-shot one. -/
def fire? (registry : Registry κ) (key : TimerKey) : Option (κ × Registry κ) :=
  match registry.find? key with
  | none => none
  | some entry =>
      some (entry.callback,
        if entry.cadence.isPeriodic then registry else registry.remove key)

theorem fire?_eq_none_iff {registry : Registry κ} {key : TimerKey} :
    registry.fire? key = none ↔ registry.find? key = none := by
  unfold fire?
  split <;> simp_all

end Registry

end TaskBarrier
