import TaskBarrier.Timer.Basic
import TaskBarrier.Timer.Registry

/-!
# Timing facilities

A barrier arms its entries on a timing facility, which is either a registry fired by hand or a
timer with a worker of its own.  The barrier asks four things of it, and all four take effect at
once, within the critical section that asks.

## Main Definitions

- `Facility`.
- `Facility.arm`, `Facility.disarm`, `Facility.shutdown`, `Facility.isShutdown`.
- `Facility.armedKeys`: the keys of the entries that can still fire.
-/

namespace TaskBarrier

/-- What fires the entries of a barrier. -/
inductive Facility (κ : Type) where
  | byHand (registry : Registry κ)
  | byClock (timer : Timer κ)

namespace Facility

variable {κ : Type}

/-- Arms an entry to fire `delay` after `now`. -/
def arm (facility : Facility κ) (now : Instant) (delay : Duration) (cadence : Cadence)
    (callback : κ) : Arming × Facility κ :=
  match facility with
  | byHand registry =>
      let (answer, registry) := registry.arm delay cadence callback
      (answer, byHand registry)
  | byClock timer =>
      let (answer, timer) := timer.arm now delay cadence callback
      (answer, byClock timer)

/-- Removes an entry so that it never fires again. -/
def disarm (facility : Facility κ) (key : TimerKey) : Facility κ :=
  match facility with
  | byHand registry => byHand (registry.disarm key).2
  | byClock timer => byClock (timer.disarm key).2

/-- Asks the facility to shut down.  A registry has no worker, and nothing to say about it. -/
def shutdown (facility : Facility κ) : Option Shutdown × Facility κ :=
  match facility with
  | byHand registry => (none, byHand registry.shutdown)
  | byClock timer =>
      let (answer, timer) := timer.shutdown
      (some answer, byClock timer)

/-- Whether the facility has been shut down. -/
def isShutdown : Facility κ → Bool
  | byHand registry => registry.isShutdown
  | byClock timer => timer.isShutdown

/-- The keys of the armed entries. -/
def armedKeys : Facility κ → List TimerKey
  | byHand registry => registry.keys
  | byClock timer => timer.armed.map (·.key)

end Facility

end TaskBarrier
