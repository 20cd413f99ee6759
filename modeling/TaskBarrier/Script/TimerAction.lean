import TaskBarrier.Script.Action

/-!
# Actions on a timer alone

Scripts can also do without schedulers and work on a timer directly: arm entries whose callbacks
are scripts, disarm them, wait for their runs, park the worker and let it go, and shut the timer
down.

## Main Definitions

- `TimerAction`: what such a script can do.
- `TimerOutcome`: what it comes to.
-/

namespace TaskBarrier

/-- What a script can do with a timer. -/
inductive TimerAction where
  /-- Arm an entry whose callback disarms itself at the end of its run of the given number. -/
  | arm (label : String) (delay : Duration) (cadence : Cadence) (times : Option Nat)
      (body : List (Guarded TimerAction))
  | disarm (label : String)
  | disarmKey (key : TimerKey)
  | pending
  | isShutdown
  | shutdown
  | thread
  /-- Arm an entry that parks the worker, and wait until it does. -/
  | hold
  /-- Let a parked worker go, after some time. -/
  | release (after : Duration)
  | awaitRuns (number : Nat)
  | quiet (time : Duration)
  | awaitPending (number : Nat)
  | panic (panic : Panic)
  /-- Drop the timer. -/
  | drop

/-- What performing an action on a timer came to. -/
inductive TimerOutcome where
  | nothing
  | flag (value : Bool)
  | count (number : Nat)
  | name (text : String)
  | armed (key : TimerKey)
  | failed (failure : Failure)
  | panicked (panic : Panic)
  /-- All runs so far: whose, which one, and the outcomes of its actions. -/
  | runs (runs : List (String × Nat × List TimerOutcome))
  /-- As many runs as were waited for, and all runs so far. -/
  | reached (runs : List (String × Nat × List TimerOutcome))

end TaskBarrier
