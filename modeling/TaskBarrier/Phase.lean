/-!
# The phases of a task

A task is *live* until its entry fires.  A firing while nobody awaits makes it *held*; a firing
during an await, or the replay of the held tasks, makes it *running*.  After its run a one-shot
task has *ran* and a periodic one is live again.  *Cancelled* tasks never run again.

## Main Definitions

- `Phase`, `Phase.isTerminal`.
- `Phase.name`, `Phase.ofName?`: the name of a phase, and the phase of a name.
-/

namespace TaskBarrier

/-- Where a task stands between its acceptance and its end. -/
inductive Phase where
  /-- Accepted, and waiting for its entry to fire. -/
  | live
  /-- Fired while nobody awaited; waits to be replayed. -/
  | held
  /-- The body is being executed. -/
  | running
  /-- The body has been executed for the last time. -/
  | ran
  /-- Cancelled before its body was executed again, or dropped at the end of a cycle. -/
  | cancelled
  deriving DecidableEq

namespace Phase

/-- Whether a task stays in this phase for good. -/
def isTerminal : Phase → Bool
  | ran | cancelled => true
  | live | held | running => false

/-- The name of a phase. -/
def name : Phase → String
  | live => "Live"
  | held => "Held"
  | running => "Running"
  | ran => "Ran"
  | cancelled => "Cancelled"

/-- The phase of the given name. -/
def ofName? : String → Option Phase
  | "Live" => some live
  | "Held" => some held
  | "Running" => some running
  | "Ran" => some ran
  | "Cancelled" => some cancelled
  | _ => none

end Phase

end TaskBarrier
