import TaskBarrier.Config
import TaskBarrier.Event
import TaskBarrier.Phase

/-!
# Outcomes

Every action of a script has an outcome.  Bodies write their outcomes into a journal, and the
steps of a session are reported one by one, together with what the schedulers and the tasks then
look like.

## Main Definitions

- `Outcome`: what performing an action came to.
- `JournalEntry`: what bodies have done.
- `Status`, `Snapshot`, `Report`: what is told after a step.
-/

namespace TaskBarrier

/-- How a scheduler stands. -/
structure Status where
  outstanding : Nat
  held : Nat
  draining : Bool
  isShutdown : Bool
  deriving DecidableEq

/-- What performing an action came to. -/
inductive Outcome (ν : Type) where
  | nothing
  | flag (value : Bool)
  | count (number : Nat)
  | name (text : String)
  /-- The value of a note. -/
  | noted (value : ν)
  /-- The value that a task has produced. -/
  | produced (value : ν)
  /-- The value of a task has not been produced yet. -/
  | pending
  /-- There is no promise of that name. -/
  | gone
  /-- There is no task of that name. -/
  | noTask
  /-- An await found everything finished. -/
  | settled
  | accepted (id : TaskId)
  | failed (failure : Failure)
  | panicked (panic : Panic)
  | handle (id : TaskId) (phase : Phase) (periodic : Bool)
  | status (status : Status)
  | config (config : Config)
  | armed (entries : List (TimerKey × Duration × Cadence))
  | results (outcomes : List (Outcome ν))
  /-- An await with what was done meanwhile, and whether it returned within its time. -/
  | awaited (await : Outcome ν) (during : Option (List (Outcome ν))) (inTime : Option Bool)

/-- What the body of a task has done. -/
inductive JournalEntry (ν : Type) where
  /-- The task has begun its run of the given number. -/
  | ran (label : String) (run : Nat)
  /-- The task has performed an action. -/
  | did (label : String) (word : String) (outcome : Outcome ν)

/-- What schedulers and tasks look like, and what bodies have done since the last time. -/
structure Snapshot (ν : Type) where
  /-- How each scheduler stands, if it has not been dropped, and what can be fired by hand. -/
  schedulers : List (Option Status × Option (List TimerKey))
  phases : List (String × Phase)
  journal : List (JournalEntry ν)

/-- What is told after a step of a session. -/
structure Report (ν : Type) where
  outcome : Outcome ν
  snapshot : Option (Snapshot ν)
  /-- What has been logged since the last step. -/
  events : List Event

end TaskBarrier
