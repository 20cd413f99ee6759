import TaskBarrier.Time.Duration
import TaskBarrier.Text.Quoted

/-!
# Settings of a scheduler

A `Config` fixes how long one await may take, how often it looks again, and what the thread of the
timer is called.  Settings are changed one at a time, each change leaving the others alone.

The poll interval is at least one millisecond, whatever is asked for: an await that looked again
after no time at all would never let the clock reach its deadline.

## Main Definitions

- `Config`, `Config.default`.
- `Config.withAwaitBudget`, `Config.withPollInterval`, `Config.withThreadName`.
- `Setting`, `Config.apply`, `Config.ofSettings`: chains of changes.
-/

namespace TaskBarrier

/-- How a scheduler waits, and what its timer's thread is called. -/
structure Config where
  awaitBudget : Duration
  pollInterval : Duration
  threadName : String
  deriving DecidableEq

namespace Config

/-- The shortest poll interval. -/
def leastPollInterval : Duration := .ofMillis 1

/-- The name of a timer's thread unless another is chosen. -/
def defaultThreadName : String := "chronus-timer"

/-- A budget of 200 milliseconds, looked at every 10 milliseconds. -/
def default : Config where
  awaitBudget := .ofMillis 200
  pollInterval := .ofMillis 10
  threadName := defaultThreadName

/-- Sets the time that one await allows for all outstanding work. -/
def withAwaitBudget (c : Config) (budget : Duration) : Config := { c with awaitBudget := budget }

/-- Sets how often an await looks again, but never below `leastPollInterval`. -/
def withPollInterval (c : Config) (interval : Duration) : Config :=
  { c with pollInterval := interval.longer leastPollInterval }

/-- Sets the name of the timer's thread. -/
def withThreadName (c : Config) (name : String) : Config := { c with threadName := name }

/-- All settings by name. -/
def text (c : Config) : String :=
  "Config \x7b await_budget: " ++ c.awaitBudget.text ++ ", poll_interval: " ++
    c.pollInterval.text ++ ", thread_name: " ++ Quoted.quote c.threadName ++ " \x7d"

end Config

/-- One change of a setting. -/
inductive Setting where
  | awaitBudget (budget : Duration)
  | pollInterval (interval : Duration)
  | threadName (name : String)

namespace Config

/-- Makes one change. -/
def apply (c : Config) : Setting → Config
  | .awaitBudget budget => c.withAwaitBudget budget
  | .pollInterval interval => c.withPollInterval interval
  | .threadName name => c.withThreadName name

/-- The default settings with the given changes, made in order. -/
def ofSettings (changes : List Setting) : Config := changes.foldl apply default

/-- The settings before any change and after each one. -/
def history (c : Config) : List Setting → List Config
  | [] => [c]
  | change :: rest => c :: history (c.apply change) rest

theorem leastPollInterval_le_withPollInterval (c : Config) (interval : Duration) :
    leastPollInterval.nanos ≤ (c.withPollInterval interval).pollInterval.nanos :=
  Nat.le_max_right _ _

end Config

end TaskBarrier
