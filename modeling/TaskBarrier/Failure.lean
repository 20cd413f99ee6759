import TaskBarrier.Time.Duration

/-!
# Failures and panics

Two ways in which a call does not deliver what was asked for.

* A `Failure` is an answer: the caller gets it in place of a result and goes on.
* A `Panic` unwinds: it leaves one enclosing call after the other until somebody catches it.  What
  it carries is a text, or something that cannot be read as text.

## Main Definitions

- `Failure`, `Failure.message`, `Failure.text`.
- `Panic`, `Panic.instantOverflow`, `Panic.ofFailure`.
-/

namespace TaskBarrier

/-- Why a call failed. -/
inductive Failure where
  /-- The timing facility has been shut down and accepts no more work. -/
  | shutdown
  /-- A periodic task was given a period of zero. -/
  | zeroPeriod
  /-- The producer of a value is gone, or the value has been taken. -/
  | abandoned
  /-- The budget of an await ended with `remaining` tasks outstanding. -/
  | timedOut (remaining : Nat) (budget : Duration)
  deriving DecidableEq

namespace Failure

/-- The failure in a sentence. -/
def message : Failure → String
  | shutdown => "Timing facility is shut down"
  | zeroPeriod => "Periodic tasks need a non-zero period"
  | abandoned => "Task was cancelled or panicked before producing a value"
  | timedOut remaining budget =>
      "Task can't exceed " ++ toString budget.wholeMillis ++ "ms. Remaining tasks are " ++
        toString remaining ++ "."

/-- The name of the failure with its fields. -/
def text : Failure → String
  | shutdown => "Shutdown"
  | zeroPeriod => "ZeroPeriod"
  | abandoned => "Abandoned"
  | timedOut remaining budget =>
      "Timeout \x7b remaining: " ++ toString remaining ++ ", budget: " ++ budget.text ++ " \x7d"

end Failure

/-- What an unwinding call carries. -/
inductive Panic where
  /-- A text. -/
  | message (text : String)
  /-- Something that is no text. -/
  | unreadable
  deriving DecidableEq

namespace Panic

/-- The panic of clock arithmetic that leaves the range of instants. -/
def instantOverflow : Panic := message "overflow when adding duration to instant"

/-- The panic of a call that does not return failures. -/
def ofFailure (failure : Failure) : Panic := message failure.message

/-- The text of a panic, or `fallback` where there is none. -/
def textOr (fallback : String) : Panic → String
  | message text => text
  | unreadable => fallback

end Panic

end TaskBarrier
