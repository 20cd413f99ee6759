import TaskBarrier.Time.Cadence
import TaskBarrier.Failure
import TaskBarrier.Identifier

/-!
# The log

Everything that happens to a task, and every await, leaves an event in the log.  Most events are
written while the lock of the barrier is held, so their order is the order of the critical
sections; the start of a body, the summary of a reset and the end of an await are written after
the lock has been released.

## Main Definitions

- `Event`: what can be logged.
- `Event.level`, `Event.message`, `Event.fields`: how an event is shown.
- `Event.task?`: the task that an event is about.
-/

namespace TaskBarrier

/-- What the log tells. -/
inductive Event where
  /-- A task has been accepted. -/
  | accepted (task : TaskId) (delay : Duration) (cadence : Cadence)
  /-- A firing of a task that is held or running had no effect. -/
  | coalesced (task : TaskId)
  /-- A firing during an await starts the body. -/
  | startedByFiring (task : TaskId)
  /-- A firing outside of an await puts the task into the hold queue, which has `size` members
  then. -/
  | held (task : TaskId) (size : Nat)
  /-- The body has ended; `outstanding` tasks are left. -/
  | ran (task : TaskId) (outstanding : Nat)
  /-- The replay of the hold queue starts the body. -/
  | startedByReplay (task : TaskId)
  /-- A cancel found nothing left to cancel. -/
  | cancelTooLate (task : TaskId)
  /-- A periodic task ends with the run in progress. -/
  | cancelledWhileRunning (task : TaskId)
  /-- A task has been cancelled; `outstanding` tasks are left. -/
  | cancelled (task : TaskId) (outstanding : Nat)
  /-- The end of a cycle dropped unfinished tasks. -/
  | resetDropped (discarded : Nat)
  /-- An await begins; the hold queue has `size` members. -/
  | awaiting (outstanding size : Nat)
  /-- An await ends with nothing outstanding. -/
  | settled
  /-- An await ends because its budget is used up. -/
  | exceededBudget (remaining : Nat) (budget : Duration)
  /-- A timer has started its worker. -/
  | timerStarted (thread : String)
  /-- A timer has shut down and its worker has ended. -/
  | timerShutDown
  /-- A timer has shut down while its worker was executing a callback. -/
  | timerDetached
  /-- A callback panicked on the worker, which goes on. -/
  | callbackPanicked (key : TimerKey) (panic : Panic)
  /-- The worker of a timer that is being shut down had died. -/
  | workerPanicked
  deriving DecidableEq

/-- How much an event matters. -/
inductive Level where
  | trace
  | debug
  | warn
  | error
  deriving DecidableEq

/-- The value of a field of a logged event. -/
inductive FieldValue where
  | text (text : String)
  | number (number : Nat)
  deriving DecidableEq

namespace Event

/-- How much each event matters. -/
def level : Event → Level
  | accepted _ _ _ | coalesced _ | startedByFiring _ | held _ _ | ran _ _
  | startedByReplay _ => .trace
  | cancelTooLate _ | cancelledWhileRunning _ | cancelled _ _ | resetDropped _ | awaiting _ _
  | settled | timerStarted _ | timerShutDown | timerDetached => .debug
  | callbackPanicked _ _ | workerPanicked => .warn
  | exceededBudget _ _ => .error

/-- The sentence that stands for an event. -/
def message : Event → String
  | accepted _ _ _ => "task accepted"
  | coalesced _ => "firing coalesced"
  | startedByFiring _ => "task fired while draining"
  | held _ _ => "task held"
  | ran _ _ => "task ran"
  | startedByReplay _ => "draining held task"
  | cancelTooLate _ => "cancel too late"
  | cancelledWhileRunning _ => "periodic task cancelled while running"
  | cancelled _ _ => "task cancelled"
  | resetDropped _ => "reset dropped unfinished tasks"
  | awaiting _ _ => "awaiting tasks"
  | settled => "tasks settled"
  | exceededBudget _ _ => "outstanding tasks exceeded the await budget"
  | timerStarted _ => "timer started"
  | timerShutDown => "timer shut down"
  | timerDetached => "timer shut down with a callback in flight, worker detached"
  | callbackPanicked _ _ => "timer callback panicked"
  | workerPanicked => "timer worker exited with a panic"

/-- The fields of an event, by name. -/
def fields : Event → List (String × FieldValue)
  | accepted task delay cadence =>
      [("task", .text task.text), ("delay", .text delay.text), ("cadence", .text cadence.text)]
  | coalesced task | startedByFiring task | startedByReplay task | cancelTooLate task
  | cancelledWhileRunning task => [("task", .text task.text)]
  | held task size => [("task", .text task.text), ("held", .number size)]
  | ran task outstanding | cancelled task outstanding =>
      [("task", .text task.text), ("outstanding", .number outstanding)]
  | resetDropped discarded => [("discarded", .number discarded)]
  | awaiting outstanding size => [("outstanding", .number outstanding), ("held", .number size)]
  | settled | timerShutDown | timerDetached | workerPanicked => []
  | exceededBudget remaining budget =>
      [("remaining", .number remaining), ("budget", .text budget.text)]
  | timerStarted thread => [("thread", .text thread)]
  | callbackPanicked key panic =>
      [("key", .number key.number), ("panic", .text (panic.textOr "<non-string panic payload>"))]

/-- The task that an event is about, for those that are about one. -/
def task? : Event → Option TaskId
  | accepted task _ _ | coalesced task | startedByFiring task | held task _ | ran task _
  | startedByReplay task | cancelTooLate task | cancelledWhileRunning task
  | cancelled task _ => some task
  | resetDropped _ | awaiting _ _ | settled | exceededBudget _ _ | timerStarted _ | timerShutDown
  | timerDetached | callbackPanicked _ _ | workerPanicked => none

end Event

namespace Level

/-- The name of a level. -/
def name : Level → String
  | trace => "trace"
  | debug => "debug"
  | warn => "warn"
  | error => "error"

end Level

end TaskBarrier
