import TaskBarrier.Failure
import TaskBarrier.Identifier
import TaskBarrier.Time.Cadence

/-!
# Actions

A script is a list of actions.  The steps of a session are a script, the body of a task is one,
and so is what a further thread does.  Actions hand in tasks, await them, cancel them, look at
them and fire their entries; they open gates and wait at them, start threads and join them; they
sleep, and they panic.

Schedulers are numbered.  Tasks are known by labels, and so are gates, threads and callbacks that
have been kept.

## Main Definitions

- `Guarded`: an action with the conditions under which it is performed.
- `Intake`: the ways to hand in a task.
- `Action`, `Action.word`.
-/

namespace TaskBarrier

/-- An action of a script. -/
structure Guarded (α : Type) where
  /-- In a body, the only run of the task in which the action is performed. -/
  onRun : Option Nat
  /-- In a body, whether a panic of the action stops there. -/
  catches : Bool
  action : α

/-- The ways to hand in a task. -/
inductive Intake (ν : Type) where
  /-- As soon as possible. -/
  | submit
  | schedule (delay : Duration)
  /-- As soon as possible, to produce a value. -/
  | submitCall (value : ν)
  | scheduleCall (delay : Duration) (value : ν)
  | fixedRate (delay period : Duration)
  | fixedDelay (delay period : Duration)

namespace Intake

variable {ν : Type}

/-- The time until the first firing. -/
def delay : Intake ν → Duration
  | submit | submitCall _ => .zero
  | schedule delay | scheduleCall delay _ | fixedRate delay _ | fixedDelay delay _ => delay

/-- How the entry is armed again. -/
def cadence : Intake ν → Cadence
  | submit | submitCall _ | schedule _ | scheduleCall _ _ => .once
  | fixedRate _ period => .fixedRate period
  | fixedDelay _ period => .fixedDelay period

/-- The value that the task produces once its body has returned. -/
def value? : Intake ν → Option ν
  | submitCall value | scheduleCall _ value => some value
  | submit | schedule _ | fixedRate _ _ | fixedDelay _ _ => none

/-- The word for each way. -/
def word : Intake ν → String
  | submit => "submit"
  | schedule _ => "schedule"
  | submitCall _ => "submit_call"
  | scheduleCall _ _ => "schedule_call"
  | fixedRate _ _ => "fixed_rate"
  | fixedDelay _ _ => "fixed_delay"

end Intake

/-- The ways to cancel a task. -/
inductive CancelVia where
  /-- Through the task's handle. -/
  | handle
  /-- Through a scheduler, which need not be the task's own. -/
  | scheduler (number : Nat)
  /-- Through the other side of the task's promise. -/
  | promise
  deriving DecidableEq

/-- What a script can do.  The values that tasks produce and scripts note are of type `ν`. -/
inductive Action (ν : Type) where
  | accept (scheduler : Nat) (label : String) (intake : Intake ν)
      (body : List (Guarded (Action ν)))
  /-- Await all tasks.  While this thread is blocked another one may perform actions, and the
  answer may tell whether the await has returned within some time. -/
  | await (scheduler : Nat) (strict : Bool) (during : Option (List (Guarded (Action ν))))
      (within : Option Duration)
  | cancel (label : String) (via : CancelVia)
  | handle (label : String)
  | tryTake (label : String)
  | poll (label : String)
  /-- Consume the promise and wait for its value, at once or only if the task has ended. -/
  | wait (label : String) (block : Bool)
  | dropCall (label : String)
  | state (scheduler : Nat)
  | config (scheduler : Nat)
  | shutdown (scheduler : Nat)
  | dropScheduler (scheduler : Nat)
  | fire (scheduler : Nat) (key : TimerKey)
  /-- Fire all entries that are armed at the start, by ascending or by descending key. -/
  | fireAll (scheduler : Nat) (descending : Bool)
  | armed (scheduler : Nat)
  /-- Keep the callback of an armed entry. -/
  | grab (scheduler : Nat) (key : TimerKey) (name : String)
  | callGrabbed (name : String)
  | note (value : ν)
  | panic (panic : Panic)
  | thread
  | waitGate (gate : String)
  | openGate (gate : String) (join : Option String)
  /-- Start a thread, and go on at once or when something waits at the given gate. -/
  | spawn (name : String) (actions : List (Guarded (Action ν))) (until? : Option String)
  | join (name : String)
  | sleep (time : Duration)
  | waitHeld (scheduler : Nat) (size : Nat)
  | quiet (time : Duration)

namespace Action

variable {ν : Type}

/-- The word for each action. -/
def word : Action ν → String
  | accept _ _ intake _ => intake.word
  | await _ strict _ _ => if strict then "await" else "try_await"
  | cancel _ _ => "cancel"
  | handle _ => "handle"
  | tryTake _ => "try_take"
  | poll _ => "poll"
  | wait _ _ => "wait"
  | dropCall _ => "drop_call"
  | state _ => "state"
  | config _ => "config"
  | shutdown _ => "shutdown"
  | dropScheduler _ => "drop_scheduler"
  | fire _ _ => "fire"
  | fireAll _ _ => "fire_all"
  | armed _ => "armed"
  | grab _ _ _ => "grab"
  | callGrabbed _ => "call_grabbed"
  | note _ => "note"
  | panic _ => "panic"
  | thread => "thread"
  | waitGate _ => "wait_gate"
  | openGate _ _ => "open_gate"
  | spawn _ _ _ => "spawn"
  | join _ => "join"
  | sleep _ => "sleep"
  | waitHeld _ _ => "wait_held"
  | quiet _ => "quiet"

end Action

end TaskBarrier
