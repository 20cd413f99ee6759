import TaskBarrier.Time.Instant

/-!
# Cooperative threads on a virtual clock

Some number of threads share a state.  A thread that has been given the turn keeps it until it is
blocked or has ended; then the first thread that can make a step gets it.  Every step takes one
nanosecond, so two readings of the clock never agree.  When all threads are blocked, the clock
jumps to the earliest instant at which one of them wakes up by itself.

Of all the orders in which the steps of the threads may come this is one, and a fair picture of
what a real machine does with threads that wait for each other: handing a processor over takes
much longer than a step.

## Main Definitions

- `Cooperative`: what has to be known about the threads.
- `Cooperative.advance?`: one step, or one jump of the clock.
- `Cooperative.run`: steps until the work is done, nothing can happen any more, or a limit is
  reached.
-/

namespace TaskBarrier

/-- Threads, numbered from zero, that share a state `σ`. -/
structure Cooperative (σ : Type) where
  /-- The number of threads. -/
  size : σ → Nat
  /-- One step of a thread, if it can make one. -/
  step : σ → Nat → Option σ
  /-- When a blocked thread wakes up by itself. -/
  wake : σ → Nat → Option Instant
  clock : σ → Instant
  setClock : σ → Instant → σ
  /-- Whether the work is done. -/
  isDone : σ → Bool

namespace Cooperative

variable {σ : Type}

/-- The first thread of a list that can make a step, and the state after it. -/
def firstStep (c : Cooperative σ) (state : σ) : List Nat → Option (Nat × σ)
  | [] => none
  | thread :: rest =>
      match c.step state thread with
      | some after => some (thread, after)
      | none => c.firstStep state rest

/-- The earliest instant at which a thread of a list wakes up by itself. -/
def firstWake (c : Cooperative σ) (state : σ) : List Nat → Option Instant
  | [] => none
  | thread :: rest =>
      match c.wake state thread, c.firstWake state rest with
      | some a, some b => some (a.earlier b)
      | some a, none => some a
      | none, later => later

/-- One step of the thread that has the turn, or of another one if it is blocked; or a jump of
the clock if all are. -/
def advance? (c : Cooperative σ) (current : Nat) (state : σ) : Option (Nat × σ) :=
  let threads := List.range (c.size state)
  match c.firstStep state (current :: threads) with
  | some (thread, after) => some (thread, c.setClock after (c.clock after).tick)
  | none =>
      match c.firstWake state threads with
      | some instant =>
          if (c.clock state).before instant then some (current, c.setClock state instant)
          else none
      | none => none

/-- At most `limit` steps, beginning with the thread `current`. -/
def run (c : Cooperative σ) : (limit current : Nat) → σ → σ
  | 0, _, state => state
  | limit + 1, current, state =>
      if c.isDone state then state
      else
        match c.advance? current state with
        | some (next, after) => c.run limit next after
        | none => state

@[simp] theorem run_zero (c : Cooperative σ) (current : Nat) (state : σ) :
    c.run 0 current state = state := rfl

end Cooperative

end TaskBarrier
