/-!
# Promises

A promise stands between the body that produces a value and whoever waits for it.  The producer
delivers a value once, or is lost; the value can be read once.  After that, and after the producer
has been lost, every reading answers that the value is abandoned.

## Main Definitions

- `Promise`, `Promise.settle`: what the producer does.
- `Reading`, `Promise.read`: what the other side does.
-/

namespace TaskBarrier

/-- A value that a body is to produce. -/
inductive Promise (ν : Type) where
  /-- The producer has neither delivered nor been lost. -/
  | pending
  /-- The value has been delivered and not been read. -/
  | ready (value : ν)
  /-- The value has been read, or the producer has been lost. -/
  | closed

/-- What reading a promise answers. -/
inductive Reading (ν : Type) where
  | pending
  | value (value : ν)
  | abandoned

namespace Promise

variable {ν : Type}

/-- The producer ends, with a value or without one.  Only the first end counts. -/
def settle (result : Option ν) : Promise ν → Promise ν
  | pending =>
      match result with
      | some value => ready value
      | none => closed
  | ready value => ready value
  | closed => closed

/-- Reads a promise.  A delivered value is handed out once. -/
def read : Promise ν → Reading ν × Promise ν
  | pending => (.pending, pending)
  | ready value => (.value value, closed)
  | closed => (.abandoned, closed)

/-- Whether the producer has neither delivered nor been lost. -/
def isPending : Promise ν → Bool
  | pending => true
  | ready _ | closed => false

@[simp] theorem read_pending : (pending : Promise ν).read = (.pending, pending) := rfl

@[simp] theorem read_ready (value : ν) : (ready value).read = (.value value, closed) := rfl

@[simp] theorem read_closed : (closed : Promise ν).read = (.abandoned, closed) := rfl

@[simp] theorem settle_pending_some (value : ν) : pending.settle (some value) = ready value := rfl

@[simp] theorem settle_pending_none : (pending : Promise ν).settle none = closed := rfl

end Promise

end TaskBarrier
