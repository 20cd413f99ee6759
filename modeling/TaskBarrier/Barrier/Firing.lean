import TaskBarrier.Barrier.Basic

/-!
# Firing, replaying and finishing

The callback of a task may be called at any time, any number of times, on any thread.  A call has
an effect only while the task is live.  Then the task is counted, if it is not counted already,
and runs at once if the barrier is draining, or is held.  A call that finds the task held or
running is *coalesced* with the firing before it.

An await replays the hold queue one task at a time.  Whoever ran a body, for whatever reason and
with whatever outcome, *finishes* it: the task is no longer counted, and is live again, or has
ran, or is cancelled if it was doomed meanwhile.

## Main Definitions

- `Firing`, `Barrier.fire`: the callback decides.
- `Replay`, `Barrier.popHeld`: the next task of the hold queue.
- `Barrier.finish`: after a run.
-/

namespace TaskBarrier

/-- What becomes of a call of a task's callback. -/
inductive Firing where
  /-- The task has ended; nothing happens. -/
  | ignored
  /-- The task is held or running; nothing happens. -/
  | coalesced
  /-- The caller runs the body. -/
  | run
  /-- The task waits to be replayed. -/
  | held
  deriving DecidableEq

/-- What an await finds at the front of the hold queue. -/
inductive Replay where
  /-- The queue is empty. -/
  | done
  /-- The task at the front has no slot any more and is passed over. -/
  | skipped
  /-- The caller runs the body of the task. -/
  | run (id : TaskId)
  deriving DecidableEq

namespace Barrier

variable {ν : Type}

/-- A live task fires. -/
def fireLive (b : Barrier ν) (id : TaskId) : Section ν Firing :=
  let counted := b.count id
  if b.draining then ⟨.run, counted.modify id (·.setPhase .running), []⟩
  else
    let holding := { counted.modify id (·.setPhase .held) with held := b.held ++ [id] }
    ⟨.held, holding, [.held id holding.held.length]⟩

/-- The callback of a task has been called. -/
def fire (b : Barrier ν) (id : TaskId) : Section ν Firing :=
  match b.slotted? id with
  | none => ⟨.ignored, b, []⟩
  | some (task, _) =>
      match task.phase with
      | .live => b.fireLive id
      | .held | .running => ⟨.coalesced, b, [.coalesced id]⟩
      | .ran | .cancelled => ⟨.ignored, b, []⟩

/-- Takes the front of the hold queue. -/
def popHeld (b : Barrier ν) : Section ν Replay :=
  match b.held with
  | [] => ⟨.done, b, []⟩
  | id :: rest =>
      let popped := { b with held := rest }
      match b.slotted? id with
      | none => ⟨.skipped, popped, []⟩
      | some _ => ⟨.run id, popped.modify id (·.setPhase .running), []⟩

/-- The phase and the slot of a task after a run. -/
def afterRun (task : Task ν) : Task ν :=
  if task.isDoomed then task.retire .cancelled
  else if task.periodic then task.setPhase .live
  else task.retire .ran

/-- A run of a task has ended.  The answer says whether the body has to be thrown away, which is
so for a task that was cancelled during the run. -/
def finish (b : Barrier ν) (id : TaskId) : Section ν Bool :=
  let uncounted := b.uncount id
  match uncounted.slotted? id with
  | none => ⟨false, uncounted, [.ran id uncounted.outstanding]⟩
  | some (_, slot) =>
      ⟨slot.doomed, uncounted.modify id afterRun, [.ran id uncounted.outstanding]⟩

@[simp] theorem popHeld_of_nil {b : Barrier ν} (empty : b.held = []) :
    b.popHeld = ⟨.done, b, []⟩ := by
  simp [popHeld, empty]

end Barrier

end TaskBarrier
