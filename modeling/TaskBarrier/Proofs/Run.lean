import Mathlib.Data.List.Basic
import TaskBarrier.Scheduler.Step

/-!
# Runs and their histories

`Scheduler.step` says what one thread can do next.  A *run* is any sequence of such steps, in
which every step may be made by any thread at any reading of the clock.  Its *history* is the list
of the steps made, the latest first, each with the state in which it was made.

What a step did to the tasks of the barrier is its *deed*.  A deed names the critical section that
the step went through, together with what that section answered; steps which concern no task, such
as a shutdown or a look at a deadline that has not come, share the deed `Deed.aside`.

## Main Definitions

* `Deed`, `Scheduler.deed`: the critical section of a step.
* `Deed.concerns`: whether a deed changes the phase, the slot or the body of a task.
* `Stride`, `History`: the steps made so far.
* `Path`, `Run`: the steps that lead from one state to another, and from the start.
* `Scheduler.play`: the path that a list of moves makes.
* `History.starts`, `History.executions`, `History.finishes`, `History.cancels`: how often
  something has happened to a task.
* `History.sinceReset`: the part of a history that follows the latest reset.

### The two design decisions

**A start is a decision.**  A run of a body begins in the section that decides upon it and sets
the phase, not when the code of the body is entered.  Between the two the task is running and no
code of it has been executed, so `starts` and `executions` are counted apart.

**A cancel is a section.**  It has succeeded once its section is over, whether or not the caller
has been told.
-/

namespace TaskBarrier

/-- How a cycle of the barrier came to its end. -/
inductive Ending where
  /-- An await saw that nothing was outstanding. -/
  | settled
  /-- An await saw tasks outstanding when its deadline had come. -/
  | timedOut
  /-- A panic has left an await. -/
  | unwound
  /-- An await had come to a regular end, and its guard found a panic on its way through the
  thread. -/
  | guarded
  deriving DecidableEq

/-- Whether something has failed at this end: the await, or what the thread was doing when it called
the await. -/
def Ending.failed : Ending → Bool
  | settled => false
  | timedOut | unwound | guarded => true

/-- What one step did to the tasks of a barrier. -/
inductive Deed where
  /-- Nothing that concerns the phase, the slot or the body of a task. -/
  | aside
  /-- A task has been accepted. -/
  | accept (id : TaskId)
  /-- The callback of a task has been decided upon. -/
  | call (id : TaskId) (firing : Firing)
  /-- An await has taken the front of the hold queue. -/
  | replay (replay : Replay)
  /-- The body of a task has been locked, and is executed unless it had been used up. -/
  | enter (id : TaskId) (executes : Bool)
  /-- The body of a task has come to its end. -/
  | leave (id : TaskId)
  /-- A run of a task is over. -/
  | finish (id : TaskId)
  /-- Somebody has tried to cancel a task. -/
  | cancel (id : TaskId) (answer : Cancellation)
  /-- An await has begun. -/
  | await
  /-- A cycle has ended, and the given tasks have been dropped. -/
  | reset (ending : Ending) (dropped : List TaskId)
  /-- The body of a task has been thrown away. -/
  | discard (id : TaskId)
  deriving DecidableEq

namespace Deed

/-- Whether the deed is the decision to run the task. -/
def startsTask (id : TaskId) : Deed → Bool
  | call other .run | replay (.run other) => other == id
  | _ => false

/-- Whether the deed is the beginning of an execution of the task's body. -/
def executesTask (id : TaskId) : Deed → Bool
  | enter other true => other == id
  | _ => false

/-- Whether the deed is the end of a run of the task. -/
def finishesTask (id : TaskId) : Deed → Bool
  | finish other => other == id
  | _ => false

/-- Whether the deed is a cancel of the task that succeeds. -/
def cancelsTask (id : TaskId) : Deed → Bool
  | cancel other answer => other == id && answer.succeeded
  | _ => false

/-- Whether the deed is the acceptance of the task. -/
def acceptsTask (id : TaskId) : Deed → Bool
  | accept other => other == id
  | _ => false

/-- Whether the deed is a reset. -/
def isReset : Deed → Bool
  | reset _ _ => true
  | _ => false

/-- Whether the deed is a reset that a failure has caused. -/
def isFailedReset : Deed → Bool
  | reset ending _ => ending.failed
  | _ => false

/-- Whether the deed is a reset that a failure has caused, and drops the task. -/
def dropsTask (id : TaskId) : Deed → Bool
  | reset ending dropped => ending.failed && dropped.contains id
  | _ => false

/-- Whether the deed changes the phase, the slot or the body of the task. -/
def concerns (id : TaskId) : Deed → Bool
  | aside | await | call _ .ignored | call _ .coalesced | replay .done | replay .skipped
  | cancel _ .tooLate => false
  | accept other | call other .run | call other .held | replay (.run other) | enter other _
  | leave other | finish other | cancel other .doomed | cancel other .cancelled
  | discard other => other == id
  | reset _ _ => true

/-! ## Deeds that concern other tasks or none -/

section Apart

variable {id : TaskId} {deed : Deed}

theorem startsTask_of_apart (apart : deed.concerns id = false) : deed.startsTask id = false := by
  unfold startsTask
  split
  · exact apart
  · exact apart
  · rfl

theorem executesTask_of_apart (apart : deed.concerns id = false) :
    deed.executesTask id = false := by
  unfold executesTask
  split
  · exact apart
  · rfl

theorem finishesTask_of_apart (apart : deed.concerns id = false) :
    deed.finishesTask id = false := by
  unfold finishesTask
  split
  · exact apart
  · rfl

theorem acceptsTask_of_apart (apart : deed.concerns id = false) : deed.acceptsTask id = false := by
  unfold acceptsTask
  split
  · exact apart
  · rfl

theorem cancelsTask_of_apart (apart : deed.concerns id = false) : deed.cancelsTask id = false := by
  unfold cancelsTask
  split
  · next other answer =>
    cases answer with
    -- A cancel that comes too late is not counted, whatever task it names.
    | tooLate => simp [Cancellation.succeeded]
    | doomed | cancelled =>
        have apart : (other == id) = false := apart
        simp [apart]
  · rfl

theorem isReset_of_apart (apart : deed.concerns id = false) : deed.isReset = false := by
  unfold isReset
  split
  · cases apart
  · rfl

theorem dropsTask_of_apart (apart : deed.concerns id = false) : deed.dropsTask id = false := by
  unfold dropsTask
  split
  · cases apart
  · rfl

end Apart

end Deed

namespace Scheduler

variable {ν : Type}

/-- What the request of some user code does to the tasks. -/
def requestDeed (s : Scheduler ν) (now : Instant) : Request → Deed
  | .accept delay cadence produces =>
      match (s.barrier.accept now delay cadence produces).answer with
      | .accepted id => .accept id
      | .refused _ | .unwound _ => .aside
  | .cancel handle =>
      if handle.scheduler = s.number then .cancel handle.task (s.barrier.cancel handle.task).answer
      else .aside
  | .cancelByHandle task =>
      if s.isAlive then .cancel task (s.barrier.cancel task).answer else .aside
  | .await _ => .await
  | .fire _ | .call _ | .read _ | .shutdown | .drop => .aside

/-- What the frame on top of a stack does to the tasks. -/
def frameDeed (s : Scheduler ν) (now : Instant) : Stack ν → Deed
  | .deciding task :: _ => .call task (s.barrier.fire task).answer
  | .run task (.starting _) :: _ =>
      match s.barrier.enterBody? task with
      | some (executes, _) => .enter task executes
      | none => .aside
  | .run task .finishing :: _ => .finish task
  | .awaiting _ _ .replaying :: _ => .replay s.barrier.popHeld.answer
  | .awaiting _ _ (.waiting deadline _) :: _ =>
      match (s.barrier.check now deadline).answer with
      | .settled dropped => .reset .settled dropped
      | .timedOut _ _ dropped => .reset .timedOut dropped
      | .wait _ => .aside
  | .raising _ :: .awaiting _ _ _ :: _ => .reset .unwound s.barrier.dropped
  | .guarding :: _ => .reset .guarded s.barrier.dropped
  | .discarding (task :: _) :: _ => .discard task
  | _ => .aside

/-- What a step of a thread does to the tasks. -/
def deed (s : Scheduler ν) (thread : ThreadId) (now : Instant) : Move ν → Deed
  | .request request => s.requestDeed now request
  | .endBody _ =>
      match s.stack thread with
      | .run task .executing :: _ => .leave task
      | _ => .aside
  | .proceed => s.frameDeed now (s.stack thread)
  | .work => .aside

end Scheduler

/-- One step of a run: the state in which it was made, who made it and when, and what it left
behind. -/
structure Stride (ν : Type) where
  before : Scheduler ν
  thread : ThreadId
  now : Instant
  move : Move ν
  turn : Turn ν

/-- What a step of a run did to the tasks. -/
def Stride.deed {ν : Type} (stride : Stride ν) : Deed :=
  stride.before.deed stride.thread stride.now stride.move

/-- The steps made so far, the latest first. -/
abbrev History (ν : Type) := List (Stride ν)

namespace History

variable {ν : Type}

/-- How many steps of a history did something that `which` tells. -/
def tally (history : History ν) (which : Deed → Bool) : Nat :=
  history.countP fun stride => which stride.deed

/-- How often a run of the task has been decided upon. -/
def starts (history : History ν) (id : TaskId) : Nat := history.tally (Deed.startsTask id)

/-- How often the body of the task has been executed. -/
def executions (history : History ν) (id : TaskId) : Nat := history.tally (Deed.executesTask id)

/-- How many runs of the task are over. -/
def finishes (history : History ν) (id : TaskId) : Nat := history.tally (Deed.finishesTask id)

/-- How often the task has been accepted. -/
def accepts (history : History ν) (id : TaskId) : Nat := history.tally (Deed.acceptsTask id)

/-- How many cancels of the task have succeeded. -/
def cancels (history : History ν) (id : TaskId) : Nat := history.tally (Deed.cancelsTask id)

/-- How many resets that a failure has caused have dropped the task. -/
def drops (history : History ν) (id : TaskId) : Nat := history.tally (Deed.dropsTask id)

/-- The steps made by one thread. -/
def byThread (history : History ν) (thread : ThreadId) : History ν :=
  history.filter (·.thread == thread)

/-- The steps made after the latest reset. -/
def sinceReset (history : History ν) : History ν :=
  history.takeWhile fun stride => !stride.deed.isReset

theorem tally_cons (stride : Stride ν) (history : History ν) (which : Deed → Bool) :
    History.tally (stride :: history) which =
      history.tally which + if which stride.deed then 1 else 0 := by
  simp [tally, List.countP_cons]

@[simp] theorem starts_nil (id : TaskId) : History.starts ([] : History ν) id = 0 := rfl

@[simp] theorem accepts_nil (id : TaskId) : History.accepts ([] : History ν) id = 0 := rfl

theorem starts_cons (stride : Stride ν) (history : History ν) (id : TaskId) :
    History.starts (stride :: history) id =
      history.starts id + if stride.deed.startsTask id then 1 else 0 :=
  tally_cons ..

theorem executions_cons (stride : Stride ν) (history : History ν) (id : TaskId) :
    History.executions (stride :: history) id =
      history.executions id + if stride.deed.executesTask id then 1 else 0 :=
  tally_cons ..

theorem finishes_cons (stride : Stride ν) (history : History ν) (id : TaskId) :
    History.finishes (stride :: history) id =
      history.finishes id + if stride.deed.finishesTask id then 1 else 0 :=
  tally_cons ..

theorem accepts_cons (stride : Stride ν) (history : History ν) (id : TaskId) :
    History.accepts (stride :: history) id =
      history.accepts id + if stride.deed.acceptsTask id then 1 else 0 :=
  tally_cons ..

theorem cancels_cons (stride : Stride ν) (history : History ν) (id : TaskId) :
    History.cancels (stride :: history) id =
      history.cancels id + if stride.deed.cancelsTask id then 1 else 0 :=
  tally_cons ..

theorem drops_cons (stride : Stride ν) (history : History ν) (id : TaskId) :
    History.drops (stride :: history) id =
      history.drops id + if stride.deed.dropsTask id then 1 else 0 :=
  tally_cons ..

theorem sinceReset_cons (stride : Stride ν) (history : History ν) :
    History.sinceReset (stride :: history) =
      if stride.deed.isReset then [] else stride :: history.sinceReset := by
  simp only [sinceReset, List.takeWhile_cons]
  cases stride.deed.isReset <;> rfl

end History

/-- The steps of `history` lead from the state `origin` to another one. -/
inductive Path {ν : Type} (origin : Scheduler ν) : History ν → Scheduler ν → Prop
  /-- No step leads nowhere. -/
  | start : Path origin [] origin
  /-- One more step, made by any thread at any reading of the clock. -/
  | step {history : History ν} {s : Scheduler ν} {thread : ThreadId} {now : Instant}
      {move : Move ν} {turn : Turn ν} (path : Path origin history s)
      (taken : s.step thread now move = some turn) :
      Path origin (⟨s, thread, now, move, turn⟩ :: history) turn.scheduler

/-- The steps of `history` lead from the start of some scheduler to the state `s`. -/
def Run {ν : Type} (history : History ν) (s : Scheduler ν) : Prop :=
  ∃ (number : Nat) (config : Config) (facility : Facility TaskId) (worker : Option ThreadId),
    Path (.start number config facility worker) history s

section Paths

variable {ν : Type}

/-- Two paths make one if the second begins where the first ends. -/
theorem Path.append {origin middle s : Scheduler ν} {earlier later : History ν}
    (first : Path origin earlier middle) (second : Path middle later s) :
    Path origin (later ++ earlier) s := by
  induction second with
  | start => exact first
  | step _ taken ih => exact ih.step taken

/-- A run goes on along a path. -/
theorem Run.append {s s' : Scheduler ν} {earlier later : History ν} (run : Run earlier s)
    (path : Path s later s') : Run (later ++ earlier) s' := by
  obtain ⟨number, config, facility, worker, first⟩ := run
  exact ⟨number, config, facility, worker, first.append path⟩

/-- **Every step of a run was made in a state of that run.** -/
theorem Run.stride {s : Scheduler ν} {later earlier : History ν} {stride : Stride ν}
    (run : Run (later ++ stride :: earlier) s) :
    Run earlier stride.before ∧
      stride.before.step stride.thread stride.now stride.move = some stride.turn := by
  obtain ⟨number, config, facility, worker, path⟩ := run
  -- The induction is on the path to the last state; the stride is one of the steps on it.
  generalize whole : later ++ stride :: earlier = history at path
  induction path generalizing later with
  | start => simp at whole
  | step path taken ih =>
      cases later with
      | nil =>
          obtain ⟨rfl, rfl⟩ := List.cons.inj whole
          exact ⟨⟨number, config, facility, worker, path⟩, taken⟩
      | cons _ later => exact ih (List.cons.inj whole).2

/-- A run can be cut at any point of its history. -/
theorem Run.split {s : Scheduler ν} {later earlier : History ν} (run : Run (later ++ earlier) s) :
    ∃ middle, Run earlier middle ∧ Path middle later s := by
  obtain ⟨number, config, facility, worker, path⟩ := run
  generalize whole : later ++ earlier = history at path
  induction path generalizing later with
  | start =>
      obtain ⟨rfl, rfl⟩ := List.append_eq_nil_iff.mp whole
      exact ⟨_, ⟨number, config, facility, worker, .start⟩, .start⟩
  | step path taken ih =>
      cases later with
      | nil =>
          obtain rfl : earlier = _ := whole
          exact ⟨_, ⟨number, config, facility, worker, path.step taken⟩, .start⟩
      | cons _ later =>
          obtain ⟨rfl, rest⟩ := List.cons.inj whole
          obtain ⟨middle, run, path⟩ := ih rest
          exact ⟨middle, run, path.step taken⟩

/-- The last step of a run was made in a state of that run, and led to where the run has come. -/
theorem Run.of_cons {s : Scheduler ν} {stride : Stride ν} {earlier : History ν}
    (run : Run (stride :: earlier) s) :
    Run earlier stride.before ∧
      stride.before.step stride.thread stride.now stride.move = some stride.turn ∧
      stride.turn.scheduler = s := by
  obtain ⟨number, config, facility, worker, path⟩ := run
  cases path with
  | step path taken => exact ⟨⟨number, config, facility, worker, path⟩, taken, rfl⟩

/-- Induction over runs: what holds at every start, and is kept by every step of a run, holds
throughout. -/
theorem Run.induct {motive : History ν → Scheduler ν → Prop} {history : History ν}
    {s : Scheduler ν} (run : Run history s)
    (start : ∀ number config facility worker,
      motive [] (.start number config facility worker))
    (step : ∀ {history : History ν} {s : Scheduler ν} {thread : ThreadId} {now : Instant}
      {move : Move ν} {turn : Turn ν}, Run history s → s.step thread now move = some turn →
      motive history s → motive (⟨s, thread, now, move, turn⟩ :: history) turn.scheduler) :
    motive history s := by
  obtain ⟨number, config, facility, worker, path⟩ := run
  induction path with
  | start => exact start number config facility worker
  | step path taken ih => exact step ⟨number, config, facility, worker, path⟩ taken ih

end Paths

/-! ## Playing moves -/

namespace Scheduler

variable {ν : Type}

/-- Makes moves one after the other, as long as there is a turn for each of them. -/
def play (s : Scheduler ν) : List (ThreadId × Instant × Move ν) → Option (History ν × Scheduler ν)
  | [] => some ([], s)
  | (thread, now, move) :: moves =>
      match s.step thread now move with
      | none => none
      | some turn =>
          (turn.scheduler.play moves).map fun (later, s') =>
            (later ++ [⟨s, thread, now, move, turn⟩], s')

end Scheduler

/-- A move that is possible is made, and others after it. -/
theorem Scheduler.play_cons {ν : Type} {s s' : Scheduler ν} {thread : ThreadId} {now : Instant}
    {move : Move ν} {turn : Turn ν} {moves : List (ThreadId × Instant × Move ν)}
    {later : History ν} (taken : s.step thread now move = some turn)
    (played : turn.scheduler.play moves = some (later, s')) :
    s.play ((thread, now, move) :: moves) = some (later ++ [⟨s, thread, now, move, turn⟩], s') := by
  simp only [play, taken, played, Option.map_some]

/-- Moves are made one after the other. -/
theorem Scheduler.play_append {ν : Type} {s middle s' : Scheduler ν}
    {moves moves' : List (ThreadId × Instant × Move ν)} {earlier later : History ν}
    (played : s.play moves = some (earlier, middle))
    (played' : middle.play moves' = some (later, s')) :
    s.play (moves ++ moves') = some (later ++ earlier, s') := by
  induction moves generalizing s earlier with
  | nil =>
      obtain ⟨rfl, rfl⟩ := Prod.mk.inj (Option.some.inj played)
      simpa using played'
  | cons head moves ih =>
      obtain ⟨thread, now, move⟩ := head
      unfold Scheduler.play at played
      split at played
      · cases played
      · next turn taken =>
        obtain ⟨⟨rest, last⟩, first, eq⟩ := Option.map_eq_some_iff.mp played
        obtain ⟨rfl, rfl⟩ := Prod.mk.inj eq
        rw [← List.append_assoc]
        exact play_cons taken (ih first)

/-- What has been played is a path. -/
theorem Path.of_play {ν : Type} {s s' : Scheduler ν} {history : History ν}
    {moves : List (ThreadId × Instant × Move ν)} (played : s.play moves = some (history, s')) :
    Path s history s' := by
  induction moves generalizing s history with
  | nil =>
      obtain ⟨rfl, rfl⟩ := Prod.mk.inj (Option.some.inj played)
      exact .start
  | cons head moves ih =>
      obtain ⟨thread, now, move⟩ := head
      unfold Scheduler.play at played
      split at played
      · cases played
      · next turn taken =>
        obtain ⟨⟨later, last⟩, rest, eq⟩ := Option.map_eq_some_iff.mp played
        obtain ⟨rfl, rfl⟩ := Prod.mk.inj eq
        exact (Path.start.step taken).append (ih rest)

/-- What has been played from the start is a run. -/
theorem Run.of_play {ν : Type} {number : Nat} {config : Config} {facility : Facility TaskId}
    {worker : Option ThreadId} {moves : List (ThreadId × Instant × Move ν)} {history : History ν}
    {s : Scheduler ν}
    (played : (Scheduler.start number config facility worker).play moves = some (history, s)) :
    Run history s :=
  ⟨number, config, facility, worker, .of_play played⟩

/-- The moves of a task that fires too early: it is held, until an await replays it, waits for
nothing more and succeeds. -/
def replayedMoves : List (ThreadId × Instant × Move Unit) :=
  [(0, ⟨0⟩, .request (.accept ⟨0⟩ .once false)),
    (1, ⟨0⟩, .request (.call ⟨0⟩)), (1, ⟨0⟩, .proceed), (1, ⟨0⟩, .proceed),
    (0, ⟨0⟩, .request (.await .plain)), (0, ⟨0⟩, .proceed), (0, ⟨0⟩, .proceed),
    (0, ⟨0⟩, .endBody (.returned none)), (0, ⟨0⟩, .proceed),
    (0, ⟨0⟩, .proceed), (0, ⟨0⟩, .proceed), (0, ⟨0⟩, .proceed), (0, ⟨0⟩, .proceed),
    (0, ⟨0⟩, .proceed)]

end TaskBarrier
