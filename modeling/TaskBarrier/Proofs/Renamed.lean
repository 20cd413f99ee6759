import TaskBarrier.Proofs.OwnSteps
import TaskBarrier.Proofs.Renaming

/-!
# Renamed schedulers

A scheduler is a *renamed* one of another if it is the other under a renaming: its barrier, and what
is left to do on each of its threads.  Whatever a thread can do in one of the two, with the names
renamed, it can do in the other, and it is told the same up to the renaming.  So the two stay
renamed of each other for as long as both make the same moves.

One move asks for more than a renaming: an accept draws numbers, so the counters have to stand at
numbers that correspond.

## Main Definitions

* `Renaming.barrier`, `Renaming.outcome`: barriers and the outcomes of sections.
* `Renaming.Counts`: the counters stand at numbers that correspond.
* `Scheduler.Renamed`, `Turn.Renamed`, `Stride.Renamed`.

The main statements are `Renamed.step` for one step and `Renamed.play` for many.
-/

namespace TaskBarrier

variable {ν : Type}

/-! ## Barriers -/

namespace Renaming

variable (ρ : Renaming)

/-- Renames a barrier. -/
def barrier (b : Barrier ν) : Barrier ν :=
  { b with
    facility := ρ.facility b.facility
    held := b.held.map ρ.id
    tasks := b.tasks.map ρ.task
    nextId := ρ.nextId b.nextId }

/-- Renames the outcome of a section, of which the answer is renamed by `answer`. -/
def outcome {α : Type} (answer : α → α) (outcome : Section ν α) : Section ν α :=
  ⟨answer outcome.answer, ρ.barrier outcome.barrier, outcome.events.map ρ.event⟩

/-- Renames the task that is accepted. -/
def acceptance : Acceptance → Acceptance
  | .accepted id => .accepted (ρ.id id)
  | .refused failure => .refused failure
  | .unwound panic => .unwound panic

/-- Renames the task that is replayed. -/
def replay : Replay → Replay
  | .run id => .run (ρ.id id)
  | .done => .done
  | .skipped => .skipped

/-- Renames the tasks that are dropped. -/
def check : Check → Check
  | .settled dropped => .settled (dropped.map ρ.id)
  | .timedOut remaining budget dropped => .timedOut remaining budget (dropped.map ρ.id)
  | .wait time => .wait time

/-- The numbers that are drawn next are renamed like any others, and the counters go on after
them. -/
structure Counts (b : Barrier ν) : Prop where
  id : ρ.nextId b.nextId = ρ.id b.nextId
  next : ρ.nextId b.nextId.next = (ρ.id b.nextId).next
  key : ρ.nextKey b.facility.nextKey = ρ.key b.facility.nextKey
  nextKey : ρ.nextKey b.facility.nextKey.next = (ρ.key b.facility.nextKey).next

section Barrier

variable (b : Barrier ν)

@[simp] theorem outstanding_barrier : (ρ.barrier b).outstanding = b.outstanding := rfl

@[simp] theorem draining_barrier : (ρ.barrier b).draining = b.draining := rfl

@[simp] theorem config_barrier : (ρ.barrier b).config = b.config := rfl

@[simp] theorem held_barrier : (ρ.barrier b).held = b.held.map ρ.id := rfl

@[simp] theorem facility_barrier : (ρ.barrier b).facility = ρ.facility b.facility := rfl

/-! ### The primitives -/

theorem task?_barrier (id : TaskId) :
    (ρ.barrier b).task? (ρ.id id) = (b.task? id).map ρ.task := by
  unfold Barrier.task? Renaming.barrier
  rw [List.find?_map]
  congr 2
  funext task
  exact ρ.id_beq task.id id

theorem slotted?_barrier (id : TaskId) : (ρ.barrier b).slotted? (ρ.id id) =
    (b.slotted? id).map fun (task, slot) => (ρ.task task, ρ.slot slot) := by
  unfold Barrier.slotted?
  rw [task?_barrier]
  cases b.task? id with
  | none => rfl
  | some task => cases slot : task.slot <;> simp [slot]

theorem modify_barrier (id : TaskId) (change change' : Task ν → Task ν)
    (commutes : ∀ task, change' (ρ.task task) = ρ.task (change task)) :
    (ρ.barrier b).modify (ρ.id id) change' = ρ.barrier (b.modify id change) := by
  simp only [Barrier.modify, barrier, List.map_map]
  congr 1
  refine List.map_congr_left fun task _ => ?_
  simp only [Function.comp_apply, id_task, id_beq, commutes]
  split <;> rfl

@[simp] theorem count_barrier (id : TaskId) :
    (ρ.barrier b).count (ρ.id id) = ρ.barrier (b.count id) := by
  unfold Barrier.count
  rw [slotted?_barrier]
  cases b.slotted? id with
  | none => rfl
  | some entry =>
      simp only [Option.map_some, slot]
      split
      · rfl
      · rw [ρ.modify_barrier b id _ _ (ρ.setCounted_task · true)]
        rfl

@[simp] theorem uncount_barrier (id : TaskId) :
    (ρ.barrier b).uncount (ρ.id id) = ρ.barrier (b.uncount id) := by
  unfold Barrier.uncount
  rw [slotted?_barrier]
  cases b.slotted? id with
  | none => rfl
  | some entry =>
      simp only [Option.map_some, slot]
      split
      · rw [ρ.modify_barrier b id _ _ (ρ.setCounted_task · false)]
        rfl
      · rfl

/-! ### The sections -/

/-- **An accept.** -/
theorem accept_barrier (counts : ρ.Counts b) (now : Instant) (delay : Duration)
    (cadence : Cadence) (produces : Bool) : (ρ.barrier b).accept now delay cadence produces =
      ρ.outcome ρ.acceptance (b.accept now delay cadence produces) := by
  have arms := ρ.arm_facility b.facility counts.key counts.nextKey now delay cadence b.nextId
  have drawn : (ρ.barrier b).nextId = ρ.id b.nextId := counts.id
  unfold Barrier.accept
  split
  · rfl
  · simp only [drawn, facility_barrier, arms]
    cases (b.facility.arm now delay cadence b.nextId).1 with
    | refused | overflow => simp only [arming, outcome, barrier, counts.next]; rfl
    | armed key => simp only [arming, outcome, barrier, counts.next, List.map_append]; rfl

theorem fireLive_barrier (id : TaskId) : (ρ.barrier b).fireLive (ρ.id id) =
    ρ.outcome (fun firing => firing) (b.fireLive id) := by
  unfold Barrier.fireLive
  simp only [count_barrier, draining_barrier, held_barrier]
  split
  · rw [ρ.modify_barrier _ id (·.setPhase .running) _ fun _ => rfl]
    rfl
  · rw [ρ.modify_barrier _ id (·.setPhase .held) _ fun _ => rfl]
    simp [outcome, barrier, event]

/-- **A firing.** -/
theorem fire_barrier (id : TaskId) :
    (ρ.barrier b).fire (ρ.id id) = ρ.outcome (fun firing => firing) (b.fire id) := by
  unfold Barrier.fire
  rw [slotted?_barrier]
  cases b.slotted? id with
  | none => rfl
  | some entry =>
      simp only [Option.map_some, phase_task]
      cases entry.1.phase with
      | live => exact ρ.fireLive_barrier b id
      | held | running | ran | cancelled => rfl

/-- **The replay of the next task.** -/
theorem popHeld_barrier : (ρ.barrier b).popHeld = ρ.outcome ρ.replay b.popHeld := by
  unfold Barrier.popHeld
  rw [held_barrier]
  cases b.held with
  | nil => rfl
  | cons id rest =>
      simp only [List.map_cons]
      rw [slotted?_barrier]
      cases b.slotted? id with
      | none => rfl
      | some entry =>
          have popped := ρ.modify_barrier ({ b with held := rest } : Barrier ν) id
            (·.setPhase .running) (·.setPhase .running) fun _ => rfl
          simp only [Option.map_some, outcome, ← popped]
          rfl

/-- **The end of a run.** -/
theorem finish_barrier (id : TaskId) :
    (ρ.barrier b).finish (ρ.id id) = ρ.outcome (fun doomed => doomed) (b.finish id) := by
  unfold Barrier.finish
  simp only [uncount_barrier, slotted?_barrier, outstanding_barrier]
  cases (b.uncount id).slotted? id with
  | none => rfl
  | some entry =>
      simp only [Option.map_some]
      rw [ρ.modify_barrier _ id _ _ ρ.afterRun_task]
      rfl

theorem enterBody?_barrier (id : TaskId) : (ρ.barrier b).enterBody? (ρ.id id) =
    (b.enterBody? id).map fun (execute, b) => (execute, ρ.barrier b) := by
  unfold Barrier.enterBody?
  rw [task?_barrier]
  cases b.task? id with
  | none => rfl
  | some task =>
      simp only [Option.map_some, enter?_task]
      cases task.enter? with
      | none => rfl
      | some entry =>
          simp only [Option.map_some]
          rw [ρ.modify_barrier b id (fun _ => entry.2) _ fun _ => rfl]

theorem leaveBody_barrier (id : TaskId) (result : Option ν) :
    (ρ.barrier b).leaveBody (ρ.id id) result = ρ.barrier (b.leaveBody id result) :=
  ρ.modify_barrier b id _ _ fun _ => rfl

theorem discard?_barrier (id : TaskId) :
    (ρ.barrier b).discard? (ρ.id id) = (b.discard? id).map ρ.barrier := by
  unfold Barrier.discard?
  rw [task?_barrier]
  cases b.task? id with
  | none => rfl
  | some task =>
      simp only [Option.map_some, executing_task, ρ.modify_barrier b id _ _ ρ.discard_task]
      cases task.executing <;> rfl

theorem readValue_barrier (id : TaskId) : (ρ.barrier b).readValue (ρ.id id) =
    ((b.readValue id).1, ρ.barrier (b.readValue id).2) := by
  have promised : ((ρ.barrier b).task? (ρ.id id)).bind (·.promise) =
      (b.task? id).bind (·.promise) := by
    rw [task?_barrier]
    cases b.task? id <;> rfl
  unfold Barrier.readValue
  rw [promised]
  cases (b.task? id).bind (·.promise) with
  | none => rfl
  | some promise =>
      simp only
      rw [ρ.modify_barrier b id ({ · with promise := some promise.read.2 }) _ fun _ => rfl]

theorem disarm_barrier (key : TimerKey) :
    (ρ.barrier b).disarm (ρ.key key) = ρ.barrier (b.disarm key) := by
  simp only [Barrier.disarm, barrier, disarm_facility]

theorem unhold_barrier (id : TaskId) :
    (ρ.barrier b).unhold (ρ.id id) = ρ.barrier (b.unhold id) := by
  simp only [Barrier.unhold, barrier, List.filter_map]
  congr 2
  refine congrArg (List.filter · b.held) (funext fun other => ?_)
  simp [bne]

theorem withdraw_barrier (id : TaskId) : (ρ.barrier b).withdraw (ρ.id id) =
    ρ.outcome (fun answer => answer) (b.withdraw id) := by
  unfold Barrier.withdraw
  simp only [uncount_barrier, outstanding_barrier]
  rw [ρ.modify_barrier _ id (·.retire .cancelled) _ fun _ => rfl]
  rfl

/-- **A cancel.** -/
theorem cancel_barrier (id : TaskId) :
    (ρ.barrier b).cancel (ρ.id id) = ρ.outcome (fun answer => answer) (b.cancel id) := by
  unfold Barrier.cancel
  rw [slotted?_barrier]
  cases b.slotted? id with
  | none => rfl
  | some entry =>
      obtain ⟨task, slot⟩ := entry
      simp only [Option.map_some, phase_task, periodic_task, Renaming.slot, disarm_barrier,
        unhold_barrier, withdraw_barrier, ρ.modify_barrier _ id _ _ ρ.doom_task]
      cases task.phase with
      | live | held | ran | cancelled => rfl
      | running =>
          simp only
          split <;> rfl

theorem dropped_barrier : (ρ.barrier b).dropped = b.dropped.map ρ.id := by
  have each : ((·.isDropped) ∘ ρ.task : Task ν → Bool) = (·.isDropped) :=
    funext fun task => ρ.isDropped_task task
  simp only [Barrier.dropped, barrier, List.filter_map, each, List.map_map]
  rfl

/-- **The end of a cycle.** -/
theorem reset_barrier : (ρ.barrier b).reset = ρ.barrier b.reset := by
  have keys : (b.tasks.map ρ.task).filterMap (·.droppedKey?) =
      (b.tasks.filterMap (·.droppedKey?)).map ρ.key := by
    rw [List.filterMap_map, List.map_filterMap]
    exact congrArg (List.filterMap · b.tasks) (funext fun task => ρ.droppedKey?_task task)
  have each : ((·.reset) ∘ ρ.task : Task ν → Task ν) = ρ.task ∘ (·.reset) :=
    funext fun task => ρ.reset_task task
  simp only [Barrier.reset, barrier, keys, disarms_facility, List.map_map, each, List.map_nil]

/-- **A look of a waiting await.** -/
theorem check_barrier (now deadline : Instant) :
    (ρ.barrier b).check now deadline = ρ.outcome ρ.check (b.check now deadline) := by
  unfold Barrier.check
  rw [outstanding_barrier, config_barrier, reset_barrier, dropped_barrier]
  split
  · rfl
  · split <;> rfl

end Barrier

end Renaming

/-! ## What one thread can see -/

/-- **As far as one thread can see**, the scheduler `t` is the scheduler `s` under a renaming.  What
it does next depends on nothing else, except on the lock and on whether the scheduler is alive. -/
structure Scheduler.RenamedAt (ρ : Renaming) (thread : ThreadId) (s t : Scheduler ν) : Prop where
  number : t.number = s.number
  worker : t.worker = s.worker
  dropped : t.dropped = s.dropped
  barrier : t.barrier = ρ.barrier s.barrier
  stack : t.stack thread = ρ.stack (s.stack thread)

/-- Two turns of one thread, from `s` and from `t`, of which one is the other under a renaming. -/
structure Turn.RenamedAt (ρ : Renaming) (thread : ThreadId) (s t : Scheduler ν)
    (one other : Turn ν) : Prop where
  scheduler : Scheduler.RenamedAt ρ thread one.scheduler other.scheduler
  lock : t.lock = s.lock → other.scheduler.lock = one.scheduler.lock
  signal : other.signal = ρ.signal one.signal
  events : other.events = one.events.map ρ.event

/-- The timers of both have gone on before their turns. -/
theorem Turn.RenamedAt.of_withTimer {ρ : Renaming} {thread : ThreadId} {s t : Scheduler ν}
    {timer timer' : Timer TaskId} {one other : Turn ν}
    (turns : Turn.RenamedAt ρ thread (s.withTimer timer) (t.withTimer timer') one other) :
    Turn.RenamedAt ρ thread s t one other :=
  { turns with lock := turns.lock }

namespace Scheduler.RenamedAt

variable {ρ : Renaming} {s t : Scheduler ν} {thread : ThreadId}

/-- A callback leads somewhere in both, or in neither. -/
theorem calling (alive : t.isAlive = s.isAlive) (task : TaskId) :
    t.calling (ρ.id task) = ρ.stack (s.calling task) := by
  unfold Scheduler.calling
  rw [alive]
  split <;> rfl

section Steps

variable (renamed : RenamedAt ρ thread s t)
include renamed

/-- A turn of both that replaces the barrier and the stack of the thread. -/
theorem turn {barrier barrier' : Barrier ν} (barriers : barrier' = ρ.barrier barrier)
    {stack stack' : Stack ν} (frames : stack' = ρ.stack stack) {signal signal' : Signal ν}
    (signals : signal' = ρ.signal signal) {events events' : List Event}
    (logs : events' = events.map ρ.event) :
    Turn.RenamedAt ρ thread s t (s.turn barrier thread stack signal events)
      (t.turn barrier' thread stack' signal' events') where
  signal := signals
  events := logs
  lock := id
  scheduler :=
    { renamed with
      barrier := barriers
      stack := by rw [stack_turn_self, stack_turn_self, frames] }

/-- A turn of both that leaves the barrier alone. -/
theorem turn_of_stack {stack stack' : Stack ν} (frames : stack' = ρ.stack stack)
    {signal signal' : Signal ν} (signals : signal' = ρ.signal signal)
    {events events' : List Event} (logs : events' = events.map ρ.event) :
    Turn.RenamedAt ρ thread s t (s.turn s.barrier thread stack signal events)
      (t.turn t.barrier thread stack' signal' events') :=
  renamed.turn renamed.barrier frames signals logs

theorem refuse : Turn.RenamedAt ρ thread s t s.refuse t.refuse := ⟨renamed, id, rfl, rfl⟩

theorem isUserCode : t.isUserCode thread = s.isUserCode thread := by
  unfold Scheduler.isUserCode
  rw [renamed.stack, renamed.worker]
  cases s.stack thread with
  | nil => rfl
  | cons frame rest =>
      cases frame with
      | run task stage => cases stage <;> rfl
      | _ => rfl

/-- The timers of both, if they have any. -/
theorem timer? : t.timer? = s.timer?.map ρ.timer := by
  unfold Scheduler.timer?
  rw [renamed.barrier, Renaming.facility_barrier]
  cases s.barrier.facility <;> rfl

/-! ### Requests -/

/-- Both refuse a task under the lock. -/
theorem declining (barrier : Barrier ν) (last : Frame ν) :
    Turn.RenamedAt ρ thread s t (s.declining thread barrier last)
      (t.declining thread (ρ.barrier barrier) (ρ.frame last)) := by
  have locked : RenamedAt ρ thread { s with lock := some thread } { t with lock := some thread } :=
    { renamed with }
  refine { locked.turn rfl ?_ rfl rfl with lock := fun _ => rfl }
  rw [renamed.stack]
  rfl

theorem requestAccept (counts : ρ.Counts s.barrier) (now : Instant) (delay : Duration)
    (cadence : Cadence) (produces : Bool) :
    Turn.RenamedAt ρ thread s t (s.requestAccept thread now delay cadence produces)
      (t.requestAccept thread now delay cadence produces) := by
  have accepts := ρ.accept_barrier s.barrier counts now delay cadence produces
  unfold Scheduler.requestAccept
  rw [renamed.barrier, accepts]
  simp only [Renaming.outcome]
  cases (s.barrier.accept now delay cadence produces).answer with
  | accepted => exact renamed.turn rfl (renamed.stack) rfl rfl
  | refused failure =>
      simp only [Renaming.acceptance]
      split
      · exact renamed.turn rfl (renamed.stack) rfl rfl
      · exact renamed.declining _ (.answering (.failed failure))
  | unwound panic => exact renamed.declining _ (.raising panic)

theorem requestFire (alive : t.isAlive = s.isAlive) (key : TimerKey) :
    Turn.RenamedAt ρ thread s t (s.requestFire thread key) (t.requestFire thread (ρ.key key)) := by
  unfold Scheduler.requestFire
  rw [renamed.barrier, Renaming.facility_barrier]
  cases s.barrier.facility with
  | byClock timer => exact renamed.refuse
  | byHand registry =>
      simp only [Renaming.facility, Renaming.fire?_registry]
      cases registry.fire? key with
      | none => exact renamed.refuse
      | some fired =>
          obtain ⟨task, after⟩ := fired
          refine renamed.turn rfl ?_ rfl rfl
          rw [calling alive, renamed.stack, Renaming.stack_append]
          rfl

theorem requestCall (alive : t.isAlive = s.isAlive) (task : TaskId) :
    Turn.RenamedAt ρ thread s t (s.requestCall thread task) (t.requestCall thread (ρ.id task)) := by
  refine renamed.turn_of_stack ?_ rfl rfl
  rw [calling alive, renamed.stack, Renaming.stack_append]
  rfl

theorem requestCancel (task : TaskId) :
    Turn.RenamedAt ρ thread s t (s.requestCancel thread task)
      (t.requestCancel thread (ρ.id task)) := by
  unfold Scheduler.requestCancel
  rw [renamed.barrier, renamed.stack, ρ.cancel_barrier]
  refine renamed.turn rfl ?_ rfl rfl
  simp only [Renaming.outcome]
  cases (s.barrier.cancel task).answer <;> rfl

theorem requestAwait (now : Instant) (manner : Manner) :
    Turn.RenamedAt ρ thread s t (s.requestAwait thread now manner)
      (t.requestAwait thread now manner) := by
  unfold Scheduler.requestAwait
  rw [renamed.barrier, renamed.stack]
  refine renamed.turn rfl rfl rfl ?_
  simp [Barrier.beginAwait, Renaming.event]

theorem requestRead (task : TaskId) :
    Turn.RenamedAt ρ thread s t (s.requestRead thread task) (t.requestRead thread (ρ.id task)) := by
  unfold Scheduler.requestRead
  rw [renamed.barrier, ρ.readValue_barrier]
  exact renamed.turn rfl (renamed.stack) rfl rfl

theorem requestShutdown :
    Turn.RenamedAt ρ thread s t (s.requestShutdown thread) (t.requestShutdown thread) := by
  unfold Scheduler.requestShutdown
  rw [renamed.barrier, renamed.stack, Renaming.facility_barrier, ρ.shutdown_facility]
  obtain ⟨answer, facility⟩ := s.barrier.facility.shutdown
  cases answer with
  | none => exact renamed.turn rfl rfl rfl rfl
  | some shutdown => cases shutdown <;> exact renamed.turn rfl rfl rfl rfl

theorem whileOwned {one other : Turn ν} (turns : Turn.RenamedAt ρ thread s t one other) :
    Option.Rel (Turn.RenamedAt ρ thread s t) (s.whileOwned one) (t.whileOwned other) := by
  unfold Scheduler.whileOwned
  rw [renamed.dropped]
  split
  · exact .none
  · exact .some turns

/-- The owner of both drops them. -/
theorem drop : Turn.RenamedAt ρ thread s t ({ s with dropped := true }.requestShutdown thread)
    ({ t with dropped := true }.requestShutdown thread) := by
  have dropped : RenamedAt ρ thread { s with dropped := true } { t with dropped := true } :=
    { renamed with dropped := rfl }
  exact { dropped.requestShutdown with lock := dropped.requestShutdown.lock }

theorem request (alive : t.isAlive = s.isAlive) {request : Request}
    (counts : ∀ delay cadence produces, request = .accept delay cadence produces →
      ρ.Counts s.barrier) (now : Instant) :
    Option.Rel (Turn.RenamedAt ρ thread s t) (s.request thread now request)
      (t.request thread now (ρ.request request)) := by
  unfold Scheduler.request
  rw [renamed.isUserCode]
  split
  · exact .none
  · cases request with
    | accept delay cadence produces =>
        have counts := counts delay cadence produces rfl
        exact renamed.whileOwned (renamed.requestAccept counts now delay cadence produces)
    | fire key => exact .some (renamed.requestFire alive key)
    | call task => exact .some (renamed.requestCall alive task)
    | cancel handle =>
        refine renamed.whileOwned ?_
        simp only [renamed.number]
        split
        · exact renamed.requestCancel handle.task
        · exact renamed.refuse
    | cancelByHandle task =>
        refine .some ?_
        rw [alive]
        split
        · exact renamed.requestCancel task
        · exact renamed.refuse
    | await manner => exact renamed.whileOwned (renamed.requestAwait now manner)
    | read task => exact .some (renamed.requestRead task)
    | shutdown => exact renamed.whileOwned renamed.requestShutdown
    | drop => exact renamed.whileOwned renamed.drop

/-! ### Bodies and frames -/

theorem endBody (how : BodyEnd ν) :
    Option.Rel (Turn.RenamedAt ρ thread s t) (s.endBody thread how) (t.endBody thread how) := by
  unfold Scheduler.endBody
  rw [renamed.stack]
  cases s.stack thread with
  | nil => exact .none
  | cons frame rest =>
      cases frame with
      | run task stage =>
          cases stage with
          | executing =>
              simp only [Renaming.stack_cons, Renaming.frame, renamed.barrier,
                ρ.leaveBody_barrier]
              cases how <;> exact .some (renamed.turn rfl rfl rfl rfl)
          | starting | finishing => exact .none
      | _ => exact .none

theorem proceedDeciding (task : TaskId) (rest : Stack ν) :
    Turn.RenamedAt ρ thread s t (s.proceedDeciding thread task rest)
      (t.proceedDeciding thread (ρ.id task) (ρ.stack rest)) := by
  unfold Scheduler.proceedDeciding
  rw [renamed.barrier, ρ.fire_barrier]
  refine renamed.turn rfl ?_ rfl rfl
  simp only [Renaming.outcome]
  cases (s.barrier.fire task).answer <;> rfl

theorem proceedStarting (task : TaskId) (replayed : Bool) (rest : Stack ν) :
    Option.Rel (Turn.RenamedAt ρ thread s t) (s.proceedStarting thread task replayed rest)
      (t.proceedStarting thread (ρ.id task) replayed (ρ.stack rest)) := by
  unfold Scheduler.proceedStarting
  rw [renamed.barrier, ρ.enterBody?_barrier]
  cases s.barrier.enterBody? task with
  | none => exact .none
  | some entry =>
      obtain ⟨executes, barrier⟩ := entry
      cases executes <;> cases replayed <;> exact .some (renamed.turn rfl rfl rfl rfl)

theorem proceedFinishing (task : TaskId) (rest : Stack ν) :
    Turn.RenamedAt ρ thread s t (s.proceedFinishing thread task rest)
      (t.proceedFinishing thread (ρ.id task) (ρ.stack rest)) := by
  unfold Scheduler.proceedFinishing
  rw [renamed.barrier, ρ.finish_barrier]
  refine renamed.turn rfl ?_ rfl rfl
  simp only [Renaming.outcome, apply_ite ρ.stack]
  rfl

theorem proceedReplaying (now start : Instant) (manner : Manner) (rest : Stack ν) :
    Turn.RenamedAt ρ thread s t (s.proceedReplaying thread now start manner rest)
      (t.proceedReplaying thread now start manner (ρ.stack rest)) := by
  unfold Scheduler.proceedReplaying
  rw [renamed.barrier, ρ.popHeld_barrier, ρ.config_barrier]
  refine renamed.turn rfl ?_ rfl rfl
  simp only [Renaming.outcome]
  cases s.barrier.popHeld.answer with
  | run task => rfl
  | skipped => rfl
  | done =>
      simp only [Renaming.replay]
      split <;> rfl

theorem proceedWaiting (now start : Instant) (manner : Manner) (deadline : Instant)
    (rest : Stack ν) :
    Turn.RenamedAt ρ thread s t (s.proceedWaiting thread now start manner deadline rest)
      (t.proceedWaiting thread now start manner deadline (ρ.stack rest)) := by
  unfold Scheduler.proceedWaiting
  rw [renamed.barrier, ρ.check_barrier]
  refine renamed.turn rfl ?_ rfl rfl
  simp only [Renaming.outcome]
  cases (s.barrier.check now deadline).answer with
  | settled | timedOut => simp [Renaming.check, Renaming.frame]
  | wait => rfl

theorem firingKey? : t.firingKey? thread = (s.firingKey? thread).map ρ.key := by
  unfold Scheduler.firingKey?
  rw [renamed.worker, renamed.timer?]
  split
  · cases s.timer? with
    | none => rfl
    | some timer => exact ρ.firingKey?_timer timer
  · rfl

theorem proceedRaising (panic : Panic) (rest : Stack ν) :
    Turn.RenamedAt ρ thread s t (s.proceedRaising thread panic rest)
      (t.proceedRaising thread panic (ρ.stack rest)) := by
  have unwound : ∀ below, Turn.RenamedAt ρ thread s t
      (s.turn s.barrier thread below (.unwound panic) [])
      (t.turn t.barrier thread (ρ.stack below) (.unwound panic) []) := fun below =>
    renamed.turn_of_stack rfl rfl rfl
  unfold Scheduler.proceedRaising
  cases rest with
  | nil =>
      simp only [Renaming.stack_nil, renamed.firingKey?]
      cases s.firingKey? thread with
      | none => exact unwound []
      | some key => exact renamed.turn_of_stack rfl rfl rfl
  | cons frame below =>
      cases frame with
      | awaiting start manner stage =>
          simp only [Renaming.stack_cons, Renaming.frame, renamed.barrier, ρ.reset_barrier,
            ρ.dropped_barrier]
          exact renamed.turn rfl rfl rfl rfl
      | answering answer => exact unwound below
      | deciding | run | dropping | discarding | settling | guarding | refusing | joining
      | raising => exact renamed.turn_of_stack rfl rfl rfl

theorem proceedSettling (rest : Stack ν) :
    Turn.RenamedAt ρ thread s t (s.proceedSettling thread rest)
      (t.proceedSettling thread (ρ.stack rest)) := by
  refine renamed.turn_of_stack rfl ?_ rfl
  cases rest with
  | nil => rfl
  | cons frame => cases frame <;> rfl

theorem proceedGuarding (rest : Stack ν) :
    Turn.RenamedAt ρ thread s t (s.proceedGuarding thread rest)
      (t.proceedGuarding thread (ρ.stack rest)) := by
  unfold Scheduler.proceedGuarding
  rw [renamed.barrier, ρ.reset_barrier, ρ.dropped_barrier]
  exact renamed.turn rfl rfl rfl rfl

theorem proceedRefusing (rest : Stack ν) :
    Turn.RenamedAt ρ thread s t (s.proceedRefusing thread rest)
      (t.proceedRefusing thread (ρ.stack rest)) := by
  have unlocked : RenamedAt ρ thread { s with lock := none } { t with lock := none } :=
    { renamed with }
  exact { unlocked.turn_of_stack rfl rfl rfl with lock := fun _ => rfl }

theorem proceedDiscarding (tasks : List TaskId) (rest : Stack ν) :
    Option.Rel (Turn.RenamedAt ρ thread s t) (s.proceedDiscarding thread tasks rest)
      (t.proceedDiscarding thread (tasks.map ρ.id) (ρ.stack rest)) := by
  cases tasks with
  | nil => exact .some (renamed.turn_of_stack rfl rfl rfl)
  | cons task others =>
      simp only [Scheduler.proceedDiscarding, List.map_cons, renamed.barrier, ρ.discard?_barrier]
      cases s.barrier.discard? task with
      | none => exact .none
      | some barrier => exact .some (renamed.turn rfl rfl rfl rfl)

theorem proceedJoining (rest : Stack ν) :
    Option.Rel (Turn.RenamedAt ρ thread s t) (s.proceedJoining thread rest)
      (t.proceedJoining thread (ρ.stack rest)) := by
  unfold Scheduler.proceedJoining
  rw [renamed.timer?]
  cases s.timer? with
  | none => exact .some (renamed.turn_of_stack rfl rfl rfl)
  | some timer =>
      simp only [Option.map_some, Renaming.timer]
      cases timer.worker with
      | exited | died => exact .some (renamed.turn_of_stack rfl rfl rfl)
      | idle | firing => exact .none

theorem proceed (now : Instant) :
    Option.Rel (Turn.RenamedAt ρ thread s t) (s.proceed thread now) (t.proceed thread now) := by
  unfold Scheduler.proceed
  rw [renamed.stack]
  cases s.stack thread with
  | nil => exact .none
  | cons frame rest =>
      cases frame with
      | deciding task => exact .some (renamed.proceedDeciding task rest)
      | run task stage =>
          cases stage with
          | starting replayed => exact renamed.proceedStarting task replayed rest
          | executing => exact .none
          | finishing => exact .some (renamed.proceedFinishing task rest)
      | awaiting start manner stage =>
          cases stage with
          | replaying => exact .some (renamed.proceedReplaying now start manner rest)
          | waiting deadline wake =>
              exact .some (renamed.proceedWaiting now start manner deadline rest)
      | dropping tasks =>
          refine .some (renamed.turn_of_stack rfl rfl ?_)
          rw [List.isEmpty_map, List.length_map]
          split <;> rfl
      | discarding tasks => exact renamed.proceedDiscarding tasks rest
      | settling => exact .some (renamed.proceedSettling rest)
      | guarding => exact .some (renamed.proceedGuarding rest)
      | refusing => exact .some (renamed.proceedRefusing rest)
      | answering => exact .some (renamed.turn_of_stack rfl rfl rfl)
      | joining => exact renamed.proceedJoining rest
      | raising panic => exact .some (renamed.proceedRaising panic rest)

/-! ### The worker of the timer -/

theorem withTimer (timer : Timer TaskId) :
    RenamedAt ρ thread (s.withTimer timer) (t.withTimer (ρ.timer timer)) :=
  { renamed with
    barrier := by
      show ({ t.barrier with facility := _ } : Barrier ν) = _
      rw [renamed.barrier]
      rfl }

theorem work (alive : t.isAlive = s.isAlive) (now : Instant) :
    Option.Rel (Turn.RenamedAt ρ thread s t) (s.work thread now) (t.work thread now) := by
  unfold Scheduler.work
  rw [renamed.timer?, renamed.stack, renamed.worker]
  cases s.timer? with
  | none => exact .none
  | some timer =>
      cases s.stack thread with
      | cons => exact .none
      | nil =>
          have worker : (ρ.timer timer).worker = ρ.worker timer.worker := rfl
          simp only [Option.map_some, Renaming.stack_nil, worker]
          split
          · exact .none
          · cases timer.worker with
            | exited | died => exact .none
            | firing =>
                simp only [Renaming.worker, ρ.conclude_timer]
                exact .some ⟨renamed.withTimer _, id, rfl, rfl⟩
            | idle =>
                simp only [Renaming.worker, ρ.poll_timer]
                generalize timer.poll now = polled
                obtain ⟨found, after⟩ := polled
                have moved := renamed.withTimer after
                cases found with
                | waiting | ended => exact .some ⟨moved, id, rfl, rfl⟩
                | firing key task =>
                    exact .some (.of_withTimer (moved.turn_of_stack (calling alive task) rfl rfl))

/-- Both are at a critical section, or neither. -/
theorem takesLock (alive : t.isAlive = s.isAlive) (move : Move ν) :
    t.takesLock thread (ρ.move move) = s.takesLock thread move := by
  cases move with
  | request request =>
      cases request with
      | cancel handle =>
          simp only [Scheduler.takesLock, Renaming.move, Renaming.request, renamed.number]
      | cancelByHandle => exact alive
      | _ => rfl
  | endBody | work => rfl
  | proceed =>
      simp only [Scheduler.takesLock, Renaming.move, renamed.stack]
      exact ρ.takesLock_stack _

theorem attempt (alive : t.isAlive = s.isAlive) {move : Move ν}
    (counts : ∀ delay cadence produces, move = .request (.accept delay cadence produces) →
      ρ.Counts s.barrier) (now : Instant) :
    Option.Rel (Turn.RenamedAt ρ thread s t) (s.attempt thread now move)
      (t.attempt thread now (ρ.move move)) := by
  cases move with
  | request request =>
      exact renamed.request alive (fun delay cadence produces same =>
        counts delay cadence produces (same ▸ rfl)) now
  | endBody how => exact renamed.endBody how
  | proceed => exact renamed.proceed now
  | work => exact renamed.work alive now

/-- **A step that the thread can make in both, or in neither**, if both locks are the same. -/
theorem step (alive : t.isAlive = s.isAlive) (locks : t.lock = s.lock) {move : Move ν}
    (counts : ∀ delay cadence produces, move = .request (.accept delay cadence produces) →
      ρ.Counts s.barrier) (now : Instant) :
    Option.Rel (Turn.RenamedAt ρ thread s t) (s.step thread now move)
      (t.step thread now (ρ.move move)) := by
  unfold Scheduler.step
  rw [renamed.takesLock alive move, locks]
  split
  · exact .none
  · exact renamed.attempt alive counts now

end Steps

end Scheduler.RenamedAt

/-! ## Schedulers -/

/-- **The scheduler `t` is the scheduler `s` under a renaming.** -/
structure Scheduler.Renamed (ρ : Renaming) (s t : Scheduler ν) : Prop where
  number : t.number = s.number
  lock : t.lock = s.lock
  worker : t.worker = s.worker
  dropped : t.dropped = s.dropped
  barrier : t.barrier = ρ.barrier s.barrier
  stack : ∀ thread, t.stack thread = ρ.stack (s.stack thread)
  /-- No thread has two frames, in either. -/
  tidy : s.calls.Tidy ∧ t.calls.Tidy

/-- Two turns of which one is the other under a renaming. -/
structure Turn.Renamed (ρ : Renaming) (one other : Turn ν) : Prop where
  scheduler : Scheduler.Renamed ρ one.scheduler other.scheduler
  signal : other.signal = ρ.signal one.signal
  events : other.events = one.events.map ρ.event

/-- Two steps of which one is the other under a renaming, as far as can be seen. -/
structure Stride.Renamed (ρ : Renaming) (one other : Stride ν) : Prop where
  thread : other.thread = one.thread
  now : other.now = one.now
  move : other.move = ρ.move one.move
  signal : other.turn.signal = ρ.signal one.turn.signal
  events : other.turn.events = one.turn.events.map ρ.event

namespace Scheduler.Renamed

variable {ρ : Renaming} {s t : Scheduler ν}

section Steps

variable (renamed : Renamed ρ s t) {thread : ThreadId}
include renamed

/-- Each thread sees the one as the other. -/
theorem renamedAt (thread : ThreadId) : RenamedAt ρ thread s t :=
  { renamed with stack := renamed.stack thread }

/-- **Both are alive, or neither is.** -/
theorem isAlive : t.isAlive = s.isAlive := by
  obtain ⟨tidy, tidy'⟩ := renamed.tidy
  have keeps : t.calls.keepAlive = s.calls.keepAlive := by
    rw [Bool.eq_iff_iff, tidy'.keepAlive_iff, tidy.keepAlive_iff]
    refine exists_congr fun thread => ?_
    rw [show t.calls.get thread = ρ.stack (s.calls.get thread) from renamed.stack thread]
    simp [Renaming.stack]
  unfold Scheduler.isAlive
  rw [renamed.dropped, keeps]

/-- What a thread sees of two turns is all there is to them, where no other thread takes part. -/
theorem of_renamedAt {one other : Turn ν} (turns : Turn.RenamedAt ρ thread s t one other)
    (others : ∀ another, another ≠ thread → one.scheduler.stack another = s.stack another ∧
      other.scheduler.stack another = t.stack another)
    (tidy : one.scheduler.calls.Tidy ∧ other.scheduler.calls.Tidy) :
    Turn.Renamed ρ one other where
  signal := turns.signal
  events := turns.events
  scheduler :=
    { turns.scheduler with
      lock := turns.lock renamed.lock
      tidy := tidy
      stack := by
        intro another
        by_cases same : another = thread
        · exact same ▸ turns.scheduler.stack
        · obtain ⟨eq, eq'⟩ := others another same
          rw [eq, eq', renamed.stack] }

/-- A turn of both that replaces the barrier and the stack of a thread. -/
theorem turn {barrier barrier' : Barrier ν} (barriers : barrier' = ρ.barrier barrier)
    {stack stack' : Stack ν} (frames : stack' = ρ.stack stack) {signal signal' : Signal ν}
    (signals : signal' = ρ.signal signal) {events events' : List Event}
    (logs : events' = events.map ρ.event) :
    Turn.Renamed ρ (s.turn barrier thread stack signal events)
      (t.turn barrier' thread stack' signal' events') :=
  renamed.of_renamedAt ((renamed.renamedAt thread).turn barriers frames signals logs)
    (fun _ apart => ⟨stack_turn_of_ne _ _ _ _ _ apart, stack_turn_of_ne _ _ _ _ _ apart⟩)
    ⟨renamed.tidy.1.set .., renamed.tidy.2.set ..⟩

/-- Both refuse a task under the lock. -/
theorem declining (barrier : Barrier ν) (last : Frame ν) :
    Turn.Renamed ρ (s.declining thread barrier last)
      (t.declining thread (ρ.barrier barrier) (ρ.frame last)) :=
  renamed.of_renamedAt ((renamed.renamedAt thread).declining barrier last)
    (fun _ apart => ⟨stack_turn_of_ne _ _ _ _ _ apart, stack_turn_of_ne _ _ _ _ _ apart⟩)
    ⟨renamed.tidy.1.set .., renamed.tidy.2.set ..⟩

/-- **A step that both can make, or neither**, with the same outcome under the renaming. -/
theorem step {move : Move ν}
    (counts : ∀ delay cadence produces, move = .request (.accept delay cadence produces) →
      ρ.Counts s.barrier) (now : Instant) :
    Option.Rel (Turn.Renamed ρ) (s.step thread now move) (t.step thread now (ρ.move move)) := by
  have seen := (renamed.renamedAt thread).step renamed.isAlive renamed.lock counts now
  cases taken : s.step thread now move with
  | none =>
      rw [taken] at seen
      generalize t.step thread now (ρ.move move) = answer at seen ⊢
      cases seen
      exact .none
  | some one =>
      cases taken' : t.step thread now (ρ.move move) with
      | none =>
          rw [taken, taken'] at seen
          cases seen
      | some other =>
          rw [taken, taken'] at seen
          cases seen with
          | some turns =>
              have follows := follows_of_step taken
              have follows' := follows_of_step taken'
              refine .some (renamed.of_renamedAt turns ?_ ?_)
              · exact fun _ apart => ⟨follows.others _ apart, follows'.others _ apart⟩
              · exact ⟨follows.tidy renamed.tidy.1, follows'.tidy renamed.tidy.2⟩

end Steps

end Scheduler.Renamed

/-! ## Many moves -/

/-- Renames what moves name. -/
def Renaming.moves (ρ : Renaming) (moves : List (ThreadId × Instant × Move ν)) :
    List (ThreadId × Instant × Move ν) :=
  moves.map fun (thread, now, move) => (thread, now, ρ.move move)

/-- What two sequences of moves have led to is the same under a renaming: step by step, and in the
end. -/
structure Renaming.Echoes (ρ : Renaming) (one other : History ν × Scheduler ν) : Prop where
  strides : List.Forall₂ (Stride.Renamed ρ) one.1 other.1
  scheduler : Scheduler.Renamed ρ one.2 other.2

/-- **Any moves that both can make, or neither**, with the same outcomes under the renaming, if the
counters stand at numbers that correspond all along. -/
theorem Scheduler.Renamed.play {ρ : Renaming} {s t : Scheduler ν} (renamed : Renamed ρ s t)
    (counts : ∀ later s', Path s later s' → ρ.Counts s'.barrier)
    (moves : List (ThreadId × Instant × Move ν)) :
    Option.Rel ρ.Echoes (s.play moves) (t.play (ρ.moves moves)) := by
  induction moves generalizing s t with
  | nil => exact .some ⟨.nil, renamed⟩
  | cons entry moves ih =>
      obtain ⟨thread, now, move⟩ := entry
      have turns : Option.Rel (Turn.Renamed ρ) (s.step thread now move)
          (t.step thread now (ρ.move move)) :=
        renamed.step (fun _ _ _ _ => counts [] s .start) now
      simp only [Renaming.moves, List.map_cons, Scheduler.play]
      cases taken : s.step thread now move with
      | none =>
          rw [taken] at turns
          generalize t.step thread now (ρ.move move) = answer at turns ⊢
          cases turns
          exact .none
      | some turn =>
          rw [taken] at turns
          generalize t.step thread now (ρ.move move) = answer at turns ⊢
          cases turns with
          | @some _ turn' turns =>
              have rest := ih turns.scheduler fun later s' path =>
                counts _ s' ((Path.start.step taken).append path)
              simp only [Renaming.moves] at rest ⊢
              generalize turn.scheduler.play moves = one, turn'.scheduler.play _ = other at rest ⊢
              cases rest with
              | none => exact .none
              | some echoes =>
                  refine .some ⟨List.rel_append echoes.strides ?_, echoes.scheduler⟩
                  exact .cons ⟨rfl, rfl, rfl, turns.signal, turns.events⟩ .nil

end TaskBarrier
