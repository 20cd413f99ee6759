import TaskBarrier.Proofs.Armed
import TaskBarrier.Proofs.Locking
import TaskBarrier.Proofs.OwnSteps

/-!
# The clean slate after a cycle

After the reset of an await nothing is outstanding and nothing is held.  If no other await is in
progress, no task is running and no periodic task goes on, then no task has a slot any more, and all
that is left of the past is numbers that have been drawn, records of tasks that have ended, and
calls that have nothing to do but to return.  From then on the scheduler does what a fresh one does,
up to a shift of the numbers, even if somebody goes on calling callbacks and cancelling tasks of the
past.

## Main Definitions

* `Stack.guards`: the guard of an await has still to reset the barrier.
* `Scheduler.Rests`: nothing is going on in the barrier.
* `Scheduler.renewed`: the fresh scheduler to compare with.
* `Barrier.Resembles`, `Echo`: what the fresh scheduler does while the used one goes on.
* `CleanSlate`: all that is claimed of the state after the reset.

The main statement is `clean_slate`.

### The three design decisions

**No body is being executed** where no task is running.  A run begins with the decision to run, so a
task whose body is about to be entered is running, too.

**The last reset** of an await is that of its guard, if a panic is on its way through the thread.  A
guard that has still to reset the barrier belongs to an await that is not over, so there must be
none, on whatever thread.

**A fresh scheduler** has the same config, and a facility of the same kind on which nothing has been
armed.  If the one facility has been shut down, so has the other, and the worker of a timer has come
as far: one that has ended does not come to life again.
-/

namespace TaskBarrier

variable {ν : Type}

/-! ## What never changes -/

/-- A scheduler keeps its number, its worker and its config. -/
theorem Path.keeps {origin s : Scheduler ν} {history : History ν} (path : Path origin history s) :
    s.number = origin.number ∧ s.worker = origin.worker ∧
      s.barrier.config = origin.barrier.config := by
  induction path with
  | start => exact ⟨rfl, rfl, rfl⟩
  | step _ taken ih =>
      have follows := Scheduler.follows_of_step taken
      obtain ⟨number, worker, config⟩ := ih
      exact ⟨follows.number.trans number, follows.worker.trans worker,
        follows.transition.config.trans config⟩

/-! ## The scheduler after the last reset -/

/-- A reset leaves nothing outstanding, nothing held, and no await that is draining. -/
theorem Transition.of_isReset {b b' : Barrier ν} {stack stack' : Stack ν} {deed : Deed}
    (transition : Transition b stack deed b' stack') (resets : deed.isReset = true) :
    b'.outstanding = 0 ∧ b'.held = [] ∧ b'.draining = false := by
  cases transition with
  | settle | expire | guard | unwind => exact ⟨rfl, rfl, rfl⟩
  | _ => cases resets

/-- Whether the guard of an await has still to reset the barrier. -/
def Stack.guards (stack : Stack ν) : Bool :=
  stack.any fun
    | .guarding => true
    | _ => false

namespace Scheduler

/-- Nothing is going on in the barrier: nothing is outstanding or held, nobody awaits, no guard has
still to reset, nobody holds the lock, no task is running, and no periodic task goes on. -/
structure Rests (s : Scheduler ν) : Prop where
  outstanding : s.barrier.outstanding = 0
  held : s.barrier.held = []
  draining : s.barrier.draining = false
  idle : ∀ task ∈ s.barrier.tasks, task.phase ≠ .running
  ended : ∀ task ∈ s.barrier.tasks, task.periodic = true → task.slot = none
  unawaited : ∀ thread, Stack.awaits (s.stack thread) = 0
  unguarded : ∀ thread, Stack.guards (s.stack thread) = false
  free : s.lock = none

namespace Rests

variable {s : Scheduler ν} (rests : s.Rests) (sound : s.Sound)
include rests sound

/-- No task is running, so there is no run on any stack. -/
theorem fits {task : Task ν} (member : task ∈ s.barrier.tasks) : task.Fits none := by
  obtain ⟨stage, -, fits⟩ := sound.fits_of_found (sound.coherent.task?_of_mem member)
  cases stage with
  | none => exact fits
  | some stage => exact absurd fits.phase_of_some (rests.idle task member)

/-- **No task has a slot**: a one-shot task that has one is counted unless it is running. -/
theorem unslotted {task : Task ν} (member : task ∈ s.barrier.tasks) : task.slot = none := by
  have fits := rests.fits sound member
  have uncounted := sound.isCounted_of_outstanding rests.outstanding member
  by_contra slotted
  have once : task.periodic = false := by
    by_contra periodic
    exact slotted (rests.ended task member (by simpa using periodic))
  have continues : task.phase.isTerminal = false := by
    have slotted : task.slot.isSome = true := Option.isSome_iff_ne_none.mpr slotted
    simpa [fits.slotted] using slotted
  rw [fits.counted] at uncounted
  · cases uncounted
  · cases phase : task.phase with
    | live => exact .inr ⟨rfl, once⟩
    | held => exact .inl rfl
    | running => exact absurd (fits.running.mp phase) (by simp)
    | ran | cancelled =>
        rw [phase] at continues
        cases continues

/-- The barrier is a fresh one, but for the records of tasks and the number that comes next. -/
theorem barrier_eq : { s.barrier with tasks := s.barrier.slotted, nextId := ⟨0⟩ } =
    Barrier.fresh s.barrier.config s.barrier.facility := by
  have none : s.barrier.slotted = [] := by
    refine List.filter_eq_nil_iff.mpr fun task member => ?_
    simp [rests.unslotted sound member]
  simp [Barrier.fresh, none, rests.outstanding, rests.held, rests.draining]

end Rests

end Scheduler

/-! ## The fresh scheduler -/

/-- Nothing fires for a task of the past unless somebody asks for it: a timer has nothing armed, and
its worker is not executing a callback. -/
def Facility.IsQuiet {κ : Type} : Facility κ → Prop
  | byHand _ => True
  | byClock timer => timer.armed = [] ∧ timer.isFiring = false

/-- A facility of the same kind, and in the same condition, on which nothing has been armed. -/
def Facility.renewed {κ : Type} : Facility κ → Facility κ
  | byHand registry => .byHand { Registry.empty with isShutdown := registry.isShutdown }
  | byClock timer =>
      .byClock { Timer.start with worker := timer.worker, isShutdown := timer.isShutdown }

/-- The number of the appointment that is made next, on a facility that makes appointments. -/
def Facility.nextSequence {κ : Type} : Facility κ → Nat
  | byHand _ => 0
  | byClock timer => timer.nextSequence

/-- How far the counters of a barrier have come. -/
def Barrier.shift (b : Barrier ν) : Shift where
  ids := b.nextId.number
  keys := b.facility.nextKey.number
  sequences := b.facility.nextSequence

/-- **The fresh scheduler to compare with.**  It has the same config, and nothing has been asked of
it, except that it has been dropped if the other one has. -/
def Scheduler.renewed (s : Scheduler ν) : Scheduler ν :=
  { start s.number s.barrier.config s.barrier.facility.renewed s.worker with
    dropped := s.dropped }

/-- A quiet facility mirrors a renewed one, up to a shift by the numbers drawn. -/
theorem Facility.mirrors_renewed {σ : Shift} {facility : Facility TaskId}
    (orderly : facility.Orderly) (quiet : facility.IsQuiet)
    (old : ∀ entry ∈ facility.entries, σ.isOld entry.callback = true)
    (keys : σ.keys = facility.nextKey.number) (sequences : σ.sequences = facility.nextSequence) :
    Facility.Mirrors σ facility facility.renewed := by
  cases facility with
  | byHand registry =>
      refine .byHand ⟨⟨registry.entries, fun registered listed => ⟨?_, ?_⟩, ?_⟩, ?_, rfl⟩
      · exact decide_eq_true (keys ▸ orderly registered listed)
      · exact old registered.entry (List.mem_map_of_mem listed)
      · simp [Registry.empty]
      · simp [Shift.key, Registry.empty, keys, Facility.nextKey]
  | byClock timer =>
      obtain ⟨nothing, resting⟩ := quiet
      have none : (timer.agenda.filter fun a => !σ.isOldKey a.key) = [] := by
        refine List.filter_eq_nil_iff.mpr fun appointment listed => ?_
        have old : σ.isOldKey appointment.key = true :=
          decide_eq_true (keys ▸ orderly.booked appointment listed)
        simp [old]
      refine .byClock ⟨orderly, nothing, none, ?_, ?_, ?_, rfl⟩
      · simp [Shift.key, Timer.start, keys, Facility.nextKey]
      · simp [Timer.start, sequences, Facility.nextSequence]
      · cases worker : timer.worker with
        | firing => simp [Timer.isFiring, Timer.firingKey?, worker] at resting
        | idle | exited | died => rfl

namespace Scheduler

/-- Whatever a thread is doing is left over. -/
theorem Rests.isLeftOver {s : Scheduler ν} (rests : s.Rests) (sound : s.Sound)
    (agrees : s.LockAgrees) (known : s.Known) {thread : ThreadId} {frame : Frame ν}
    (member : frame ∈ s.stack thread) : frame.isLeftOver s.barrier.shift = true := by
  have discarded : ∀ id ∈ frame.discards, s.barrier.shift.isOld id = true := by
    intro id listed
    have cancelled := sound.discards thread id (List.mem_flatMap.mpr ⟨frame, member, listed⟩)
    obtain ⟨task, found, -⟩ := Option.map_eq_some_iff.mp cancelled
    refine decide_eq_true (sound.coherent.drawn id (Barrier.mem_ids_iff.mpr ?_))
    rw [found]
    rfl
  cases frame with
  | deciding task =>
      exact decide_eq_true (known.called thread task (List.mem_filterMap.mpr ⟨_, member, rfl⟩))
  | run task stage =>
      obtain ⟨here, others, stages⟩ := List.exists_cons_of_ne_nil
        (List.ne_nil_of_mem (Stack.mem_stages_iff.mpr member))
      obtain ⟨running, found, fits⟩ := sound.of_stages stages
      exact absurd fits.phase_of_some (rests.idle running (Barrier.task?_mem found))
  | awaiting start manner stage =>
      have none := rests.unawaited thread
      rw [Stack.awaits, List.length_eq_zero_iff, List.filter_eq_nil_iff] at none
      exact absurd rfl (none _ member)
  | dropping tasks | discarding tasks => exact List.all_eq_true.mpr discarded
  | guarding =>
      have none := List.any_eq_false.mp (rests.unguarded thread) _ member
      exact absurd rfl none
  | refusing =>
      have locked := (agrees thread).mpr (Stack.isRefusing_of_mem (sound.shaped thread) member)
      rw [rests.free] at locked
      cases locked
  | settling | joining | answering | raising => rfl

/-- **After the last reset the scheduler mirrors the fresh one.** -/
theorem Rests.mirrors {s : Scheduler ν} (rests : s.Rests) (sound : s.Sound)
    (agrees : s.LockAgrees) (known : s.Known) (quiet : s.barrier.facility.IsQuiet) :
    Mirrors s.barrier.shift s.barrier.tasks s s.renewed where
  number := rfl
  worker := rfl
  dropped := rfl
  lock := rests.free
  isPast :=
    { old := fun task member =>
        decide_eq_true (sound.coherent.drawn task.id (List.mem_map_of_mem member))
      unslotted := fun task member => rests.unslotted sound member
      idle := by
        intro task member
        by_contra executing
        have stage := (rests.fits sound member).executing.mp (by simpa using executing)
        cases stage }
  barrier := by
    refine ⟨s.barrier.facility, ?_, Facility.mirrors_renewed known.orderly quiet
      (fun entry listed => decide_eq_true (known.entries entry listed)) rfl rfl⟩
    have outstanding := rests.outstanding
    have held := rests.held
    have draining := rests.draining
    have drawn : s.barrier.shift.id ⟨0⟩ = s.barrier.nextId := rfl
    simp only [renewed, start, Barrier.fresh, Shift.graft, List.map_nil, List.append_nil, drawn]
    rw [← outstanding, ← held, ← draining]
  frames := fun thread => ⟨s.stack thread, (List.append_nil _).symm,
    fun _ member => rests.isLeftOver sound agrees known member, fun _ => rfl⟩

end Scheduler

/-! ## The clean slate -/

/-- What can be seen of the used barrier is what can be seen of the fresh one, up to the shift and
apart from what is old. -/
structure Barrier.Resembles (σ : Shift) (used fresh : Barrier ν) : Prop where
  draining : used.draining = fresh.draining
  outstanding : used.outstanding = fresh.outstanding
  held : used.held = fresh.held.map σ.id
  phases : ∀ id, used.phase? (σ.id id) = fresh.phase? id
  armedKeys : used.facility.armedKeys.filter (!σ.isOldKey ·) = fresh.facility.armedKeys.map σ.key
  isShutdown : used.facility.isShutdown = fresh.facility.isShutdown

/-- **What the fresh scheduler does while the used one goes on** from `origin` to `s`. -/
structure Echo (σ : Shift) (origin : Scheduler ν) (later : History ν) (s : Scheduler ν)
    (later' : History ν) (f : Scheduler ν) : Prop where
  path : Path origin.renewed later' f
  /-- It makes the used scheduler's own steps, with the same outcomes. -/
  strides : List.Forall₂ (Stride.Echoes σ) (later.own σ origin) later'
  resembles : s.barrier.Resembles σ f.barrier
  /-- The tasks of the past stay in their phases. -/
  past : ∀ id, σ.isOld id = true → s.barrier.phase? id = origin.barrier.phase? id
  /-- It can make the same steps next, on threads without calls that are left over. -/
  next : s.LetGo (later.leftOver σ origin) → ∀ thread, later.leftOver σ origin thread = 0 →
    ∀ now move, Option.Rel (Turn.Tells σ) (s.step thread now (σ.move move))
      (f.step thread now move)

/-- Two schedulers that are in tandem resemble each other. -/
theorem Scheduler.Mirrors.resembles {σ : Shift} {past : List (Task ν)} {s f : Scheduler ν}
    (mirrors : Mirrors σ past s f) : s.barrier.Resembles σ f.barrier := by
  obtain ⟨facility, grafted, facilities⟩ := mirrors.barrier
  rw [grafted]
  refine ⟨rfl, rfl, rfl, fun id => ?_, facilities.armedKeys, facilities.isShutdown⟩
  rw [Barrier.phase?, Shift.task?_graft facility _ mirrors.isPast, Option.map_map]
  rfl

/-- **The state after the last reset is that of a fresh scheduler**, to all intents and purposes. -/
structure CleanSlate (number : Nat) (config : Config) (worker : Option ThreadId)
    (history : History ν) (s : Scheduler ν) : Prop where
  /-- The barrier is a fresh one, but for the records of tasks and the number that comes next. -/
  barrier : { s.barrier with tasks := s.barrier.slotted, nextId := ⟨0⟩ } =
    Barrier.fresh config s.barrier.facility
  /-- Nothing is armed, if the callbacks have been called by the facility alone. -/
  armedKeys : history.FiresByFacility → s.barrier.facility.armedKeys = []
  /-- The scheduler to compare with is one that has just been started. -/
  renewed : s.dropped = false →
    s.renewed = .start number config s.barrier.facility.renewed worker
  /-- Whatever happens next, the fresh scheduler goes along.  Until the scheduler is dropped, the
  last condition holds by itself, see `History.letGo_of_undropped`. -/
  echo : s.barrier.facility.IsQuiet → ∀ later s', Path s later s' →
    later.LetGo s.barrier.shift s → ∃ later' f, Echo s.barrier.shift s later s' later' f

/-- **A cycle ends with a clean slate.**  When an await has been reset for the last time, in
whatever way, no other await is in progress, no periodic task goes on and no task is running, then
the barrier is that of a fresh scheduler except for the numbers drawn; nothing is armed; and from
then on the scheduler does what a fresh one does, whoever calls callbacks or cancels tasks of the
past meanwhile. -/
theorem clean_slate {number : Nat} {config : Config} {facility : Facility TaskId}
    {worker : Option ThreadId} {last : Stride ν} {earlier : History ν} {s : Scheduler ν}
    (vacant : facility.Vacant)
    (path : Path (.start number config facility worker) (last :: earlier) s)
    (known : History.CallsKnown (last :: earlier)) (resets : last.deed.isReset = true)
    (unawaited : ∀ thread, ¬ History.Awaits (last :: earlier) thread)
    (unguarded : ∀ thread, Stack.guards (s.stack thread) = false)
    (ended : ∀ task ∈ s.barrier.tasks, task.periodic = true → task.slot = none)
    (idle : ∀ task ∈ s.barrier.tasks, task.phase ≠ .running) :
    CleanSlate number config worker (last :: earlier) s := by
  have run : Run (last :: earlier) s := ⟨number, config, facility, worker, path⟩
  have sound := run.sound
  have known := path.known vacant known
  have rests : s.Rests := by
    obtain ⟨-, taken, rfl⟩ := run.of_cons
    obtain ⟨outstanding, held, draining⟩ :=
      (Scheduler.follows_of_step taken).transition.of_isReset resets
    refine ⟨outstanding, held, draining, idle, ended, fun thread => ?_, unguarded,
      Scheduler.lock_of_isReset taken resets⟩
    exact Nat.eq_zero_of_not_pos fun awaits => unawaited thread ((run.awaits_iff thread).mpr awaits)
  obtain ⟨sameNumber, sameWorker, sameConfig⟩ := path.keeps
  have sameConfig : s.barrier.config = config := sameConfig
  refine ⟨?_, fun faithful => ?_, fun undropped => ?_, fun quiet later s' path' letGo => ?_⟩
  · rw [← sameConfig]
    exact rests.barrier_eq sound
  · exact (path.backed vacant faithful).armedKeys fun task member => rests.unslotted sound member
  · rw [Scheduler.renewed, undropped, sameNumber, sameWorker, sameConfig]
    rfl
  · have start : Scheduler.Tandem s.barrier.shift s [] s s.renewed :=
      ⟨⟨_, rfl, rests.mirrors sound run.lockAgrees known quiet⟩, fun _ => rfl,
        path.tidy List.nodup_nil, List.nodup_nil⟩
    obtain ⟨later', f, echo, strides, tandem⟩ := path'.tandem start letGo
    obtain ⟨past, same, mirrors⟩ := tandem.mirrors
    refine ⟨later', f, echo, strides, mirrors.resembles, fun id old => ?_,
      fun alone thread nothing now move => ?_⟩
    · obtain ⟨used, grafted, -⟩ := mirrors.barrier
      obtain ⟨before, origin, -⟩ := (rests.mirrors sound run.lockAgrees known quiet).barrier
      rw [grafted, origin]
      exact Shift.phase?_of_samePhases same old
    · obtain ⟨_, -, related⟩ := tandem.step alone nothing now move
      generalize s'.step thread now _ = used, f.step thread now move = fresh at related ⊢
      cases related with
      | none => exact .none
      | some turns => exact .some turns.tells

/-- The moves of a cycle: a task fires too early and is held, and an await replays it and settles.
The last move is that of the reset. -/
def cycleMoves : List (ThreadId × Instant × Move Unit) :=
  [(0, ⟨0⟩, .request (.accept ⟨0⟩ .once false)),
    (1, ⟨0⟩, .request (.fire ⟨0⟩)), (1, ⟨0⟩, .proceed), (1, ⟨0⟩, .proceed),
    (0, ⟨0⟩, .request (.await .plain)), (0, ⟨0⟩, .proceed), (0, ⟨0⟩, .proceed),
    (0, ⟨0⟩, .endBody (.returned none)), (0, ⟨0⟩, .proceed),
    (0, ⟨0⟩, .proceed), (0, ⟨0⟩, .proceed)]

/-- The moves of a second cycle: a task is handed in, fires and is held.  In between, the callback
of the first task is called again, its handle is used to cancel it, and the first await returns. -/
def strayMoves : List (ThreadId × Instant × Move Unit) :=
  [(1, ⟨0⟩, .request (.accept ⟨0⟩ .once false)),
    (1, ⟨0⟩, .request (.call ⟨0⟩)), (1, ⟨0⟩, .proceed), (1, ⟨0⟩, .proceed),
    (1, ⟨0⟩, .request (.fire ⟨1⟩)), (1, ⟨0⟩, .proceed), (1, ⟨0⟩, .proceed),
    (1, ⟨0⟩, .request (.cancelByHandle ⟨0⟩)), (1, ⟨0⟩, .proceed),
    (0, ⟨0⟩, .proceed), (0, ⟨0⟩, .proceed), (0, ⟨0⟩, .proceed)]

/-- After a cycle a fresh scheduler goes along with a second one: it makes the four moves of
`strayMoves` that are not those of calls left over, and holds the task under the number zero. -/
theorem clean_slate_of_cycle : ∃ (history later : History Unit) (s s' : Scheduler Unit),
    CleanSlate 0 .default none history s ∧ s.barrier.facility.armedKeys = [] ∧
    Path s later s' ∧ later.length = 12 ∧
    ∃ later' f, Echo s.barrier.shift s later s' later' f ∧ later'.length = 4 ∧
      f.barrier.phase? ⟨0⟩ = some .held := by
  obtain ⟨last, earlier, s, played, faithful, resets, quiet, calls, tasks, later, s', played',
      twelve, four, held, undropped⟩ :
      ∃ last earlier s, (Scheduler.start 0 .default (.byHand .empty) none).play cycleMoves =
          some (last :: earlier, s) ∧
        (∀ stride ∈ last :: earlier, stride.move.isCall = false) ∧
        last.deed.isReset = true ∧ s.barrier.facility.IsQuiet ∧
        (∀ entry ∈ s.calls.entries, entry.2.awaits = 0 ∧ entry.2.guards = false) ∧
        (∀ task ∈ s.barrier.tasks, task.periodic = false ∧ task.phase = .ran) ∧
        ∃ later s', s.play strayMoves = some (later, s') ∧ later.length = 12 ∧
          (later.own s.barrier.shift s).length = 4 ∧
          s'.barrier.phase? (s.barrier.shift.id ⟨0⟩) = some .held ∧
          ∀ stride ∈ later, stride.before.dropped = false :=
    ⟨_, _, _, rfl, by decide, rfl, trivial, by decide, by decide, _, _, rfl, rfl, rfl, rfl,
      by decide⟩
  have path := Path.of_play played
  have run : Run (last :: earlier) s := Run.of_play played
  have vacant : (.byHand .empty : Facility TaskId).Vacant := rfl
  have unawaited : ∀ thread, ¬ History.Awaits (last :: earlier) thread := by
    intro thread awaits
    have positive := (run.awaits_iff thread).mp awaits
    rcases s.calls.get_cases thread with none | ⟨entry, listed, same⟩
    · rw [Scheduler.stack, none] at positive
      cases positive
    · rw [Scheduler.stack, same, (calls entry listed).1] at positive
      cases positive
  have unguarded : ∀ thread, Stack.guards (s.stack thread) = false := by
    intro thread
    rcases s.calls.get_cases thread with none | ⟨entry, listed, same⟩
    · rw [Scheduler.stack, none]
      rfl
    · rw [Scheduler.stack, same, (calls entry listed).2]
  have clean : CleanSlate 0 .default none (last :: earlier) s :=
    clean_slate vacant path (History.FiresByFacility.callsKnown faithful) resets unawaited
      unguarded (fun task member periodic => by simp [(tasks task member).1] at periodic)
      (fun task member => by simp [(tasks task member).2])
  obtain ⟨later', f, echo⟩ :=
    clean.echo quiet later s' (.of_play played') (History.letGo_of_undropped undropped)
  refine ⟨_, later, s, s', clean, clean.armedKeys faithful, .of_play played', twelve, later', f,
    echo, ?_, ?_⟩
  · rw [← echo.strides.length_eq, four]
  · rw [← echo.resembles.phases, held]

end TaskBarrier
