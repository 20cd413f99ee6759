import TaskBarrier.Proofs.Completion
import TaskBarrier.Proofs.CycleEnd
import TaskBarrier.Proofs.Replayed

/-!
# A replay that a panic breaks off

An await replays the hold queue on its own thread, so a body that panics takes the await with it.
On the way out the run is finished like any other, and the await resets the barrier.  What has been
replayed by then is over.  What has not been is dropped, together with everything that is live,
except that periodic tasks are spared.

This module looks at such an await while no other thread does anything, and the bodies make no
calls.

## Main Definitions

* `BrokenReplay`: an await, what it finds in the hold queue, and how the bodies end.
* `BrokenReplay.Follows`: the steps of the call alone.
* `BrokenReplay.Scene`: what is known at each station of the call.
* `BrokenReplay.Aftermath`: the barrier before its reset, and what is left of it.
* `BrokenReplay.Fallout`: what the panic leaves behind.
* `BrokenReplay.Unfolds`: how the panic comes to the caller.

The main statement is `panic_breaks_off_replay`.
-/

namespace TaskBarrier

variable {ν : Type}

/-! ## A barrier after the reset -/

/-- A live task that is not counted is admitted when it fires, and counted again. -/
theorem Barrier.fire_of_live {b : Barrier ν} {id : TaskId} {task : Task ν}
    (found : b.task? id = some task) (slotted : task.slot.isSome = true)
    (live : task.phase = .live) (uncounted : task.isCounted = false) :
    (b.fire id).answer = (if b.draining then .run else .held) ∧
      (b.fire id).barrier.outstanding = b.outstanding + 1 := by
  obtain ⟨slot, has⟩ := Option.isSome_iff_exists.mp slotted
  have fires : b.fire id = b.fireLive id := by simp [fire, slotted?_of_task? found has, live]
  have counts := Barrier.outstanding_fireLive found slotted
  rw [uncounted] at counts
  rw [fires]
  exact ⟨b.answer_fireLive id, counts⟩

/-- A task that no step concerns stays in its phase, and keeps its slot. -/
theorem Path.of_apart {s s' : Scheduler ν} {later : History ν} {id : TaskId} {task : Task ν}
    (path : Path s later s') (sound : s.Sound) (found : s.barrier.task? id = some task)
    (apart : ∀ stride ∈ later, stride.deed.concerns id = false) :
    s'.Sound ∧ ∃ task', s'.barrier.task? id = some task' ∧ task'.phase = task.phase ∧
      task'.slot = task.slot := by
  induction path with
  | start => exact ⟨sound, task, found, rfl, rfl⟩
  | step path taken ih =>
      obtain ⟨here, apart⟩ := List.forall_mem_cons.mp apart
      obtain ⟨sound, task', found, phase, slot⟩ := ih apart
      have follows := Scheduler.follows_of_step taken
      have course := sound.course follows id
      rw [found] at course
      obtain ⟨task'', found, phase', slot'⟩ := course.of_apart here
      exact ⟨sound.step follows, task'', found, phase'.trans phase, slot'.trans slot⟩

/-- A body that has been thrown away cannot be thrown away again. -/
@[simp] theorem Task.discard_discard (task : Task ν) : task.discard.discard = task.discard := by
  cases task with
  | mk id periodic phase slot body executing promise => cases body <;> rfl

/-- The barriers are the same, but for bodies that have been thrown away. -/
structure Barrier.SameRecords (b b' : Barrier ν) : Prop where
  outstanding : b.outstanding = b'.outstanding
  held : b.held = b'.held
  draining : b.draining = b'.draining
  facility : b.facility = b'.facility
  tasks : ∀ id, (b.task? id).map (·.discard) = (b'.task? id).map (·.discard)

namespace Barrier.SameRecords

variable {b b' : Barrier ν} {id : TaskId}

theorem refl (b : Barrier ν) : b.SameRecords b := ⟨rfl, rfl, rfl, rfl, fun _ => rfl⟩

/-- One more body is thrown away. -/
theorem discard (alike : b.SameRecords b') (id : TaskId) :
    (b.modify id (·.discard)).SameRecords b' := by
  refine ⟨alike.outstanding, alike.held, alike.draining, alike.facility, fun other => ?_⟩
  rw [← alike.tasks other, b.task?_modify id other _ Task.id_discard]
  split
  · next same =>
    rw [same, Option.map_map]
    simp [Function.comp_def]
  · rfl

/-- Tasks that are the same but for their bodies agree in everything else. -/
theorem of_found (alike : b.SameRecords b') {task' : Task ν} (found : b'.task? id = some task') :
    ∃ task, b.task? id = some task ∧ task.phase = task'.phase ∧ task.slot = task'.slot ∧
      task.periodic = task'.periodic := by
  have same := alike.tasks id
  rw [found, Option.map_some, Option.map_eq_some_iff] at same
  obtain ⟨task, present, same⟩ := same
  obtain ⟨body, promise, eq⟩ := task.discard_eq
  obtain ⟨body', promise', eq'⟩ := task'.discard_eq
  rw [eq, eq'] at same
  obtain ⟨-, periodic, phase, slot, -⟩ := Task.mk.inj same
  exact ⟨task, present, phase, slot, periodic⟩

end Barrier.SameRecords

/-! ## The replay -/

/-- The panic with which a body ends. -/
def BodyEnd.panic? : BodyEnd ν → Option Panic
  | returned _ => none
  | panicked panic => some panic

/-- **An await, what it finds in the hold queue, and how the bodies end**: those of some tasks
return, and that of the next task panics. -/
structure BrokenReplay (ν : Type) extends Await ν where
  /-- The tasks before the one whose body panics. -/
  before : List TaskId
  culprit : TaskId
  /-- The tasks that come after it in the hold queue. -/
  after : List TaskId
  ends : TaskId → BodyEnd ν
  panic : Panic
  returns : ∀ id ∈ before, (ends id).panic? = none
  panics : (ends culprit).panic? = some panic

namespace BrokenReplay

variable (broken : BrokenReplay ν)

/-- The tasks that are replayed. -/
def replayed : List TaskId := broken.before ++ [broken.culprit]

/-- The hold queue when the await begins. -/
def queue : List TaskId := broken.replayed ++ broken.after

/-- **The steps of the call alone**: bodies end as they are said to, and everything else follows. -/
def Follows (stride : Stride ν) : Prop :=
  stride.thread = broken.thread ∧ (stride.move = .proceed ∨
    ∃ id rest, stride.before.stack broken.thread = .run id .executing :: rest ∧
      stride.move = .endBody (broken.ends id))

/-- The panic that is on its way when the given tasks are left of those that are replayed. -/
def raised (rest : List TaskId) : Option Panic := if rest = [] then some broken.panic else none

variable {broken}

/-- The last of the tasks that are replayed is the one whose body panics. -/
theorem panic?_of_replayed {done rest : List TaskId} {task : TaskId}
    (whole : broken.replayed = done ++ task :: rest) :
    (broken.ends task).panic? = broken.raised rest := by
  rcases rest.eq_nil_or_concat with rfl | ⟨rest, last, rfl⟩
  · obtain ⟨-, same⟩ := List.append_inj' whole rfl
    obtain rfl := List.singleton_inj.mp same
    exact broken.panics
  · have whole : broken.before ++ [broken.culprit] = (done ++ task :: rest) ++ [last] := by
      simpa [replayed] using whole
    obtain ⟨before, -⟩ := List.append_inj' whole rfl
    rw [raised, if_neg (by simp)]
    exact broken.returns task (by simp [before])

/-- **What is known at each station of the call**: `origin` is the barrier when the call was made,
and `executed` are the bodies that have been executed since. -/
inductive Scene (broken : BrokenReplay ν) (origin : Barrier ν) (executed : List TaskId)
    (b : Barrier ν) : Await.Station ν → Prop
  | replaying {panic : Option Panic} {rest : List TaskId}
      (whole : broken.replayed = executed ++ rest)
      (scene : origin.Replayed executed none (rest ++ broken.after) b)
      (raised : panic = broken.raised rest) : Scene broken origin executed b (.replaying panic)
  | starting {task : TaskId} {rest : List TaskId}
      (whole : broken.replayed = executed ++ task :: rest)
      (scene : origin.Replayed executed (some task) (rest ++ broken.after) b) :
      Scene broken origin executed b (.starting task)
  | executing {task : TaskId} {done rest : List TaskId}
      (whole : broken.replayed = done ++ task :: rest) (entered : executed = done ++ [task])
      (scene : origin.Replayed done (some task) (rest ++ broken.after) b) :
      Scene broken origin executed b (.executing [] task)
  | finishing {task : TaskId} {panic : Option Panic} {done rest : List TaskId}
      (whole : broken.replayed = done ++ task :: rest) (entered : executed = done ++ [task])
      (scene : origin.Replayed done (some task) (rest ++ broken.after) b)
      (raised : panic = broken.raised rest) : Scene broken origin executed b (.finishing task panic)
  /-- The barrier has been reset. -/
  | left {station : Await.Station ν} {b₁ : Barrier ν} (whole : executed = broken.replayed)
      (scene : origin.Replayed executed none broken.after b₁) (ends : CycleEnd b₁)
      (alike : b.SameRecords b₁.reset) (outcome : station.outcome? = some (.unwound broken.panic))
      (exits : station.exit? = some .whole) : Scene broken origin executed b station

/-- What is left to be replayed says whether a panic is on its way. -/
theorem raised_eq_none_iff {rest : List TaskId} : broken.raised rest = none ↔ rest ≠ [] := by
  unfold raised
  split <;> simp_all

/-- A task that is replayed has not been replayed before. -/
theorem notMem_of_replayed (distinct : broken.replayed.Nodup) {done rest : List TaskId}
    {task : TaskId} (whole : broken.replayed = done ++ task :: rest) : task ∉ done := by
  intro member
  rw [whole] at distinct
  exact (List.nodup_append.mp distinct).2.2 task member task (.head _) rfl

/-- **From one station to the next**, what is known goes along. -/
theorem Scene.next {origin b b' : Barrier ν} {executed : List TaskId} {now : Instant}
    {station station' : Await.Station ν} {move : Move ν} {deed : Deed}
    {stages stages' : TaskId → List RunStage} (scene : broken.Scene origin executed b station)
    (next : broken.Next now b station move deed b' (some station'))
    (course : ∀ id, Course id deed (b.task? id) (stages id) (b'.task? id) (stages' id))
    (distinct : broken.replayed.Nodup) (ends : CycleEnd b)
    (undoomed : ∀ id ∈ b.held, ∀ task, b.task? id = some task → task.isDoomed = false)
    (alone : move = .proceed ∨
      ∃ task, station = .executing [] task ∧ move = .endBody (broken.ends task)) :
    broken.Scene origin (executed ++ deed.executes?.toList) b' station' := by
  have silent : deed.executes? = none → executed ++ deed.executes?.toList = executed := by
    intro none
    rw [none, Option.toList_none, List.append_nil]
  cases scene with
  | @replaying panic rest whole scene raised =>
      cases next with
      | @replay task answer =>
          obtain ⟨found, tail, held, present, -, eq⟩ := Barrier.popHeld_of_run answer
          obtain ⟨head, rest, rfl⟩ := List.exists_cons_of_ne_nil (raised_eq_none_iff.mp raised.symm)
          obtain ⟨rfl, rfl⟩ := List.cons.inj (held.symm.trans scene.held)
          rw [silent rfl]
          refine .starting whole (scene.replay (notMem_of_replayed distinct whole) present
            (undoomed task (held ▸ .head _) found present) course ?_ ?_)
          · rw [eq, Barrier.held_modify]
          · rw [eq, Barrier.facility_modify]
      | drained empty | overflow empty =>
          have held := scene.held
          rw [empty] at held
          have none : rest = [] := (List.append_eq_nil_iff.mp held.symm).1
          exact absurd none (raised_eq_none_iff.mp raised.symm)
      | unwind =>
          have none : rest = [] := by
            by_contra some
            cases raised.trans (raised_eq_none_iff.mpr some)
          subst none
          obtain rfl := Option.some.inj (raised.trans (if_pos rfl))
          rw [silent rfl]
          exact .left (by rw [whole, List.append_nil]) scene ends (.refl _) rfl rfl
  | starting whole scene =>
      cases next with
      | enter =>
          exact .executing whole rfl
            (scene.body (notMem_of_replayed distinct whole) (.inl rfl) course rfl rfl)
  | @executing task done rest whole entered scene =>
      have same : ∀ how, move = .endBody how → broken.ends task = how := by
        rintro how rfl
        obtain alone | ⟨_, ⟨⟩, ends⟩ := alone
        · cases alone
        · exact (Move.endBody.inj ends).symm
      have fresh := notMem_of_replayed distinct whole
      cases next with
      | call => obtain alone | ⟨_, -, alone⟩ := alone <;> cases alone
      | inner calls => exact absurd rfl calls
      | returned | panicked =>
          rw [silent rfl]
          refine .finishing whole entered (scene.body fresh (.inr rfl) course rfl rfl) ?_
          rw [← panic?_of_replayed whole, same _ rfl]
          rfl
  | @finishing task panic done rest whole entered scene raised =>
      have fresh := notMem_of_replayed distinct whole
      cases next with
      | finish =>
          rw [silent rfl]
          refine .replaying (by simp [whole, entered]) ?_ raised
          rw [entered]
          exact scene.finish fresh course (b.held_finish task) (b.stays_finish task).facility
      | doomed doomed =>
          obtain ⟨_, task', -, found, underway⟩ := scene.underway task rfl
          obtain ⟨_, found', dooms⟩ := Barrier.isDoomed_of_finish doomed
          obtain rfl := Option.some.inj (found.symm.trans found')
          cases underway.undoomed.symm.trans dooms
  | left whole scene ends alike outcome exits =>
      cases next with
      | announce | discarded =>
          rw [silent rfl]
          exact .left whole scene ends alike outcome exits
      | discard =>
          rw [silent rfl]
          exact .left whole scene ends (alike.discard _) outcome exits
      | guard looks =>
          obtain rfl := Option.some.inj exits
          rcases looks with looks | ⟨-, -, _, _, rfl⟩
          · cases looks
          · cases outcome
      | _ => cases outcome

/-- User code comes next where a body is being executed. -/
theorem Scene.eq_executing {origin b : Barrier ν} {executed : List TaskId}
    {station : Await.Station ν} (scene : broken.Scene origin executed b station) {id : TaskId}
    {rest : Stack ν} (top : broken.frames station = .run id .executing :: rest) :
    station = .executing [] id := by
  cases scene with
  | @replaying panic => cases panic <;> cases top
  | starting | finishing => cases top
  | executing =>
      obtain ⟨same, -⟩ := List.cons.inj top
      obtain ⟨rfl, -⟩ := Frame.run.inj same
      rfl
  | left _ _ _ _ outcome exits =>
      cases station with
      | ending =>
          obtain rfl := Option.some.inj outcome
          obtain rfl := Option.some.inj exits
          cases top
      | dropping | discarding => cases top
      | _ => cases outcome

/-- No guard looks after a panic that has left the call. -/
theorem Scene.isGuarded {origin b b' : Barrier ν} {executed : List TaskId} {now : Instant}
    {station : Await.Station ν} {after : Option (Await.Station ν)} {move : Move ν} {deed : Deed}
    (scene : broken.Scene origin executed b station)
    (next : broken.Next now b station move deed b' after) : deed.isGuarded = false := by
  cases next with
  | guard looks =>
      cases scene with
      | left _ _ _ _ outcome exits =>
          obtain rfl := Option.some.inj exits
          rcases looks with looks | ⟨-, -, _, _, rfl⟩
          · cases looks
          · cases outcome
  | inner calls =>
      cases scene with
      | executing => exact absurd rfl calls
      | left _ _ _ _ outcome => cases outcome
  | call continues => exact Deed.isGuarded_of_apart continues
  | _ => rfl

/-- Each step of the call alone brings it nearer to its end, since it never waits. -/
theorem Scene.stepsLeft_lt {origin b b' : Barrier ν} {executed : List TaskId} {now : Instant}
    {station : Await.Station ν} {after : Option (Await.Station ν)} {move : Move ν} {deed : Deed}
    (scene : broken.Scene origin executed b station)
    (next : broken.Next now b station move deed b' after)
    (alone : move = .proceed ∨
      ∃ task, station = .executing [] task ∧ move = .endBody (broken.ends task)) :
    Await.stepsLeft? false b' after < Await.stepsLeft false b station := by
  have unguarded := scene.isGuarded next
  rcases next.stepsLeft_lt (fun guarded => unguarded.symm.trans guarded) with
    nearer | ⟨inner, task, rfl, calls⟩ | ⟨_, _, _, rfl, -⟩
  · exact nearer
  · cases scene with
    | executing =>
        rcases calls with calls | ⟨request, rfl⟩
        · exact absurd rfl calls
        · obtain alone | ⟨_, -, alone⟩ := alone <;> cases alone
    | left _ _ _ _ outcome => cases outcome
  · cases scene with
    | left _ _ _ _ outcome => cases outcome

/-- A call that has not returned has a step left. -/
theorem Scene.stepsLeft_pos {origin b : Barrier ν} {executed : List TaskId}
    {station : Await.Station ν} (scene : broken.Scene origin executed b station) :
    0 < Await.stepsLeft false b station := by
  cases station with
  | replaying panic | finishing _ panic | burying _ panic =>
      cases panic <;> simp [Await.stepsLeft, Await.stepsLeft.replaySteps]
  | ending outcome exit =>
      cases scene with
      | left _ _ _ _ outcome exits =>
          obtain rfl := Option.some.inj outcome
          obtain rfl := Option.some.inj exits
          exact Nat.one_pos
  | _ => simp [Await.stepsLeft, Await.stepsLeft.replaySteps]

/-- The bodies that have been executed are the first ones of the hold queue. -/
theorem Scene.executed_prefix {origin b : Barrier ν} {executed : List TaskId}
    {station : Await.Station ν} (scene : broken.Scene origin executed b station) :
    executed <+: broken.replayed := by
  cases scene with
  | replaying whole | starting whole => exact ⟨_, whole.symm⟩
  | executing whole entered | finishing whole entered =>
      rw [entered, whole]
      exact ⟨_, (List.append_cons _ _ _).symm⟩
  | left whole => exact whole ▸ List.prefix_refl _

section Run

variable {earlier since : History ν} {s s' : Scheduler ν} {turn : Turn ν}

/-- What the await finds in the hold queue is replayed once. -/
theorem nodup_replayed (run : Run earlier s) (queue : s.barrier.held = broken.queue) :
    broken.replayed.Nodup := by
  have distinct := run.sound.held_nodup
  rw [queue] at distinct
  exact (List.nodup_append.mp distinct).1

/-- **What is known at the station of the call** after any number of its steps, of which there are
not many. -/
theorem scene (run : Run earlier s) (base : s.stack broken.thread = broken.base)
    (queue : s.barrier.held = broken.queue)
    (asked : s.step broken.thread broken.start (.request (.await broken.manner)) = some turn)
    (path : Path turn.scheduler since s') (alone : ∀ stride ∈ since, broken.Follows stride)
    (lasting : broken.Lasts since) :
    ∃ station, s'.stack broken.thread = broken.frames station ∧
      broken.Scene s.barrier since.executed s'.barrier station ∧ s'.lock = none ∧
      since.length + Await.stepsLeft false s'.barrier station ≤
        s.barrier.tasks.length + 5 + 6 * s.barrier.held.length := by
  obtain ⟨called, stands, begun⟩ := Await.of_request base asked
  have begins : Path s [⟨s, broken.thread, broken.start, _, turn⟩] turn.scheduler :=
    .step .start asked
  induction path with
  | start =>
      refine ⟨_, stands, .replaying rfl ?_ (raised_eq_none_iff.mpr ?_).symm,
        Scheduler.lock_of_takesLock asked rfl nofun, ?_⟩
      · rw [begun]
        exact ⟨queue, rfl, nofun, nofun, fun _ _ _ => rfl⟩
      · simp
      · rw [begun]
        exact Nat.le_of_eq (Nat.zero_add _)
  | @step since middle thread now move turn' path taken ih =>
      obtain ⟨follows, alone⟩ := List.forall_mem_cons.mp alone
      obtain ⟨station, stands, scene, free, bound⟩ :=
        ih alone fun stride member => lasting stride (.tail _ member)
      have whole := begins.append path
      have run' := run.append whole
      obtain ⟨rfl, move⟩ : thread = broken.thread ∧ _ := follows
      have alone : _ = Move.proceed ∨ ∃ task, station = .executing [] task ∧
          _ = Move.endBody (broken.ends task) :=
        move.imp_right fun ⟨id, _, top, ends⟩ =>
          ⟨id, scene.eq_executing (stands.symm.trans top), ends⟩
      obtain ⟨after, leads⟩ := Await.next run'.sound (called.of_path whole) stands taken
      have nearer := scene.stepsLeft_lt leads.next alone
      cases after with
      | none => exact absurd leads.stack (lasting _ (.head _) rfl)
      | some station' =>
          have free' := Scheduler.lock_of_free free taken fun _ _ _ asks => by
            obtain eq | ⟨_, -, eq⟩ := alone <;> cases asks.symm.trans eq
          refine ⟨station', leads.stack, ?_, free', ?_⟩
          · rw [History.executed_cons]
            exact scene.next leads.next
              (run'.sound.course (Scheduler.follows_of_step taken)) (nodup_replayed run queue)
              run'.cycleEnd run'.sound.undoomed_of_held alone
          · have nearer : Await.stepsLeft false _ station' < _ := nearer
            simp only [List.length_cons]
            omega

/-- The call goes on with a step of its own, at any time. -/
theorem exists_follows {origin : Barrier ν} {executed : List TaskId}
    {station : Await.Station ν} (sound : s.Sound) (called : broken.Called s) (free : s.lock = none)
    (stands : s.stack broken.thread = broken.frames station)
    (scene : broken.Scene origin executed s.barrier station) (now : Instant) :
    ∃ move turn, s.step broken.thread now move = some turn ∧
      broken.Follows ⟨s, broken.thread, now, move, turn⟩ := by
  cases user : station.isUser with
  | false =>
      obtain ⟨turn, -, attempted, -⟩ := Await.proceeds sound called stands user now
      exact ⟨_, turn, (Scheduler.step_of_free free).trans attempted, rfl, .inl rfl⟩
  | true =>
      cases scene with
      | @executing task =>
          obtain ⟨turn, -, taken, -⟩ := Await.step_endBody stands now (broken.ends task)
          exact ⟨_, turn, taken, rfl, .inr ⟨task, _, stands, rfl⟩⟩
      | left _ _ _ _ outcome =>
          cases station with
          | executing => cases outcome
          | _ => cases user
      | _ => cases user

end Run

/-! ## What the panic leaves behind -/

/-- **What the panic leaves behind**, if `s` is the state in which the await was called, and `s'`
the one in which the panic has come to its caller. -/
structure Fallout (broken : BrokenReplay ν) (s s' : Scheduler ν) : Prop where
  /-- The one-shot tasks that were replayed have run, and the culprit is no exception. -/
  ran : ∀ id ∈ broken.replayed, ∀ task, s.barrier.task? id = some task → task.periodic = false →
    s'.barrier.phase? id = some .ran
  /-- The one-shot tasks that were held behind them are cancelled, and so are the live ones.  They
  never run, whoever calls their callbacks. -/
  cancelled : ∀ id task, s.barrier.task? id = some task → task.periodic = false →
    id ∈ broken.after ∨ task.phase = .live → s'.barrier.phase? id = some .cancelled ∧
      ∀ later s'', Path s' later s'' →
        History.starts later id = 0 ∧ History.executions later id = 0
  /-- The live ones are disarmed. -/
  disarmed : ∀ id task key, s.barrier.task? id = some task → task.periodic = false →
    task.phase = .live → task.key? = some key → key ∉ s'.barrier.facility.armedKeys
  /-- The periodic tasks of the hold queue are live, wherever they stood in it, and none of them has
  been disarmed. -/
  relived : ∀ id ∈ broken.queue, ∀ task, s.barrier.task? id = some task → task.periodic = true →
    s'.barrier.phase? id = some .live ∧ s'.barrier.key? id = task.key? ∧
      ∀ key, task.key? = some key →
        (key ∈ s'.barrier.facility.armedKeys ↔ key ∈ s.barrier.facility.armedKeys)
  /-- When one of them fires next, it is admitted, and counted again. -/
  fires : ∀ id ∈ broken.queue, ∀ task, s.barrier.task? id = some task → task.periodic = true →
    ∀ stride later s'' firing, Path s' (stride :: later) s'' →
      (∀ stride ∈ later, stride.deed.concerns id = false) → stride.deed = .call id firing →
      firing = (if stride.before.barrier.draining then .run else .held) ∧
        s''.barrier.outstanding = stride.before.barrier.outstanding + 1
  /-- The cycle is over. -/
  outstanding : s'.barrier.outstanding = 0
  held : s'.barrier.held = []
  draining : s'.barrier.draining = false

/-- **The barrier was `b₁` when the await reset it**, if `s` is the state in which the await was
called, and `s'` the one in which the panic has come to its caller. -/
structure Aftermath (broken : BrokenReplay ν) (s : Scheduler ν) (b₁ : Barrier ν)
    (s' : Scheduler ν) : Prop where
  before : s.Sound
  after : s'.Sound
  queue : s.barrier.held = broken.queue
  replayed : s.barrier.Replayed broken.replayed none broken.after b₁
  ends : CycleEnd b₁
  alike : s'.barrier.SameRecords b₁.reset

namespace Aftermath

variable {s s' : Scheduler ν} {b₁ : Barrier ν} {id : TaskId} {task : Task ν}

/-- A task that has been found before the reset is found after it. -/
theorem of_found (aftermath : broken.Aftermath s b₁ s') (found : b₁.task? id = some task) :
    ∃ task' resolved, s'.barrier.task? id = some task' ∧ task.Resolved resolved ∧
      task'.phase = resolved.phase ∧ task'.slot = resolved.slot := by
  obtain ⟨resolved, left, resolves⟩ := aftermath.ends.of_found found
  obtain ⟨task', present, phase, slot, -⟩ := aftermath.alike.of_found left
  exact ⟨task', resolved, present, resolves, phase, slot⟩

/-- A task of the hold queue is held when the await is called. -/
theorem phase_of_queue (aftermath : broken.Aftermath s b₁ s') (listed : id ∈ broken.queue)
    (found : s.barrier.task? id = some task) : task.phase = .held := by
  rw [← aftermath.queue] at listed
  simpa [Barrier.phase?, found] using (aftermath.before.mem_held id).mp listed

/-- A periodic task of the hold queue waits when the barrier is reset, whether or not it has been
replayed. -/
theorem waits_of_queue (aftermath : broken.Aftermath s b₁ s') (listed : id ∈ broken.queue)
    (found : s.barrier.task? id = some task) (repeats : task.periodic = true) :
    ∃ task₁, b₁.task? id = some task₁ ∧ task₁.periodic = true ∧
      (task₁.phase = .live ∨ task₁.phase = .held) ∧ task₁.key? = task.key? := by
  by_cases past : id ∈ broken.replayed
  · obtain ⟨_, task₁, found', present, phase, periodic, key⟩ :=
      aftermath.replayed.completed id past
    obtain rfl := Option.some.inj (found.symm.trans found')
    exact ⟨task₁, present, periodic.trans repeats, .inl (by simpa [repeats] using phase),
      key repeats⟩
  · have same := aftermath.replayed.others id past (Option.not_mem_none id)
    exact ⟨task, same.trans found, repeats, .inr (aftermath.phase_of_queue listed found), rfl⟩

/-- Such a task is live afterwards, with the same entry, and it is not counted. -/
theorem live_of_queue (aftermath : broken.Aftermath s b₁ s') (listed : id ∈ broken.queue)
    (found : s.barrier.task? id = some task) (repeats : task.periodic = true) :
    ∃ task', s'.barrier.task? id = some task' ∧ task'.phase = .live ∧ task'.key? = task.key? ∧
      task'.isCounted = false := by
  obtain ⟨task₁, present, repeats, waiting, key⟩ :=
    aftermath.waits_of_queue listed found repeats
  obtain ⟨task', _, left, resolves, phase, slot⟩ := aftermath.of_found present
  obtain rfl := resolves.of_waiting repeats waiting
  refine ⟨task', left, phase, ?_, ?_⟩
  · rw [Task.key?, slot, ← key, ← task₁.key?_setCounted false]
    rfl
  · rw [Task.isCounted, slot]
    exact (task₁.isCounted_setCounted false).trans (Bool.and_false _)

/-- A live task, and one that comes after the culprit, has not been replayed, and is the same when
the barrier is reset. -/
theorem found_of_waits (aftermath : broken.Aftermath s b₁ s')
    (found : s.barrier.task? id = some task) (waits : id ∈ broken.after ∨ task.phase = .live) :
    b₁.task? id = some task := by
  have unreplayed : id ∉ broken.replayed := by
    intro member
    rcases waits with after | live
    · have distinct := aftermath.before.held_nodup
      rw [aftermath.queue] at distinct
      exact (List.nodup_append.mp distinct).2.2 id member id after rfl
    · have held := aftermath.phase_of_queue (List.mem_append_left _ member) found
      cases live.symm.trans held
  exact (aftermath.replayed.others id unreplayed (Option.not_mem_none id)).trans found

/-- **What the panic leaves behind**, told from the barrier before the reset. -/
theorem fallout (aftermath : broken.Aftermath s b₁ s') : broken.Fallout s s' where
  ran := by
    intro id member task found once
    obtain ⟨_, task₁, found', present, phase, -⟩ := aftermath.replayed.completed id member
    obtain rfl := Option.some.inj (found.symm.trans found')
    obtain ⟨task', resolved, left, resolves, phase', -⟩ := aftermath.of_found present
    have ran : task₁.phase = .ran := by simpa [once] using phase
    obtain rfl := resolves.of_isTerminal (by rw [ran]; rfl)
    rw [Barrier.phase?, left, Option.map_some, phase', ran]
  cancelled := by
    intro id task found once waits
    have present := aftermath.found_of_waits found waits
    have waiting : task.phase = .live ∨ task.phase = .held := by
      rcases waits with after | live
      · exact .inr (aftermath.phase_of_queue (List.mem_append_right _ after) found)
      · exact .inl live
    have dropped := (aftermath.ends.dropped_iff id).mpr ⟨task, present, once, waiting⟩
    obtain ⟨_, left, phase⟩ := Option.map_eq_some_iff.mp (aftermath.ends.phase?_of_mem dropped)
    obtain ⟨task', present', phase', -⟩ := aftermath.alike.of_found left
    have cancelled : s'.barrier.phase? id = some .cancelled := by
      rw [Barrier.phase?, present', Option.map_some, phase', phase]
    exact ⟨cancelled, fun later s'' path => (path.never_of_cancelled aftermath.after cancelled).2⟩
  disarmed := by
    intro id task key found once live has armed
    have present := aftermath.found_of_waits found (.inr live)
    rw [aftermath.alike.facility] at armed
    exact ((aftermath.ends.armed_iff key).mp armed).2 task (Barrier.task?_mem present) once live has
  relived := by
    intro id listed task found repeats
    obtain ⟨task', left, live, key, -⟩ := aftermath.live_of_queue listed found repeats
    obtain ⟨task₁, present, repeats, -, key₁⟩ := aftermath.waits_of_queue listed found repeats
    refine ⟨by rw [Barrier.phase?, left, Option.map_some, live], ?_, fun entry has => ?_⟩
    · rw [Barrier.key?_of_found left, key]
    · rw [aftermath.alike.facility, ← aftermath.replayed.facility]
      exact aftermath.ends.spared task₁ (Barrier.task?_mem present) repeats entry (key₁.trans has)
  fires := by
    intro id listed task found repeats stride later s'' firing path apart calls
    obtain ⟨task', left, live, -, uncounted⟩ := aftermath.live_of_queue listed found repeats
    cases path with
    | step path taken =>
        obtain ⟨sound, task'', found', phase, slot⟩ := path.of_apart aftermath.after left apart
        obtain ⟨stage, -, fits⟩ := sound.fits_of_found found'
        have live := phase.trans live
        have transition := (Scheduler.follows_of_step taken).transition
        rw [Stride.deed] at calls
        rw [calls] at transition
        obtain ⟨rfl, barrier⟩ := transition.of_call
        rw [barrier]
        refine Barrier.fire_of_live found' ?_ live ?_
        · rw [fits.slotted, live]
          rfl
        · rw [Task.isCounted, slot]
          exact uncounted
  outstanding := aftermath.alike.outstanding.trans aftermath.ends.outstanding
  held := aftermath.alike.held.trans aftermath.ends.held
  draining := aftermath.alike.draining.trans aftermath.ends.draining

end Aftermath

/-- **The panic comes to the caller**, and leaves the barrier behind. -/
theorem leaves {earlier since : History ν} {last : Stride ν} {s s' : Scheduler ν} {turn : Turn ν}
    (run : Run earlier s) (base : s.stack broken.thread = broken.base)
    (queue : s.barrier.held = broken.queue)
    (asked : s.step broken.thread broken.start (.request (.await broken.manner)) = some turn)
    (path : Path turn.scheduler (last :: since) s')
    (alone : ∀ stride ∈ last :: since, broken.Follows stride) (lasting : broken.Lasts since)
    (home : last.turn.scheduler.stack broken.thread = broken.base) :
    last.turn.signal = .unwound broken.panic ∧
      History.executed (last :: since) = broken.replayed ∧ broken.Fallout s s' := by
  obtain ⟨called, -, -⟩ := Await.of_request base asked
  cases path with
  | step path taken =>
      obtain ⟨follows, alone⟩ := List.forall_mem_cons.mp alone
      obtain ⟨station, stands, scene, -, -⟩ :=
        broken.scene run base queue asked path alone lasting
      have whole : Path s _ _ := (Path.start.step asked).append path
      have run' := run.append whole
      obtain rfl : _ = broken.thread := follows.1
      obtain ⟨after, leads⟩ := Await.next run'.sound (called.of_path whole) stands taken
      cases after with
      | some station' => exact absurd (leads.stack.symm.trans home) (Await.frames_ne _ station')
      | none =>
          obtain ⟨outcome, exit, rfl, same, aside⟩ := leads.next.of_none
          cases scene with
          | left whole replayed ends alike left =>
              obtain rfl := Option.some.inj left
              refine ⟨leads.told rfl _ _ rfl, ?_, ?_⟩
              · rw [History.executed_cons, Stride.deed, aside, whole]
                exact List.append_nil _
              · rw [whole] at replayed
                rw [← same] at alike
                have sound' := run'.sound.step (Scheduler.follows_of_step taken)
                have aftermath : broken.Aftermath s _ _ :=
                  ⟨run.sound, sound', queue, replayed, ends, alike⟩
                exact aftermath.fallout

/-- **How the panic comes to the caller**, if `s` is the state in which the await was called, and
`turn` what the call has left behind. -/
structure Unfolds (broken : BrokenReplay ν) (s : Scheduler ν) (turn : Turn ν) : Prop where
  /-- Until the call is over, the bodies that have been executed are the first ones of the hold
  queue, each once and in order, and none behind the culprit. -/
  inOrder : ∀ since s', Path turn.scheduler since s' → (∀ stride ∈ since, broken.Follows stride) →
    broken.Lasts since → History.executed since <+: broken.replayed
  /-- The call can always go on. -/
  advances : ∀ since s', Path turn.scheduler since s' → (∀ stride ∈ since, broken.Follows stride) →
    broken.Lasts since → ∀ now, ∃ move turn', s'.step broken.thread now move = some turn' ∧
      broken.Follows ⟨s', broken.thread, now, move, turn'⟩
  /-- It is over after a number of steps that is known from the beginning. -/
  bounded : ∀ since s', Path turn.scheduler since s' → (∀ stride ∈ since, broken.Follows stride) →
    broken.Lasts since → since.length < s.barrier.tasks.length + 5 + 6 * s.barrier.held.length
  /-- When it is over, the panic has come to the caller, all bodies up to the culprit's have been
  executed, and the cycle has ended. -/
  leaves : ∀ last since s', Path turn.scheduler (last :: since) s' →
    (∀ stride ∈ last :: since, broken.Follows stride) → broken.Lasts since →
    last.turn.scheduler.stack broken.thread = broken.base →
      last.turn.signal = .unwound broken.panic ∧
        History.executed (last :: since) = broken.replayed ∧ broken.Fallout s s'

/-- A call that can always go on, and makes a bounded number of steps, comes to its end, even while
the clock stands still. -/
theorem Unfolds.ends {s : Scheduler ν} {turn : Turn ν} (unfolds : broken.Unfolds s turn)
    (now : Instant) :
    ∃ last since s', Path turn.scheduler (last :: since) s' ∧
      (∀ stride ∈ last :: since, broken.Follows stride) ∧ broken.Lasts since ∧
      last.turn.scheduler.stack broken.thread = broken.base := by
  suffices goesOn : ∀ room since s', Path turn.scheduler since s' →
      (∀ stride ∈ since, broken.Follows stride) → broken.Lasts since →
      s.barrier.tasks.length + 5 + 6 * s.barrier.held.length = since.length + room →
      ∃ last since s', Path turn.scheduler (last :: since) s' ∧
        (∀ stride ∈ last :: since, broken.Follows stride) ∧ broken.Lasts since ∧
        last.turn.scheduler.stack broken.thread = broken.base from
    goesOn _ [] _ .start (List.forall_mem_nil _) (List.forall_mem_nil _) (Nat.zero_add _).symm
  intro room
  induction room with
  | zero =>
      intro since s' path alone lasting full
      have room := unfolds.bounded since s' path alone lasting
      omega
  | succ room ih =>
      intro since s' path alone lasting full
      obtain ⟨move, turn', taken, follows⟩ := unfolds.advances since s' path alone lasting now
      have longer := path.step taken
      have alone := List.forall_mem_cons.mpr ⟨follows, alone⟩
      by_cases home : turn'.scheduler.stack broken.thread = broken.base
      · exact ⟨_, since, _, longer, alone, lasting, home⟩
      · refine ih _ _ longer alone (List.forall_mem_cons.mpr ⟨fun _ => home, lasting⟩) ?_
        rw [full, List.length_cons]
        omega

end BrokenReplay

/-- **A panic breaks off a replay.**  An await finds a hold queue in which the body of some task
panics, and the bodies of the tasks before it return.  They make no calls, and no other thread does
anything.  Then these bodies are executed, once each and in order; the panic comes to the caller;
and the cycle has ended, in which nothing is lost but one-shot tasks that have not been started. -/
theorem panic_breaks_off_replay {broken : BrokenReplay ν} {earlier : History ν} {s : Scheduler ν}
    {turn : Turn ν} (run : Run earlier s) (base : s.stack broken.thread = broken.base)
    (queue : s.barrier.held = broken.queue)
    (asked : s.step broken.thread broken.start (.request (.await broken.manner)) = some turn) :
    broken.Unfolds s turn := by
  obtain ⟨called, -, -⟩ := Await.of_request base asked
  have begins : Path s [⟨s, broken.thread, broken.start, _, turn⟩] turn.scheduler :=
    .step .start asked
  refine ⟨fun since s' path alone lasting => ?_, fun since s' path alone lasting now => ?_,
    fun since s' path alone lasting => ?_, fun last since s' path alone lasting home => ?_⟩
  · obtain ⟨station, -, scene, -, -⟩ := BrokenReplay.scene run base queue asked path alone lasting
    exact scene.executed_prefix
  · obtain ⟨station, stands, scene, free, -⟩ :=
      BrokenReplay.scene run base queue asked path alone lasting
    have whole := begins.append path
    exact BrokenReplay.exists_follows (run.append whole).sound (called.of_path whole) free stands
      scene now
  · obtain ⟨station, -, scene, -, bound⟩ :=
      BrokenReplay.scene run base queue asked path alone lasting
    have some := scene.stepsLeft_pos
    omega
  · exact BrokenReplay.leaves run base queue asked path alone lasting home

/-- An await that finds four tasks in the hold queue, of which the second panics. -/
def brokenAwait : BrokenReplay Unit where
  thread := 0
  start := ⟨1⟩
  manner := .plain
  base := []
  before := [⟨0⟩]
  culprit := ⟨1⟩
  after := [⟨2⟩, ⟨3⟩]
  ends id := if id = ⟨1⟩ then .panicked .unreadable else .returned none
  panic := .unreadable
  returns := by decide
  panics := rfl

/-- The moves that fill its hold queue: two tasks are periodic, and a fifth one stays live. -/
def brokenMoves : List (ThreadId × Instant × Move Unit) :=
  [(0, ⟨0⟩, .request (.accept ⟨0⟩ (.fixedRate ⟨5⟩) false)),
    (0, ⟨0⟩, .request (.accept ⟨0⟩ .once false)), (0, ⟨0⟩, .request (.accept ⟨0⟩ .once false)),
    (0, ⟨0⟩, .request (.accept ⟨0⟩ (.fixedRate ⟨5⟩) false)),
    (0, ⟨0⟩, .request (.accept ⟨0⟩ .once false)),
    (1, ⟨0⟩, .request (.call ⟨0⟩)), (1, ⟨0⟩, .proceed), (1, ⟨0⟩, .proceed),
    (1, ⟨0⟩, .request (.call ⟨1⟩)), (1, ⟨0⟩, .proceed), (1, ⟨0⟩, .proceed),
    (1, ⟨0⟩, .request (.call ⟨2⟩)), (1, ⟨0⟩, .proceed), (1, ⟨0⟩, .proceed),
    (1, ⟨0⟩, .request (.call ⟨3⟩)), (1, ⟨0⟩, .proceed), (1, ⟨0⟩, .proceed)]

/-- Of five tasks the first two are executed, and the periodic ones live on. -/
theorem panic_breaks_off_mixed : ∃ (earlier since : History Unit) (last : Stride Unit)
    (s s' : Scheduler Unit) (turn : Turn Unit), Run earlier s ∧ s.stack 0 = [] ∧
      s.barrier.held = brokenAwait.queue ∧
      s.step 0 ⟨1⟩ (.request (.await .plain)) = some turn ∧
      Path turn.scheduler (last :: since) s' ∧ brokenAwait.Lasts since ∧
      (∀ stride ∈ last :: since, brokenAwait.Follows stride) ∧
      last.turn.signal = .unwound .unreadable ∧ History.executed (last :: since) = [⟨0⟩, ⟨1⟩] ∧
      [⟨0⟩, ⟨1⟩, ⟨2⟩, ⟨3⟩, ⟨4⟩].map s'.barrier.phase? =
        [some .live, some .ran, some .cancelled, some .live, some .cancelled] := by
  obtain ⟨earlier, s, turn, begun, base, queue, asked, known⟩ :
      ∃ earlier s turn,
        (Scheduler.start 0 .default (.byHand .empty) none).play brokenMoves = some (earlier, s) ∧
        s.stack 0 = [] ∧ s.barrier.held = brokenAwait.queue ∧
        s.step 0 ⟨1⟩ (.request (.await .plain)) = some turn ∧
        [⟨0⟩, ⟨1⟩, ⟨2⟩, ⟨3⟩, ⟨4⟩].map (fun id =>
          (s.barrier.task? id).map fun task => (task.periodic, task.phase)) =
            [some (true, .held), some (false, .held), some (false, .held), some (true, .held),
              some (false, .live)] :=
    ⟨_, _, _, rfl, rfl, rfl, rfl, rfl⟩
  have unfolds : brokenAwait.Unfolds s turn :=
    panic_breaks_off_replay (.of_play begun) base queue asked
  obtain ⟨last, since, s', path, alone, lasting, home⟩ := unfolds.ends ⟨1⟩
  obtain ⟨told, executed, fallout⟩ := unfolds.leaves last since s' path alone lasting home
  refine ⟨earlier, since, last, s, s', turn, .of_play begun, base, queue, asked, path, lasting,
    alone, told, executed, ?_⟩
  simp only [List.map_cons, List.map_nil, List.cons.injEq, and_true, Option.map_eq_some_iff,
    Prod.mk.injEq] at known ⊢
  obtain ⟨⟨task₀, found₀, periodic₀, -⟩, ⟨task₁, found₁, once₁, -⟩, ⟨task₂, found₂, once₂, -⟩,
    ⟨task₃, found₃, periodic₃, -⟩, ⟨task₄, found₄, once₄, live₄⟩⟩ := known
  exact ⟨(fallout.relived ⟨0⟩ (by decide) task₀ found₀ periodic₀).1,
    fallout.ran ⟨1⟩ (by decide) task₁ found₁ once₁,
    (fallout.cancelled ⟨2⟩ task₂ found₂ once₂ (.inl (by decide))).1,
    (fallout.relived ⟨3⟩ (by decide) task₃ found₃ periodic₃).1,
    (fallout.cancelled ⟨4⟩ task₄ found₄ once₄ (.inr live₄)).1⟩

end TaskBarrier
