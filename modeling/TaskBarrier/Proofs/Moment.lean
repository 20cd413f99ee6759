import TaskBarrier.Proofs.Scene

/-!
# The moment of awaiting does not matter

Tasks that fire before they are awaited are held, and the await replays them.  Tasks that fire
during the await run on the threads that fire them.  This module says that the two ways come to the
same: if the tasks fire one after the other and within the budget, then the await succeeds, the
bodies are executed in the order of the firings, and the barrier that is left depends only on which
tasks there were and what values their bodies have returned.

That the await succeeds is said of histories, which may end at any point.  Until the await has
answered, each step of the awaiting thread brings it nearer, unless it looks whether the tasks have
run and they have not, and it can always make a step.  Once all tasks have fired, every history can
be continued to the end of the await.  Wherever that is reached, the await has succeeded.

## Main Definitions

* `Plan.Upheld`: what comes of a plan.

## Main Statements

* `moment_of_awaiting_does_not_matter`: histories of plans that differ only in when the tasks are
  awaited have the same executions, and leave the same barrier.
* `await_fails_beyond_last_instant`: this needs a deadline that the clock can show.
-/

namespace TaskBarrier

variable {ν : Type} {plan : Plan ν} {earlier later : History ν} {s s' : Scheduler ν}

namespace Plan

/-- The tasks of a plan that can begin are fresh. -/
theorem Ready.supplies (ready : plan.Ready s) (sound : s.Sound) :
    s.barrier.Supplies plan.order where
  distinct := ready.distinct
  known := by
    intro id member
    obtain ⟨task, found, -⟩ := ready.live id member
    rw [found]
    rfl
  fresh := by
    intro task member listed
    obtain ⟨found, present, once, live⟩ := ready.live task.id listed
    obtain rfl := Option.some.inj (present.symm.trans (sound.coherent.task?_of_mem member))
    obtain ⟨stage, -, fits⟩ := sound.fits_of_found present
    refine ⟨once, live, fits.counted (.inr ⟨live, once⟩), ?_⟩
    by_contra doomed
    have running := (fits.doomed (by simpa using doomed)).1
    cases live.symm.trans running
  all := ready.all

/-- A plan that can begin is at its beginning. -/
theorem Ready.scene (ready : plan.Ready s) (run : Run earlier s) :
    plan.Scene s.barrier [] s ⟨[], none, [], plan.order⟩ .before where
  whole := rfl
  line := by
    refine ⟨ready.supplies run.sound, ?_, ?_, rfl, rfl⟩
    · have same : ∀ task : Task ν,
          Lineup.record ⟨[], none, [], plan.order⟩ plan.values task = task := by
        intro task
        simp [Lineup.record, Lineup.mark, Lineup.stage?, Task.marked]
      exact ((List.map_congr_left fun task _ => same task).trans (List.map_id _)).symm
    · -- A held task would be counted, and so it would be live.
      refine List.eq_nil_iff_forall_not_mem.mpr fun id member => ?_
      obtain ⟨task, found, held⟩ :=
        Option.map_eq_some_iff.mp ((run.sound.mem_held id).mp member)
      obtain ⟨stage, -, fits⟩ := run.sound.fits_of_found found
      have listed := ready.all task (Barrier.task?_mem found) (fits.counted (.inl held))
      rw [Barrier.task?_id found] at listed
      obtain ⟨_, present, -, live⟩ := ready.live id listed
      obtain rfl := Option.some.inj (found.symm.trans present)
      cases held.symm.trans live
  draining := by
    by_contra draining
    obtain ⟨thread, awaits⟩ := run.exists_awaits (by simpa [Post.draining] using draining)
    rw [run.awaits_iff, ready.idle thread] at awaits
    cases awaits
  suits := ⟨rfl, rfl⟩
  records := ⟨rfl, rfl, rfl, rfl, nofun⟩
  stands := by
    intro thread
    refine ⟨[], ready.idle thread, ?_⟩
    split <;> rfl

/-- A step of the plan brings the await nearer to its answer. -/
theorem Leads.nears {origin : Barrier ν} {lineup lineup' : Lineup} {post post' : Post ν}
    {stride : Stride ν} (leads : plan.Leads origin later lineup post stride lineup' post')
    (scene : plan.Scene origin later stride.before lineup post) : plan.Nears stride where
  own := by
    intro home far
    rw [scene.stepsLeft_eq] at far ⊢
    rw [leads.scene.stepsLeft_eq]
    refine (leads.own home far).imp_right fun ⟨same, _, unfinished⟩ => ⟨same, ?_⟩
    by_contra none
    refine unfinished (scene.line.isOver_of_phases fun id member => ?_)
    by_contra running
    exact none ⟨id, scene.whole ▸ member, running⟩
  others := by
    intro elsewhere
    rw [scene.stepsLeft_eq, leads.scene.stepsLeft_eq, leads.others elsewhere]

section Steps

variable {origin : Barrier ν} {lineup : Lineup} {post : Post ν} {thread : ThreadId}

/-- When the lineup is over, all tasks of the plan have run. -/
theorem Scene.ran_of_isOver (scene : plan.Scene origin later s lineup post)
    (finished : lineup.IsOver) : ∀ id ∈ plan.order, s.barrier.phase? id = some .ran := by
  intro id member
  have listed : id ∈ lineup.whole := scene.whole ▸ member
  rw [scene.line.phase?_eq listed, Lineup.mark_of_isOver finished, if_pos listed]
  rfl

/-- A step with which no task fires is permitted where user code does what it may and the budget
has not ended too early. -/
theorem Scene.permits {stride : Stride ν}
    (scene : plan.Scene origin later stride.before lineup post)
    (allowed : plan.Allows later stride stride.move) (fires : stride.deed.fires? = none)
    (inTime : stride.thread = plan.home → plan.InTime later stride.before stride.now) :
    plan.Permits later stride where
  allowed := allowed
  inOrder := by
    rw [History.fired_cons, fires, scene.records.fired, ← scene.whole, Option.toList_none,
      List.append_nil]
    exact List.prefix_append _ _
  oneByOne := by
    intro runs
    unfold Deed.runsAtOnce at runs
    split at runs
    · next deed =>
      rw [deed] at fires
      cases fires
    · cases runs
  inTime := inTime

/-- **A run is never kept from going on.** -/
theorem Scene.run_advances (scene : plan.Scene origin later s lineup post) (sound : s.Sound)
    (free : s.lock = none) {id : TaskId} {stage : RunStage} {base : Stack ν}
    (top : s.stack thread = .run id stage :: base) (now : Instant)
    (inTime : thread = plan.home → plan.InTime later s now) :
    ∃ move turn, s.step thread now move = some turn ∧
      plan.Permits later ⟨s, thread, now, move, turn⟩ := by
  cases stage with
  | starting replayed =>
      refine ⟨.proceed, _, sound.step_starting top now, scene.permits trivial ?_ inTime⟩
      simp only [Stride.deed, Scheduler.deed, Scheduler.frameDeed, top]
      split <;> rfl
  | executing =>
      have leaves : s.deed thread now (.endBody (.returned (plan.values id))) = .leave id := by
        simp [Scheduler.deed, top]
      obtain ⟨turn, taken⟩ :
          ∃ turn, s.step thread now (.endBody (.returned (plan.values id))) = some turn := by
        rw [Scheduler.step_of_free free, Scheduler.attempt, Scheduler.endBody, top]
        exact ⟨_, rfl⟩
      refine ⟨_, turn, taken, scene.permits ?_ (congrArg Deed.fires? leaves) inTime⟩
      intro other left
      obtain rfl := Option.some.inj ((congrArg Deed.leaves? leaves).symm.trans left)
      rfl
  | finishing =>
      refine ⟨.proceed, s.proceedFinishing thread id base, ?_, scene.permits trivial ?_ inTime⟩
      · rw [Scheduler.step_of_free free, Scheduler.attempt, Scheduler.proceed, top]
      · simp [Stride.deed, Scheduler.deed, Scheduler.frameDeed, top, Deed.fires?]

/-- In the middle of a plan nobody throws away a refused body, and so nobody holds the lock. -/
theorem Scene.free (scene : plan.Scene origin later s lineup post) (run : Run earlier s) :
    s.lock = none := by
  by_contra locked
  obtain ⟨holder, locked⟩ := Option.ne_none_iff_exists'.mp locked
  obtain ⟨rest, top⟩ := (run.lock_iff holder).mp locked
  rcases scene.cases holder with brief | ⟨id, stage, base, -, runs⟩ |
    ⟨-, -, begun, unfinished, stands⟩
  · rw [top] at brief
    cases brief
  · cases top.symm.trans runs
  · rw [top] at stands
    cases post with
    | before => exact begun rfl
    | answered => exact unfinished rfl
    | replaying | waiting => cases stands
    | leaving =>
        obtain rfl := (show Frame.refusing :: rest = _ from stands)
        cases scene.suits.2

/-- What the await has left to do, it can do where nobody holds the lock, and no task fires. -/
theorem Scene.proceeds (scene : plan.Scene origin later s lineup post) (begun : post ≠ .before)
    (unfinished : post ≠ .answered) (stands : plan.IsAt post (s.stack plan.home))
    (now : Instant) : (s.deed plan.home now .proceed).fires? = none ∧
      ∃ turn, s.attempt plan.home now .proceed = some turn := by
  simp only [Scheduler.deed, Scheduler.attempt, Scheduler.proceed]
  cases post with
  | before => exact absurd rfl begun
  | answered => exact absurd rfl unfinished
  | replaying =>
      rw [show s.stack plan.home = _ from stands]
      exact ⟨rfl, _, rfl⟩
  | waiting =>
      rw [show s.stack plan.home = _ from stands]
      refine ⟨?_, _, rfl⟩
      simp only [Scheduler.frameDeed]
      split <;> rfl
  | leaving left =>
      rw [show s.stack plan.home = left from stands]
      rcases Stack.isWayOut_cases scene.suits.2 with (rfl | rfl) | ⟨rest, -, rfl | rfl | rfl | rfl⟩
      all_goals exact ⟨rfl, _, rfl⟩

/-- **The awaiting thread is never kept from going on.** -/
theorem Scene.advances (scene : plan.Scene origin later s lineup post) (sound : s.Sound)
    (free : s.lock = none) (far : 0 < plan.stepsLeft s) (now : Instant)
    (inTime : plan.InTime later s now) :
    ∃ move turn, s.step plan.home now move = some turn ∧
      plan.Permits later ⟨s, plan.home, now, move, turn⟩ := by
  rcases scene.cases plan.home with brief | ⟨id, stage, base, -, top⟩ |
    ⟨-, idle, begun, unfinished, stands⟩
  · rw [stepsLeft_of_brief brief] at far
    cases far
  · exact scene.run_advances sound free top now fun _ => inTime
  · obtain ⟨quiet, turn, goes⟩ := scene.proceeds begun unfinished stands now
    exact ⟨.proceed, turn, (Scheduler.step_of_free free).trans goes,
      scene.permits trivial quiet fun _ => inTime⟩

/-- **Once all tasks have fired, some thread can make a step towards the end**: the one that makes
the run in progress, and otherwise the awaiting one. -/
theorem Scene.approaches (scene : plan.Scene origin later s lineup post) (sound : s.Sound)
    (free : s.lock = none) (affords : (plan.start.after? origin.config.awaitBudget).isSome = true)
    (far : 0 < plan.stepsLeft s) (fired : later.fired = plan.order) :
    ∃ thread now move turn lineup' post', s.step thread now move = some turn ∧
      plan.Permits later ⟨s, thread, now, move, turn⟩ ∧
      plan.Leads origin later lineup post ⟨s, thread, now, move, turn⟩ lineup' post' ∧
      4 * plan.distance lineup' post' + lineup'.stepsLeft <
        4 * plan.distance lineup post + lineup.stepsLeft := by
  obtain ⟨deadline, affords⟩ := Option.isSome_iff_exists.mp affords
  have ahead : lineup.ahead = [] := by
    have whole := scene.whole
    rwa [Lineup.whole, ← fired, scene.records.fired, List.append_right_eq_self] at whole
  have farther : 0 < plan.distance lineup post := scene.stepsLeft_eq ▸ far
  cases current : lineup.current with
  | some running =>
      obtain ⟨base, stack, -⟩ := scene.stands running.thread
      have top : s.stack running.thread = .run running.task running.stage :: base := by
        simpa [Lineup.frames, current] using stack
      have inTime : running.thread = plan.home → plan.InTime later s plan.start := by
        intro home deadline _ drained
        -- The awaiting thread runs tasks only while it replays.
        rcases scene.of_current current with ⟨rfl, -⟩ | ⟨-, elsewhere⟩
        · cases scene.records.drained.symm.trans drained
        · exact absurd home elsewhere
      obtain ⟨move, turn, taken, permits⟩ := scene.run_advances sound free top plan.start inTime
      obtain ⟨lineup', post', leads⟩ := scene.step sound permits affords taken
      have run := leads.runs running current rfl
      have near : plan.distance lineup' post' ≤ plan.distance lineup post := by
        by_cases home : running.thread = plan.home
        · exact (leads.own home farther).elim Nat.le_of_lt fun same => Nat.le_of_eq same.1
        · exact Nat.le_of_eq (leads.others home)
      exact ⟨_, _, move, turn, lineup', post', taken, permits, leads, by omega⟩
  | none =>
      have inTime : plan.InTime later s plan.start := by
        intro deadline _ drained _
        have suits := scene.suits
        have passed := scene.records.drained.symm.trans drained
        cases post with
        | before | replaying => cases passed
        | waiting => exact scene.ran_of_isOver ⟨current, suits.1, ahead⟩
        | leaving => exact scene.ran_of_isOver suits.1
        | answered => exact scene.ran_of_isOver suits
      obtain ⟨move, turn, taken, permits⟩ := scene.advances sound free far plan.start inTime
      obtain ⟨lineup', post', leads⟩ := scene.step sound permits affords taken
      have nearer : plan.distance lineup' post' < plan.distance lineup post := by
        rcases leads.own rfl farther with nearer | ⟨-, unheld, unfinished⟩
        · exact nearer
        · exact absurd ⟨current, unheld, ahead⟩ unfinished
      have short : lineup'.stepsLeft ≤ 3 := lineup'.stepsLeft_le
      exact ⟨_, _, move, turn, lineup', post', taken, permits, leads, by omega⟩

end Steps

/-- Once the await has nothing left to do, it is over. -/
theorem Scene.answered_of_awaited {origin : Barrier ν} {lineup : Lineup} {post : Post ν}
    (scene : plan.Scene origin later s lineup post) (awaited : plan.Awaited later s) :
    post = .answered := by
  obtain ⟨begun, done⟩ := awaited
  rw [scene.records.awaits] at begun
  rw [scene.stepsLeft_eq] at done
  cases post with
  | answered => rfl
  | before => exact absurd rfl begun
  | replaying | waiting =>
      simp only [distance, stepsOut] at done
      omega
  | leaving => exact absurd done (Nat.ne_of_gt (Stack.stepsOut_pos scene.suits.2))

/-- **The barrier after the await.** -/
theorem Scene.barrier_eq {origin : Barrier ν} {lineup : Lineup}
    (scene : plan.Scene origin later s lineup .answered) (sound : s.Sound) :
    s.barrier = { origin.outcome plan.order plan.values with facility := s.barrier.facility } := by
  have finished : lineup.IsOver := scene.suits
  have outstanding := (scene.line.outstanding_eq_zero_iff sound.coherent).mpr finished
  have held := scene.line.held.trans finished.held
  have draining : s.barrier.draining = false := scene.draining
  have tasks : s.barrier.tasks = origin.tasks.map fun task =>
      if task.id ∈ plan.order then task.completed (plan.values task.id) else task := by
    rw [scene.line.tasks]
    refine List.map_congr_left fun task _ => ?_
    rw [Lineup.record, Lineup.mark_of_isOver finished, scene.whole]
    split <;> rfl
  have config := scene.line.config
  have nextId := scene.line.nextId
  generalize s.barrier = b at *
  cases b
  simp_all [Barrier.outcome]

/-- **What comes of a plan**, after the given steps have led from one state to another. -/
structure Upheld (plan : Plan ν) (s : Scheduler ν) (later : History ν) (s' : Scheduler ν) :
    Prop where
  /-- No call fails, and none is left by a panic. -/
  tame : ∀ stride ∈ later, stride.turn.signal.isTame = true
  /-- The bodies are executed in the order of the plan. -/
  executed : later.executed <+: plan.order
  /-- Each step brings the await nearer to its answer. -/
  nearer : ∀ stride ∈ later, plan.Nears stride
  /-- The awaiting thread can make such a step. -/
  advances : 0 < plan.stepsLeft s' → ∀ now, plan.InTime later s' now →
    ∃ move turn, s'.step plan.home now move = some turn ∧
      plan.Permits later ⟨s', plan.home, now, move, turn⟩
  /-- Once the await has begun and all tasks have fired, the await can come to its end. -/
  completes : later.awaits ≠ 0 → later.fired = plan.order → ∃ later' s'', later <:+ later' ∧
    Path s later' s'' ∧ plan.Follows later' ∧ plan.Awaited later' s''
  /-- The await has succeeded, once it is over. -/
  succeeds : plan.Awaited later s' → ∃ stride ∈ later, stride.thread = plan.home ∧
    stride.turn.signal = .answer .settled
  /-- All tasks have fired and run then, in the order of the plan. -/
  ran : plan.Awaited later s' → later.fired = plan.order ∧ later.executed = plan.order ∧
    ∀ id ∈ plan.order, s'.barrier.phase? id = some .ran
  /-- The barrier is one that does not depend on when the tasks were awaited. -/
  barrier : plan.Awaited later s' → s'.barrier =
    { s.barrier.outcome plan.order plan.values with facility := s'.barrier.facility }

/-- **Every history of a plan leads to a state in the middle of the plan.** -/
theorem Follows.scene (follows : plan.Follows later) (run : Run earlier s) (ready : plan.Ready s)
    (affords : plan.Affords s) (path : Path s later s') :
    (∃ lineup post, plan.Scene s.barrier later s' lineup post) ∧
      (∀ stride ∈ later, stride.turn.signal.isTame = true) ∧
      ∀ stride ∈ later, plan.Nears stride := by
  obtain ⟨deadline, affords⟩ := Option.isSome_iff_exists.mp affords
  induction path with
  | start => exact ⟨⟨_, _, ready.scene run⟩, List.forall_mem_nil _, List.forall_mem_nil _⟩
  | @step later s' thread now move turn path taken ih =>
      obtain ⟨permits, follows⟩ := follows
      obtain ⟨⟨lineup, post, scene⟩, tame, nearer⟩ := ih follows
      obtain ⟨lineup', post', leads⟩ :=
        scene.step (run.append path).sound permits affords taken
      exact ⟨⟨lineup', post', leads.scene⟩, List.forall_mem_cons.mpr ⟨leads.tame, tame⟩,
        List.forall_mem_cons.mpr ⟨leads.nears scene, nearer⟩⟩

/-- **An await that has begun can come to its end** once all tasks have fired. -/
theorem Scene.completes {lineup : Lineup} {post : Post ν}
    (scene : plan.Scene s.barrier later s' lineup post) (run : Run earlier s)
    (affords : plan.Affords s) (path : Path s later s') (follows : plan.Follows later)
    (begun : later.awaits ≠ 0) (fired : later.fired = plan.order) :
    ∃ later' s'', later <:+ later' ∧ Path s later' s'' ∧ plan.Follows later' ∧
      plan.Awaited later' s'' := by
  induction measure : 4 * plan.distance lineup post + lineup.stepsLeft using Nat.strongRecOn
    generalizing later s' lineup post with
  | _ bound ih =>
      rcases Nat.eq_zero_or_pos (plan.stepsLeft s') with done | far
      · exact ⟨later, s', List.suffix_refl _, path, follows, begun, done⟩
      · obtain ⟨thread, now, move, turn, lineup', post', taken, permits, leads, closer⟩ :=
          scene.approaches (run.append path).sound (scene.free (run.append path)) affords far
            fired
        have begun' : History.awaits (⟨s', thread, now, move, turn⟩ :: later) ≠ 0 := by
          rw [History.awaits_cons]
          omega
        have fired' : History.fired (⟨s', thread, now, move, turn⟩ :: later) = plan.order := by
          have inOrder := permits.inOrder
          rw [History.fired_cons, fired] at inOrder ⊢
          exact inOrder.eq_of_length_le (by simp)
        obtain ⟨later', s'', extends', ended⟩ := ih _ (measure ▸ closer) leads.scene
          (path.step taken) ⟨permits, follows⟩ begun' fired' rfl
        exact ⟨later', s'', (List.suffix_cons _ _).trans extends', ended⟩

/-- A plan that is followed is upheld. -/
theorem Follows.upheld (follows : plan.Follows later) (run : Run earlier s) (ready : plan.Ready s)
    (affords : plan.Affords s) (path : Path s later s') : plan.Upheld s later s' := by
  obtain ⟨⟨lineup, post, scene⟩, tame, nearer⟩ := follows.scene run ready affords path
  have sound := (run.append path).sound
  refine ⟨tame, ?_, nearer, scene.advances sound (scene.free (run.append path)),
    scene.completes run affords path follows, fun awaited => ?_, fun awaited => ?_,
    fun awaited => ?_⟩
  · rw [scene.records.executed, ← scene.whole]
    exact lineup.executed_prefix
  · exact scene.records.settled (scene.answered_of_awaited awaited)
  · obtain rfl := scene.answered_of_awaited awaited
    have finished : lineup.IsOver := scene.suits
    obtain ⟨-, fired, executed⟩ := Lineup.of_isOver finished
    rw [scene.records.fired, scene.records.executed, fired, executed, scene.whole]
    exact ⟨rfl, rfl, scene.ran_of_isOver finished⟩
  · obtain rfl := scene.answered_of_awaited awaited
    exact scene.barrier_eq sound

end Plan

/-- **The moment of awaiting does not matter.**  If one-shot tasks fire in some order, the first of
them before they are awaited and the others one after the other once the replay is over and before
the budget ends, then the await succeeds, the bodies are executed in the order of the firings, and
every task ends up having run.  Two runs in which the same tasks fire in the same order, but which
differ in how many of them fire early, or in who awaits them when, execute the same bodies in the
same order and leave the same barrier behind, except for the facility, which knows what was fired
through it. -/
theorem moment_of_awaiting_does_not_matter (run : Run earlier s) (ready : plan.Ready s)
    (affords : plan.Affords s) (path : Path s later s') (follows : plan.Follows later) :
    plan.Upheld s later s' ∧
      ∀ (other : Plan ν) (later₂ : History ν) (s₂ : Scheduler ν), other.order = plan.order →
        other.values = plan.values → other.Affords s → Path s later₂ s₂ → other.Follows later₂ →
        plan.Awaited later s' → other.Awaited later₂ s₂ →
          later₂.executed = later.executed ∧
            s₂.barrier = { s'.barrier with facility := s₂.barrier.facility } := by
  have upheld := follows.upheld run ready affords path
  refine ⟨upheld, fun other later₂ s₂ order values affords₂ path₂ follows₂ awaited awaited₂ => ?_⟩
  have ready₂ : other.Ready s :=
    ⟨ready.idle, order ▸ ready.distinct, order ▸ ready.live, order ▸ ready.all⟩
  have upheld₂ := follows₂.upheld run ready₂ affords₂ path₂
  refine ⟨?_, ?_⟩
  · rw [(upheld.ran awaited).2.1, (upheld₂.ran awaited₂).2.1, order]
  · rw [upheld₂.barrier awaited₂, upheld.barrier awaited, order, values]

/-- Two tasks, the second of which fires first.  It does so before they are awaited, unless `early`
says that both do. -/
def pairPlan (early : Nat) : Plan Unit where
  order := [⟨1⟩, ⟨0⟩]
  values := fun _ => some ()
  early := early
  home := 0
  start := ⟨5⟩
  manner := .plain

/-- The moves of an owner who accepts two tasks. -/
def pairMoves : List (ThreadId × Instant × Move Unit) :=
  [(0, ⟨0⟩, .request (.accept ⟨0⟩ .once true)), (0, ⟨0⟩, .request (.accept ⟨0⟩ .once true))]

/-- The moves of a thread that makes a task fire too early. -/
def earlyMoves (task : TaskId) : List (ThreadId × Instant × Move Unit) :=
  [(1, ⟨0⟩, .request (.call task)), (1, ⟨0⟩, .proceed), (1, ⟨0⟩, .proceed)]

/-- The moves of a thread that makes a task fire and runs it. -/
def promptMoves (task : TaskId) : List (ThreadId × Instant × Move Unit) :=
  [(1, ⟨7⟩, .request (.call task)), (1, ⟨7⟩, .proceed), (1, ⟨7⟩, .proceed),
    (1, ⟨7⟩, .endBody (.returned (some ()))), (1, ⟨7⟩, .proceed), (1, ⟨7⟩, .proceed)]

/-- The moves of an await that replays the given number of tasks. -/
def awaitMoves (tasks : Nat) : List (ThreadId × Instant × Move Unit) :=
  (0, ⟨5⟩, .request (.await .plain)) ::
    (List.replicate tasks [(0, ⟨6⟩, .proceed), (0, ⟨6⟩, .proceed),
      (0, ⟨6⟩, .endBody (.returned (some ()))), (0, ⟨6⟩, .proceed)]).flatten ++
    [(0, ⟨6⟩, .proceed)]

/-- The moves of an await that finds everything settled. -/
def settleMoves : List (ThreadId × Instant × Move Unit) :=
  [(0, ⟨8⟩, .proceed), (0, ⟨8⟩, .proceed), (0, ⟨8⟩, .proceed), (0, ⟨8⟩, .proceed)]

/-- After `pairMoves` the plan can begin. -/
theorem Plan.Ready.of_pair {s : Scheduler Unit} {early : Nat} (calls : s.calls = ⟨[(0, [])]⟩)
    (tasks : s.barrier.tasks =
      [.accepted ⟨0⟩ false ⟨0⟩ true, .accepted ⟨1⟩ false ⟨1⟩ true]) :
    (pairPlan early).Ready s where
  idle := by
    intro thread
    rw [Scheduler.stack, calls]
    by_cases owner : thread = 0
    · rw [owner]
      rfl
    · simp [Stacks.get, Ne.symm owner]
  distinct := by simp [pairPlan]
  live := by simp [pairPlan, Barrier.task?, tasks, Task.accepted]
  all := by simp [pairPlan, tasks, Task.accepted]

/-- Two tasks that fire one before and one during the await, or both before it. -/
theorem moment_of_awaiting_of_pair : ∃ (earlier later later₂ : History Unit)
    (s s' s₂ : Scheduler Unit), Run earlier s ∧ (pairPlan 1).Ready s ∧ (pairPlan 1).Affords s ∧
      Path s later s' ∧ (pairPlan 1).Follows later ∧ (pairPlan 1).Awaited later s' ∧
      Path s later₂ s₂ ∧ (pairPlan 2).Follows later₂ ∧ (pairPlan 2).Awaited later₂ s₂ ∧
      later.executed = [⟨1⟩, ⟨0⟩] ∧ later₂.executed = later.executed ∧
      s₂.barrier = { s'.barrier with facility := s₂.barrier.facility } := by
  obtain ⟨earlier, later, later₂, s, s', s₂, played, calls, tasks, affords, played', played₂,
    follows, follows₂, begun, begun₂, done, done₂⟩ : ∃ earlier later later₂ s s' s₂,
      (Scheduler.start 0 .default (.byHand .empty) none).play pairMoves = some (earlier, s) ∧
        s.calls = ⟨[(0, [])]⟩ ∧
        s.barrier.tasks = [.accepted ⟨0⟩ false ⟨0⟩ true, .accepted ⟨1⟩ false ⟨1⟩ true] ∧
        (pairPlan 1).Affords s ∧
        s.play (earlyMoves ⟨1⟩ ++ awaitMoves 1 ++ promptMoves ⟨0⟩ ++ settleMoves) =
          some (later, s') ∧
        s.play (earlyMoves ⟨1⟩ ++ earlyMoves ⟨0⟩ ++ awaitMoves 2 ++ settleMoves) =
          some (later₂, s₂) ∧
        decide ((pairPlan 1).Follows later) = true ∧
        decide ((pairPlan 2).Follows later₂) = true ∧
        later.awaits = 1 ∧ later₂.awaits = 1 ∧ (pairPlan 1).stepsLeft s' = 0 ∧
        (pairPlan 2).stepsLeft s₂ = 0 :=
    ⟨_, _, _, _, _, _, rfl, rfl, rfl, rfl, rfl, rfl, rfl, rfl, rfl, rfl, rfl, rfl⟩
  have ready : (pairPlan 1).Ready s := Plan.Ready.of_pair calls tasks
  have run := Run.of_play played
  have path := Path.of_play played'
  have path₂ := Path.of_play played₂
  have follows := of_decide_eq_true follows
  have follows₂ := of_decide_eq_true follows₂
  have awaited : (pairPlan 1).Awaited later s' := ⟨by rw [begun]; decide, done⟩
  have awaited₂ : (pairPlan 2).Awaited later₂ s₂ := ⟨by rw [begun₂]; decide, done₂⟩
  obtain ⟨upheld, same⟩ := moment_of_awaiting_does_not_matter run ready affords path follows
  obtain ⟨executed, barrier⟩ :=
    same (pairPlan 2) later₂ s₂ rfl rfl affords path₂ follows₂ awaited awaited₂
  exact ⟨earlier, later, later₂, s, s', s₂, run, ready, affords, path, follows, awaited, path₂,
    follows₂, awaited₂, (upheld.ran awaited).2.1, executed, barrier⟩

/-- The settings of a scheduler whose awaits may take longer than a clock can show. -/
def boundlessConfig : Config :=
  Config.default.withAwaitBudget ⟨18446744073709551615 * Duration.nanosPerSecond⟩

/-- **With a budget that leads beyond the last instant, an await fails** although all tasks have
run. -/
theorem await_fails_beyond_last_instant : ¬ ∀ (earlier later : History Unit)
    (s s' : Scheduler Unit) (plan : Plan Unit), Run earlier s → plan.Ready s → Path s later s' →
    plan.Follows later → plan.Upheld s later s' := by
  intro upholds
  obtain ⟨earlier, later, s, s', played, calls, tasks, played', follows, wild⟩ :
      ∃ earlier later s s',
      (Scheduler.start 0 boundlessConfig (.byHand .empty) none).play pairMoves =
          some (earlier, s) ∧
        s.calls = ⟨[(0, [])]⟩ ∧
        s.barrier.tasks = [.accepted ⟨0⟩ false ⟨0⟩ true, .accepted ⟨1⟩ false ⟨1⟩ true] ∧
        s.play (earlyMoves ⟨1⟩ ++ earlyMoves ⟨0⟩ ++ awaitMoves 2 ++ settleMoves) =
          some (later, s') ∧
        decide ((pairPlan 2).Follows later) = true ∧
        later.all (fun stride => stride.turn.signal.isTame) = false :=
    ⟨_, _, _, _, rfl, rfl, rfl, rfl, rfl, rfl⟩
  have upheld := upholds earlier later s s' (pairPlan 2) (.of_play played) (.of_pair calls tasks)
    (.of_play played') (of_decide_eq_true follows)
  cases (List.all_eq_true.mpr upheld.tame).symm.trans wild

end TaskBarrier
