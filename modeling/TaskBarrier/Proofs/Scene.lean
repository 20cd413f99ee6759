import TaskBarrier.Proofs.Execution
import TaskBarrier.Proofs.Plan

/-!
# A plan, step by step

While a plan is followed, the await is at one of a few places, its `Post`, and the tasks are in a
lineup.  The two together say what is left to do on every thread, what the history has recorded and
whether the barrier lets tasks run: this is a `Scene`.  Each step that the plan permits leads from
one scene to another.

The proof goes by what is on top of the stack of the thread that makes the step.  If that is brief,
the step is the first half of a firing, the decision on one, or the request for the await.  If it
is a run, then it is the run in progress.  Otherwise the step is one of the await.

## Main Definitions

* `Plan.Post`: where the await stands.
* `Plan.Scene`: a state in the middle of a plan.
* `Plan.distance`: how far the await is from its answer.
* `Plan.Leads`: what a step of the plan comes to.

## Main Statements

* `Plan.Scene.step`: every step that the plan permits leads to a scene.

### The two design decisions

**The run in progress has its frame from the lineup.**  It is on top of the stack of the thread that
makes it, and the await or the firing that has started it is below.  So a stack is cut in two, and
what is below does not change while the run goes on.

**The distance is read off the scene.**  The steps that are left are counted on the stack in the
statement about plans.  In a scene they follow from the lineup and the post, and there every step
changes them by a known number.
-/

namespace TaskBarrier

variable {ν : Type}

/-! ## A reset that nothing is lost in -/

/-- What is not counted is left as it is by a reset. -/
theorem Task.Fits.reset_of_uncounted {task : Task ν} {stage : Option RunStage}
    (fits : task.Fits stage) (uncounted : task.isCounted = false) :
    task.isDropped = false ∧ task.reset = task := by
  have kept : task.isDropped = false := by
    by_contra isDropped
    have counted := fits.isCounted_of_isDropped (by simpa using isDropped)
    cases counted.symm.trans uncounted
  refine ⟨kept, ?_⟩
  unfold Task.reset
  rw [kept, if_neg Bool.false_ne_true]
  split
  · next held =>
    cases (fits.counted (.inl held)).symm.trans uncounted
  · exact task.setCounted_false_of_isCounted uncounted

/-- **The reset of an await that has succeeded** clears the flag, and changes nothing else. -/
theorem Scheduler.Sound.reset_eq {s : Scheduler ν} (sound : s.Sound)
    (settled : s.barrier.outstanding = 0) :
    s.barrier.reset = { s.barrier with draining := false } := by
  have rests : ∀ task ∈ s.barrier.tasks, task.isDropped = false ∧ task.reset = task := by
    intro task member
    obtain ⟨stage, -, fits⟩ := sound.fits_of_found (sound.coherent.task?_of_mem member)
    exact fits.reset_of_uncounted (sound.isCounted_of_outstanding settled member)
  have held : s.barrier.held = [] := by
    refine List.eq_nil_iff_forall_not_mem.mpr fun id member => ?_
    obtain ⟨task, found, phase⟩ := Option.map_eq_some_iff.mp ((sound.mem_held id).mp member)
    obtain ⟨stage, -, fits⟩ := sound.fits_of_found found
    have uncounted := sound.isCounted_of_outstanding settled (Barrier.task?_mem found)
    cases (fits.counted (.inl phase)).symm.trans uncounted
  have keys : s.barrier.tasks.filterMap (·.droppedKey?) = [] := by
    refine List.filterMap_eq_nil_iff.mpr fun task member => ?_
    simp [Task.droppedKey?, (rests task member).1]
  have tasks : s.barrier.tasks.map (·.reset) = s.barrier.tasks :=
    (List.map_congr_left fun task member => (rests task member).2).trans (List.map_id _)
  simp only [Barrier.reset, keys, tasks, List.foldl_nil, held, settled]

/-- Whether a stack is what an await that has succeeded still does, with no body to drop.  Where the
thread is unwinding, the guard of the await resets the barrier once more. -/
def Stack.isWayOut : Stack ν → Bool
  | [.settling] | [.answering .settled] => true
  | .dropping [] :: rest | .discarding [] :: rest | .settling :: rest | .guarding :: rest =>
      isWayOut rest
  | _ => false

/-- A way out ends with the answer, and leads there one frame at a time. -/
theorem Stack.isWayOut_cases {left : Stack ν} (out : left.isWayOut = true) :
    (left = [.settling] ∨ left = [.answering .settled]) ∨
      ∃ rest : Stack ν, rest.isWayOut = true ∧ (left = .dropping [] :: rest ∨
        left = .discarding [] :: rest ∨ left = .settling :: rest ∨ left = .guarding :: rest) := by
  unfold isWayOut at out
  split at out
  · exact .inl (.inl rfl)
  · exact .inl (.inr rfl)
  · exact .inr ⟨_, out, .inl rfl⟩
  · exact .inr ⟨_, out, .inr (.inl rfl)⟩
  · exact .inr ⟨_, out, .inr (.inr (.inl rfl))⟩
  · exact .inr ⟨_, out, .inr (.inr (.inr rfl))⟩
  · cases out

/-- The success of an await is no bad news. -/
theorem Scheduler.tame_proceedSettling (s : Scheduler ν) (thread : ThreadId) (rest : Stack ν) :
    (s.proceedSettling thread rest).signal.isTame = true := by
  cases rest with
  | nil => rfl
  | cons frame => cases frame <;> rfl

/-- On the way out, there is no run and nobody waits. -/
theorem Stack.of_isWayOut {left : Stack ν} (out : left.isWayOut = true) :
    left.isUser = false ∧ left.isBrief = false ∧
      (∀ id stage rest, left ≠ .run id stage :: rest) ∧
      ∀ start manner stage rest, left ≠ .awaiting start manner stage :: rest := by
  rcases isWayOut_cases out with (rfl | rfl) | ⟨rest, -, rfl | rfl | rfl | rfl⟩ <;>
    exact ⟨rfl, rfl, nofun, nofun⟩

/-- The way out takes at least one step. -/
theorem Stack.stepsOut_pos {left : Stack ν} (out : left.isWayOut = true) : 0 < left.stepsOut := by
  rcases isWayOut_cases out with (rfl | rfl) | ⟨rest, -, rfl | rfl | rfl | rfl⟩ <;>
    exact Nat.succ_pos _

/-- An await that has succeeded is on its way out. -/
theorem Manner.isWayOut (manner : Manner) :
    Stack.isWayOut (.dropping [] :: manner.succeeding : Stack ν) = true := by
  unfold Manner.succeeding
  split <;> rfl

namespace Plan

/-! ## Where the await stands -/

/-- How far the await has come. -/
inductive Post (ν : Type) where
  | before
  | replaying
  /-- It waits for tasks that have not fired. -/
  | waiting (deadline wake : Instant)
  /-- All tasks have run, and `left` is what the await still does. -/
  | leaving (left : Stack ν)
  | answered

namespace Post

/-- How many awaits have begun. -/
def awaits : Post ν → Nat
  | before => 0
  | _ => 1

/-- Whether the replay is over. -/
def drained : Post ν → Bool
  | before | replaying => false
  | _ => true

/-- Whether what fires may run. -/
def draining : Post ν → Bool
  | replaying | waiting _ _ => true
  | _ => false

end Post

/-- What the await has left on the stack of its thread.  Before and after it, that is brief. -/
def IsAt (plan : Plan ν) : Post ν → Stack ν → Prop
  | .before, base | .answered, base => base.isBrief = true
  | .replaying, base => base = [.awaiting plan.start plan.manner .replaying]
  | .waiting deadline wake, base =>
      base = [.awaiting plan.start plan.manner (.waiting deadline wake)]
  | .leaving left, base => base = left

/-- What is known of the tasks while the await stands there. -/
def Suits (plan : Plan ν) (config : Config) (lineup : Lineup) : Post ν → Prop
  | .before => lineup.ran = [] ∧ lineup.current = none
  | .replaying => ∀ running, lineup.current = some running → running.thread = plan.home
  | .waiting deadline _ => lineup.held = [] ∧
      (∀ running, lineup.current = some running → running.thread ≠ plan.home) ∧
      plan.start.after? config.awaitBudget = some deadline
  | .leaving left => lineup.IsOver ∧ left.isWayOut = true
  | .answered => lineup.IsOver

/-- What a thread has left to do: a run that it makes, and below it, on the thread that awaits, what
the await has left, and elsewhere something brief. -/
def Stands (plan : Plan ν) (lineup : Lineup) (post : Post ν) (thread : ThreadId)
    (stack : Stack ν) : Prop :=
  ∃ base, stack = lineup.frames thread ++ base ∧
    if thread = plan.home then plan.IsAt post base else base.isBrief = true

/-- What the history says: what has fired and what has been executed is read off the lineup, and how
far the await has come off its post. -/
structure Records (plan : Plan ν) (later : History ν) (lineup : Lineup) (post : Post ν) : Prop where
  fired : later.fired = lineup.fired
  executed : later.executed = lineup.executed
  awaits : later.awaits = post.awaits
  drained : later.drained = post.drained
  settled : post = .answered → ∃ stride ∈ later, stride.thread = plan.home ∧
    stride.turn.signal = .answer .settled

/-- **A state in the middle of a plan**: how far the tasks have come, and how far the await. -/
structure Scene (plan : Plan ν) (origin : Barrier ν) (later : History ν) (s : Scheduler ν)
    (lineup : Lineup) (post : Post ν) : Prop where
  whole : lineup.whole = plan.order
  line : origin.InLine plan.values lineup s.barrier
  draining : s.barrier.draining = post.draining
  suits : plan.Suits origin.config lineup post
  records : plan.Records later lineup post
  stands : ∀ thread, plan.Stands lineup post thread (s.stack thread)

end Plan

/-- How many steps are left of the run in progress. -/
def Lineup.stepsLeft (lineup : Lineup) : Nat := (lineup.current.map (·.stage.stepsLeft)).getD 0

theorem Lineup.stepsLeft_le (lineup : Lineup) : lineup.stepsLeft ≤ 3 := by
  unfold stepsLeft
  cases lineup.current with
  | none => exact Nat.zero_le 3
  | some running =>
      obtain ⟨_, stage, _⟩ := running
      cases stage <;> simp [RunStage.stepsLeft]

namespace Plan

/-- How many steps the awaiting thread is away from its answer. -/
def distance (plan : Plan ν) (lineup : Lineup) : Post ν → Nat
  | .before | .answered => 0
  | .replaying => 4 * lineup.held.length + 2 + plan.stepsOut + lineup.stepsLeft
  | .waiting _ _ => 1 + plan.stepsOut
  | .leaving left => left.stepsOut

section

variable {plan : Plan ν} {origin : Barrier ν} {later : History ν} {s : Scheduler ν}
  {lineup lineup' : Lineup} {post post' : Post ν} {thread : ThreadId} {now : Instant} {move : Move ν}
  {turn : Turn ν}

/-- The history after one more step. -/
theorem Records.step (records : plan.Records later lineup post) {deed : Deed}
    (done : s.deed thread now move = deed)
    (fired : lineup'.fired = lineup.fired ++ deed.fires?.toList)
    (executed : lineup'.executed = lineup.executed ++ deed.executes?.toList)
    (awaits : post'.awaits = post.awaits + if deed.isAwait then 1 else 0)
    (drained : post'.drained = (deed.endsReplay || post.drained))
    (settled : post' = .answered →
      post = .answered ∨ thread = plan.home ∧ turn.signal = .answer .settled) :
    plan.Records (⟨s, thread, now, move, turn⟩ :: later) lineup' post' := by
  have done : (⟨s, thread, now, move, turn⟩ : Stride ν).deed = deed := done
  constructor
  case fired => rw [History.fired_cons, done, records.fired, fired]
  case executed => rw [History.executed_cons, done, records.executed, executed]
  case awaits => rw [History.awaits_cons, done, records.awaits, awaits]
  case drained => rw [History.drained_cons, done, records.drained, drained]
  case settled =>
    intro finished
    rcases settled finished with before | now
    · obtain ⟨told, member, tells⟩ := records.settled before
      exact ⟨told, List.mem_cons_of_mem _ member, tells⟩
    · exact ⟨_, List.mem_cons_self, now⟩

/-- The history after a step with which nothing happens that it records but, perhaps, the end of
the replay. -/
theorem Records.still (records : plan.Records later lineup post) {deed : Deed}
    (done : s.deed thread now move = deed) (still : deed.isStill = true)
    (awaits : post'.awaits = post.awaits)
    (drained : post'.drained = (deed.endsReplay || post.drained))
    (settled : post' = .answered →
      post = .answered ∨ thread = plan.home ∧ turn.signal = .answer .settled) :
    plan.Records (⟨s, thread, now, move, turn⟩ :: later) lineup post' := by
  obtain ⟨⟨fires, executes⟩, begins⟩ :
      (deed.fires? = none ∧ deed.executes? = none) ∧ deed.isAwait = false := by
    simpa [Deed.isStill] using still
  exact records.step done (by simp [fires]) (by simp [executes]) (by simp [awaits, begins]) drained
    settled

/-- The stacks after a step of one thread. -/
theorem Scene.stands_step (scene : plan.Scene origin later s lineup post)
    (taken : s.step thread now move = some turn)
    (own : plan.Stands lineup' post' thread (turn.scheduler.stack thread))
    (frames : ∀ other, other ≠ thread →
      (lineup'.frames other : Stack ν) = lineup.frames other)
    (posts : post' = post ∨ thread = plan.home) (other : ThreadId) :
    plan.Stands lineup' post' other (turn.scheduler.stack other) := by
  by_cases same : other = thread
  · rw [same]
    exact own
  · obtain ⟨base, stack, stands⟩ := scene.stands other
    rw [(Scheduler.follows_of_step taken).others other same, Stands, frames other same]
    refine ⟨base, stack, ?_⟩
    rcases posts with rfl | home
    · exact stands
    · rw [if_neg (home ▸ same)] at stands ⊢
      exact stands

/-- Where a stack is brief, no run is made, and no await is in progress. -/
theorem Scene.of_brief (scene : plan.Scene origin later s lineup post)
    (brief : (s.stack thread).isBrief = true) :
    (lineup.frames thread : Stack ν) = [] ∧
      (thread = plan.home → post = .before ∨ post = .answered) := by
  obtain ⟨base, stack, stands⟩ := scene.stands thread
  rcases lineup.frames_cases thread with idle | ⟨id, stage, -, runs⟩
  · refine ⟨idle, fun home => ?_⟩
    rw [if_pos home] at stands
    rw [stack, idle] at brief
    cases post with
    | before => exact .inl rfl
    | answered => exact .inr rfl
    | replaying | waiting =>
        cases (stands : base = _)
        cases brief
    | leaving =>
        have suits := (Stack.of_isWayOut scene.suits.2).2.1
        obtain rfl : base = _ := stands
        cases brief.symm.trans suits
  · rw [stack, runs] at brief
    cases brief

/-- The thread of the run in progress is one that fires, while the await waits, or the awaiting one,
while it replays. -/
theorem Scene.of_current (scene : plan.Scene origin later s lineup post) {running : Running}
    (current : lineup.current = some running) :
    post = .replaying ∧ running.thread = plan.home ∨
      (∃ deadline wake, post = .waiting deadline wake) ∧ running.thread ≠ plan.home := by
  have suits := scene.suits
  cases post with
  | replaying => exact .inl ⟨rfl, suits running current⟩
  | waiting deadline wake => exact .inr ⟨⟨deadline, wake, rfl⟩, suits.2.1 running current⟩
  | before => cases current.symm.trans suits.2
  | leaving => cases current.symm.trans (Lineup.IsOver.current suits.1)
  | answered => cases current.symm.trans (Lineup.IsOver.current suits)

/-- **What a thread has on its stack**: something brief, the run in progress, or what the await has
left. -/
theorem Scene.cases (scene : plan.Scene origin later s lineup post) (thread : ThreadId) :
    (s.stack thread).isBrief = true ∨
      (∃ id stage base, lineup.current = some ⟨id, stage, thread⟩ ∧
        s.stack thread = .run id stage :: base) ∨
      thread = plan.home ∧ lineup.frames thread = ([] : Stack ν) ∧ post ≠ .before ∧
        post ≠ .answered ∧ plan.IsAt post (s.stack thread) := by
  obtain ⟨base, stack, stands⟩ := scene.stands thread
  rcases lineup.frames_cases thread with idle | ⟨id, stage, current, runs⟩
  · rw [idle, List.nil_append] at stack
    rw [stack]
    by_cases home : thread = plan.home
    · rw [if_pos home] at stands
      cases post with
      | before | answered => exact .inl stands
      | _ => exact .inr (.inr ⟨home, idle, by simp, by simp, stands⟩)
    · rw [if_neg home] at stands
      exact .inl stands
  · rw [runs] at stack
    exact .inr (.inl ⟨id, stage, base, current, stack⟩)

/-- Where the awaiting thread does not make the run in progress, what the await has left is all that
is on its stack. -/
theorem Scene.at_home (scene : plan.Scene origin later s lineup post)
    (apart : ∀ running, lineup.current = some running → running.thread ≠ plan.home) :
    plan.IsAt post (s.stack plan.home) := by
  obtain ⟨base, stack, stands⟩ := scene.stands plan.home
  rw [if_pos rfl] at stands
  rw [stack, Lineup.frames_of_ne apart]
  exact stands

theorem stepsLeft_of_brief (brief : (s.stack plan.home).isBrief = true) :
    plan.stepsLeft s = 0 := by
  unfold stepsLeft
  generalize s.stack plan.home = stack at brief ⊢
  unfold Stack.isBrief at brief
  split at brief
  any_goals rfl
  cases brief

/-- The distance is read off the stack of the awaiting thread. -/
theorem Scene.stepsLeft_eq (scene : plan.Scene origin later s lineup post) :
    plan.stepsLeft s = plan.distance lineup post := by
  have suits := scene.suits
  have held := scene.line.held
  have free (none : lineup.current = none) : plan.IsAt post (s.stack plan.home) :=
    scene.at_home fun running current => by cases current.symm.trans none
  cases post with
  | before => exact stepsLeft_of_brief (free suits.2)
  | answered => exact stepsLeft_of_brief (free (Lineup.IsOver.current suits))
  | replaying =>
      obtain ⟨base, stack, stands⟩ := scene.stands plan.home
      rw [if_pos rfl] at stands
      obtain rfl : base = _ := stands
      cases current : lineup.current with
      | none => simp [stepsLeft, stack, Lineup.frames, distance, Lineup.stepsLeft, current, held]
      | some running =>
          have own := suits running current
          simp [stepsLeft, stack, Lineup.frames, distance, Lineup.stepsLeft, current, own, held]
  | waiting deadline wake =>
      have top : s.stack plan.home = _ := scene.at_home suits.2.1
      simp [stepsLeft, top, distance]
  | leaving left =>
      obtain rfl : s.stack plan.home = left := free (Lineup.IsOver.current suits.1)
      obtain ⟨-, -, runs, waits⟩ := Stack.of_isWayOut suits.2
      unfold stepsLeft
      split
      · next top => exact absurd top (runs _ _ _)
      · next top => exact absurd top (waits _ _ _ _)
      · next top => exact absurd top (waits _ _ _ _)
      · rfl

/-! ## One step -/

/-- **What a step of the plan comes to**: a state in the middle of the plan again, with a signal
that is not bad news, and not further away from the answer. -/
structure Leads (plan : Plan ν) (origin : Barrier ν) (later : History ν) (lineup : Lineup)
    (post : Post ν) (stride : Stride ν) (lineup' : Lineup) (post' : Post ν) : Prop where
  scene : plan.Scene origin (stride :: later) stride.turn.scheduler lineup' post'
  tame : stride.turn.signal.isTame = true
  own : stride.thread = plan.home → 0 < plan.distance lineup post →
    plan.distance lineup' post' < plan.distance lineup post ∨
      plan.distance lineup' post' = plan.distance lineup post ∧ lineup.held = [] ∧ ¬ lineup.IsOver
  others : stride.thread ≠ plan.home → plan.distance lineup' post' = plan.distance lineup post
  runs : ∀ running, lineup.current = some running → running.thread = stride.thread →
    lineup'.stepsLeft < lineup.stepsLeft

/-- Steps with which nothing happens to the tasks. -/
theorem Scene.quick (scene : plan.Scene origin later s lineup post)
    (taken : s.step thread now move = some turn) (quick : s.Quick thread turn)
    (brief : (s.stack thread).isBrief = true)
    (unplanned : (s.deed thread now move).isUnplanned = true) :
    plan.Leads origin later lineup post ⟨s, thread, now, move, turn⟩ lineup post := by
  obtain ⟨idle, calm⟩ := scene.of_brief brief
  obtain ⟨⟨facility, barrier⟩, brief', tame⟩ := quick
  obtain ⟨still, drains⟩ : (s.deed thread now move).isStill = true ∧
      (s.deed thread now move).endsReplay = false := by
    simpa [Deed.isUnplanned] using unplanned
  refine ⟨⟨scene.whole, ?_, ?_, scene.suits, ?_, ?_⟩, tame, fun home far => ?_, fun _ => rfl,
    fun running current own => ?_⟩
  · rw [barrier]
    exact scene.line.of_same rfl rfl rfl rfl
  · rw [barrier]
    exact scene.draining
  · exact scene.records.still rfl still rfl (by simp [drains]) .inl
  · refine scene.stands_step taken ⟨_, by rw [idle, List.nil_append], ?_⟩ (fun _ _ => rfl)
      (.inl rfl)
    split
    · next home => rcases calm home with rfl | rfl <;> exact brief'
    · exact brief'
  · rcases calm home with rfl | rfl <;> cases far
  · simp [Lineup.frames, current, own] at idle

/-- What fires next is the first of the tasks that have not fired. -/
theorem Scene.ahead_of_fires (scene : plan.Scene origin later s lineup post) {stride : Stride ν}
    (permits : plan.Permits later stride) {id : TaskId} (fires : stride.deed.fires? = some id) :
    ∃ ahead, lineup.ahead = id :: ahead := by
  have inOrder := permits.inOrder
  rw [History.fired_cons, scene.records.fired, fires, ← scene.whole, Lineup.whole,
    List.prefix_append_right_inj] at inOrder
  obtain ⟨ahead, split⟩ := inOrder
  exact ⟨ahead, split.symm⟩

section Firing

variable {id : TaskId} {rest : Stack ν} {events : List Event}

/-- A task that fires before the await is held. -/
theorem Scene.hold (scene : plan.Scene origin later s lineup .before) {ahead : List TaskId}
    (next : lineup.ahead = id :: ahead) {task : Task ν} (found : s.barrier.task? id = some task)
    (lives : s.barrier.fire id = s.barrier.fireLive id) (brief : rest.isBrief = true)
    (taken : s.step thread now move =
      some (s.turn (s.barrier.fire id).barrier thread rest .working events))
    (done : s.deed thread now move = .call id .held) :
    plan.Leads origin later lineup .before
      ⟨s, thread, now, move, s.turn (s.barrier.fire id).barrier thread rest .working events⟩
      ⟨[], none, lineup.held ++ [id], ahead⟩ .before := by
  have stays := s.barrier.stays_fire id
  obtain ⟨none, idle⟩ := scene.suits
  obtain ⟨ran, current, held, _⟩ := lineup
  obtain rfl : ran = [] := none
  obtain rfl : current = .none := idle
  obtain rfl := next
  refine ⟨⟨?_, ?_, stays.draining.trans scene.draining, ⟨rfl, rfl⟩, ?_, ?_⟩, rfl,
    fun _ far => absurd far (Nat.lt_irrefl 0), fun _ => rfl, nofun⟩
  · rw [← scene.whole]
    simp [Lineup.whole, Lineup.fired]
  · rw [Scheduler.barrier_turn, lives]
    exact scene.line.hold scene.draining found
  · refine scene.records.step done ?_ ?_ rfl rfl .inl
    · simp [Lineup.fired, Deed.fires?]
    · simp [Lineup.executed, Deed.executes?]
  · refine scene.stands_step taken ⟨rest, Scheduler.stack_turn_self .., ?_⟩ (fun _ _ => rfl)
      (.inl rfl)
    split <;> exact brief

/-- A task that fires during the wait is run by the thread that fires it. -/
theorem Scene.start {deadline wake : Instant}
    (scene : plan.Scene origin later s lineup (.waiting deadline wake)) {ahead : List TaskId}
    (next : lineup.ahead = id :: ahead) (idle : lineup.current = none)
    (elsewhere : thread ≠ plan.home) {task : Task ν} (found : s.barrier.task? id = some task)
    (lives : s.barrier.fire id = s.barrier.fireLive id) (brief : rest.isBrief = true)
    (taken : s.step thread now move = some (s.turn (s.barrier.fire id).barrier thread
      (.run id (.starting false) :: rest) .working events))
    (done : s.deed thread now move = .call id .run) :
    plan.Leads origin later lineup (.waiting deadline wake)
      ⟨s, thread, now, move, s.turn (s.barrier.fire id).barrier thread
        (.run id (.starting false) :: rest) .working events⟩
      ⟨lineup.ran, some ⟨id, .starting false, thread⟩, [], ahead⟩ (.waiting deadline wake) := by
  have stays := s.barrier.stays_fire id
  obtain ⟨unheld, -, deadline_eq⟩ := scene.suits
  obtain ⟨ran, current, held, _⟩ := lineup
  obtain rfl : held = [] := unheld
  obtain rfl : current = none := idle
  obtain rfl := next
  refine ⟨⟨?_, ?_, stays.draining.trans scene.draining, ⟨rfl, ?_, deadline_eq⟩, ?_, ?_⟩, rfl,
    fun home => absurd home elsewhere, fun _ => rfl, nofun⟩
  · rw [← scene.whole]
    simp [Lineup.whole, Lineup.fired]
  · rw [Scheduler.barrier_turn, lives]
    exact scene.line.start scene.draining found
  · rintro running ⟨⟩
    exact elsewhere
  · refine scene.records.step done ?_ ?_ rfl rfl .inl
    · simp [Lineup.fired, Deed.fires?]
    · simp [Lineup.executed, Deed.executes?]
  · refine scene.stands_step taken ⟨rest, ?_, ?_⟩ (fun other ne => ?_) (.inl rfl)
    · simp [Lineup.frames]
    · rw [if_neg elsewhere]
      exact brief
    · simp [Lineup.frames, Ne.symm ne]

/-- **A firing is decided upon.** -/
theorem Scene.decide (scene : plan.Scene origin later s lineup post)
    (permits : plan.Permits later ⟨s, thread, now, move, turn⟩)
    (taken : s.step thread now move = some turn) (top : s.stack thread = .deciding id :: rest)
    (brief : (s.stack thread).isBrief = true) :
    ∃ lineup' post',
      plan.Leads origin later lineup post ⟨s, thread, now, move, turn⟩ lineup' post' := by
  obtain rfl := Scheduler.eq_proceed taken (by rw [top]; rfl)
  obtain rfl : turn = s.proceedDeciding thread id rest := by
    simpa [Scheduler.attempt, Scheduler.proceed, top] using (Scheduler.attempt_of_step taken).symm
  have done : s.deed thread now .proceed = .call id (s.barrier.fire id).answer := by
    simp [Scheduler.deed, Scheduler.frameDeed, top]
  have below : rest.isBrief = true := by
    rw [top] at brief
    unfold Stack.isBrief at brief
    split at brief <;> simp_all [Stack.isBrief]
  obtain ⟨-, calm⟩ := scene.of_brief brief
  rcases s.barrier.fire_cases id with ⟨task, found, -, -, lives⟩ | ⟨same, quiet⟩
  · have answer := s.barrier.answer_fireLive id
    rw [← lives, scene.draining] at answer
    have fires : s.deed thread now .proceed = .call id .held ∨
        s.deed thread now .proceed = .call id .run := by
      rw [done, answer]
      split <;> simp
    obtain ⟨ahead, next⟩ := scene.ahead_of_fires permits
      (fires.elim (congrArg Deed.fires?) (congrArg Deed.fires?))
    have runs (draining : post.draining = true) :
        (s.deed thread now .proceed).runsAtOnce = true := by
      rw [done, answer, draining]
      rfl
    cases post with
    | before =>
        have eq : s.proceedDeciding thread id rest = s.turn (s.barrier.fire id).barrier thread rest
            .working (s.barrier.fire id).events := by
          simp [Scheduler.proceedDeciding, answer, Post.draining]
        rw [eq] at taken ⊢
        exact ⟨_, _, scene.hold next found lives below taken (by rw [done, answer]; rfl)⟩
    | replaying =>
        -- The replay is not over.
        obtain ⟨drained, -⟩ := permits.oneByOne (runs rfl)
        cases drained.symm.trans scene.records.drained
    | waiting deadline wake =>
        obtain ⟨-, alone⟩ := permits.oneByOne (runs rfl)
        have eq : s.proceedDeciding thread id rest = s.turn (s.barrier.fire id).barrier thread
            (.run id (.starting false) :: rest) .working (s.barrier.fire id).events := by
          simp [Scheduler.proceedDeciding, answer, Post.draining]
        rw [eq] at taken ⊢
        refine ⟨_, _, scene.start next ?_ (fun home => by simpa using calm home) found lives below
          taken (by rw [done, answer]; rfl)⟩
        -- A run in progress would be that of a task that has fired.
        by_contra busy
        obtain ⟨⟨task, stage, runner⟩, current⟩ := Option.ne_none_iff_exists'.mp busy
        have fired : task ∈ lineup.fired := by simp [Lineup.fired, current]
        have ran := alone task (scene.records.fired ▸ fired)
        rw [scene.line.phase?_eq (List.mem_append_left _ fired),
          Lineup.mark_of_current scene.line.supplies.distinct current] at ran
        cases ran
    | leaving => cases next.symm.trans (Lineup.IsOver.ahead scene.suits.1)
    | answered => cases next.symm.trans (Lineup.IsOver.ahead scene.suits)
  · refine ⟨lineup, post, scene.quick taken ⟨⟨s.barrier.facility, ?_⟩, ?_, rfl⟩ brief ?_⟩
    · exact same
    · rcases quiet with answer | answer <;> simpa [Scheduler.proceedDeciding, answer] using below
    · rw [done]
      rcases quiet with answer | answer <;> rw [answer] <;> rfl

end Firing

section Runs

variable {id : TaskId} {stage stage' : RunStage} {base : Stack ν} {ran held ahead : List TaskId}

/-- What a run stands on. -/
theorem Scene.below (scene : plan.Scene origin later s lineup post)
    (current : lineup.current = some ⟨id, stage, thread⟩)
    (top : s.stack thread = .run id stage :: base) :
    if thread = plan.home then plan.IsAt post base else base.isBrief = true := by
  obtain ⟨base', stack, stands⟩ := scene.stands thread
  have same : base' = base := by
    simpa [Lineup.frames, current, top, eq_comm] using stack
  exact same ▸ stands

/-- The run in progress comes to its next stage. -/
theorem Scene.advance
    (scene : plan.Scene origin later s ⟨ran, some ⟨id, stage, thread⟩, held, ahead⟩ post)
    (top : s.stack thread = .run id stage :: base) {change : Task ν → Task ν}
    (own : ∀ task : Task ν, change (task.marked (plan.values id) (.running stage)) =
      task.marked (plan.values id) (.running stage')) {signal : Signal ν} {events : List Event}
    (taken : s.step thread now move = some (s.turn (s.barrier.modify id change) thread
      (.run id stage' :: base) signal events))
    (tame : signal.isTame = true) (closer : stage'.stepsLeft < stage.stepsLeft) {deed : Deed}
    (done : s.deed thread now move = deed) (fires : deed.fires? = none)
    (executed : Lineup.executed ⟨ran, some ⟨id, stage', thread⟩, held, ahead⟩ =
      Lineup.executed ⟨ran, some ⟨id, stage, thread⟩, held, ahead⟩ ++ deed.executes?.toList)
    (awaits : deed.isAwait = false) (drains : deed.endsReplay = false) :
    plan.Leads origin later ⟨ran, some ⟨id, stage, thread⟩, held, ahead⟩ post
      ⟨s, thread, now, move, s.turn (s.barrier.modify id change) thread
        (.run id stage' :: base) signal events⟩
      ⟨ran, some ⟨id, stage', thread⟩, held, ahead⟩ post := by
  have below := scene.below rfl top
  have posts := scene.of_current rfl
  refine ⟨⟨scene.whole, scene.line.advance own, scene.draining, ?_, ?_, ?_⟩, tame,
    fun home _ => ?_, fun elsewhere => ?_, fun _ _ _ => closer⟩
  · rcases posts with ⟨rfl, home⟩ | ⟨⟨deadline, wake, rfl⟩, elsewhere⟩
    · rintro running ⟨⟩
      exact home
    · refine ⟨scene.suits.1, ?_, scene.suits.2.2⟩
      rintro running ⟨⟩
      exact elsewhere
  · exact scene.records.step done (by simp [fires, Lineup.fired]) executed (by simp [awaits])
      (by simp [drains]) .inl
  · refine scene.stands_step taken ⟨base, ?_, below⟩ (fun other ne => ?_) (.inl rfl)
    · simp [Lineup.frames]
    · simp [Lineup.frames, Ne.symm ne]
  · rcases posts with ⟨rfl, -⟩ | ⟨-, elsewhere⟩
    · exact .inl (Nat.add_lt_add_left closer _)
    · exact absurd home elsewhere
  · rcases posts with ⟨-, home⟩ | ⟨⟨deadline, wake, rfl⟩, -⟩
    · exact absurd home elsewhere
    · rfl

/-- The run in progress is over. -/
theorem Scene.finish
    (scene : plan.Scene origin later s ⟨ran, some ⟨id, .finishing, thread⟩, held, ahead⟩ post)
    (sound : s.Sound) (top : s.stack thread = .run id .finishing :: base)
    (taken : s.step thread now .proceed = some turn) :
    plan.Leads origin later ⟨ran, some ⟨id, .finishing, thread⟩, held, ahead⟩ post
      ⟨s, thread, now, .proceed, turn⟩ ⟨ran ++ [id], none, held, ahead⟩ post := by
  have below := scene.below rfl top
  have posts := scene.of_current rfl
  obtain ⟨task, found, -⟩ := sound.of_run top
  obtain ⟨lasts, line⟩ := scene.line.finish found
  obtain rfl : turn = s.turn (s.barrier.finish id).barrier thread base .working
      (s.barrier.finish id).events := by
    simpa [Scheduler.attempt, Scheduler.proceed, top, Scheduler.proceedFinishing, lasts]
      using (Scheduler.attempt_of_step taken).symm
  have done : s.deed thread now .proceed = .finish id := by
    simp [Scheduler.deed, Scheduler.frameDeed, top]
  have stays := s.barrier.stays_finish id
  refine ⟨⟨?_, line, stays.draining.trans scene.draining, ?_, ?_, ?_⟩, rfl, fun home _ => ?_,
    fun elsewhere => ?_, fun _ _ _ => Nat.one_pos⟩
  · rw [← scene.whole]
    simp [Lineup.whole, Lineup.fired]
  · rcases posts with ⟨rfl, -⟩ | ⟨⟨deadline, wake, rfl⟩, -⟩
    · rintro running ⟨⟩
    · exact ⟨scene.suits.1, by rintro running ⟨⟩, scene.suits.2.2⟩
  · refine scene.records.step done ?_ ?_ rfl rfl .inl
    · simp [Lineup.fired, Deed.fires?]
    · simp [Lineup.executed, Deed.executes?]
  · refine scene.stands_step taken ⟨base, Scheduler.stack_turn_self .., below⟩
      (fun other ne => ?_) (.inl rfl)
    simp [Lineup.frames, Ne.symm ne]
  · rcases posts with ⟨rfl, -⟩ | ⟨-, elsewhere⟩
    · exact .inl (Nat.add_lt_add_left Nat.one_pos _)
    · exact absurd home elsewhere
  · rcases posts with ⟨-, home⟩ | ⟨⟨deadline, wake, rfl⟩, -⟩
    · exact absurd home elsewhere
    · rfl

/-- **The run in progress gets on.** -/
theorem Scene.run (scene : plan.Scene origin later s lineup post) (sound : s.Sound)
    (permits : plan.Permits later ⟨s, thread, now, move, turn⟩)
    (taken : s.step thread now move = some turn)
    (current : lineup.current = some ⟨id, stage, thread⟩)
    (top : s.stack thread = .run id stage :: base) :
    ∃ lineup' post',
      plan.Leads origin later lineup post ⟨s, thread, now, move, turn⟩ lineup' post' := by
  obtain ⟨ran, _, held, ahead⟩ := lineup
  obtain rfl := current
  cases stage with
  | starting replayed =>
      obtain rfl := Scheduler.eq_proceed taken (by rw [top]; rfl)
      obtain rfl := Option.some.inj ((sound.step_starting top now).symm.trans taken)
      obtain ⟨task, found, fits⟩ := sound.of_run top
      have done : s.deed thread now .proceed = .enter id true := by
        simp [Scheduler.deed, Scheduler.frameDeed, top, fits.enterBody? sound.coherent found]
      exact ⟨_, _, scene.advance top (fun _ => rfl) taken rfl (Nat.lt_succ_self 2) done rfl
        (by simp [Lineup.executed, Deed.executes?]) rfl rfl⟩
  | executing =>
      cases move with
      | request request =>
          have allowed := permits.allowed
          cases request <;> simp [Allows, top] at allowed
      | proceed =>
          exact absurd (Scheduler.attempt_of_step taken)
            (by simp [Scheduler.attempt, Scheduler.proceed, top])
      | work =>
          have taken := Scheduler.attempt_of_step taken
          simp only [Scheduler.attempt, Scheduler.work, top] at taken
          split at taken <;> simp_all
      | endBody how =>
          have leaves : s.deed thread now (.endBody how) = .leave id := by
            simp [Scheduler.deed, top]
          obtain rfl : how = .returned (plan.values id) := by
            have allowed := permits.allowed
            cases how with
            | returned value =>
                exact congrArg BodyEnd.returned (allowed id (congrArg Deed.leaves? leaves))
            | panicked panic => exact allowed.elim
          obtain rfl : turn = s.turn (s.barrier.leaveBody id (plan.values id)) thread
              (.run id .finishing :: base) .working [] := by
            simpa [Scheduler.attempt, Scheduler.endBody, top]
              using (Scheduler.attempt_of_step taken).symm
          exact ⟨_, _, scene.advance top (fun _ => rfl) taken rfl (Nat.lt_succ_self 1) leaves rfl
            (by simp [Lineup.executed, Deed.executes?]) rfl rfl⟩
  | finishing =>
      obtain rfl := Scheduler.eq_proceed taken (by rw [top]; rfl)
      exact ⟨_, _, scene.finish sound top taken⟩

end Runs

section Home

/-- **The await begins.** -/
theorem Scene.await (scene : plan.Scene origin later s lineup post) {manner : Manner}
    (permits : plan.Permits later ⟨s, thread, now, .request (.await manner), turn⟩)
    (taken : s.step thread now (.request (.await manner)) = some turn) :
    ∃ lineup' post', plan.Leads origin later lineup post
      ⟨s, thread, now, .request (.await manner), turn⟩ lineup' post' := by
  obtain ⟨resting, rfl, home, start, once, -⟩ := permits.allowed
  obtain rfl : thread = plan.home := home
  obtain rfl : now = plan.start := start
  have empty : s.stack plan.home = [] := List.isEmpty_iff.mp resting
  have brief : (s.stack plan.home).isBrief = true := by
    rw [empty]
    rfl
  obtain ⟨idle, -⟩ := scene.of_brief brief
  obtain rfl : post = .before := by
    have none := scene.records.awaits.symm.trans once
    cases post <;> first | rfl | cases none
  obtain rfl : turn = s.requestAwait plan.home plan.start plan.manner := by
    have taken := Scheduler.attempt_of_step taken
    simp only [Scheduler.attempt, Scheduler.request, Scheduler.whileOwned] at taken
    split at taken
    · cases taken
    · split at taken
      · cases taken
      · exact (Option.some.inj taken).symm
  refine ⟨lineup, .replaying, ⟨scene.whole, scene.line.of_same rfl rfl rfl rfl, rfl, ?_, ?_, ?_⟩,
    rfl, fun _ far => absurd far (Nat.lt_irrefl 0), fun elsewhere => absurd rfl elsewhere,
    fun running current => by cases current.symm.trans scene.suits.2⟩
  · intro running current
    cases current.symm.trans scene.suits.2
  · exact scene.records.step rfl (by simp [Deed.fires?, Scheduler.deed, Scheduler.requestDeed])
      (by simp [Deed.executes?, Scheduler.deed, Scheduler.requestDeed]) rfl rfl (by simp)
  · refine scene.stands_step taken ⟨[.awaiting plan.start plan.manner .replaying], ?_, ?_⟩
      (fun _ _ => rfl) (.inr rfl)
    · rw [Scheduler.requestAwait, Scheduler.stack_turn_self, empty, idle]
      rfl
    · rw [if_pos rfl]
      rfl

variable {base : Stack ν} {signal : Signal ν} {events : List Event}

/-- A step of the await that leaves the tasks alone. -/
theorem Scene.pass (scene : plan.Scene origin later s lineup post)
    (apart : ∀ running, lineup.current = some running → running.thread ≠ plan.home)
    {deed : Deed} (done : s.deed plan.home now .proceed = deed) (still : deed.isStill = true)
    (drained : post'.drained = (deed.endsReplay || post.drained))
    {b : Barrier ν} (same : b = { s.barrier with draining := post'.draining })
    (taken : s.step plan.home now .proceed = some (s.turn b plan.home base signal events))
    (tame : signal.isTame = true) (begun : post'.awaits = post.awaits)
    (suits : plan.Suits origin.config lineup post') (stands : plan.IsAt post' base)
    (told : post' ≠ .answered ∨ signal = .answer .settled)
    (closer : plan.distance lineup post' < plan.distance lineup post ∨
      plan.distance lineup post' = plan.distance lineup post ∧ lineup.held = [] ∧ ¬ lineup.IsOver) :
    plan.Leads origin later lineup post
      ⟨s, plan.home, now, .proceed, s.turn b plan.home base signal events⟩ lineup post' := by
  subst same
  refine ⟨⟨scene.whole, scene.line.of_same rfl rfl rfl rfl, rfl, suits, ?_, ?_⟩, tame,
    fun _ _ => closer, fun elsewhere => absurd rfl elsewhere,
    fun running current own => absurd own (apart running current)⟩
  · exact scene.records.still done still begun drained fun answered =>
      .inr ⟨rfl, told.resolve_left (not_not_intro answered)⟩
  · refine scene.stands_step taken ⟨base, ?_, ?_⟩ (fun _ _ => rfl) (.inr rfl)
    · rw [Lineup.frames_of_ne apart]
      exact Scheduler.stack_turn_self ..
    · rw [if_pos rfl]
      exact stands

/-- **The await replays a held task**, or comes to the end of the hold queue. -/
theorem Scene.replay (scene : plan.Scene origin later s lineup .replaying) (sound : s.Sound)
    (idle : lineup.current = none) {deadline : Instant}
    (affords : plan.start.after? origin.config.awaitBudget = some deadline)
    (top : s.stack plan.home = [.awaiting plan.start plan.manner .replaying])
    (taken : s.step plan.home now .proceed = some turn) :
    ∃ lineup' post', plan.Leads origin later lineup .replaying
      ⟨s, plan.home, now, .proceed, turn⟩ lineup' post' := by
  have apart : ∀ running, lineup.current = some running → running.thread ≠ plan.home :=
    fun running current => by cases current.symm.trans idle
  have done : s.deed plan.home now .proceed = .replay s.barrier.popHeld.answer := by
    simp [Scheduler.deed, Scheduler.frameDeed, top]
  obtain rfl : turn = s.proceedReplaying plan.home now plan.start plan.manner [] := by
    simpa [Scheduler.attempt, Scheduler.proceed, top] using (Scheduler.attempt_of_step taken).symm
  cases answer : s.barrier.popHeld.answer with
  | skipped => exact absurd answer sound.answer_popHeld_ne
  | done =>
      obtain ⟨empty, same⟩ := Scheduler.popHeld_of_done answer
      have eq : s.proceedReplaying plan.home now plan.start plan.manner [] =
          s.turn s.barrier plan.home [.awaiting plan.start plan.manner (.waiting deadline now)]
            .working s.barrier.popHeld.events := by
        rw [← scene.line.config] at affords
        simp [Scheduler.proceedReplaying, answer, affords, same]
      rw [eq] at taken ⊢
      have unheld : lineup.held = [] := scene.line.held.symm.trans empty
      refine ⟨lineup, .waiting deadline now, scene.pass apart (done.trans (by rw [answer])) rfl rfl
        ?_ taken rfl rfl ⟨unheld, apart, affords⟩ rfl (.inl (by simp)) (.inl ?_)⟩
      · rw [Post.draining, ← show s.barrier.draining = true from scene.draining]
      · simp only [distance]
        omega
  | run id =>
      obtain ⟨task, rest, held, -⟩ := Barrier.popHeld_of_run answer
      obtain ⟨ran, _, _, ahead⟩ := lineup
      obtain rfl := idle
      obtain rfl := scene.line.held.symm.trans held
      have line : origin.InLine plan.values ⟨ran, some ⟨id, .starting true, plan.home⟩, rest, ahead⟩
          s.barrier.popHeld.barrier := scene.line.replay answer
      have stays := s.barrier.stays_popHeld
      have eq : s.proceedReplaying plan.home now plan.start plan.manner [] =
          s.turn s.barrier.popHeld.barrier plan.home
            [.run id (.starting true), .awaiting plan.start plan.manner .replaying]
            .working s.barrier.popHeld.events := by
        simp [Scheduler.proceedReplaying, answer]
      rw [eq] at taken ⊢
      refine ⟨⟨ran, some ⟨id, .starting true, plan.home⟩, rest, ahead⟩, .replaying,
        ⟨?_, line, stays.draining.trans scene.draining, ?_, ?_, ?_⟩, rfl, fun _ _ => .inl ?_,
        fun elsewhere => absurd rfl elsewhere, by simp⟩
      · rw [← scene.whole]
        simp [Lineup.whole, Lineup.fired]
      · rintro running ⟨⟩
        rfl
      · refine scene.records.step (done.trans (by rw [answer])) ?_ ?_ rfl rfl (by simp)
        · simp [Lineup.fired, Deed.fires?]
        · simp [Lineup.executed, Deed.executes?]
      · refine scene.stands_step taken ⟨[.awaiting plan.start plan.manner .replaying], ?_, ?_⟩
          (fun other ne => ?_) (.inr rfl)
        · simp [Lineup.frames]
        · rw [if_pos rfl]
          rfl
        · simp [Lineup.frames, Ne.symm ne]
      · simp only [distance, Lineup.stepsLeft, List.length_cons, Option.map_some, Option.map_none,
          Option.getD_some, Option.getD_none, RunStage.stepsLeft]
        omega

/-- **The await looks whether it has come to its end.** -/
theorem Scene.look {deadline wake : Instant}
    (scene : plan.Scene origin later s lineup (.waiting deadline wake)) (sound : s.Sound)
    (permits : plan.Permits later ⟨s, plan.home, now, .proceed, turn⟩)
    (top : s.stack plan.home = [.awaiting plan.start plan.manner (.waiting deadline wake)])
    (taken : s.step plan.home now .proceed = some turn) :
    ∃ lineup' post', plan.Leads origin later lineup (.waiting deadline wake)
      ⟨s, plan.home, now, .proceed, turn⟩ lineup' post' := by
  obtain ⟨unheld, apart, affords⟩ := scene.suits
  have ends := scene.line.outstanding_eq_zero_iff sound.coherent
  obtain rfl : turn = s.proceedWaiting plan.home now plan.start plan.manner deadline [] := by
    simpa [Scheduler.attempt, Scheduler.proceed, top] using (Scheduler.attempt_of_step taken).symm
  have done : s.deed plan.home now .proceed =
      s.frameDeed now [.awaiting plan.start plan.manner (.waiting deadline wake)] := by
    rw [← top]
    rfl
  by_cases settled : s.barrier.outstanding = 0
  · have eq : s.proceedWaiting plan.home now plan.start plan.manner deadline [] =
        s.turn s.barrier.reset plan.home (.dropping [] :: plan.manner.succeeding) .working [] := by
      simp [Scheduler.proceedWaiting, Barrier.check, settled, sound.dropped_of_outstanding settled]
    rw [eq] at taken ⊢
    have done : s.deed plan.home now .proceed = .reset .settled s.barrier.dropped := by
      simp [done, Scheduler.frameDeed, Barrier.check, settled]
    have closer : plan.distance lineup (.leaving (.dropping [] :: plan.manner.succeeding)) <
        plan.distance lineup (.waiting deadline wake) := by
      simp [distance, stepsOut, Stack.stepsOut]
    exact ⟨lineup, .leaving (.dropping [] :: plan.manner.succeeding),
      scene.pass apart done rfl rfl (sound.reset_eq settled) taken rfl rfl
        ⟨ends.mp settled, plan.manner.isWayOut⟩ rfl (.inl (by simp)) (.inl closer)⟩
  · have early : now.reached deadline = false := by
      by_contra reached
      refine settled (ends.mpr (scene.line.isOver_of_phases ?_))
      rw [scene.whole]
      exact permits.inTime rfl deadline (scene.line.config ▸ affords) scene.records.drained
        (by simpa using reached)
    obtain ⟨wake', eq⟩ : ∃ wake',
        s.proceedWaiting plan.home now plan.start plan.manner deadline [] =
          s.turn s.barrier plan.home [.awaiting plan.start plan.manner (.waiting deadline wake')]
            .working [] := by
      simp only [Scheduler.proceedWaiting, Barrier.check, settled, early, if_false]
      exact ⟨_, rfl⟩
    rw [eq] at taken ⊢
    have done : s.deed plan.home now .proceed = .aside := by
      simp [done, Scheduler.frameDeed, Barrier.check, settled, early]
    have unfinished : ¬ lineup.IsOver := fun finished => settled (ends.mpr finished)
    refine ⟨lineup, .waiting deadline wake', scene.pass apart done rfl rfl ?_ taken rfl rfl
      ⟨unheld, apart, affords⟩ rfl (.inl (by simp)) (.inr ⟨rfl, unheld, unfinished⟩)⟩
    rw [Post.draining, ← show s.barrier.draining = true from scene.draining]

/-- **The await that has succeeded is on its way out**, which leads through a second reset where its
thread is unwinding. -/
theorem Scene.leave {left : Stack ν} (scene : plan.Scene origin later s lineup (.leaving left))
    (sound : s.Sound) (top : s.stack plan.home = left)
    (taken : s.step plan.home now .proceed = some turn) :
    ∃ lineup' post', plan.Leads origin later lineup (.leaving left)
      ⟨s, plan.home, now, .proceed, turn⟩ lineup' post' := by
  have taken' := Scheduler.attempt_of_step taken
  simp only [Scheduler.attempt, Scheduler.proceed, top] at taken'
  obtain ⟨finished, out⟩ := scene.suits
  have apart : ∀ running, lineup.current = some running → running.thread ≠ plan.home :=
    fun running current => by cases current.symm.trans finished.current
  have same : s.barrier = { s.barrier with draining := false } := by
    rw [← show s.barrier.draining = false from scene.draining]
  have done : s.deed plan.home now .proceed = s.frameDeed now left := by
    rw [← top]
    rfl
  rcases Stack.isWayOut_cases out with (rfl | rfl) | ⟨rest, leads, rfl | rfl | rfl | rfl⟩
  · obtain rfl := Option.some.inj taken'
    exact ⟨lineup, .answered, scene.pass apart done rfl rfl same taken rfl rfl finished rfl
      (.inr rfl) (.inl Nat.one_pos)⟩
  · obtain rfl := Option.some.inj taken'
    exact ⟨lineup, .answered, scene.pass apart done rfl rfl same taken rfl rfl finished rfl
      (.inr rfl) (.inl Nat.one_pos)⟩
  · obtain rfl := Option.some.inj taken'
    exact ⟨lineup, .leaving (.discarding [] :: rest), scene.pass apart done rfl rfl same taken rfl
      rfl ⟨finished, leads⟩ rfl (.inl (by simp)) (.inl (Nat.lt_succ_self _))⟩
  · obtain rfl := Option.some.inj taken'
    exact ⟨lineup, .leaving rest, scene.pass apart done rfl rfl same taken rfl rfl
      ⟨finished, leads⟩ rfl (.inl (by simp)) (.inl (Nat.lt_succ_self _))⟩
  · obtain rfl := Option.some.inj taken'
    exact ⟨lineup, .leaving rest, scene.pass apart done rfl rfl same taken
      (s.tame_proceedSettling plan.home rest) rfl
      ⟨finished, leads⟩ rfl (.inl (by simp)) (.inl (Nat.lt_succ_self _))⟩
  · obtain rfl := Option.some.inj taken'
    have settled := (scene.line.outstanding_eq_zero_iff sound.coherent).mpr finished
    have eq : s.proceedGuarding plan.home rest =
        s.turn s.barrier.reset plan.home (.dropping [] :: rest) .working [] := by
      simp [Scheduler.proceedGuarding, sound.dropped_of_outstanding settled]
    rw [eq] at taken ⊢
    exact ⟨lineup, .leaving (.dropping [] :: rest), scene.pass apart done rfl rfl
      (sound.reset_eq settled) taken rfl rfl ⟨finished, leads⟩ rfl (.inl (by simp))
      (.inl (Nat.lt_succ_self _))⟩

end Home

/-- A step of a thread with next to nothing left to do. -/
theorem Scene.step_of_brief (scene : plan.Scene origin later s lineup post)
    (permits : plan.Permits later ⟨s, thread, now, move, turn⟩)
    (taken : s.step thread now move = some turn) (brief : (s.stack thread).isBrief = true) :
    ∃ lineup' post',
      plan.Leads origin later lineup post ⟨s, thread, now, move, turn⟩ lineup' post' := by
  cases top : s.stack thread with
  | nil =>
      cases move with
      | request request =>
          have allowed := permits.allowed
          cases request with
          | fire key =>
              obtain ⟨aside, quick⟩ := Scheduler.quick_of_request top (.inl ⟨key, rfl⟩) taken
              exact ⟨_, _, scene.quick taken quick brief (by rw [aside]; rfl)⟩
          | call id =>
              obtain ⟨aside, quick⟩ := Scheduler.quick_of_request top (.inr ⟨id, rfl⟩) taken
              exact ⟨_, _, scene.quick taken quick brief (by rw [aside]; rfl)⟩
          | await manner => exact scene.await permits taken
          | _ => exact allowed.elim
      | endBody how =>
          exact absurd (Scheduler.attempt_of_step taken)
            (by simp [Scheduler.attempt, Scheduler.endBody, top])
      | proceed =>
          exact absurd (Scheduler.attempt_of_step taken)
            (by simp [Scheduler.attempt, Scheduler.proceed, top])
      | work => exact ⟨_, _, scene.quick taken (Scheduler.quick_of_work taken) brief rfl⟩
  | cons frame rest =>
      rw [top] at brief
      cases frame with
      | deciding id => exact scene.decide permits taken top (by rw [top]; exact brief)
      | answering answer =>
          obtain rfl := Scheduler.eq_proceed taken (by rw [top]; rfl)
          obtain rfl : turn = s.turn s.barrier thread rest (.answer answer) [] := by
            simpa [Scheduler.attempt, Scheduler.proceed, top]
              using (Scheduler.attempt_of_step taken).symm
          have quick := s.quick_of_answering thread brief
          have aside : s.deed thread now .proceed = .aside := by
            simp [Scheduler.deed, Scheduler.frameDeed, top]
          exact ⟨_, _, scene.quick taken quick (by rw [top]; exact brief) (by rw [aside]; rfl)⟩
      | _ => cases brief

/-- **Every step that the plan permits leads to a state in the middle of the plan.** -/
theorem Scene.step (scene : plan.Scene origin later s lineup post) (sound : s.Sound)
    (permits : plan.Permits later ⟨s, thread, now, move, turn⟩) {deadline : Instant}
    (affords : plan.start.after? origin.config.awaitBudget = some deadline)
    (taken : s.step thread now move = some turn) :
    ∃ lineup' post',
      plan.Leads origin later lineup post ⟨s, thread, now, move, turn⟩ lineup' post' := by
  rcases scene.cases thread with brief | ⟨id, stage, base, current, top⟩ |
    ⟨rfl, idle, begun, unfinished, stands⟩
  · exact scene.step_of_brief permits taken brief
  · exact scene.run sound permits taken current top
  · have busy : Stack.isUser (s.stack plan.home) = false := by
      cases post with
      | before => exact absurd rfl begun
      | answered => exact absurd rfl unfinished
      | leaving =>
          rw [show s.stack plan.home = _ from stands]
          exact (Stack.of_isWayOut scene.suits.2).1
      | replaying | waiting =>
          rw [show s.stack plan.home = _ from stands]
          rfl
    obtain rfl := Scheduler.eq_proceed taken busy
    cases post with
    | before => exact absurd rfl begun
    | answered => exact absurd rfl unfinished
    | replaying =>
        refine scene.replay sound ?_ affords stands taken
        cases current : lineup.current with
        | none => rfl
        | some running =>
            simp [Lineup.frames, current, scene.suits running current] at idle
    | waiting deadline wake => exact scene.look sound permits stands taken
    | leaving left => exact scene.leave sound stands taken

end

end Plan

end TaskBarrier
