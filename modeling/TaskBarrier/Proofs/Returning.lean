import TaskBarrier.Proofs.Completion
import TaskBarrier.Proofs.Guarantee
import TaskBarrier.Proofs.Moment

/-!
# How an await returns

An await that no panic of a body leaves returns in one of two ways: nothing was outstanding, or its
budget was used up.  This module says so of all runs, and what the call has done to tasks by then.

There are two exceptions.  The deadline of an await is computed only when the hold queue is empty,
and nobody has looked at the budget before.  If no clock can show the deadline then the await is
left by a panic of its own, also when nothing is outstanding, and its reset drops tasks.  And on a
thread that was unwinding when the await was called, the guard of the call resets the barrier once
more before the call returns, which drops what has been accepted meanwhile, although the call
succeeds.

## Main Definitions

* `History.Calm`: no body panics on a thread.
* `Await.Spares`: a call has cancelled no task, unless its thread was unwinding.
* `Await.Reports`: what the caller of an await is told, and what is true then.
* `Await.Returning`: how an await goes on, and how it returns.
* `Await.Idles`: a call finds the barrier idle.

The main statements are `await_returns`, and `await_panics_beyond_last_instant`: it needs a deadline
that a clock can show.
-/

namespace TaskBarrier

variable {ν : Type}

/-- Whether a body ends with a panic. -/
def Move.panics : Move ν → Bool
  | .endBody (.panicked _) => true
  | _ => false

/-- No body that the thread executes panics. -/
def History.Calm (since : History ν) (thread : ThreadId) : Prop :=
  ∀ stride ∈ since, stride.thread = thread → stride.move.panics = false

/-- While nothing is outstanding, nothing is held. -/
theorem Scheduler.Sound.held_of_outstanding {s : Scheduler ν} (sound : s.Sound)
    (settled : s.barrier.outstanding = 0) : s.barrier.held = [] := by
  refine List.eq_nil_iff_forall_not_mem.mpr fun id member => ?_
  -- A held task would be counted.
  obtain ⟨task, found, held⟩ := Option.map_eq_some_iff.mp ((sound.mem_held id).mp member)
  obtain ⟨stage, -, fits⟩ := sound.fits_of_found found
  have counted := fits.counted (.inl held)
  rw [sound.isCounted_of_outstanding settled (Barrier.task?_mem found)] at counted
  cases counted

/-- All steps of a path are made with the same settings. -/
theorem Path.config_of_mem {origin s : Scheduler ν} {since : History ν}
    (path : Path origin since s) :
    ∀ stride ∈ since, stride.before.barrier.config = origin.barrier.config := by
  induction path with
  | start => exact List.forall_mem_nil _
  | step path _ ih => exact List.forall_mem_cons.mpr ⟨path.keeps.2.2, ih⟩

namespace Await

/-- The call has cancelled no task, unless it was made on an unwinding thread. -/
structure Spares (await : Await ν) (since : History ν) : Prop where
  /-- Its reset has seen that nothing was outstanding, has dropped nothing, and has left every phase
  as it was. -/
  own : ∀ reset ∈ since, await.ends reset = true →
    reset.before.barrier.outstanding = 0 ∧ reset.deed = .reset .settled [] ∧
      ∀ id, reset.turn.scheduler.barrier.phase? id = reset.before.barrier.phase? id
  /-- Its guard resets the barrier only if the thread was unwinding when the call was made. -/
  guarded : ∀ reset ∈ since, await.guards reset = true → await.manner.unwinding = true

/-- **What the caller is told**, and what is true then: the await has succeeded and has cancelled no
task, or its budget was used up with tasks outstanding.  Only where no clock can show the deadline,
the call is left by a panic, and only on an unwinding thread its guard resets the barrier again. -/
inductive Reports (await : Await ν) (config : Config) (since : History ν) (signal : Signal ν) :
    Prop
  | settled {deadline : Instant}
      (affords : await.start.after? config.awaitBudget = some deadline)
      (told : signal = .answer .settled) (spares : await.Spares since)
  | timedOut {deadline : Instant} {reset : Stride ν} {remaining : Nat}
      (affords : await.start.after? config.awaitBudget = some deadline)
      (told : signal = await.signal (.timedOut remaining config.awaitBudget))
      (member : reset ∈ since) (ends : await.ends reset = true)
      (outstanding : reset.before.barrier.outstanding = remaining) (some : 0 < remaining)
      (reached : deadline.nanos ≤ reset.now.nanos)
  | beyond (beyond : await.start.after? config.awaitBudget = none)
      (told : signal = .unwound .instantOverflow)

/-- How a call that has not returned gets on from its station.  A lock that somebody holds is given
back as soon as the destructor of a refused body comes to its end. -/
structure Advances (await : Await ν) (config : Config) (s : Scheduler ν) (station : Station ν) :
    Prop where
  stands : s.stack await.thread = await.frames station
  /-- Nothing but user code and the lock keeps the call from going on. -/
  proceeds : s.lock = none → station.isUser = false →
    ∀ now, ∃ turn, s.step await.thread now .proceed = some turn
  /-- The call can come to its end as soon as the lock is free and the clock shows the deadline,
  unless a replayed body has calls in progress itself. -/
  completes : (∀ inner task, station = .executing inner task → inner = []) → ∀ now : Instant,
    (∀ deadline, await.start.after? config.awaitBudget = some deadline →
      deadline.nanos ≤ now.nanos) →
    ∃ given middle, s.GivesBack given middle ∧
      ∃ (last : Stride ν) (later : History ν) (s' : Scheduler ν), Path middle (last :: later) s' ∧
        (∀ stride ∈ last :: later, await.Finishes stride) ∧
        last.turn.scheduler.stack await.thread = await.base ∧ await.Lasts later

/-- **How an await goes on, and how it returns**, if `s` is the state in which it was called, and
`turn` what the call has left behind. -/
structure Returning (await : Await ν) (s : Scheduler ν) (turn : Turn ν) : Prop where
  /-- Until it returns, the call gets on. -/
  advances : ∀ (since : History ν) (s' : Scheduler ν), Path turn.scheduler since s' →
    await.Lasts since → ∃ station, await.Advances s.barrier.config s' station
  /-- When it returns, and no body has panicked on the thread, it has succeeded, or its budget was
  used up, or no clock can show the deadline. -/
  reports : ∀ (since : History ν) (last : Stride ν) (s' : Scheduler ν),
    Path turn.scheduler (last :: since) s' → await.Lasts since → last.thread = await.thread →
    last.turn.scheduler.stack await.thread = await.base → since.Calm await.thread →
    await.Reports s.barrier.config since last.turn.signal
  /-- If nothing is outstanding, and no other thread does anything, then the await succeeds with its
  fifth step, or its ninth if its guard has to look, and every task is in the phase in which it
  was. -/
  idle : s.barrier.outstanding = 0 →
    (await.start.after? s.barrier.config.awaitBudget).isSome = true →
    ∀ times : List Instant, times.length = (if await.manner.unwinding then 9 else 5) →
      ∃ (last : Stride ν) (since : History ν) (s' : Scheduler ν),
        turn.scheduler.play (times.map fun now => (await.thread, now, .proceed)) =
          some (last :: since, s') ∧
        last.turn.signal = .answer .settled ∧ s'.stack await.thread = await.base ∧
        ∀ id, s'.barrier.phase? id = s.barrier.phase? id

section Returning

variable {await : Await ν} {earlier since : History ν} {s s' : Scheduler ν} {turn : Turn ν}

/-- The reset of a call that has succeeded has cancelled no task. -/
theorem EndedWith.spares (ended : await.EndedWith since .settled)
    (run : Run (since ++ earlier) s') : ∀ reset ∈ since, await.ends reset = true →
      reset.before.barrier.outstanding = 0 ∧ reset.deed = .reset .settled [] ∧
        ∀ id, reset.turn.scheduler.barrier.phase? id = reset.before.barrier.phase? id := by
  intro reset member ends
  obtain ⟨-, deed, barrier, saw⟩ := ended.of_ends member ends
  have settled : reset.before.barrier.outstanding = 0 := by
    cases saw with
    | settled _ _ settled => exact settled
  obtain ⟨after, before, rfl⟩ := List.append_of_mem member
  rw [List.append_assoc] at run
  have sound := run.stride.1.sound
  rw [sound.dropped_of_outstanding settled] at deed
  rw [barrier]
  exact ⟨settled, deed, sound.phase?_reset settled⟩

/-- A call that no body has left by a panic has not been left by one, unless no clock can show the
deadline. -/
theorem Raised.of_calm {config : Config} {panic : Panic} (raised : await.Raised config since panic)
    (calm : since.Calm await.thread) :
    await.start.after? config.awaitBudget = none ∧ panic = .instantOverflow := by
  rcases raised with beyond | ⟨stride, member, own, panics⟩
  · exact beyond
  · have quiet := calm stride member own
    rw [panics] at quiet
    cases quiet

/-- **What is known of a call that is about to return is what its caller is told.** -/
theorem Progress.reports {config : Config} {outcome : Outcome}
    {exit : Exit} (progress : await.Progress config since (.ending outcome exit))
    (same : ∀ stride ∈ since, stride.before.barrier.config = config)
    (run : Run (since ++ earlier) s') (calm : since.Calm await.thread) :
    await.Reports config since (await.signal outcome) := by
  have ended := progress.ended outcome rfl
  obtain ⟨between, reset, before, eq, resets, -⟩ := id ended
  have member : reset ∈ since := by
    rw [eq]
    exact List.mem_append_right _ (.head _)
  have same := same reset member
  have ends := resets.ends
  cases resets.saw with
  | settled _ affords =>
      rw [same] at affords
      exact .settled affords rfl ⟨ended.spares run, progress.guarded⟩
  | timedOut _ affords outstanding reached =>
      rw [same] at affords ⊢
      exact .timedOut affords rfl member ends rfl outstanding reached
  | unwound =>
      obtain ⟨beyond, rfl⟩ := (progress.raised _ rfl).of_calm calm
      exact .beyond beyond rfl

/-- A call of which no other thread keeps the barrier: nobody holds the lock, and nothing is
outstanding. -/
structure Idles (await : Await ν) (s : Scheduler ν) (station : Station ν) : Prop where
  sound : s.Sound
  called : await.Called s
  stands : s.stack await.thread = await.frames station
  free : s.lock = none
  settled : s.barrier.outstanding = 0

/-- What comes next is known of a call whose station leaves no choice. -/
theorem Idles.proceeds_to {station : Station ν} (idles : await.Idles s station)
    (busy : station.isUser = false) (now : Instant) {b : Barrier ν} (station' : Station ν)
    (only : ∀ {deed : Deed} {b' : Barrier ν} {after : Option (Station ν)},
      await.Next now s.barrier station .proceed deed b' after → b' = b ∧ after = some station')
    (settled : b.outstanding = 0) :
    ∃ turn, s.step await.thread now .proceed = some turn ∧
      await.Idles turn.scheduler station' ∧ turn.scheduler.barrier = b := by
  obtain ⟨turn, after, attempted, leads⟩ :=
    proceeds idles.sound idles.called idles.stands busy now
  obtain ⟨barrier, rfl⟩ := only leads.next
  have taken := (Scheduler.step_of_free idles.free).trans attempted
  have free := Scheduler.lock_of_free idles.free taken nofun
  exact ⟨turn, taken, ⟨idles.sound.step (Scheduler.follows_of_step taken),
    idles.called.of_path (.step .start taken), leads.stack, free, barrier.symm ▸ settled⟩, barrier⟩

/-- A call that drops nothing is on its way out with its second step from there. -/
theorem Idles.leaves {outcome : Outcome} {exit : Exit}
    (idles : await.Idles s (.dropping [] outcome exit)) (announces ends : Instant) :
    ∃ later s', s.play [(await.thread, announces, .proceed), (await.thread, ends, .proceed)] =
      some (later, s') ∧ await.Idles s' (.ending outcome exit) ∧ s'.barrier = s.barrier := by
  obtain ⟨announced, took, idles', barrier⟩ :=
    idles.proceeds_to rfl announces (.discarding [] outcome exit) (by
      intro deed b' after next
      cases next with
      | announce => exact ⟨rfl, rfl⟩) idles.settled
  obtain ⟨discarded, took', idles, barrier'⟩ :=
    idles'.proceeds_to rfl ends (.ending outcome exit) (by
      intro deed b' after next
      cases next with
      | discarded => exact ⟨rfl, rfl⟩) idles'.settled
  have done : discarded.scheduler.play [] = some ([], discarded.scheduler) := rfl
  exact ⟨_, _, Scheduler.play_cons took (Scheduler.play_cons took' done), idles,
    barrier'.trans barrier⟩

/-- A call that has nothing to wait for is on its way out with its fourth step. -/
theorem Idles.expects (idles : await.Idles s (.replaying none))
    (affords : (await.start.after? s.barrier.config.awaitBudget).isSome = true)
    (drains looks announces ends : Instant) :
    ∃ later s', s.play ([drains, looks, announces, ends].map fun now =>
        (await.thread, now, .proceed)) = some (later, s') ∧
      await.Idles s' (.ending .settled .whole) ∧ s'.barrier = s.barrier.reset := by
  obtain ⟨deadline, affords⟩ := Option.isSome_iff_exists.mp affords
  have empty := idles.sound.held_of_outstanding idles.settled
  have nothing := idles.sound.dropped_of_outstanding idles.settled
  obtain ⟨drained, took, idles', barrier⟩ :=
    idles.proceeds_to rfl drains (.waiting deadline drains) (by
      intro deed b' after next
      cases next with
      | replay answer =>
          rw [Barrier.popHeld_of_nil empty] at answer
          cases answer
      | drained _ affords' =>
          obtain rfl := Option.some.inj (affords.symm.trans affords')
          exact ⟨rfl, rfl⟩
      | overflow _ beyond => cases affords.symm.trans beyond) idles.settled
  obtain ⟨looked, took', idles'', barrier'⟩ :=
    idles'.proceeds_to rfl looks (.dropping [] .settled .whole) (by
      intro deed b' after next
      have settled := idles'.settled
      cases next with
      | settle => exact ⟨rfl, by rw [barrier, nothing]⟩
      | look outstanding | expire outstanding => omega) (Barrier.outstanding_reset _)
  obtain ⟨later, s', left, idles, barrier''⟩ := idles''.leaves announces ends
  exact ⟨_, s', Scheduler.play_cons took (Scheduler.play_cons took' left), idles,
    by rw [barrier'', barrier', barrier]⟩

/-- The guard of a call that has succeeded resets the barrier again. -/
theorem Idles.looks (idles : await.Idles s (.ending .settled .whole))
    (unwinding : await.manner.unwinding = true) (logs guards announces ends : Instant) :
    ∃ later s', s.play ([logs, guards, announces, ends].map fun now =>
        (await.thread, now, .proceed)) = some (later, s') ∧
      await.Idles s' (.ending .settled .last) ∧ s'.barrier = s.barrier.reset := by
  have nothing := idles.sound.dropped_of_outstanding idles.settled
  obtain ⟨logged, took, idles', barrier⟩ :=
    idles.proceeds_to rfl logs (.ending .settled .guard) (by
      intro deed b' after next
      cases next with
      | log => exact ⟨rfl, rfl⟩
      | guard looks => rcases looks with eq | ⟨-, -, _, _, eq⟩ <;> cases eq
      | answer exits =>
          rcases exits with eq | ⟨-, panics⟩
          · cases eq
          · obtain ⟨_, eq⟩ := panics unwinding
            cases eq) idles.settled
  obtain ⟨looked, took', idles'', barrier'⟩ :=
    idles'.proceeds_to rfl guards (.dropping [] .settled .last) (by
      intro deed b' after next
      cases next with
      | guard => exact ⟨rfl, by rw [barrier, nothing]⟩
      | answer exits => rcases exits with eq | ⟨eq, -⟩ <;> cases eq) (Barrier.outstanding_reset _)
  obtain ⟨later, s', left, idles, barrier''⟩ := idles''.leaves announces ends
  exact ⟨_, s', Scheduler.play_cons took (Scheduler.play_cons took' left), idles,
    by rw [barrier'', barrier', barrier]⟩

/-- A call that has succeeded and has nothing more to do tells its caller with its next step. -/
theorem Idles.tells {exit : Exit} (idles : await.Idles s (.ending .settled exit))
    (last : exit = .last ∨ exit = .whole ∧ await.manner.unwinding = false) (now : Instant) :
    ∃ (stride : Stride ν) (s' : Scheduler ν),
      s.play [(await.thread, now, .proceed)] = some ([stride], s') ∧
        stride.turn.signal = .answer .settled ∧ s'.stack await.thread = await.base ∧
        s'.barrier = s.barrier := by
  obtain ⟨turn, after, attempted, next, stack, told⟩ :=
    proceeds idles.sound idles.called idles.stands rfl now
  have taken := (Scheduler.step_of_free idles.free).trans attempted
  obtain ⟨same, rfl⟩ : turn.scheduler.barrier = s.barrier ∧ after = none := by
    generalize turn.scheduler.barrier = b', s.deed await.thread now .proceed = deed at next
    cases next with
    | log unwinding =>
        rcases last with eq | ⟨-, calm⟩
        · cases eq
        · cases unwinding.symm.trans calm
    | guard looks =>
        rcases looks with rfl | ⟨-, -, _, _, eq⟩
        · rcases last with eq | ⟨eq, -⟩ <;> cases eq
        · cases eq
    | answer => exact ⟨rfl, rfl⟩
  have done : turn.scheduler.play [] = some ([], turn.scheduler) := rfl
  exact ⟨_, turn.scheduler, Scheduler.play_cons taken done, told rfl _ _ rfl, stack, same⟩

/-- **With nothing outstanding, an await succeeds**, if no other thread does anything meanwhile. -/
theorem Idles.settles (idles : await.Idles s (.replaying none))
    (affords : (await.start.after? s.barrier.config.awaitBudget).isSome = true)
    {times : List Instant} (enough : times.length = if await.manner.unwinding then 9 else 5) :
    ∃ (last : Stride ν) (since : History ν) (s' : Scheduler ν),
      s.play (times.map fun now => (await.thread, now, .proceed)) = some (last :: since, s') ∧
        last.turn.signal = .answer .settled ∧ s'.stack await.thread = await.base ∧
        ∀ id, s'.barrier.phase? id = s.barrier.phase? id := by
  cases unwinding : await.manner.unwinding with
  | false =>
      rw [unwinding] at enough
      match times, enough with
      | [drains, looks, announces, ends, returns], _ =>
      obtain ⟨later, middle, played, idles', barrier⟩ :=
        idles.expects affords drains looks announces ends
      obtain ⟨last, s', played', told, home, same⟩ :=
        idles'.tells (.inr ⟨rfl, unwinding⟩) returns
      refine ⟨last, later, s', Scheduler.play_append played played', told, home, fun id => ?_⟩
      rw [same, barrier, idles.sound.phase?_reset idles.settled]
  | true =>
      rw [unwinding] at enough
      match times, enough with
      | [drains, looks, announces, ends, logs, guards, announces', ends', returns], _ =>
      obtain ⟨later, middle, played, idles', barrier⟩ :=
        idles.expects affords drains looks announces ends
      obtain ⟨later', middle', played', idles'', barrier'⟩ :=
        idles'.looks unwinding logs guards announces' ends'
      obtain ⟨last, s', played'', told, home, same⟩ := idles''.tells (.inl rfl) returns
      refine ⟨last, later' ++ later, s',
        Scheduler.play_append (Scheduler.play_append played played') played'', told, home,
        fun id => ?_⟩
      rw [same, barrier', idles'.sound.phase?_reset idles'.settled, barrier,
        idles.sound.phase?_reset idles.settled]

end Returning

end Await

/-- **An await returns only as documented**, if a clock can show its deadline and its thread is not
unwinding.  It goes on until it returns, and can come to its end as soon as the clock shows the
deadline.  If no body has panicked on its thread, then it has succeeded and cancelled no task, or
its budget was used up.  With nothing outstanding it succeeds.  Where no clock can show the
deadline, it is left by a panic; and where its thread was unwinding when it was called, its guard
resets the barrier once more. -/
theorem await_returns {await : Await ν} {earlier : History ν} {s : Scheduler ν} {turn : Turn ν}
    (run : Run earlier s) (base : s.stack await.thread = await.base)
    (asked : s.step await.thread await.start (.request (.await await.manner)) = some turn) :
    await.Returning s turn := by
  obtain ⟨called, stands, begun⟩ := Await.of_request base asked
  have begins : Path s [⟨s, await.thread, await.start, _, turn⟩] turn.scheduler :=
    .step .start asked
  refine ⟨fun since s' path lasting => ?_, fun since last s' path lasting own home calm => ?_,
    fun settled affords times enough => ?_⟩
  · obtain ⟨station, stands, progress⟩ := Await.progress run base asked path lasting
    have whole := begins.append path
    have run := run.append whole
    have called := called.of_path whole
    refine ⟨station, stands, fun unlocked busy now => ?_, fun free now late => ?_⟩
    · obtain ⟨turn', -, attempted, -⟩ := Await.proceeds run.sound called stands busy now
      exact ⟨turn', (Scheduler.step_of_free unlocked).trans attempted⟩
    · obtain ⟨given, middle, gives⟩ := run.exists_givesBack
      -- The call has refused nothing itself, so it stands where it stood.
      have other : s'.lock ≠ some await.thread := by
        rw [Ne, run.lockAgrees await.thread, stands, await.isRefusing_frames free]
        exact Bool.false_ne_true
      have stands' := (gives.others await.thread other).trans stands
      have late' : ∀ deadline,
          await.start.after? middle.barrier.config.awaitBudget = some deadline →
            deadline.nanos ≤ now.nanos := by
        rwa [gives.barrier, whole.keeps.2.2]
      exact ⟨given, middle, gives, Await.completes (run.append gives.path).sound
        (called.of_path gives.path) gives.free stands' free late' fun deadline wake waits =>
          late deadline (progress.affords deadline wake waits)⟩
  · obtain ⟨outcome, exit, told, progress⟩ := Await.returns run base asked path lasting own home
    cases path with
    | step path taken =>
        rw [told]
        refine progress.reports (fun stride member => ?_) ((run.append begins).append path) calm
        rw [path.config_of_mem stride member, begins.keeps.2.2]
  · have idles : await.Idles turn.scheduler (.replaying none) :=
      ⟨(run.append begins).sound, called.of_path begins, stands,
        Scheduler.lock_of_takesLock asked rfl nofun, by rw [begun]; exact settled⟩
    obtain ⟨last, since, s', played, told, home, phases⟩ :=
      idles.settles (by rwa [begins.keeps.2.2]) enough
    refine ⟨last, since, s', played, told, home, fun id => ?_⟩
    rw [phases id, begun]
    rfl

/-- An await of the thread that accepted a task. -/
def promptAwait : Await Unit := ⟨0, ⟨0⟩, .plain, []⟩

/-- A task that fires too early is replayed, and the await returns with success. -/
theorem await_returns_of_replayed : ∃ (earlier since : History Unit) (last : Stride Unit)
    (s s' : Scheduler Unit) (turn : Turn Unit), Run earlier s ∧ s.barrier.outstanding = 1 ∧
      s.stack 0 = [] ∧ s.step 0 ⟨0⟩ (.request (.await .plain)) = some turn ∧
      Path turn.scheduler (last :: since) s' ∧ promptAwait.Lasts since ∧
      History.executions since ⟨0⟩ = 1 ∧ History.Calm since 0 ∧
      last.turn.signal = .answer .settled ∧
      promptAwait.Reports .default since last.turn.signal := by
  obtain ⟨earlier, since, last, s, s', turn, begun, asked, played, outstanding, base, config, busy,
      own, home, executed, calm, told⟩ :
      ∃ earlier since last s s' turn,
        (Scheduler.start 0 .default (.byHand .empty) none).play (replayedMoves.take 4) =
          some (earlier, s) ∧
        s.step 0 ⟨0⟩ (.request (.await .plain)) = some turn ∧
        turn.scheduler.play (replayedMoves.drop 5) = some (last :: since, s') ∧
        s.barrier.outstanding = 1 ∧ s.stack 0 = [] ∧ s.barrier.config = .default ∧
        since.all (fun stride => !(stride.turn.scheduler.stack 0).isEmpty) = true ∧
        last.thread = 0 ∧ last.turn.scheduler.stack 0 = [] ∧
        History.executions since ⟨0⟩ = 1 ∧ since.all (fun stride => !stride.move.panics) = true ∧
        last.turn.signal = .answer .settled :=
    ⟨_, _, _, _, _, _, rfl, rfl, rfl, rfl, rfl, rfl, rfl, rfl, rfl, rfl, rfl, rfl⟩
  have path := Path.of_play played
  have lasting : promptAwait.Lasts since := .of_base_nil rfl busy
  have calm : History.Calm since 0 := fun stride member _ =>
    Bool.not_inj (List.all_eq_true.mp calm stride member)
  have returning : promptAwait.Returning s turn := await_returns (.of_play begun) base asked
  have reports := returning.reports since last s' path lasting own home calm
  rw [config] at reports
  exact ⟨earlier, since, last, s, s', turn, .of_play begun, outstanding, base, asked, path, lasting,
    executed, calm, told, reports⟩

/-- **With a budget that leads beyond the last instant, an await panics** although nothing is
outstanding and no body is executed. -/
theorem await_panics_beyond_last_instant : ¬ ∀ (await : Await Unit) (earlier since : History Unit)
    (last : Stride Unit) (s s' : Scheduler Unit) (turn : Turn Unit), Run earlier s →
    s.stack await.thread = await.base →
    s.step await.thread await.start (.request (.await await.manner)) = some turn →
    Path turn.scheduler (last :: since) s' → await.Lasts since → last.thread = await.thread →
    last.turn.scheduler.stack await.thread = await.base → since.Calm await.thread →
    last.turn.signal = .answer .settled ∧ await.Spares since ∨
      ∃ remaining budget, last.turn.signal = await.signal (.timedOut remaining budget) := by
  intro returns
  obtain ⟨since, last, s', turn, asked, played, busy, own, home, calm, told⟩ :
      ∃ since last s' turn,
        (Scheduler.start 0 boundlessConfig (.byHand .empty) none).step 0 ⟨0⟩
          (.request (.await .plain)) = some turn ∧
        turn.scheduler.play (List.replicate 5 (0, ⟨0⟩, .proceed)) = some (last :: since, s') ∧
        since.all (fun stride => !(stride.turn.scheduler.stack 0).isEmpty) = true ∧
        last.thread = 0 ∧ last.turn.scheduler.stack 0 = [] ∧
        since.all (fun stride => !stride.move.panics) = true ∧
        last.turn.signal = .unwound .instantOverflow :=
    ⟨_, _, _, _, rfl, rfl, rfl, rfl, rfl, rfl, rfl⟩
  have calm : History.Calm since 0 := fun stride member _ =>
    Bool.not_inj (List.all_eq_true.mp calm stride member)
  rcases returns promptAwait [] since last _ s' turn ⟨0, _, _, _, .start⟩ rfl asked
    (.of_play played) (.of_base_nil rfl busy) own home calm with
    ⟨settled, -⟩ | ⟨remaining, budget, timedOut⟩
  · cases told.symm.trans settled
  · cases told.symm.trans timedOut

end TaskBarrier
