import TaskBarrier.Proofs.Station

/-!
# An await can always come to its end

Nothing but user code keeps the thread of an await from making its next step: a body that it
replays, or the destructor of a refused body, while some thread holds the lock.  Each of those steps
brings the call nearer to its end, except a look before the deadline: a replay takes a task out of
the hold queue, and every later step has one thing less to do.  So a call whose bodies return, and
whose clock goes on, comes to its end.

## Main Definitions

* `Await.guardSteps`, `Await.exitSteps`, `Await.stepsLeft`: the number of steps that a call has left
  at most.

The main statements are `Await.Next.stepsLeft_lt`, that each step brings the call nearer, and
`Await.completes`.
-/

namespace TaskBarrier

variable {ν : Type}

/-! ## Sizes -/

namespace Barrier

variable {b : Barrier ν}

/-- A reset drops no more tasks than there are. -/
theorem length_dropped_le (b : Barrier ν) : b.dropped.length ≤ b.tasks.length := by
  rw [dropped, List.length_map]
  exact List.length_filter_le _ _

@[simp] theorem length_tasks_modify (b : Barrier ν) (id : TaskId) (change : Task ν → Task ν) :
    (b.modify id change).tasks.length = b.tasks.length := List.length_map _

@[simp] theorem length_tasks_reset (b : Barrier ν) : b.reset.tasks.length = b.tasks.length :=
  List.length_map _

@[simp] theorem length_tasks_uncount (b : Barrier ν) (id : TaskId) :
    (b.uncount id).tasks.length = b.tasks.length := by
  unfold uncount
  split
  · split
    · exact b.length_tasks_modify id _
    · rfl
  · rfl

@[simp] theorem length_tasks_finish (b : Barrier ν) (id : TaskId) :
    (b.finish id).barrier.tasks.length = b.tasks.length := by
  unfold finish
  dsimp only
  split <;> simp

end Barrier

namespace Await

/-! ## A measure -/

/-- How many steps the guard of a call costs at most, among the given number of tasks: none if it
does not look.  What it drops has to be thrown away. -/
def guardSteps (looks : Bool) (tasks : Nat) : Nat := if looks then tasks + 4 else 0

/-- How many steps a call has left at most that has come to its outcome, if its guard costs the
given number. -/
def exitSteps (guard : Nat) : Outcome → Exit → Nat
  | _, .last | .unwound _, .whole => 1
  | _, .guard => guard
  | _, .whole => guard + 1

/-- **How many steps a call has left at most**, not counting those of the calls that a replayed body
makes, and counting one look. -/
def stepsLeft (looks : Bool) (b : Barrier ν) : Station ν → Nat
  | .ending outcome exit => exitSteps (guardSteps looks b.tasks.length) outcome exit
  | .discarding tasks outcome exit =>
      tasks.length + 1 + exitSteps (guardSteps looks b.tasks.length) outcome exit
  | .dropping tasks outcome exit =>
      tasks.length + 2 + exitSteps (guardSteps looks b.tasks.length) outcome exit
  | .waiting _ _ => b.tasks.length + 4 + guardSteps looks b.tasks.length
  | .replaying none => replaySteps b 5
  | .burying tasks none => replaySteps b 6 + tasks.length
  | .finishing _ none => replaySteps b 8
  | .executing _ _ => replaySteps b 9
  | .starting _ => replaySteps b 10
  -- A panic is on its way, and nothing more is replayed.
  | .replaying (some _) => b.tasks.length + 4
  | .burying tasks (some _) => b.tasks.length + 5 + tasks.length
  | .finishing _ (some _) => b.tasks.length + 7
where
  /-- Each held task costs six steps. -/
  replaySteps (b : Barrier ν) (more : Nat) : Nat :=
    b.tasks.length + more + guardSteps looks b.tasks.length + 6 * b.held.length

/-- What is left of a call that may be over. -/
def stepsLeft? (looks : Bool) (b : Barrier ν) : Option (Station ν) → Nat
  | some station => stepsLeft looks b station
  | none => 0

variable {looks : Bool} {await : Await ν} {s s' : Scheduler ν} {now : Instant} {b b' : Barrier ν}
  {station : Station ν} {move : Move ν} {deed : Deed}

/-- **Each step brings the call nearer to its end**, unless it belongs to a call that a replayed
body makes, or is a look before the deadline. -/
theorem Next.stepsLeft_lt {after : Option (Station ν)}
    (next : await.Next now b station move deed b' after)
    (covers : deed.isGuarded = true → looks = true) :
    stepsLeft? looks b' after < stepsLeft looks b station ∨
      (∃ inner task, station = .executing inner task ∧
        (inner ≠ [] ∨ ∃ request, move = .request request)) ∨
      ∃ deadline wake wake', station = .waiting deadline wake ∧
        after = some (.waiting deadline wake') ∧ now.nanos < deadline.nanos ∧
        0 < b.outstanding := by
  cases next with
  | @replay task answer =>
      obtain ⟨_, rest, held, -, -, eq⟩ := Barrier.popHeld_of_run answer
      refine .inl ?_
      simp only [stepsLeft?, stepsLeft, stepsLeft.replaySteps, eq, held, List.length_cons,
        Barrier.held_modify, Barrier.length_tasks_modify]
      omega
  | drained | overflow | panicked =>
      refine .inl ?_
      simp only [stepsLeft?, stepsLeft, stepsLeft.replaySteps, Barrier.leaveBody,
        Barrier.length_tasks_modify]
      omega
  | unwind | settle | expire =>
      have dropped := b.length_dropped_le
      refine .inl ?_
      simp only [stepsLeft?, stepsLeft, exitSteps, Barrier.length_tasks_reset]
      omega
  | call => exact .inr (.inl ⟨_, _, rfl, .inr ⟨_, rfl⟩⟩)
  | inner calls => exact .inr (.inl ⟨_, _, rfl, .inl calls⟩)
  | look outstanding early => exact .inr (.inr ⟨_, _, _, rfl, rfl, early, outstanding⟩)
  | @finish task panic | @doomed task panic =>
      refine .inl ?_
      cases panic <;> simp [stepsLeft?, stepsLeft, stepsLeft.replaySteps] <;> omega
  | @bury _ _ panic | @buried panic =>
      refine .inl ?_
      cases panic <;> simp [stepsLeft?, stepsLeft, stepsLeft.replaySteps]
  | log => exact .inl (Nat.lt_succ_self _)
  | guard next =>
      obtain rfl := covers rfl
      have dropped := b.length_dropped_le
      refine .inl ?_
      rcases next with rfl | ⟨rfl, -, _, _, rfl⟩ <;>
        (simp only [stepsLeft?, stepsLeft, exitSteps, guardSteps, if_true]; omega)
  | @answer outcome exit exits =>
      refine .inl ?_
      rcases exits with rfl | ⟨rfl, -⟩ <;> cases outcome <;> exact Nat.succ_pos _
  | _ => exact .inl (by simp [stepsLeft?, stepsLeft, stepsLeft.replaySteps, Barrier.leaveBody])

/-! ## The end -/

/-- On its way out a call refuses no task. -/
theorem isRefusing_exit (await : Await ν) (outcome : Outcome) (exit : Exit) :
    Stack.isRefusing (await.exit outcome exit ++ await.base) = false := by
  have verdict (rest : Stack ν) : Stack.isRefusing (await.verdict outcome :: rest) = false := by
    unfold Await.verdict
    split
    · rfl
    · dsimp only
      split <;> rfl
    · rfl
  cases exit with
  | guard => rfl
  | last => exact verdict _
  | whole =>
      cases outcome with
      | settled =>
          simp only [Await.exit, Manner.succeeding]
          split <;> rfl
      | timedOut =>
          simp only [Await.exit, Manner.failing]
          split
          · rfl
          · exact verdict _
      | unwound => rfl

/-- A call refuses no task, unless a body that it replays does. -/
theorem isRefusing_frames (await : Await ν)
    (free : ∀ inner task, station = .executing inner task → inner = []) :
    Stack.isRefusing (await.frames station) = false := by
  cases station with
  | replaying panic => cases panic <;> rfl
  | executing inner task =>
      rw [free inner task rfl]
      rfl
  | ending outcome exit => exact await.isRefusing_exit outcome exit
  | _ => rfl

/-- A body has made no calls unless it makes one, or has made one before. -/
theorem Next.of_executing {inner : Stack ν} {task : TaskId}
    (next : await.Next now b station move deed b' (some (.executing inner task))) :
    inner = [] ∨ (∃ request, move = .request request) ∨
      ∃ before, station = .executing before task ∧ before ≠ [] := by
  cases next with
  | enter => exact .inl rfl
  | call => exact .inr (.inl ⟨_, rfl⟩)
  | inner calls => exact .inr (.inr ⟨_, rfl, calls⟩)

/-- An await that waits has begun to wait for the deadline that its budget leads to. -/
theorem Next.of_waiting {deadline wake : Instant}
    (next : await.Next now b station move deed b' (some (.waiting deadline wake))) :
    await.start.after? b.config.awaitBudget = some deadline ∨
      ∃ wake', station = .waiting deadline wake' := by
  cases next with
  | drained _ affords => exact .inl affords
  | look => exact .inr ⟨_, rfl⟩

/-- A replayed body without calls in progress can end, in whatever way. -/
theorem step_endBody {task : TaskId}
    (stands : s.stack await.thread = await.frames (.executing [] task)) (now : Instant)
    (how : BodyEnd ν) :
    ∃ turn after, s.step await.thread now (.endBody how) = some turn ∧
      await.Leads s now (.executing [] task) (.endBody how)
        (s.deed await.thread now (.endBody how)) turn after := by
  have top : s.stack await.thread = .run task .executing :: await.replay none := stands
  obtain ⟨turn, taken⟩ : ∃ turn, s.step await.thread now (.endBody how) = some turn := by
    rw [Scheduler.step_of_lockless rfl]
    simp only [Scheduler.attempt, Scheduler.endBody, top]
    exact ⟨_, rfl⟩
  obtain ⟨after, next, eq⟩ := next_of_isUser stands taken
  exact ⟨turn, some after, taken, leads_on next eq⟩

/-- What the thread of a call does to come to its end: it makes no calls, and its bodies return. -/
def Finishes (await : Await ν) (stride : Stride ν) : Prop :=
  stride.thread = await.thread ∧ (stride.move = .proceed ∨ stride.move = .endBody (.returned none))

/-- A call can always make a step that brings it nearer to its end, as soon as the clock shows its
deadline, unless somebody holds the lock. -/
theorem exists_nearer (sound : s.Sound) (called : await.Called s) (unlocked : s.lock = none)
    (stands : s.stack await.thread = await.frames station)
    (free : ∀ inner task, station = .executing inner task → inner = [])
    (late : ∀ deadline wake, station = .waiting deadline wake → deadline.nanos ≤ now.nanos) :
    ∃ move turn after, s.step await.thread now move = some turn ∧
      await.Leads s now station move (s.deed await.thread now move) turn after ∧
      (move = .proceed ∨ move = .endBody (.returned none)) ∧
      stepsLeft? true turn.scheduler.barrier after < stepsLeft true s.barrier station := by
  cases user : station.isUser with
  | true =>
      obtain ⟨task, rfl⟩ : ∃ task, station = .executing [] task := by
        cases station with
        | executing inner task => exact ⟨task, by rw [free inner task rfl]⟩
        | _ => cases user
      obtain ⟨turn, after, taken, leads⟩ := step_endBody stands now (.returned none)
      refine ⟨_, turn, after, taken, leads, .inr rfl, ?_⟩
      rcases leads.next.stepsLeft_lt (fun _ => rfl) with
        nearer | ⟨inner, other, eq, calls⟩ | ⟨_, _, _, eq, -⟩
      · exact nearer
      · obtain ⟨rfl, rfl⟩ := Station.executing.inj eq
        rcases calls with calls | ⟨request, eq⟩
        · exact absurd rfl calls
        · cases eq
      · cases eq
  | false =>
      obtain ⟨turn, after, attempted, leads⟩ := proceeds sound called stands user now
      rw [← Scheduler.step_of_free unlocked] at attempted
      refine ⟨_, turn, after, attempted, leads, .inl rfl, ?_⟩
      rcases leads.next.stepsLeft_lt (fun _ => rfl) with nearer | ⟨inner, task, rfl, -⟩ |
        ⟨deadline, wake, _, rfl, -, early, -⟩
      · exact nearer
      · cases user
      · exact absurd early (Nat.not_lt.mpr (late deadline wake rfl))

/-- **A call can come to its end** without any other thread, as soon as the clock shows its
deadline, unless somebody holds the lock or a replayed body has calls in progress itself. -/
theorem completes (sound : s.Sound) (called : await.Called s) (unlocked : s.lock = none)
    (stands : s.stack await.thread = await.frames station)
    (free : ∀ inner task, station = .executing inner task → inner = [])
    (affords : ∀ deadline, await.start.after? s.barrier.config.awaitBudget = some deadline →
      deadline.nanos ≤ now.nanos)
    (late : ∀ deadline wake, station = .waiting deadline wake → deadline.nanos ≤ now.nanos) :
    ∃ (last : Stride ν) (later : History ν) (s' : Scheduler ν), Path s (last :: later) s' ∧
      (∀ stride ∈ last :: later, await.Finishes stride) ∧
      last.turn.scheduler.stack await.thread = await.base ∧ await.Lasts later := by
  induction measure : stepsLeft true s.barrier station using Nat.strongRecOn
    generalizing s station with
  | _ bound ih =>
      obtain ⟨move, turn, after, taken, leads, finishes, nearer⟩ :=
        exists_nearer sound called unlocked stands free late
      have unlocked' : turn.scheduler.lock = none :=
        Scheduler.lock_of_free unlocked taken fun _ _ _ asks => by
          rcases finishes with eq | eq <;> cases asks.symm.trans eq
      have follows := Scheduler.follows_of_step taken
      have step : Path s [⟨s, await.thread, now, move, turn⟩] turn.scheduler := .step .start taken
      cases after with
      | none =>
          exact ⟨_, [], _, step, List.forall_mem_singleton.mpr ⟨rfl, finishes⟩, leads.stack,
            List.forall_mem_nil _⟩
      | some station' =>
          have free' : ∀ inner task, station' = .executing inner task → inner = [] := by
            rintro inner task rfl
            rcases leads.next.of_executing with none | ⟨request, rfl⟩ | ⟨before, eq, calls⟩
            · exact none
            · rcases finishes with eq | eq <;> cases eq
            · exact absurd (free before task eq) calls
          have late' : ∀ deadline wake, station' = .waiting deadline wake →
              deadline.nanos ≤ now.nanos := by
            rintro deadline wake rfl
            rcases leads.next.of_waiting with begins | ⟨wake', waits⟩
            · exact affords deadline begins
            · exact late deadline wake' waits
          obtain ⟨last, later, s', path, own, home, lasting⟩ :=
            ih _ (measure ▸ nearer) (sound.step follows) (called.of_path step) unlocked' leads.stack
              free' (by rwa [follows.transition.config]) late' rfl
          have stays : turn.scheduler.stack await.thread ≠ await.base := by
            rw [leads.stack]
            exact await.frames_ne station'
          have whole : Path s (last :: (later ++ [⟨s, await.thread, now, move, turn⟩])) s' :=
            step.append path
          have all : ∀ stride ∈ (last :: later) ++ [⟨s, await.thread, now, move, turn⟩],
              await.Finishes stride :=
            List.forall_mem_append.mpr ⟨own, List.forall_mem_singleton.mpr ⟨rfl, finishes⟩⟩
          exact ⟨last, _, s', whole, all, home,
            List.forall_mem_append.mpr ⟨lasting, List.forall_mem_singleton.mpr fun _ => stays⟩⟩

end Await

end TaskBarrier
