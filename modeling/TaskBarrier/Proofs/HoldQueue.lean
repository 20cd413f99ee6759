import TaskBarrier.Proofs.Awaiting

/-!
# The hold queue

The queue of held tasks stores numbers, while phases and slots are kept with the tasks; a firing, a
cancel, a replay and a reset each change two of the three.  `Sound` says that the queue lists the
held tasks.  This module adds in which *order* it lists them.

* **Along a run**, the queue is ordered by the firings that held its tasks.  A firing appends, and
  everything else takes out what it names and leaves the rest where it is.
* **Across replays**, tasks are therefore replayed in the order in which they fired, whichever
  awaits replay them, and a thread executes their bodies in that order.
* **Across cancels**, what has not been taken out is still there, in the order it had.

### The moment of a firing

The moment at which a task was held is the number of steps up to the latest firing that held it.
A periodic task can be held many times; while it is in the queue, the latest is the one that counts.

## Main Definitions

* `Deed.takes`: whether a deed takes a task out of the hold queue.
* `History.heldAt`: the moment at which a task was held.
* `Stride.replays`, `Stride.executesReplayed`: an await replays a task, and executes its body.
* `HoldQueueLaw`.

The main statement is `hold_queue_law`.
-/

namespace TaskBarrier

variable {ν : Type}

/-! ## What comes in and what goes out -/

namespace Deed

/-- Whether the deed takes the task out of the hold queue. -/
def takes (id : TaskId) : Deed → Bool
  | replay (.run other) | cancel other .cancelled => other == id
  | reset _ _ => true
  | _ => false

/-- Whether the deed is a firing that holds the task. -/
def holds (id : TaskId) : Deed → Bool
  | call other .held => other == id
  | _ => false

theorem holds_iff {id : TaskId} {deed : Deed} : deed.holds id = true ↔ deed = call id .held := by
  unfold holds
  split
  · next other => simp
  · next other =>
    constructor
    · intro holds
      cases holds
    · rintro rfl
      exact absurd rfl (other id)

/-- **A deed other than a holding firing takes tasks out of the hold queue**, and leaves the others
where they are. -/
theorem requeue_of_not_holds {deed : Deed} (apart : ∀ id, deed.holds id = false)
    (held : List TaskId) : deed.requeue held = held.filter fun id => !deed.takes id := by
  have all : ∀ {deed : Deed}, (∀ id, deed.takes id = false) →
      held = held.filter fun id => !deed.takes id := fun takes =>
    (List.filter_eq_self.mpr fun id _ => by simp [takes id]).symm
  have others : ∀ other, (fun id : TaskId => id != other) = fun id => !(other == id) := fun other =>
    funext fun id => by rw [bne, Bool.beq_comm]
  cases deed with
  | call id firing =>
      cases firing with
      | held => simp [holds] at apart
      | _ => exact all fun _ => rfl
  | replay replay =>
      cases replay with
      | run other => exact congrArg (held.filter ·) (others other)
      | _ => exact all fun _ => rfl
  | cancel other answer =>
      cases answer with
      | cancelled => exact congrArg (held.filter ·) (others other)
      | _ => exact all fun _ => rfl
  | reset => exact (List.filter_eq_nil_iff.mpr fun _ _ => by simp [takes]).symm
  | _ => exact all fun _ => rfl

/-- No deed holds a task and takes one. -/
theorem takes_of_holds {id other : TaskId} {deed : Deed} (holding : deed.holds id = true) :
    deed.takes other = false := by
  rw [holds_iff.mp holding]
  rfl

end Deed

namespace Scheduler.Sound

variable {s s' : Scheduler ν} {thread : ThreadId} {deed : Deed}

/-- A task that is held was not in the queue. -/
theorem not_mem_of_holds (sound : s.Sound) (follows : s.Follows thread deed s') {id : TaskId}
    (holding : deed.holds id = true) : id ∉ s.barrier.held := by
  intro member
  have course := sound.course follows id
  rw [Deed.holds_iff.mp holding] at course
  obtain ⟨task, found, live, -⟩ := course.of_hold
  have phase := (sound.mem_held id).mp member
  simp [Barrier.phase?, found, live] at phase

/-- **A step appends the task that it holds to the queue, or takes tasks out of it.** -/
theorem held_step (sound : s.Sound) (follows : s.Follows thread deed s') :
    (∃ id, deed.holds id = true ∧ s.barrier.draining = false ∧ id ∉ s.barrier.held ∧
      s'.barrier.held = s.barrier.held ++ [id]) ∨
    (∀ id, deed.holds id = false) ∧
      s'.barrier.held = s.barrier.held.filter fun id => !deed.takes id := by
  by_cases holding : ∃ id, deed.holds id = true
  · obtain ⟨id, holding⟩ := holding
    have transition := follows.transition
    have queue := sound.requeue follows
    rw [Deed.holds_iff.mp holding] at transition queue
    exact .inl ⟨id, holding, transition.draining_of_hold, sound.not_mem_of_holds follows holding,
      queue⟩
  · have apart : ∀ id, deed.holds id = false := by simpa using holding
    exact .inr ⟨apart, (sound.requeue follows).trans (Deed.requeue_of_not_holds apart _)⟩

/-- A cancel takes the task that it names out of the queue, and is told that it has. -/
theorem held_cancel (sound : s.Sound) (id : TaskId) :
    (s.barrier.cancel id).barrier.held = s.barrier.held.filter (· != id) ∧
      (id ∈ s.barrier.held → (s.barrier.cancel id).answer = .cancelled) := by
  have queue := Barrier.held_cancel (sound.mem_held id).mp
  have succeeds : id ∈ s.barrier.held → (s.barrier.cancel id).answer = .cancelled := by
    intro member
    obtain ⟨task, slot, has, held⟩ := sound.slotted?_of_phase? ((sound.mem_held id).mp member) rfl
    unfold Barrier.cancel
    simp only [has, held]
    rfl
  refine ⟨?_, succeeds⟩
  by_cases member : id ∈ s.barrier.held
  · rw [queue, succeeds member]
    rfl
  · have absent : ∀ other ∈ s.barrier.held, (other != id) = true := by
      intro other listed
      have ne : other ≠ id := by
        rintro rfl
        exact member listed
      simpa using ne
    rw [queue, List.filter_eq_self.mpr absent]
    cases (s.barrier.cancel id).answer with
    | cancelled => exact List.filter_eq_self.mpr absent
    | _ => rfl

end Scheduler.Sound

/-- **What is not taken out of the queue stays in it, in its order**, and in front of what comes
later. -/
theorem Path.held_eq {s s' : Scheduler ν} {later : History ν} (path : Path s later s')
    (sound : s.Sound) :
    s'.Sound ∧ ∃ added,
      s'.barrier.held =
        (s.barrier.held.filter fun id => !later.any (·.deed.takes id)) ++ added ∧
      ∀ id ∈ added, ∃ stride ∈ later, stride.deed = .call id .held := by
  induction path with
  | start => exact ⟨sound, [], by simp, by simp⟩
  | @step history middle thread now move turn path taken ih =>
      obtain ⟨sound, added, held, origin⟩ := ih
      have follows := Scheduler.follows_of_step taken
      have deed : (⟨middle, thread, now, move, turn⟩ : Stride ν).deed =
        middle.deed thread now move := rfl
      refine ⟨sound.step follows, ?_⟩
      rcases sound.held_step follows with ⟨id, holding, -, -, queue⟩ | ⟨-, queue⟩
      · refine ⟨added ++ [id], ?_, fun other member => ?_⟩
        · rw [queue, held, List.append_assoc]
          simp [deed, Deed.takes_of_holds holding]
        · rcases List.mem_append.mp member with old | new
          · obtain ⟨stride, member, holds⟩ := origin other old
            exact ⟨stride, .tail _ member, holds⟩
          · obtain rfl := List.mem_singleton.mp new
            exact ⟨_, .head _, Deed.holds_iff.mp holding⟩
      · refine ⟨added.filter fun id => !(middle.deed thread now move).takes id, ?_, ?_⟩
        · rw [queue, held, List.filter_append, List.filter_filter]
          simp [deed]
        · intro other member
          obtain ⟨stride, member, holds⟩ := origin other (List.mem_of_mem_filter member)
          exact ⟨stride, .tail _ member, holds⟩

/-! ## The order of the queue -/

namespace History

/-- The moment at which the task was held: the number of steps up to the latest firing that held
it, and zero if there was none. -/
def heldAt : History ν → TaskId → Nat
  | [], _ => 0
  | stride :: history, id =>
      if stride.deed.holds id then history.length + 1 else heldAt history id

@[simp] theorem heldAt_nil (id : TaskId) : heldAt ([] : History ν) id = 0 := rfl

/-- A firing that holds a task is the latest. -/
theorem heldAt_cons_of_holds {stride : Stride ν} {id : TaskId}
    (holding : stride.deed.holds id = true) (history : History ν) :
    heldAt (stride :: history) id = history.length + 1 := if_pos holding

/-- A step that does not hold the task leaves the moment as it was. -/
theorem heldAt_cons_of_not {stride : Stride ν} {id : TaskId}
    (apart : stride.deed.holds id = false) (history : History ν) :
    heldAt (stride :: history) id = heldAt history id := if_neg (by simp [apart])

/-- No task was held in the future. -/
theorem heldAt_le (history : History ν) (id : TaskId) : history.heldAt id ≤ history.length := by
  induction history with
  | nil => exact Nat.le_refl _
  | cons stride history ih =>
      unfold heldAt
      split
      · exact Nat.le_refl _
      · exact Nat.le_succ_of_le ih

end History

/-- **The queue is ordered by the firings that held its tasks.** -/
theorem Run.held_ordered {history : History ν} {s : Scheduler ν} (run : Run history s) :
    (∀ id ∈ s.barrier.held, 0 < history.heldAt id) ∧
      s.barrier.held.Pairwise fun a b => history.heldAt a < history.heldAt b := by
  refine run.induct (motive := fun history s => (∀ id ∈ s.barrier.held, 0 < history.heldAt id) ∧
    s.barrier.held.Pairwise fun a b => history.heldAt a < history.heldAt b) ?_ ?_
  · intro number config facility worker
    exact ⟨fun _ member => absurd member List.not_mem_nil, .nil⟩
  · intro history s thread now move turn run taken ih
    obtain ⟨fired, ordered⟩ := ih
    have follows := Scheduler.follows_of_step taken
    have deed : (⟨s, thread, now, move, turn⟩ : Stride ν).deed = s.deed thread now move := rfl
    rcases run.sound.held_step follows with ⟨id, holding, -, absent, queue⟩ | ⟨apart, queue⟩
    · have last : History.heldAt (⟨s, thread, now, move, turn⟩ :: history) id =
          history.length + 1 := History.heldAt_cons_of_holds (deed ▸ holding) history
      have others : ∀ other ∈ s.barrier.held,
          History.heldAt (⟨s, thread, now, move, turn⟩ :: history) other =
            history.heldAt other := by
        intro other member
        refine History.heldAt_cons_of_not ?_ history
        rw [deed, Deed.holds_iff.mp holding]
        have ne : id ≠ other := by
          rintro rfl
          exact absent member
        simpa [Deed.holds] using ne
      rw [queue]
      refine ⟨fun other member => ?_,
        List.pairwise_append.mpr ⟨?_, List.pairwise_singleton _ _, ?_⟩⟩
      · rcases List.mem_append.mp member with old | new
        · rw [others other old]
          exact fired other old
        · obtain rfl := List.mem_singleton.mp new
          rw [last]
          exact Nat.succ_pos _
      · refine ordered.imp_of_mem fun {a b} first second before => ?_
        rwa [others a first, others b second]
      · intro a first b second
        obtain rfl := List.mem_singleton.mp second
        rw [others a first, last]
        exact Nat.lt_succ_of_le (history.heldAt_le a)
    · have same : ∀ other, History.heldAt (⟨s, thread, now, move, turn⟩ :: history) other =
          history.heldAt other := fun other => History.heldAt_cons_of_not (apart other) history
      rw [queue]
      refine ⟨fun other member => ?_, ?_⟩
      · rw [same]
        exact fired other (List.mem_of_mem_filter member)
      · simp only [same]
        exact ordered.filter _

/-- What is in the queue later was there before, or was held in between. -/
theorem Path.heldAt_lt {s s' : Scheduler ν} {later : History ν} (path : Path s later s')
    (sound : s.Sound) {earlier : History ν} {moment : Nat} (past : moment ≤ earlier.length)
    (above : ∀ id ∈ s.barrier.held, moment < earlier.heldAt id) :
    s'.Sound ∧ ∀ id ∈ s'.barrier.held, moment < History.heldAt (later ++ earlier) id := by
  induction path with
  | start => exact ⟨sound, above⟩
  | @step history middle thread now move turn path taken ih =>
      obtain ⟨sound, above⟩ := ih
      have follows := Scheduler.follows_of_step taken
      refine ⟨sound.step follows, fun other member => ?_⟩
      cases holding : (middle.deed thread now move).holds other with
      | true =>
          rw [List.cons_append, History.heldAt_cons_of_holds holding, List.length_append]
          omega
      | false =>
          rw [List.cons_append, History.heldAt_cons_of_not holding]
          rcases sound.held_step follows with ⟨id, holds, -, -, queue⟩ | ⟨-, queue⟩
          · rw [queue] at member
            rcases List.mem_append.mp member with old | new
            · exact above other old
            · obtain rfl := List.mem_singleton.mp new
              rw [holds] at holding
              cases holding
          · rw [queue] at member
            exact above other (List.mem_of_mem_filter member)

/-! ## The order of replays -/

/-- A replay takes the front of the queue. -/
theorem Transition.front_of_replay {b b' : Barrier ν} {stack stack' : Stack ν} {id : TaskId}
    (transition : Transition b stack (.replay (.run id)) b' stack') :
    ∃ rest, b.held = id :: rest := by
  generalize replays : Deed.replay (.run id) = deed at transition
  cases transition with
  | replay answer =>
      cases replays
      obtain ⟨_, rest, held, -⟩ := Barrier.popHeld_of_run answer
      exact ⟨rest, held⟩
  | _ => cases replays

/-- When a task has been replayed, all that is left in the queue was held after it. -/
theorem Run.heldAt_lt_of_replay {history : History ν} {stride : Stride ν} {s : Scheduler ν}
    (run : Run (stride :: history) s) {id : TaskId} (replays : stride.deed = .replay (.run id)) :
    ∀ other ∈ s.barrier.held, history.heldAt id < History.heldAt (stride :: history) other := by
  obtain ⟨before, taken, rfl⟩ := run.of_cons
  have follows := Scheduler.follows_of_step taken
  have deed : stride.before.deed stride.thread stride.now stride.move = .replay (.run id) := replays
  have transition := follows.transition
  have queue := before.sound.requeue follows
  rw [deed] at transition queue
  obtain ⟨rest, front⟩ := transition.front_of_replay
  obtain ⟨-, ordered⟩ := before.held_ordered
  rw [front, List.pairwise_cons] at ordered
  intro other member
  rw [History.heldAt_cons_of_not (by rw [replays]; rfl)]
  rw [queue, front] at member
  obtain ⟨listed, ne⟩ := List.mem_filter.mp member
  rcases List.mem_cons.mp listed with rfl | behind
  · simp at ne
  · exact ordered.1 other behind

/-- **Tasks are replayed in the order in which they fired**, whichever awaits replay them. -/
theorem Run.replayed_in_order {between earlier : History ν} {first second : Stride ν}
    {s : Scheduler ν} {a b : TaskId} (run : Run (second :: (between ++ first :: earlier)) s)
    (replaysFirst : first.deed = .replay (.run a)) (replaysSecond : second.deed = .replay (.run b)) :
    earlier.heldAt a < History.heldAt (between ++ first :: earlier) b := by
  obtain ⟨before, taken, -⟩ := run.of_cons
  obtain ⟨middle, replayed, path⟩ := before.split
  have above := replayed.heldAt_lt_of_replay replaysFirst
  obtain ⟨-, above⟩ := path.heldAt_lt replayed.sound
    (Nat.le_succ_of_le (earlier.heldAt_le a)) above
  have transition := (Scheduler.follows_of_step taken).transition
  rw [show second.before.deed second.thread second.now second.move = .replay (.run b)
    from replaysSecond] at transition
  obtain ⟨rest, front⟩ := transition.front_of_replay
  exact above b (front ▸ List.mem_cons_self)

/-! ## The order of executions -/

/-- Whether the step begins to execute the body of a task that an await has replayed. -/
def Stride.ExecutesReplayed (stride : Stride ν) (id : TaskId) : Prop :=
  stride.deed = .enter id true ∧
    ∃ rest, stride.before.stack stride.thread = .run id (.starting true) :: rest

/-- Nothing stands on a run that is about to begin. -/
theorem Frame.sits_starting (frame : Frame ν) (id : TaskId) (replayed : Bool) (rest : Stack ν) :
    frame.sits (.run id (.starting replayed) :: rest) = false := by
  cases frame with
  | run task stage => cases stage <;> rfl
  | answering answer => cases answer <;> rfl
  | _ => rfl

/-- A run of a replay that is about to begin was there before, or has just been decided upon. -/
theorem Transition.of_starting {b b' : Barrier ν} {stack stack' : Stack ν} {deed : Deed}
    (transition : Transition b stack deed b' stack') (shaped : stack.isShaped = true)
    {id : TaskId} {rest : Stack ν} (top : stack' = .run id (.starting true) :: rest) :
    deed = .replay (.run id) ∨ deed = .aside ∧ stack = stack' := by
  have uncovered : ∀ {frame : Frame ν} {below : Stack ν},
      Stack.isShaped (frame :: below) = true → below ≠ .run id (.starting true) :: rest := by
    rintro frame below shaped rfl
    have sits := Stack.sits_of_cons shaped
    rw [frame.sits_starting] at sits
    cases sits
  cases transition with
  | aside | read => exact .inr ⟨rfl, rfl⟩
  | accept isUser =>
      rw [top] at isUser
      cases isUser
  | @ask _ opening answer _ _ opens _ returns =>
      cases opening with
      | nil =>
          obtain ⟨rfl, -⟩ := List.cons.inj top
          cases returns
      | cons frame opening =>
          obtain ⟨rfl, -⟩ := List.cons.inj top
          have opens := opens _ List.mem_cons_self
          cases opens
  | pass => exact absurd top (uncovered shaped)
  | finish after =>
      rcases after with rfl | rfl
      · exact absurd top (uncovered shaped)
      · cases top
  | replay =>
      cases top
      exact .inl rfl
  | escape => exact absurd top (uncovered (Stack.isShaped_of_cons shaped))
  | close => exact absurd top (uncovered shaped)
  | _ => cases top

/-- A task is not held while a run of it is on top of a stack. -/
theorem Scheduler.Sound.not_holds_of_run {s s' : Scheduler ν} (sound : s.Sound)
    {thread stepping : ThreadId} {deed : Deed} (follows : s.Follows stepping deed s') {id : TaskId}
    {stage : RunStage} {rest : Stack ν} (top : s.stack thread = .run id stage :: rest) :
    deed.holds id = false := by
  by_contra holds
  have holding : deed.holds id = true := by simpa using holds
  have course := sound.course follows id
  rw [Deed.holds_iff.mp holding] at course
  obtain ⟨task, found, live, -⟩ := course.of_hold
  obtain ⟨same, found', fits⟩ := sound.of_run top
  obtain rfl := Option.some.inj (found.symm.trans found')
  rw [fits.phase_of_some] at live
  cases live

/-- **A thread that has decided to replay a task does nothing else before it executes the body**,
and the task is not held meanwhile. -/
theorem Run.replay_of_starting {history : History ν} {s : Scheduler ν} (run : Run history s)
    {thread : ThreadId} {id : TaskId} {rest : Stack ν}
    (top : s.stack thread = .run id (.starting true) :: rest) :
    ∃ (since : History ν) (replay : Stride ν) (earlier : History ν),
      history = since ++ replay :: earlier ∧
      replay.deed = .replay (.run id) ∧
      (∀ stride ∈ since, stride.thread = thread → stride.deed = .aside) ∧
      history.heldAt id = earlier.heldAt id := by
  refine run.induct (motive := fun history s => s.stack thread = .run id (.starting true) :: rest →
    ∃ (since : History ν) (replay : Stride ν) (earlier : History ν),
      history = since ++ replay :: earlier ∧
      replay.deed = .replay (.run id) ∧
      (∀ stride ∈ since, stride.thread = thread → stride.deed = .aside) ∧
      history.heldAt id = earlier.heldAt id) ?_ ?_ top
  · intro number config facility worker top
    cases top
  · intro history s stepping now move turn run taken ih top
    have follows := Scheduler.follows_of_step taken
    have deed : (⟨s, stepping, now, move, turn⟩ : Stride ν).deed = s.deed stepping now move := rfl
    -- Every step leaves the run where it was, but for the replay that it comes from.
    have step : s.deed stepping now move = .replay (.run id) ∨
        s.stack thread = .run id (.starting true) :: rest ∧
          (stepping = thread → s.deed stepping now move = .aside) := by
      by_cases own : stepping = thread
      · subst own
        rcases follows.transition.of_starting (run.sound.shaped stepping) top with
          replays | ⟨aside, same⟩
        · exact .inl replays
        · exact .inr ⟨same.trans top, fun _ => aside⟩
      · rw [follows.others thread (Ne.symm own)] at top
        exact .inr ⟨top, fun same => absurd same own⟩
    rcases step with replays | ⟨top, idle⟩
    · refine ⟨[], _, history, rfl, deed.trans replays, by simp, ?_⟩
      exact History.heldAt_cons_of_not (by rw [deed, replays]; rfl) history
    · obtain ⟨since, replay, earlier, rfl, replays, aside, same⟩ := ih top
      refine ⟨_ :: since, replay, earlier, rfl, replays, fun stride member own => ?_, ?_⟩
      · rcases List.mem_cons.mp member with rfl | member
        · exact deed.trans (idle own)
        · exact aside stride member own
      · rw [History.heldAt_cons_of_not (deed ▸ run.sound.not_holds_of_run follows top), same]

/-- Where a list is cut in two ways, one of the cuts comes first. -/
theorem cut_before {α : Type} {between since before earlier : List α} {first replay : α}
    (cut : between ++ first :: earlier = since ++ replay :: before) (ne : first ≠ replay)
    (apart : first ∉ since) : ∃ middle, before = middle ++ first :: earlier := by
  rcases List.append_eq_append_iff.mp cut with ⟨middle, eq, tail⟩ | ⟨middle, eq, tail⟩
  · cases middle with
    | nil => exact absurd (List.cons.inj tail).1 ne
    | cons head middle =>
        obtain ⟨rfl, -⟩ := List.cons.inj tail
        exact absurd (by simp [eq]) apart
  · cases middle with
    | nil => exact absurd (List.cons.inj tail).1.symm ne
    | cons head middle => exact ⟨middle, (List.cons.inj tail).2⟩

/-- **A thread executes the bodies that it replays in the order in which their tasks fired.** -/
theorem Run.executed_in_order {between earlier : History ν} {first second : Stride ν}
    {s : Scheduler ν} {a b : TaskId} (run : Run (second :: (between ++ first :: earlier)) s)
    (same : first.thread = second.thread) (executesFirst : first.ExecutesReplayed a)
    (executesSecond : second.ExecutesReplayed b) :
    earlier.heldAt a < History.heldAt (between ++ first :: earlier) b := by
  obtain ⟨entersFirst, _, topFirst⟩ := executesFirst
  obtain ⟨entersSecond, _, topSecond⟩ := executesSecond
  obtain ⟨beforeSecond, -, -⟩ := run.of_cons
  obtain ⟨beforeFirst, -⟩ := beforeSecond.stride
  obtain ⟨since₁, replay₁, earlier₁, cut₁, replays₁, -, moment₁⟩ :=
    beforeFirst.replay_of_starting topFirst
  obtain ⟨since₂, replay₂, earlier₂, cut₂, replays₂, aside₂, moment₂⟩ :=
    beforeSecond.replay_of_starting topSecond
  -- The second replay was decided upon after the first body was entered.
  have ne : first ≠ replay₂ := by
    rintro rfl
    rw [entersFirst] at replays₂
    cases replays₂
  have apart : first ∉ since₂ := by
    intro member
    have aside := aside₂ first member same
    rw [entersFirst] at aside
    cases aside
  obtain ⟨middle, rfl⟩ := cut_before cut₂ ne apart
  rw [moment₁, moment₂]
  rw [cut₂] at beforeSecond
  obtain ⟨_, replayed, -⟩ := beforeSecond.split
  have whole : middle ++ first :: earlier = (middle ++ first :: since₁) ++ replay₁ :: earlier₁ := by
    simp [cut₁]
  rw [whole] at replayed ⊢
  exact replayed.replayed_in_order replays₁ replays₂

/-! ## The law -/

/-- **What the hold queue is**, in a state `s` to which the steps of `history` have led. -/
structure HoldQueueLaw (history : History ν) (s : Scheduler ν) : Prop where
  /-- No task is in the queue twice. -/
  nodup : s.barrier.held.Nodup
  /-- The queue contains the held tasks and no others. -/
  mem_iff : ∀ id, id ∈ s.barrier.held ↔ s.barrier.phase? id = some .held
  /-- Each of them has a slot. -/
  slotted : ∀ id ∈ s.barrier.held, ∃ task slot, s.barrier.slotted? id = some (task, slot)
  /-- Each of them was held by a firing. -/
  fired : ∀ id ∈ s.barrier.held, 0 < history.heldAt id
  /-- They are in the order of the firings that held them. -/
  ordered : s.barrier.held.Pairwise fun a b => history.heldAt a < history.heldAt b
  /-- The queue grows by a firing while the barrier is not draining, and by nothing else. -/
  grows : ∀ {thread now move turn}, s.step thread now move = some turn →
    (∃ id, s.deed thread now move = .call id .held ∧ s.barrier.draining = false ∧
      turn.scheduler.barrier.held = s.barrier.held ++ [id]) ∨
    turn.scheduler.barrier.held.Sublist s.barrier.held
  /-- The runs that awaits have decided upon came in the order of the firings. -/
  replayed : ∀ {later between earlier : History ν} {first second : Stride ν} {a b : TaskId},
    history = later ++ second :: (between ++ first :: earlier) →
    first.deed = .replay (.run a) → second.deed = .replay (.run b) →
    earlier.heldAt a < History.heldAt (between ++ first :: earlier) b
  /-- So did the executions of the bodies, on each thread. -/
  executed : ∀ {later between earlier : History ν} {first second : Stride ν} {a b : TaskId},
    history = later ++ second :: (between ++ first :: earlier) → first.thread = second.thread →
    first.ExecutesReplayed a → second.ExecutesReplayed b →
    earlier.heldAt a < History.heldAt (between ++ first :: earlier) b
  /-- A cancel takes the task that it names out of the queue, and succeeds if it was there. -/
  cancelled : ∀ id, (s.barrier.cancel id).barrier.held = s.barrier.held.filter (· != id) ∧
    (id ∈ s.barrier.held → (s.barrier.cancel id).answer = .cancelled)
  /-- Whatever happens, the tasks that are not replayed, cancelled or dropped stay in the queue, in
  their order and in front of what is held later. -/
  kept : ∀ {later s'}, Path s later s' → ∃ added,
    s'.barrier.held = (s.barrier.held.filter fun id => !later.any (·.deed.takes id)) ++ added ∧
      ∀ id ∈ added, ∃ stride ∈ later, stride.deed = .call id .held

/-- **Every state of a run obeys the law of the hold queue.** -/
theorem hold_queue_law {history : History ν} {s : Scheduler ν} (run : Run history s) :
    HoldQueueLaw history s where
  nodup := run.sound.held_nodup
  mem_iff := run.sound.mem_held
  slotted := by
    intro id member
    obtain ⟨task, slot, has, -⟩ :=
      run.sound.slotted?_of_phase? ((run.sound.mem_held id).mp member) rfl
    exact ⟨task, slot, has⟩
  fired := run.held_ordered.1
  ordered := run.held_ordered.2
  grows := by
    intro thread now move turn taken
    rcases run.sound.held_step (Scheduler.follows_of_step taken) with
      ⟨id, holding, idle, -, queue⟩ | ⟨-, queue⟩
    · exact .inl ⟨id, Deed.holds_iff.mp holding, idle, queue⟩
    · exact .inr (queue ▸ List.filter_sublist)
  replayed := by
    rintro later between earlier first second a b rfl first_replays second_replays
    obtain ⟨_, replayed, -⟩ := run.split
    exact replayed.replayed_in_order first_replays second_replays
  executed := by
    rintro later between earlier first second a b rfl same first_executes second_executes
    obtain ⟨_, executed, -⟩ := run.split
    exact executed.executed_in_order same first_executes second_executes
  cancelled := run.sound.held_cancel
  kept := fun path => (path.held_eq run.sound).2

/-- The two tasks that fire first in `overlappedMoves` are in the queue in that order. -/
theorem hold_queue_law_of_overlapped : ∃ (history : History Unit) (s : Scheduler Unit),
    Run history s ∧ s.barrier.held = [⟨0⟩, ⟨1⟩] ∧
      history.heldAt ⟨0⟩ < history.heldAt ⟨1⟩ := by
  obtain ⟨history, s, played, held⟩ : ∃ history s,
      (Scheduler.start 0 .default (.byHand .empty) none).play (overlappedMoves.take 8) =
        some (history, s) ∧ s.barrier.held = [⟨0⟩, ⟨1⟩] :=
    ⟨_, _, rfl, rfl⟩
  have run := Run.of_play played
  have ordered := (hold_queue_law run).ordered
  rw [held, List.pairwise_cons] at ordered
  exact ⟨history, s, run, held, ordered.1 ⟨1⟩ List.mem_cons_self⟩

end TaskBarrier
