import TaskBarrier.Proofs.Agreement
import TaskBarrier.Proofs.CleanSlate
import TaskBarrier.Proofs.Renamed

/-!
# Numbers are drawn

Every number that occurs anywhere in a state has been drawn: those of tasks and entries, and those
that the frames on the frames and the appointments of a timer name.  This is said by means of
renamings.  A renaming *keeps* what has been drawn if it touches neither the numbers below the
counters nor the counters, and a state is *named* if every such renaming leaves it as it is.

That a state is named need not be looked up in each part of it.  Steps commute with renamings, and
so a step from a named state leads to a named one, whatever it does, as long as it is a step of
which the move names nothing new.  There remain moves that name something new, which find nothing,
and accepts, which draw numbers.

An accept that *declines* may draw numbers as well.  It moves the counters, and this is all it does.

## Main Definitions

* `Barrier.setCounters`, `Barrier.Declines`: how an accept fails, and what is left of it.
* `Renaming.Keeps`, `Scheduler.Named`.

The main statements are `Scheduler.declines_of_step` and `Path.named`.
-/

namespace TaskBarrier

variable {ν : Type}

/-! ## Counters -/

/-- Moves the counter of the keys. -/
def Facility.setNextKey {κ : Type} (key : TimerKey) : Facility κ → Facility κ
  | byHand registry => byHand { registry with nextKey := key }
  | byClock timer => byClock { timer with nextKey := key }

/-- Moves the counters, and nothing else. -/
def Barrier.setCounters (b : Barrier ν) (id : TaskId) (key : TimerKey) : Barrier ν :=
  { b with facility := b.facility.setNextKey key, nextId := id }

@[simp] theorem Facility.setNextKey_self {κ : Type} (facility : Facility κ) :
    facility.setNextKey facility.nextKey = facility := by
  cases facility <;> rfl

@[simp] theorem Facility.nextKey_setNextKey {κ : Type} (facility : Facility κ) (key : TimerKey) :
    (facility.setNextKey key).nextKey = key := by
  cases facility <;> rfl

namespace Barrier

variable (b : Barrier ν) (id : TaskId) (key : TimerKey)

@[simp] theorem setCounters_self : b.setCounters b.nextId b.facility.nextKey = b := by
  simp [setCounters]

@[simp] theorem nextKey_setCounters : (b.setCounters id key).facility.nextKey = key :=
  Facility.nextKey_setNextKey ..

end Barrier

/-- **How an accept fails**, at a reading of the clock and with the delay and the cadence that are
asked for: with which frame the call comes to its end, unless it is answered at once, and where the
counters stand afterwards. -/
inductive Barrier.Declines (b : Barrier ν) (now : Instant) (delay : Duration)
    (cadence : Cadence) : Option (Frame ν) → TaskId → TimerKey → Prop
  /-- A period of zero is refused at once, before anything is drawn. -/
  | zeroPeriod (degenerate : cadence.isDegenerate = true) :
      Declines b now delay cadence none b.nextId b.facility.nextKey
  /-- A facility that has been shut down refuses before it draws a key. -/
  | shutdown (sound : cadence.isDegenerate = false) (down : b.facility.isShutdown = true) :
      Declines b now delay cadence (some (.answering (.failed .shutdown))) b.nextId.next
        b.facility.nextKey
  /-- A due time beyond the last instant makes the call unwind after a key has been drawn. -/
  | overflow (sound : cadence.isDegenerate = false) (running : b.facility.isShutdown = false)
      (beyond : now.after? delay = none) :
      Declines b now delay cadence (some (.raising .instantOverflow)) b.nextId.next
        b.facility.nextKey.next

/-- The turn in which an accept fails.  A period of zero is refused at once.  Otherwise there is the
body to be thrown away under the lock before the call comes to its end with `last`. -/
def Scheduler.declined (s : Scheduler ν) (thread : ThreadId) (barrier : Barrier ν) :
    Option (Frame ν) → Turn ν
  | none => s.turn barrier thread (s.stack thread) (.answer (.failed .zeroPeriod)) []
  | some last => s.declining thread barrier last

/-- A failing accept puts no counter back. -/
theorem Barrier.Declines.counters_le {b : Barrier ν} {now : Instant} {delay : Duration}
    {cadence : Cadence} {last? : Option (Frame ν)} {id : TaskId} {key : TimerKey}
    (declines : b.Declines now delay cadence last? id key) :
    b.nextId.number ≤ id.number ∧ b.facility.nextKey.number ≤ key.number := by
  cases declines with
  | zeroPeriod => exact ⟨Nat.le_refl _, Nat.le_refl _⟩
  | shutdown => exact ⟨Nat.le_succ _, Nat.le_refl _⟩
  | overflow => exact ⟨Nat.le_succ _, Nat.le_succ _⟩

/-- What a failing accept tells names no task. -/
theorem Barrier.Declines.frame_eq {b : Barrier ν} {now : Instant} {delay : Duration}
    {cadence : Cadence} {last? : Option (Frame ν)} {id : TaskId} {key : TimerKey}
    (declines : b.Declines now delay cadence last? id key) (ρ : Renaming) :
    ∀ last, last? = some last → ρ.frame last = last := by
  rintro last rfl
  cases declines <;> rfl

/-- What arming does to a facility if it fails, and why it fails. -/
theorem Facility.arm_fails {κ : Type} (facility : Facility κ) (now : Instant) (delay : Duration)
    (cadence : Cadence) (callback : κ) :
    (∃ key, (facility.arm now delay cadence callback).1 = .armed key) ∨
    (facility.isShutdown = true ∧
      facility.arm now delay cadence callback = (.refused, facility)) ∨
    (facility.isShutdown = false ∧ now.after? delay = none ∧
      facility.arm now delay cadence callback =
        (.overflow, facility.setNextKey facility.nextKey.next)) := by
  cases facility with
  | byHand registry =>
      rw [arm_byHand, Registry.arm]
      split
      · next down => exact .inr (.inl ⟨down, rfl⟩)
      · exact .inl ⟨_, rfl⟩
  | byClock timer =>
      rw [arm_byClock, Timer.arm]
      split
      · next down => exact .inr (.inl ⟨down, rfl⟩)
      · next running =>
        cases sum : now.after? delay with
        | none => exact .inr (.inr ⟨by simpa [isShutdown] using running, rfl, rfl⟩)
        | some due => exact .inl ⟨_, rfl⟩

/-- The request of an accept, where it can be made. -/
theorem Scheduler.requestAccept_of_step {s : Scheduler ν} {thread : ThreadId} {now : Instant}
    {delay : Duration} {cadence : Cadence} {produces : Bool} {turn : Turn ν}
    (taken : s.step thread now (.request (.accept delay cadence produces)) = some turn) :
    turn = s.requestAccept thread now delay cadence produces := by
  have taken := attempt_of_step taken
  simp only [attempt, Scheduler.request] at taken
  split at taken
  · cases taken
  · obtain ⟨-, rfl⟩ := by simpa [whileOwned] using taken
    rfl

/-- **An accept that fails** moves counters, and leaves it at that. -/
theorem Scheduler.declines_of_step {s : Scheduler ν} {thread : ThreadId} {now : Instant}
    {delay : Duration} {cadence : Cadence} {produces : Bool} {turn : Turn ν}
    (taken : s.step thread now (.request (.accept delay cadence produces)) = some turn)
    (fails : ∀ id, turn.signal ≠ .answer (.accepted id)) :
    ∃ last? id key, s.barrier.Declines now delay cadence last? id key ∧
      turn = s.declined thread (s.barrier.setCounters id key) last? := by
  obtain rfl := requestAccept_of_step taken
  unfold requestAccept Barrier.accept at fails ⊢
  by_cases degenerate : cadence.isDegenerate = true
  · refine ⟨_, _, _, .zeroPeriod degenerate, ?_⟩
    simp only [degenerate, if_true, declined, Barrier.setCounters_self]
  · have sound : cadence.isDegenerate = false := by simpa using degenerate
    rw [if_neg degenerate] at fails ⊢
    rcases s.barrier.facility.arm_fails now delay cadence s.barrier.nextId with
      ⟨key, armed⟩ | ⟨down, refuses⟩ | ⟨running, beyond, overflows⟩
    · simp only [armed] at fails
      exact absurd rfl (fails s.barrier.nextId)
    · refine ⟨_, _, _, .shutdown sound down, ?_⟩
      simp only [refuses, degenerate, declined, Barrier.setCounters, Facility.setNextKey_self,
        Bool.false_eq_true, if_false]
    · refine ⟨_, _, _, .overflow sound running beyond, ?_⟩
      simp only [overflows, declined, Barrier.setCounters]

/-- An accept that succeeds draws a number and a key. -/
theorem Scheduler.counters_of_accepted {s : Scheduler ν} {thread : ThreadId} {now : Instant}
    {delay : Duration} {cadence : Cadence} {produces : Bool} {turn : Turn ν} {id : TaskId}
    (taken : s.step thread now (.request (.accept delay cadence produces)) = some turn)
    (accepted : turn.signal = .answer (.accepted id)) :
    turn.scheduler.barrier.nextId = s.barrier.nextId.next ∧
      turn.scheduler.barrier.facility.nextKey = s.barrier.facility.nextKey.next := by
  obtain rfl := requestAccept_of_step taken
  have answer : ∃ id, (s.barrier.accept now delay cadence produces).answer = .accepted id := by
    rcases s.requestAccept_cases thread now delay cadence produces with
      ⟨id, answer, -⟩ | ⟨-, eq⟩ | ⟨-, last, -, eq⟩
    · exact ⟨id, answer⟩
    · rw [eq] at accepted
      cases accepted
    · rw [eq] at accepted
      cases accepted
  obtain ⟨_, answer⟩ := answer
  obtain ⟨-, key, facility, eq⟩ := Barrier.accept_of_accepted answer
  rw [barrier_requestAccept]
  exact ⟨by rw [eq], Barrier.nextKey_accept answer⟩

/-- The counters only go up. -/
theorem Scheduler.counters_le_of_step {s : Scheduler ν} {thread : ThreadId} {now : Instant}
    {move : Move ν} {turn : Turn ν} (taken : s.step thread now move = some turn) :
    s.barrier.nextId.number ≤ turn.scheduler.barrier.nextId.number ∧
      s.barrier.facility.nextKey.number ≤ turn.scheduler.barrier.facility.nextKey.number :=
  ⟨(follows_of_step taken).transition.nextId_le, (flies_of_step taken).upkeep.later.nextKey⟩

/-- The counters go up along a path. -/
theorem Path.counters_le {origin s : Scheduler ν} {later : History ν}
    (path : Path origin later s) :
    origin.barrier.nextId.number ≤ s.barrier.nextId.number ∧
      origin.barrier.facility.nextKey.number ≤ s.barrier.facility.nextKey.number := by
  induction path with
  | start => exact ⟨Nat.le_refl _, Nat.le_refl _⟩
  | step _ taken ih =>
      obtain ⟨ids, keys⟩ := Scheduler.counters_le_of_step taken
      exact ⟨Nat.le_trans ih.1 ids, Nat.le_trans ih.2 keys⟩

/-! ## Renamings that keep what has been drawn -/

namespace Renaming

variable {ρ : Renaming} {b c : Barrier ν}

/-- The renaming touches neither the numbers that have been drawn nor the counters. -/
structure Keeps (ρ : Renaming) (b : Barrier ν) : Prop where
  id : ∀ id, id.number < b.nextId.number → ρ.id id = id
  key : ∀ key, key.number < b.facility.nextKey.number → ρ.key key = key
  nextId : ∀ id, ρ.nextId id = id
  nextKey : ∀ key, ρ.nextKey key = key

/-- What has been drawn early has been drawn. -/
theorem Keeps.earlier (keeps : ρ.Keeps c) (ids : b.nextId.number ≤ c.nextId.number)
    (keys : b.facility.nextKey.number ≤ c.facility.nextKey.number) : ρ.Keeps b :=
  { keeps with
    id := fun id drawn => keeps.id id (Nat.lt_of_lt_of_le drawn ids)
    key := fun key drawn => keeps.key key (Nat.lt_of_lt_of_le drawn keys) }

/-- Where the next numbers are about to be drawn, the counters do not come into conflict with a
renaming that keeps what has been drawn then. -/
theorem Keeps.counts (keeps : ρ.Keeps c) (ids : b.nextId.number < c.nextId.number)
    (keys : b.facility.nextKey.number < c.facility.nextKey.number) : ρ.Counts b where
  id := by rw [keeps.nextId, keeps.id _ ids]
  next := by rw [keeps.nextId, keeps.id _ ids]
  key := by rw [keeps.nextKey, keeps.key _ keys]
  nextKey := by rw [keeps.nextKey, keeps.key _ keys]

@[simp] theorem facility_setNextKey (facility : Facility TaskId) (key : TimerKey) :
    ρ.facility (facility.setNextKey key) = (ρ.facility facility).setNextKey (ρ.nextKey key) := by
  cases facility <;> rfl

@[simp] theorem barrier_setCounters (id : TaskId) (key : TimerKey) :
    ρ.barrier (b.setCounters id key) = (ρ.barrier b).setCounters (ρ.nextId id) (ρ.nextKey key) := by
  simp only [barrier, Barrier.setCounters, facility_setNextKey]

/-- Nothing is renamed on a facility on which nothing is armed or in flight. -/
theorem facility_of_vacant {facility : Facility TaskId} (vacant : facility.Vacant)
    (quiet : facility.IsQuiet) (nextKey : ∀ key, ρ.nextKey key = key) :
    ρ.facility facility = facility := by
  cases facility with
  | byHand registry =>
      have entries : registry.entries = [] := vacant
      simp only [Renaming.facility, Renaming.registry, entries, nextKey, List.map_nil]
      rw [← entries]
  | byClock timer =>
      obtain ⟨armed, agenda⟩ := vacant
      have worker : ρ.worker timer.worker = timer.worker := by
        have grounded : timer.isFiring = false := quiet.2
        cases working : timer.worker with
        | firing => simp [Timer.isFiring, Timer.firingKey?, working] at grounded
        | idle | exited | died => rfl
      simp only [Renaming.facility, Renaming.timer, armed, agenda, nextKey, worker, List.map_nil]
      rw [← armed, ← agenda]

end Renaming

/-! ## Named states -/

namespace Scheduler

/-- **All numbers that occur in the state have been drawn.** -/
def Named (s : Scheduler ν) : Prop := ∀ ρ : Renaming, ρ.Keeps s.barrier → Renamed ρ s s

namespace Named

variable {s : Scheduler ν} {thread : ThreadId} {now : Instant} {turn : Turn ν}

/-- A start with a facility on which nothing is armed or in flight. -/
theorem start (number : Nat) (config : Config) {facility : Facility TaskId}
    (vacant : facility.Vacant) (quiet : facility.IsQuiet) (worker : Option ThreadId) :
    (start number config facility worker : Scheduler ν).Named := by
  intro ρ keeps
  have facilities := ρ.facility_of_vacant vacant quiet keeps.nextKey
  refine ⟨rfl, rfl, rfl, rfl, ?_, fun thread => rfl, List.nodup_nil, List.nodup_nil⟩
  simp only [Scheduler.start, Renaming.barrier, Barrier.fresh, facilities, keeps.nextId,
    List.map_nil]

section Steps

variable (named : s.Named)
include named

/-- **A step of which the move names nothing new**, and which draws a number and a key if it is an
accept. -/
theorem step_of_fixed {move : Move ν} (taken : s.step thread now move = some turn)
    (fixed : ∀ ρ : Renaming, ρ.Keeps s.barrier → ρ.move move = move)
    (draws : ∀ delay cadence produces, move = .request (.accept delay cadence produces) →
      turn.scheduler.barrier.nextId = s.barrier.nextId.next ∧
        turn.scheduler.barrier.facility.nextKey = s.barrier.facility.nextKey.next) :
    turn.scheduler.Named := by
  intro ρ keeps
  obtain ⟨ids, keys⟩ := counters_le_of_step taken
  have earlier : ρ.Keeps s.barrier := keeps.earlier ids keys
  have turns : Option.Rel (Turn.Renamed ρ) (s.step thread now move)
      (s.step thread now (ρ.move move)) := by
    refine (named ρ earlier).step (fun delay cadence produces accepts => ?_) now
    obtain ⟨id, key⟩ := draws delay cadence produces accepts
    exact keeps.counts (id ▸ Nat.lt_succ_self _) (key ▸ Nat.lt_succ_self _)
  rw [fixed ρ earlier, taken] at turns
  cases turns with
  | some turns => exact turns.scheduler

/-- **An accept that fails.** -/
theorem decline {delay : Duration} {cadence : Cadence} {last? : Option (Frame ν)} {id : TaskId}
    {key : TimerKey} (declines : s.barrier.Declines now delay cadence last? id key) :
    (s.declined thread (s.barrier.setCounters id key) last?).scheduler.Named := by
  intro ρ keeps
  obtain ⟨ids, keys⟩ := declines.counters_le
  have barrier : (s.declined thread (s.barrier.setCounters id key) last?).scheduler.barrier =
      s.barrier.setCounters id key := by
    cases last? <;> rfl
  rw [barrier] at keeps
  have later : s.barrier.facility.nextKey.number ≤
      (s.barrier.setCounters id key).facility.nextKey.number := by rwa [Barrier.nextKey_setCounters]
  have renamed := named ρ (keeps.earlier ids later)
  have counters : ρ.barrier (s.barrier.setCounters id key) = s.barrier.setCounters id key := by
    rw [Renaming.barrier_setCounters, ← renamed.barrier, keeps.nextId, keeps.nextKey]
  have turns : Turn.Renamed ρ (s.declined thread (s.barrier.setCounters id key) last?)
      (s.declined thread (s.barrier.setCounters id key) last?) := by
    cases last? with
    | none => exact renamed.turn counters.symm (renamed.stack thread) rfl rfl
    | some last =>
        have turns : Turn.Renamed ρ (s.declining thread (s.barrier.setCounters id key) last) _ :=
          renamed.declining _ last
        rw [counters, declines.frame_eq ρ last rfl] at turns
        exact turns
  exact turns.scheduler

/-- A call that finds nothing and is about to say so. -/
theorem answering (events : List Event) :
    (s.turn s.barrier thread (.answering (.flag false) :: s.stack thread) .working
      events).scheduler.Named := by
  intro ρ keeps
  have renamed := named ρ keeps
  have frames : .answering (.flag false) :: s.stack thread =
      ρ.stack (.answering (.flag false) :: s.stack thread) := by
    rw [Renaming.stack_cons, ← renamed.stack]
    rfl
  have turns : Turn.Renamed ρ
      (s.turn s.barrier thread (.answering (.flag false) :: s.stack thread) .working [])
      (s.turn s.barrier thread (.answering (.flag false) :: s.stack thread) .working []) :=
    renamed.turn renamed.barrier frames rfl rfl
  exact turns.scheduler

/-- A cancel of a task that does not exist. -/
theorem requestCancel_of_absent {task : TaskId} (absent : s.barrier.task? task = none) :
    (s.requestCancel thread task).scheduler.Named := by
  have gone : s.barrier.slotted? task = none := by simp [Barrier.slotted?, absent]
  unfold requestCancel
  rw [Barrier.cancel_of_slotted?_eq_none gone]
  exact named.answering _

/-- A look at the value of a task that does not exist. -/
theorem requestRead_of_absent {task : TaskId} (absent : s.barrier.task? task = none) :
    (s.requestRead thread task).scheduler.Named := by
  intro ρ keeps
  have renamed : Renamed ρ s s := named ρ (by
    simpa [requestRead, Barrier.readValue, absent, turn] using keeps)
  have turns : Turn.Renamed ρ (s.turn s.barrier thread (s.stack thread) .working [])
      (s.turn s.barrier thread (s.stack thread) .working []) :=
    renamed.turn renamed.barrier (renamed.stack thread) rfl rfl
  simp only [requestRead, Barrier.readValue, absent]
  exact turns.scheduler

/-- A call that names a key that has not been drawn finds no entry. -/
theorem requestFire_of_new (orderly : s.barrier.facility.Orderly) {key : TimerKey}
    (new : s.barrier.facility.nextKey.number ≤ key.number) :
    (s.requestFire thread key).scheduler.Named := by
  unfold requestFire
  generalize s.barrier.facility = facility at orderly new
  cases facility with
  | byClock timer => exact named
  | byHand registry =>
      have absent : registry.find? key = none := by
        refine List.find?_eq_none.mpr fun registered listed same => ?_
        have drawn := orderly registered listed
        rw [beq_iff_eq.mp same] at drawn
        exact Nat.not_lt_of_le new drawn
      simp only [Registry.fire?_eq_none_iff.mpr absent]
      exact named

/-- **An accept** draws the number and the key that it hands out, or fails. -/
theorem requestAccept {delay : Duration} {cadence : Cadence} {produces : Bool}
    (taken : s.step thread now (.request (.accept delay cadence produces)) = some turn) :
    turn.scheduler.Named := by
  by_cases accepted : ∃ id, turn.signal = .answer (.accepted id)
  · obtain ⟨id, accepted⟩ := accepted
    refine named.step_of_fixed taken (fun _ _ => rfl) fun _ _ _ same => ?_
    exact counters_of_accepted taken accepted
  · obtain ⟨last?, id, key, declines, rfl⟩ :=
      declines_of_step taken fun id same => accepted ⟨id, same⟩
    exact named.decline declines

/-- **A request that names a task.**  The task has been drawn, or the request finds nothing. -/
theorem request_of_task (coherent : s.barrier.Coherent) {request : Request}
    (taken : s.step thread now (.request request) = some turn) (task : TaskId)
    (fixed : ∀ ρ : Renaming, ρ.id task = task → ρ.request request = request)
    (plain : ∀ delay cadence produces, request ≠ .accept delay cadence produces)
    (missed : s.barrier.task? task = none → turn.scheduler.Named) : turn.scheduler.Named := by
  rcases Nat.lt_or_ge task.number s.barrier.nextId.number with drawn | new
  · refine named.step_of_fixed taken (fun ρ keeps => ?_) fun delay cadence produces same => ?_
    · exact congrArg Move.request (fixed ρ (keeps.id task drawn))
    · exact absurd (Move.request.inj same) (plain delay cadence produces)
  · refine missed ?_
    by_contra found
    have listed := Barrier.mem_ids_iff.mpr (Option.isSome_iff_ne_none.mpr found)
    exact Nat.not_lt_of_le new (coherent.drawn task listed)

/-- **A request.**  What it names has been drawn, or it finds nothing. -/
theorem request (coherent : s.barrier.Coherent) (orderly : s.barrier.facility.Orderly)
    {request : Request} (calls : ∀ id, request = .call id → id.number < s.barrier.nextId.number)
    (taken : s.step thread now (.request request) = some turn) : turn.scheduler.Named := by
  have requested : s.request thread now request = some turn := attempt_of_step taken
  unfold Scheduler.request at requested
  split at requested
  · cases requested
  · cases request with
    | accept => exact named.requestAccept taken
    | fire key =>
        rcases Nat.lt_or_ge key.number s.barrier.facility.nextKey.number with drawn | new
        · refine named.step_of_fixed taken (fun ρ keeps => ?_) (by simp)
          exact congrArg (Move.request ∘ Request.fire) (keeps.key key drawn)
        · obtain rfl := Option.some.inj requested
          exact named.requestFire_of_new orderly new
    | call task =>
        refine named.step_of_fixed taken (fun ρ keeps => ?_) (by simp)
        exact congrArg (Move.request ∘ Request.call) (keeps.id task (calls task rfl))
    | cancel handle =>
        refine named.request_of_task coherent taken handle.task (fun ρ same => ?_) (by simp)
          fun absent => ?_
        · exact congrArg (fun task => Request.cancel { handle with task := task }) same
        · obtain ⟨-, rfl⟩ := by simpa [whileOwned] using requested
          split
          · exact named.requestCancel_of_absent absent
          · exact named
    | cancelByHandle task =>
        refine named.request_of_task coherent taken task (fun ρ same => ?_) (by simp)
          fun absent => ?_
        · exact congrArg Request.cancelByHandle same
        · obtain rfl := Option.some.inj requested
          split
          · exact named.requestCancel_of_absent absent
          · exact named
    | read task =>
        refine named.request_of_task coherent taken task (fun ρ same => ?_) (by simp)
          fun absent => ?_
        · exact congrArg Request.read same
        · obtain rfl := Option.some.inj requested
          exact named.requestRead_of_absent absent
    | await | shutdown | drop => exact named.step_of_fixed taken (fun _ _ => rfl) (by simp)

/-- **Steps lead from named states to named ones**, as long as callbacks are called of tasks that
have been accepted. -/
theorem step (coherent : s.barrier.Coherent) (orderly : s.barrier.facility.Orderly)
    {move : Move ν} (calls : ∀ id, move = .request (.call id) →
      id.number < s.barrier.nextId.number)
    (taken : s.step thread now move = some turn) : turn.scheduler.Named := by
  cases move with
  | request request =>
      refine named.request coherent orderly (fun id called => ?_) taken
      exact calls id (congrArg Move.request called)
  | endBody | proceed | work => exact named.step_of_fixed taken (fun _ _ => rfl) (by simp)

end Steps

end Named

end Scheduler

/-- **All numbers that occur in a state of a run have been drawn**, if nothing was armed in the
beginning and callbacks are called only of tasks that have been accepted. -/
theorem Path.named {number : Nat} {config : Config} {facility : Facility TaskId}
    {worker : Option ThreadId} {history : History ν} {s : Scheduler ν} (vacant : facility.Vacant)
    (quiet : facility.IsQuiet) (path : Path (.start number config facility worker) history s)
    (calls : history.CallsKnown) : s.Named := by
  induction path with
  | start => exact .start number config vacant quiet worker
  | @step history s thread now move turn path taken ih =>
      have earlier : history.CallsKnown := fun stride member =>
        calls stride (List.mem_cons_of_mem _ member)
      have run : Run history s := ⟨number, config, facility, worker, path⟩
      exact (ih earlier).step run.sound.coherent (path.known vacant earlier).orderly
        (calls _ List.mem_cons_self) taken

end TaskBarrier
