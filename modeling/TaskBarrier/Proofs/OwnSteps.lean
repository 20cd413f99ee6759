import Mathlib.Data.List.Forall2
import TaskBarrier.Proofs.Tandem

/-!
# The own steps of a used scheduler

A used scheduler goes on from a state in which it mirrors a fresh one.  Some of its steps belong to
calls that are *left over*: calls that were in progress then, and calls that begin with a request for
something old.  All others are its *own* steps, and the fresh scheduler takes them one by one, with
the same outcomes up to a shift.

Which steps are which is told from the history of the used scheduler alone.  Of the frames on a
stack, those on top belong to calls that are left over; they are counted along the history.

The one thing by which such a call can be noticed is that it may keep a scheduler alive that has
been dropped.  So as long as a scheduler has an owner there is nothing to be noticed, and later on
there is nothing unless such a call is still going on.

## Main Definitions

* `History.leftOver`, `History.own`: which frames, and which steps, belong to what.
* `Scheduler.LetGo`, `History.LetGo`: no call left over keeps a dropped scheduler alive.
* `Scheduler.Tandem`: what holds between the two, whatever has happened.
* `Stride.Echoes`: two steps that are the same up to the shift.

The main statement is `Path.tandem`.
-/

namespace TaskBarrier

variable {ν : Type}

/-! ## What keeps a scheduler alive -/

/-- No thread has two stacks. -/
def Stacks.Tidy (calls : Stacks ν) : Prop := (calls.entries.map (·.1)).Nodup

namespace Stacks

theorem Tidy.set {calls : Stacks ν} (tidy : calls.Tidy) (thread : ThreadId) (stack : Stack ν) :
    (calls.set thread stack).Tidy := by
  refine List.nodup_cons.mpr ⟨by simp, ?_⟩
  exact tidy.sublist (List.filter_sublist.map _)

/-- A stack is what is found under its thread. -/
theorem Tidy.get_of_mem {calls : Stacks ν} (tidy : calls.Tidy) {thread : ThreadId}
    {stack : Stack ν} (member : (thread, stack) ∈ calls.entries) : calls.get thread = stack := by
  unfold Tidy at tidy
  unfold get
  generalize calls.entries = entries at tidy member ⊢
  induction entries with
  | nil => cases member
  | cons head rest ih =>
      obtain ⟨fresh, tidy⟩ := List.nodup_cons.mp tidy
      rw [List.find?_cons]
      rcases List.mem_cons.mp member with rfl | deeper
      · simp
      · have ne : head.1 ≠ thread := by
          rintro rfl
          exact fresh (List.mem_map.mpr ⟨_, deeper, rfl⟩)
        rw [beq_eq_false_iff_ne.mpr ne]
        exact ih tidy deeper

/-- A thread has one of the stacks that are listed, or nothing to do. -/
theorem get_cases (calls : Stacks ν) (thread : ThreadId) :
    calls.get thread = [] ∨ ∃ entry ∈ calls.entries, calls.get thread = entry.2 := by
  unfold get
  split
  · next found => exact .inr ⟨_, List.mem_of_find?_eq_some found, rfl⟩
  · exact .inl rfl

/-- Calls in progress keep a scheduler alive through some frame of some thread. -/
theorem Tidy.keepAlive_iff {calls : Stacks ν} (tidy : calls.Tidy) :
    calls.keepAlive = true ↔
      ∃ thread, ∃ frame ∈ calls.get thread, frame.keepsAlive = true := by
  unfold keepAlive
  rw [List.any_eq_true]
  constructor
  · rintro ⟨⟨thread, stack⟩, member, keeps⟩
    refine ⟨thread, ?_⟩
    rw [tidy.get_of_mem member]
    exact List.any_eq_true.mp keeps
  · rintro ⟨thread, frame, member, keeps⟩
    rcases calls.get_cases thread with none | ⟨entry, listed, same⟩
    · rw [none] at member
      cases member
    · rw [same] at member
      exact ⟨entry, listed, List.any_eq_true.mpr ⟨frame, member, keeps⟩⟩

end Stacks

/-- A step leaves every thread with one stack. -/
theorem Scheduler.Follows.tidy {s s' : Scheduler ν} {thread : ThreadId} {deed : Deed}
    (follows : s.Follows thread deed s') (tidy : s.calls.Tidy) : s'.calls.Tidy := by
  rcases follows.calls with same | ⟨stack, set⟩
  · rwa [same]
  · rw [set]
    exact tidy.set thread stack

/-- Steps leave every thread with one stack. -/
theorem Path.tidy {origin s : Scheduler ν} {history : History ν} (path : Path origin history s)
    (tidy : origin.calls.Tidy) : s.calls.Tidy := by
  induction path with
  | start => exact tidy
  | step _ taken ih => exact (Scheduler.follows_of_step taken).tidy ih

/-! ## Calls that are left over -/

/-- Whether a step belongs to a call that is left over, where `left` frames of the thread do: there
are any, or the step begins such a call. -/
def Stride.isAside (σ : Shift) (left : Nat) (stride : Stride ν) : Bool :=
  decide (0 < left) || stride.move.isOld σ

namespace History

variable (σ : Shift) (origin : Scheduler ν)

/-- **How many frames of a thread belong to calls that are left over**, after the given steps from
the state `origin`, in which all calls in progress are. -/
def leftOver : History ν → ThreadId → Nat
  | [], thread => (origin.stack thread).length
  | stride :: later, thread =>
      let left := leftOver later thread
      if stride.thread = thread ∧ stride.isAside σ left = true then
        -- The frames below the calls that are left over stay.
        (stride.turn.scheduler.stack thread).length - ((stride.before.stack thread).length - left)
      else left

/-- The steps that belong to no call that is left over. -/
def own : History ν → History ν
  | [] => []
  | stride :: later =>
      if stride.isAside σ (leftOver σ origin later stride.thread) then own later
      else stride :: own later

end History

/-- No call that is left over keeps a dropped scheduler alive: none of the frames on top of the
stacks that belong to such calls, of which the numbers are given, does. -/
def Scheduler.LetGo (s : Scheduler ν) (left : ThreadId → Nat) : Prop :=
  s.dropped = true → ∀ thread, ∀ frame ∈ (s.stack thread).take (left thread),
    frame.keepsAlive = false

/-- No call that is left over keeps a dropped scheduler alive when a step is made. -/
def History.LetGo (σ : Shift) (origin : Scheduler ν) : History ν → Prop
  | [] => True
  | stride :: later => stride.before.LetGo (History.leftOver σ origin later) ∧ LetGo σ origin later

/-- Before a scheduler is dropped, it does not matter what keeps it alive. -/
theorem History.letGo_of_undropped {σ : Shift} {origin : Scheduler ν} {later : History ν}
    (undropped : ∀ stride ∈ later, stride.before.dropped = false) : later.LetGo σ origin := by
  induction later with
  | nil => trivial
  | cons stride later ih =>
      refine ⟨fun dropped => ?_, ih fun stride member =>
        undropped stride (List.mem_cons_of_mem _ member)⟩
      rw [undropped stride List.mem_cons_self] at dropped
      cases dropped

namespace Scheduler

variable {σ : Shift} {origin : Scheduler ν}

/-- What holds between the used scheduler `s`, after the given steps, and the fresh scheduler `f`,
after its own ones. -/
structure Tandem (σ : Shift) (origin : Scheduler ν) (later : History ν) (s f : Scheduler ν) :
    Prop where
  mirrors : ∃ past, Shift.SamePhases origin.barrier.tasks past ∧ Mirrors σ past s f
  /-- The frames that are not those of the fresh scheduler belong to calls that are left over. -/
  length : ∀ thread, (s.stack thread).length =
    later.leftOver σ origin thread + (f.stack thread).length
  used : s.calls.Tidy
  fresh : f.calls.Tidy

namespace Tandem

variable {later : History ν} {s f : Scheduler ν} (tandem : Tandem σ origin later s f)
include tandem

/-- The calls that are left over are those on top of the stack. -/
theorem exists_frames (thread : ThreadId) :
    Stack.Mirrors σ ((s.stack thread).take (later.leftOver σ origin thread)) (s.stack thread)
      (f.stack thread) := by
  obtain ⟨past, -, mirrors⟩ := tandem.mirrors
  obtain ⟨left, frames⟩ := mirrors.frames thread
  have length := tandem.length thread
  have same : left = (s.stack thread).take (later.leftOver σ origin thread) := by
    rw [frames.length] at length
    rw [frames.stack, ← Nat.add_right_cancel length, List.take_left]
  rwa [← same]

/-- A thread without calls that are left over is where it is in the fresh scheduler. -/
theorem level {thread : ThreadId} (nothing : later.leftOver σ origin thread = 0) :
    s.stack thread = σ.stack (f.stack thread) := by
  have frames := (tandem.exists_frames thread).stack
  rwa [nothing, List.take_zero, List.nil_append] at frames

/-- **Both are alive, or neither is**, as long as no call that is left over makes the difference. -/
theorem isAlive (letGo : s.LetGo (later.leftOver σ origin)) : s.isAlive = f.isAlive := by
  obtain ⟨past, -, mirrors⟩ := tandem.mirrors
  have keeps : ∀ frame : Frame ν, (σ.frame frame).keepsAlive = frame.keepsAlive := by
    intro frame
    cases frame <;> rfl
  unfold Scheduler.isAlive
  rw [mirrors.dropped]
  cases dropped : f.dropped with
  | false => rfl
  | true =>
      simp only [Bool.not_true, Bool.false_or]
      rw [Bool.eq_iff_iff, tandem.used.keepAlive_iff, tandem.fresh.keepAlive_iff]
      refine exists_congr fun thread => ?_
      have frames := (tandem.exists_frames thread).stack
      constructor
      · rintro ⟨frame, member, alive⟩
        have member : frame ∈ s.stack thread := member
        rw [frames] at member
        rcases List.mem_append.mp member with left | own
        · rw [letGo (mirrors.dropped.trans dropped) thread frame left] at alive
          cases alive
        · obtain ⟨below, listed, rfl⟩ := List.mem_map.mp own
          exact ⟨below, listed, by rwa [keeps] at alive⟩
      · rintro ⟨frame, member, alive⟩
        refine ⟨σ.frame frame, ?_, by rwa [keeps]⟩
        change _ ∈ s.stack thread
        rw [frames]
        exact List.mem_append_right _ (List.mem_map_of_mem member)

/-- **A thread without calls that are left over** can take the same steps in both. -/
theorem step (letGo : s.LetGo (later.leftOver σ origin)) {thread : ThreadId}
    (nothing : later.leftOver σ origin thread = 0) (now : Instant) (move : Move ν) :
    ∃ past, Shift.SamePhases origin.barrier.tasks past ∧
      Option.Rel (Turn.Mirrors σ past thread) (s.step thread now (σ.move move))
        (f.step thread now move) := by
  obtain ⟨past, same, mirrors⟩ := tandem.mirrors
  exact ⟨past, same, mirrors.step (tandem.level nothing) (tandem.isAlive letGo) now move⟩

section Strides

variable {thread : ThreadId} {now : Instant} {move : Move ν} {turn : Turn ν}
  (taken : s.step thread now move = some turn)
include taken

/-- **A step of a call that is left over** leaves the fresh scheduler where it is. -/
theorem aside (aside : (⟨s, thread, now, move, turn⟩ : Stride ν).isAside σ
      (later.leftOver σ origin thread) = true) :
    Tandem σ origin (⟨s, thread, now, move, turn⟩ :: later) turn.scheduler f := by
  have follows := follows_of_step taken
  obtain ⟨past, same, mirrors⟩ := tandem.mirrors
  obtain ⟨past', same', mirrors'⟩ :
      ∃ past', Shift.SamePhases past past' ∧ Mirrors σ past' turn.scheduler f := by
    rcases Bool.or_eq_true_iff.mp aside with busy | old
    · have busy := of_decide_eq_true busy
      have length := tandem.length thread
      exact mirrors.step_of_leftOver (by omega) taken
    · exact mirrors.step_of_isOld old taken
  refine ⟨⟨past', same'.trans same, mirrors'⟩, fun other => ?_,
    (Path.start.step taken).tidy tandem.used, tandem.fresh⟩
  have before := tandem.length other
  unfold History.leftOver
  by_cases at_thread : thread = other
  · subst at_thread
    obtain ⟨left, frames⟩ := mirrors'.frames thread
    have after := frames.length
    rw [if_pos ⟨rfl, aside⟩]
    simp only
    omega
  · rw [if_neg fun both => at_thread both.1, follows.others other (Ne.symm at_thread)]
    exact before

/-- **A step of the scheduler's own** is one of the fresh scheduler. -/
theorem own (own : (⟨s, thread, now, move, turn⟩ : Stride ν).isAside σ
      (later.leftOver σ origin thread) = false)
    (letGo : s.LetGo (later.leftOver σ origin)) :
    ∃ move' turn', move = σ.move move' ∧ f.step thread now move' = some turn' ∧
      turn.Tells σ turn' ∧
      Tandem σ origin (⟨s, thread, now, move, turn⟩ :: later) turn.scheduler turn'.scheduler := by
  have follows := follows_of_step taken
  obtain ⟨idle, new⟩ := Bool.or_eq_false_iff.mp own
  have nothing : later.leftOver σ origin thread = 0 := by simpa using idle
  obtain ⟨move', rfl⟩ := σ.exists_move new
  obtain ⟨past, same, related⟩ := tandem.step letGo nothing now move'
  rw [taken] at related
  cases answer : f.step thread now move' with
  | none =>
      rw [answer] at related
      cases related
  | some turn' =>
      rw [answer] at related
      cases related with
      | some turns =>
          have follows' := follows_of_step answer
          refine ⟨move', turn', rfl, answer, turns.tells, ⟨past, same, turns.scheduler⟩,
            fun other => ?_, (Path.start.step taken).tidy tandem.used,
            (Path.start.step answer).tidy tandem.fresh⟩
          have before := tandem.length other
          unfold History.leftOver
          by_cases at_thread : thread = other
          · subst at_thread
            rw [if_neg (by simp [own]), turns.level, σ.length_stack, nothing, Nat.zero_add]
          · rw [if_neg fun both => at_thread both.1, follows.others other (Ne.symm at_thread),
              follows'.others other (Ne.symm at_thread)]
            exact before

end Strides

end Tandem

end Scheduler

/-! ## Runs of both -/

/-- A step of the used scheduler and a step of the fresh one that are the same up to the shift. -/
structure Stride.Echoes (σ : Shift) (used fresh : Stride ν) : Prop where
  thread : used.thread = fresh.thread
  now : used.now = fresh.now
  move : used.move = σ.move fresh.move
  tells : used.turn.Tells σ fresh.turn

/-- **The fresh scheduler goes along**, whatever the used one does. -/
theorem Path.tandem {σ : Shift} {origin s fresh : Scheduler ν} {later : History ν}
    (start : Scheduler.Tandem σ origin [] origin fresh) (path : Path origin later s)
    (letGo : later.LetGo σ origin) :
    ∃ later' f, Path fresh later' f ∧
      List.Forall₂ (Stride.Echoes σ) (later.own σ origin) later' ∧
      Scheduler.Tandem σ origin later s f := by
  induction path with
  | start => exact ⟨[], fresh, .start, .nil, start⟩
  | @step later s thread now move turn path taken ih =>
      obtain ⟨here, earlier⟩ := letGo
      obtain ⟨later', f, path', echoes, tandem⟩ := ih earlier
      unfold History.own
      cases aside : (⟨s, thread, now, move, turn⟩ : Stride ν).isAside σ
        (later.leftOver σ origin thread) with
      | true => exact ⟨later', f, path', by simpa [aside] using echoes, tandem.aside taken aside⟩
      | false =>
          obtain ⟨move', turn', same, answer, tells, tandem'⟩ := tandem.own taken aside here
          exact ⟨_, _, path'.step answer,
            by simpa [aside] using ⟨⟨rfl, rfl, same, tells⟩, echoes⟩, tandem'⟩

end TaskBarrier
