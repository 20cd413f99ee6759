import Mathlib.Data.List.Chain
import TaskBarrier.Proofs.Survival

/-!
# Shutting a timer down

A shutdown sets a flag, and in the same section it looks whether a callback is in flight.  If none
is, the caller waits until the worker has ended.  Otherwise the caller returns, and the worker is
left to end on its own when the callback is over, if it ever is.  Other threads may come in between
with any moves, among them shutdowns of their own.

As long as no next due time overflows, every order of these events has the same outcome.

* No callback is started any more, every entry is refused, and no other shutdown does anything.
* A worker that was not in a callback makes one more move: it looks, finds the flag, and exits.  It
  leaves no entry and no appointment behind, and the caller that waits for it returns after that.
* A worker that was in a callback comes back from it and may even give the entry its next
  appointment.  But it looks before it gives up the lock, and so nobody else finds a timer on which
  something is armed.

The last of these needs to be told where the worker gives up the lock, which a run does not say of
itself.  A **seamless** history is one in which every return from a callback is followed by a look.

## Main Definitions

* `Timer.Cleared`: the worker has exited, and nothing is left.
* `Timer.releases`: a request to shut down may return.
* `TimerHistory.Seamless`: the worker keeps the lock from its return to its look.
* `Closure`: what comes of a shutdown.

The main statement is `closure_of_shutdown`.
-/

namespace TaskBarrier

variable {κ : Type}

namespace Timer

/-- The worker has exited and has left nothing behind. -/
structure Cleared (timer : Timer κ) : Prop where
  exited : timer.worker = .exited
  agenda : timer.agenda = []
  armed : timer.armed = []

theorem Cleared.pending {timer : Timer κ} (cleared : timer.Cleared) : timer.pending = 0 := by
  rw [Timer.pending, cleared.armed, List.length_nil]

theorem cleared_exit (timer : Timer κ) : timer.exit.Cleared := ⟨rfl, rfl, rfl⟩

/-- Whether a request to shut down that has been answered so may return. -/
def releases (timer : Timer κ) : Shutdown → Bool
  | .repeated | .detached => true
  | .joining => timer.workerEnded

/-- A worker that is between two callbacks when it finds the flag exits. -/
theorem poll_of_idle {timer : Timer κ} (down : timer.isShutdown = true)
    (idle : timer.worker = .idle) (now : Instant) : timer.poll now = (.ended, timer.exit) := by
  simp only [poll, idle, down, if_true]

theorem shutdown_of_isShutdown {timer : Timer κ} (down : timer.isShutdown = true) :
    timer.shutdown = (.repeated, timer) := by
  simp [shutdown, down]

theorem shutdown_of_running {timer : Timer κ} (running : timer.isShutdown = false) :
    timer.shutdown = (if timer.isFiring then .detached else .joining,
      { timer with isShutdown := true }) := by
  simp [shutdown, running]

end Timer

/-- The worker keeps the lock from its return from a callback to its next look: the one is followed
by the other. -/
def TimerHistory.Seamless (history : TimerHistory κ) : Prop :=
  history.IsChain fun next back => ∀ finished, back.move = .conclude finished →
    ∃ now, next.move = .poll now

/-! ## Moves after a shutdown -/

namespace Timer

variable {timer after : Timer κ} {move : TimerMove κ} {deed : TimerDeed}

/-- A timer that has been shut down starts no callback. -/
theorem Advance.ne_fire (change : timer.Advance move deed after) (down : timer.isShutdown = true)
    (appointment : Appointment) (cadence : Cadence) : deed ≠ .fire appointment cadence := by
  rintro rfl
  cases change with
  | fire _ running => cases running.symm.trans down

/-- Nothing comes back after the worker has exited. -/
theorem Advance.cleared (change : timer.Advance move deed after) (down : timer.isShutdown = true)
    (cleared : timer.Cleared) : after.Cleared := by
  have silent : timer.worker ≠ .idle := by simp [cleared.exited]
  cases change with
  | arm running | overflow running => cases running.symm.trans down
  | disarm =>
      refine ⟨cleared.exited, cleared.agenda, ?_⟩
      rw [remove, cleared.armed, List.filter_nil]
  | exit idle | wait idle | fire idle => exact absurd idle silent
  | finish firing | rearm firing | die firing => cases cleared.exited.symm.trans firing
  | shutdown => exact ⟨cleared.exited, cleared.agenda, cleared.armed⟩
  | refuse | miss => exact cleared

end Timer

namespace TimerStride

variable {stride : TimerStride κ}
  (change : stride.before.Advance stride.move stride.deed stride.after)
include change

/-- **What happens to the worker after a shutdown**: nothing, or it looks and exits, or it comes
back from its callback. -/
theorem worker_cases (down : stride.before.isShutdown = true) (sound : ¬ stride.Overflows) :
    stride.after.worker = stride.before.worker ∨
      stride.before.worker = .idle ∧ stride.after.Cleared ∨
      stride.before.isFiring = true ∧ (∃ finished, stride.move = .conclude finished) ∧
        stride.after.worker = .idle := by
  unfold Overflows at sound
  generalize stride.deed = deed at change
  generalize stride.before = before, stride.move = move, stride.after = after at *
  cases change with
  | arm | refuse | overflow | disarm | miss | shutdown => exact .inl rfl
  | exit idle => exact .inr (.inl ⟨idle, before.cleared_exit⟩)
  | wait _ running | fire _ running => cases running.symm.trans down
  | finish firing | rearm firing =>
      refine .inr (.inr ⟨?_, ⟨_, rfl⟩, rfl⟩)
      rw [Timer.isFiring, Timer.firingKey?_of_firing firing, Option.isSome_some]
  | die firing sum => exact absurd ⟨_, _, _, rfl, firing, sum⟩ sound

/-- A worker that looks after a shutdown exits. -/
theorem cleared_of_poll (down : stride.before.isShutdown = true) {now : Instant}
    (polls : stride.move = .poll now) : stride.after.Cleared := by
  rw [polls] at change
  generalize stride.deed = deed at change
  generalize stride.before = before, stride.after = after at *
  cases change with
  | exit => exact before.cleared_exit
  | wait _ running | fire _ running => cases running.symm.trans down

end TimerStride

/-! ## Paths after a shutdown -/

namespace TimerPath

variable {origin timer : Timer κ} {history : TimerHistory κ}

/-- A timer stays shut down. -/
theorem isShutdown (path : TimerPath origin history timer) (down : origin.isShutdown = true) :
    timer.isShutdown = true := by
  induction path with
  | start => exact down
  | step _ moved ih => exact (TimerStride.change moved).isShutdown_iff.mpr (.inl ih)

/-- Every move after a shutdown is made on a timer that is shut down. -/
theorem down_of_mem (path : TimerPath origin history timer) (down : origin.isShutdown = true)
    {stride : TimerStride κ} (member : stride ∈ history) :
    stride.before.isShutdown = true ∧
      stride.before.advance stride.move = some stride.after := by
  obtain ⟨later, earlier, rfl⟩ := List.append_of_mem member
  obtain ⟨before, moved, -⟩ := path.stride
  exact ⟨before.isShutdown down, moved⟩

/-- Nothing comes back after the worker has exited. -/
theorem cleared (path : TimerPath origin history timer) (down : origin.isShutdown = true)
    (cleared : origin.Cleared) : timer.Cleared := by
  induction path with
  | start => exact cleared
  | step path moved ih => exact (TimerStride.change moved).cleared (path.isShutdown down) ih

/-- A worker that was between two callbacks is idle until it exits. -/
theorem idle_or_cleared (path : TimerPath origin history timer) (down : origin.isShutdown = true)
    (idle : origin.worker = .idle) (sound : ∀ stride ∈ history, ¬ stride.Overflows) :
    timer.worker = .idle ∨ timer.Cleared := by
  induction path with
  | start => exact .inl idle
  | @step _ stride path moved ih =>
      obtain ⟨sound, earlier⟩ := List.forall_mem_cons.mp sound
      have change := stride.change moved
      have down := path.isShutdown down
      rcases ih earlier with idle | cleared
      · rcases stride.worker_cases change down sound with same | ⟨-, cleared⟩ | ⟨-, -, back⟩
        · exact .inl (same.trans idle)
        · exact .inr cleared
        · exact .inl back
      · exact .inr (change.cleared down cleared)

/-- A worker that was in a callback is in it until it comes back, and is idle from then on until it
exits. -/
theorem firing_or_idle_or_cleared (path : TimerPath origin history timer)
    (down : origin.isShutdown = true) (sound : ∀ stride ∈ history, ¬ stride.Overflows) :
    timer.worker = origin.worker ∨ timer.worker = .idle ∨ timer.Cleared := by
  induction path with
  | start => exact .inl rfl
  | @step _ stride path moved ih =>
      obtain ⟨sound, earlier⟩ := List.forall_mem_cons.mp sound
      have change := stride.change moved
      have down := path.isShutdown down
      rcases stride.worker_cases change down sound with same | ⟨-, cleared⟩ | ⟨-, -, back⟩
      · rcases ih earlier with firing | idle | cleared
        · exact .inl (same.trans firing)
        · exact .inr (.inl (same.trans idle))
        · exact .inr (.inr (change.cleared down cleared))
      · exact .inr (.inr cleared)
      · exact .inr (.inl back)

/-- The worker of a seamless history is in its callback, or has just come back from it, or has
exited. -/
theorem firing_or_back_or_cleared (path : TimerPath origin history timer)
    (down : origin.isShutdown = true) (sound : ∀ stride ∈ history, ¬ stride.Overflows)
    (seamless : history.Seamless) :
    timer.worker = origin.worker ∨
      (∃ latest ∈ history.head?, ∃ finished, latest.move = .conclude finished) ∨ timer.Cleared := by
  induction path with
  | start => exact .inl rfl
  | @step _ stride path moved ih =>
      obtain ⟨sound, earlier⟩ := List.forall_mem_cons.mp sound
      obtain ⟨follows, seamless⟩ := List.isChain_cons.mp seamless
      have change := stride.change moved
      have down := path.isShutdown down
      rcases ih earlier seamless with firing | ⟨latest, front, finished, concludes⟩ | cleared
      · rcases stride.worker_cases change down sound with same | ⟨-, cleared⟩ | ⟨-, back, -⟩
        · exact .inl (same.trans firing)
        · exact .inr (.inr cleared)
        · exact .inr (.inl ⟨stride, rfl, back⟩)
      · -- The worker has not given up the lock: this move is its look.
        obtain ⟨now, polls⟩ := follows latest front finished concludes
        exact .inr (.inr (stride.cleared_of_poll change down polls))
      · exact .inr (.inr (change.cleared down cleared))

end TimerPath

/-- Without a callback in flight the worker of a timer in use is idle. -/
theorem TimerRun.idle_of_grounded {history : TimerHistory κ} {timer : Timer κ}
    (run : TimerRun history timer) (running : timer.isShutdown = false)
    (grounded : timer.isFiring = false) (sound : ∀ stride ∈ history, ¬ stride.Overflows) :
    timer.worker = .idle := by
  have alive : ¬ timer.workerEnded = true := by
    rw [run.workerEnded_iff running]
    rintro ⟨stride, member, overflows⟩
    exact sound stride member overflows
  cases worker : timer.worker with
  | idle => rfl
  | firing => simp [Timer.isFiring, Timer.firingKey?, worker] at grounded
  | exited | died => simp [Timer.workerEnded, worker] at alive

/-! ## What comes of a shutdown -/

/-- What comes of the shutdown `stride` when the moves of `later` have led on to the state
`timer`. -/
structure Closure (later : TimerHistory κ) (stride : TimerStride κ) (timer : Timer κ) : Prop where
  /-- No callback starts. -/
  silent : ∀ other ∈ later, ∀ appointment cadence, other.deed ≠ .fire appointment cadence
  /-- Every entry is refused, and the timer stays as it is. -/
  refused : ∀ other ∈ later, ∀ now delay cadence callback,
    other.move = .arm now delay cadence callback →
    (other.before.arm now delay cadence callback).1 = .refused ∧ other.after = other.before
  /-- Another shutdown returns at once, and the timer stays as it is. -/
  repeated : ∀ other ∈ later, other.move = .shutdown →
    other.before.shutdown.1 = .repeated ∧ other.after.releases .repeated = true ∧
      other.after = other.before
  /-- If no callback is in flight, the worker exits at its next look, and the call returns when it
  has.  Nothing is left then. -/
  joins : stride.before.isFiring = false → stride.before.shutdown.1 = .joining ∧
    (timer.worker = .idle ∧ (∀ now, (timer.poll now).2.Cleared) ∨ timer.Cleared) ∧
    (timer.releases .joining = true → timer.Cleared)
  /-- If a callback is in flight, the call returns at once.  The worker stays in that callback, and
  exits at its first look after it. -/
  detaches : stride.before.isFiring = true → stride.before.shutdown.1 = .detached ∧
    stride.after.releases .detached = true ∧
    (timer.worker = stride.before.worker ∨
      timer.worker = .idle ∧ (∀ now, (timer.poll now).2.Cleared) ∨ timer.Cleared)
  /-- The worker does not give up the lock in between.  Whoever gets the lock finds it in that
  callback, or finds nothing left. -/
  returns : stride.before.isFiring = true → later.Seamless →
    (∀ latest ∈ later.head?, ∀ finished, latest.move ≠ .conclude finished) →
    timer.worker = stride.before.worker ∨ timer.Cleared
  /-- Nothing comes back. -/
  stays : ∀ between other before, later = between ++ other :: before → other.after.Cleared →
    timer.Cleared

/-- **A shutdown stops the timer**, whatever else is done to it in the meantime. -/
theorem closure_of_shutdown {later earlier : TimerHistory κ} {stride : TimerStride κ}
    {timer : Timer κ} (run : TimerRun (later ++ stride :: earlier) timer)
    (shuts : stride.move = .shutdown) (first : stride.before.isShutdown = false)
    (all : ∀ other ∈ later ++ stride :: earlier, ¬ other.Overflows) :
    Closure later stride timer := by
  obtain ⟨before, moved, path⟩ := TimerPath.stride run
  rw [shuts] at moved
  have after : stride.after = { stride.before with isShutdown := true } :=
    (Option.some.inj moved).symm.trans (congrArg Prod.snd (Timer.shutdown_of_running first))
  have answer := congrArg Prod.fst (Timer.shutdown_of_running first)
  have down : stride.after.isShutdown = true := by rw [after]
  have sound : ∀ other ∈ later, ¬ other.Overflows :=
    fun other member => all other (List.mem_append_left _ member)
  have exits : timer.worker = .idle → ∀ now, (timer.poll now).2.Cleared := by
    intro idle now
    rw [Timer.poll_of_idle (path.isShutdown down) idle now]
    exact timer.cleared_exit
  refine
    { silent := ?_, refused := ?_, repeated := ?_, joins := ?_, detaches := ?_, returns := ?_,
      stays := ?_ }
  · intro other member
    obtain ⟨down, moved⟩ := path.down_of_mem down member
    exact (other.change moved).ne_fire down
  · intro other member now delay cadence callback arms
    obtain ⟨down, moved⟩ := path.down_of_mem down member
    have refused := Timer.arm_of_isShutdown down now delay cadence callback
    rw [arms] at moved
    exact ⟨congrArg Prod.fst refused,
      (Option.some.inj moved).symm.trans (congrArg Prod.snd refused)⟩
  · intro other member shuts
    obtain ⟨down, moved⟩ := path.down_of_mem down member
    have repeated := Timer.shutdown_of_isShutdown down
    rw [shuts] at moved
    exact ⟨congrArg Prod.fst repeated, rfl,
      (Option.some.inj moved).symm.trans (congrArg Prod.snd repeated)⟩
  · intro grounded
    rw [grounded] at answer
    have idle := TimerRun.idle_of_grounded before first grounded fun other member =>
      all other (List.mem_append_right _ (List.mem_cons_of_mem _ member))
    have outcome := path.idle_or_cleared down (by rw [after, idle]) sound
    refine ⟨answer, outcome.imp_left fun idle => ⟨idle, exits idle⟩, fun ended => ?_⟩
    refine outcome.resolve_left fun idle => ?_
    simp [Timer.releases, Timer.workerEnded, idle] at ended
  · intro flies
    rw [flies] at answer
    refine ⟨answer, rfl, ?_⟩
    rcases path.firing_or_idle_or_cleared down sound with same | idle | cleared
    · exact .inl (by rw [same, after])
    · exact .inr (.inl ⟨idle, exits idle⟩)
    · exact .inr (.inr cleared)
  · intro _ seamless visible
    rcases path.firing_or_back_or_cleared down sound seamless with same | ⟨latest, front, back⟩ |
      cleared
    · exact .inl (by rw [same, after])
    · obtain ⟨finished, concludes⟩ := back
      exact absurd concludes (visible latest front finished)
    · exact .inr cleared
  · rintro between other before rfl cleared
    obtain ⟨earlier, moved, path⟩ := path.stride
    exact path.cleared ((earlier.step moved).isShutdown down) cleared

/-- The moves of a periodic entry whose callback is in flight while two threads ask for a shutdown
and a third one arms an entry. -/
def intrudedMoves : List (TimerMove Unit) :=
  [.arm ⟨0⟩ ⟨5⟩ (.fixedRate ⟨10⟩) (), .arm ⟨0⟩ ⟨9⟩ .once (), .poll ⟨5⟩, .shutdown,
    .arm ⟨6⟩ ⟨0⟩ .once (), .shutdown, .conclude ⟨9⟩, .poll ⟨9⟩]

theorem intrudedMoves_within : ∀ move ∈ intrudedMoves, move.Within ⟨9⟩ := by
  simp [intrudedMoves, TimerMove.Within, Cadence.period?, Instant.limit, Duration.nanosPerSecond]

/-- After `intrudedMoves` nothing is pending, although the periodic entry has got its next
appointment. -/
theorem closure_of_intruded : ∃ (later earlier : TimerHistory Unit) (stride : TimerStride Unit)
    (timer : Timer Unit), TimerRun (later ++ stride :: earlier) timer ∧ stride.move = .shutdown ∧
      stride.before.isShutdown = false ∧ stride.before.isFiring = true ∧
      (∀ other ∈ later ++ stride :: earlier, ¬ other.Overflows) ∧
      Closure later stride timer ∧ timer.pending = 0 := by
  obtain ⟨look, back, again, refused, stride, fire, second, first, timer, played, shuts, running,
      flies, polls, concludes, others, ended⟩ :
      ∃ look back again refused stride fire second first timer,
        (Timer.start : Timer Unit).play intrudedMoves =
          some ([look, back, again, refused] ++ stride :: [fire, second, first], timer) ∧
        stride.move = .shutdown ∧ stride.before.isShutdown = false ∧
        stride.before.isFiring = true ∧ look.move = .poll ⟨9⟩ ∧ back.move = .conclude ⟨9⟩ ∧
        (again.move = .shutdown ∧ refused.move = .arm ⟨6⟩ ⟨0⟩ .once ()) ∧
        timer.worker ≠ stride.before.worker :=
    ⟨_, _, _, _, _, _, _, _, _, rfl, rfl, rfl, rfl, rfl, rfl, ⟨rfl, rfl⟩, by decide⟩
  have run := TimerRun.of_play played
  have sound := run.not_overflows fun other member =>
    intrudedMoves_within other.move (Timer.move_mem_of_play played member)
  have closure := closure_of_shutdown run shuts running sound
  have seamless : TimerHistory.Seamless [look, back, again, refused] := by
    refine .cons_cons (fun _ _ => ⟨⟨9⟩, polls⟩) (.cons_cons ?_ (.cons_cons ?_ (.singleton _)))
    · simp [others.1]
    · simp [others.2]
  have cleared := (closure.returns flies seamless (by simp [polls])).resolve_left ended
  exact ⟨_, _, stride, timer, run, shuts, running, flies, sound, closure, cleared.pending⟩

end TaskBarrier
