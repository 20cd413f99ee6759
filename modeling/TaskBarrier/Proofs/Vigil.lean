import Mathlib.Algebra.Order.Floor.Div
import TaskBarrier.Proofs.Station

/-!
# The wait of an await

Once the hold queue is empty, an await looks whether anything is outstanding, sleeps for a poll
interval or until its deadline, and looks again.  This module is about that loop: how long each
sleep is, how many there are, and what the look that ends the loop has seen.

Nothing is known about the barrier from one look to the next.  Other threads may have accepted tasks
and finished them, so what the looks see as outstanding is any sequence of numbers.  What carries
the argument is the clock, and the bound that the settings put on the poll interval: a sleep that
nobody cuts short takes a poll interval, unless it is the last one.

## Main Definitions

* `Vigil`: what stays the same during the wait of an await.
* `Vigil.Looks`: the looks of a vigil, whatever happens between them.
* `Stride.isEarly`, `History.wokenEarly`: looks of a waiter that was woken early.
* `Vigil.Judged`: what a look comes to.

The main statements are `vigil_ends`, and `Path.looks`: what a waiting thread does on any path are
the looks of a vigil.

### The two design decisions

**Between two looks everything may change.**  A vigil is no path.  Each look is made in a state of
its own, of which nothing is asked but that the thread still waits and that the settings are the
same.

**A waiter is woken early if it looks before it meant to.**  Whether somebody has woken it, or it
woke for no reason, makes no difference to the loop.  A waiter that was woken, and comes to look
only when its time is over, loses nothing by it and is not counted.
-/

namespace TaskBarrier

variable {ν : Type}

/-! ## Settings -/

/-- **The poll interval is never below a millisecond**, whatever the settings were changed to. -/
theorem Config.leastPollInterval_le_ofSettings (changes : List Setting) :
    leastPollInterval.nanos ≤ (Config.ofSettings changes).pollInterval.nanos := by
  -- The induction is from the last change, which is the one that decides if it sets the interval.
  induction changes using List.reverseRecOn with
  | nil => decide
  | append_singleton changes change ih =>
      rw [ofSettings, List.foldl_append, List.foldl_cons, List.foldl_nil]
      cases change with
      | pollInterval interval => exact leastPollInterval_le_withPollInterval _ interval
      | awaitBudget | threadName => exact ih

/-! ## Looks -/

/-- When the await on top of a stack means to look again, if it waits. -/
def Stack.wake? : Stack ν → Option Instant
  | .awaiting _ _ (.waiting _ wake) :: _ => some wake
  | _ => none

/-- Whether a waiter looks before it meant to. -/
def Stride.isEarly (look : Stride ν) : Bool :=
  (look.before.stack look.thread).wake?.any look.now.before

/-- Whether a thread sleeps after the step. -/
def Stride.sleeps (look : Stride ν) : Bool :=
  (look.turn.scheduler.stack look.thread).wake?.isSome

namespace History

/-- How many of the looks were made by a waiter that was woken early. -/
def wokenEarly (looks : History ν) : Nat := looks.countP (·.isEarly)

/-- How many of the looks were followed by a sleep. -/
def sleeps (looks : History ν) : Nat := looks.countP (·.sleeps)

/-- The clock, which showed `began` before, never goes back from one of the looks to the next. -/
def Forwards (began : Instant) (looks : History ν) : Prop :=
  (looks.map (·.now.nanos) ++ [began.nanos]).Pairwise (· ≥ ·)

/-- What the clock has shown last. -/
def reading (began : Instant) : History ν → Instant
  | [] => began
  | look :: _ => look.now

/-- With one more look, the clock has not gone back since the one before. -/
theorem Forwards.of_cons {began : Instant} {look : Stride ν} {looks : History ν}
    (forwards : Forwards began (look :: looks)) :
    (looks.reading began).nanos ≤ look.now.nanos ∧ looks.Forwards began := by
  obtain ⟨latest, before⟩ := List.pairwise_cons.mp forwards
  refine ⟨latest _ ?_, before⟩
  cases looks <;> simp [reading]

end History

/-- What stays the same while an await waits. -/
structure Vigil (ν : Type) extends Await ν where
  deadline : Instant

namespace Vigil

variable {vigil : Vigil ν} {config : Config} {began : Instant}

/-- The stack of a waiter that means to look again at `wake`. -/
def waiting (vigil : Vigil ν) (wake : Instant) : Stack ν :=
  vigil.frames (.waiting vigil.deadline wake)

@[simp] theorem wake?_waiting (vigil : Vigil ν) (wake : Instant) :
    Stack.wake? (vigil.waiting wake) = some wake := rfl

@[simp] theorem waiting_inj {wake wake' : Instant} :
    vigil.waiting wake = vigil.waiting wake' ↔ wake = wake' := by
  simp [waiting, Await.frames]

/-- The given looks, the latest first, were made during a vigil which began at `began`, and have
left the given stack behind. -/
inductive Looks (vigil : Vigil ν) (config : Config) (began : Instant) :
    History ν → Stack ν → Prop
  /-- The waiter has not looked yet. -/
  | begin : Looks vigil config began [] (vigil.waiting began)
  /-- It looks once more, in whatever state the scheduler has come to. -/
  | look {looks : History ν} {wake now : Instant} {s : Scheduler ν} {turn : Turn ν}
      (before : Looks vigil config began looks (vigil.waiting wake))
      (same : s.barrier.config = config) (awaiting : s.stack vigil.thread = vigil.waiting wake)
      (taken : s.step vigil.thread now .proceed = some turn) :
      Looks vigil config began (⟨s, vigil.thread, now, .proceed, turn⟩ :: looks)
        (turn.scheduler.stack vigil.thread)

/-! ## What one look comes to -/

/-- After the look the waiter sleeps for the given time. -/
def Sleeps (vigil : Vigil ν) (look : Stride ν) (time : Duration) : Prop :=
  look.turn.scheduler.stack vigil.thread = vigil.waiting ⟨look.now.nanos + time.nanos⟩

/-- With the look the call has come to an outcome. -/
def ComesTo (vigil : Vigil ν) (look : Stride ν) (outcome : Await.Outcome) : Prop :=
  look.turn.scheduler.stack vigil.thread =
    vigil.frames (.dropping look.before.barrier.dropped outcome .whole)

/-- The await has succeeded with the look. -/
def Succeeds (vigil : Vigil ν) (look : Stride ν) : Prop := vigil.ComesTo look .settled

/-- The await has failed with the look, and tells how many tasks were outstanding. -/
def Fails (vigil : Vigil ν) (look : Stride ν) : Prop :=
  vigil.ComesTo look
    (.timedOut look.before.barrier.outstanding look.before.barrier.config.awaitBudget)

/-- **What a look comes to.**  The three ways exclude each other. -/
structure Judged (vigil : Vigil ν) (look : Stride ν) : Prop where
  /-- The await succeeds if nothing is outstanding, whatever the clock shows. -/
  succeeds_iff : vigil.Succeeds look ↔ look.before.barrier.outstanding = 0
  /-- It fails if something is outstanding, and the deadline has come. -/
  fails_iff : vigil.Fails look ↔
    0 < look.before.barrier.outstanding ∧ vigil.deadline.nanos ≤ look.now.nanos
  /-- Otherwise it sleeps for a poll interval, but not longer than until the deadline. -/
  sleeps_iff : ∀ time, vigil.Sleeps look time ↔
    0 < look.before.barrier.outstanding ∧ look.now.nanos < vigil.deadline.nanos ∧
      time = look.before.barrier.config.pollInterval.shorter (vigil.deadline.since look.now)
  /-- The cycle ends with the look unless it is followed by a sleep. -/
  resets : look.turn.scheduler.barrier =
    if look.sleeps then look.before.barrier else look.before.barrier.reset

/-- A waiter that looks goes on as the barrier tells it. -/
theorem attempt_waiting {s : Scheduler ν} {wake : Instant}
    (awaiting : s.stack vigil.thread = vigil.waiting wake) (now : Instant) :
    s.attempt vigil.thread now .proceed = some (s.proceedWaiting vigil.thread now vigil.start
      vigil.manner vigil.deadline vigil.base) := by
  simp only [Scheduler.attempt, Scheduler.proceed, awaiting, waiting, Await.frames]

/-- A look comes to one of three things. -/
theorem look_cases (vigil : Vigil ν) (s : Scheduler ν) (now : Instant) :
    (s.barrier.outstanding = 0 ∧
      s.proceedWaiting vigil.thread now vigil.start vigil.manner vigil.deadline vigil.base =
        s.turn s.barrier.reset vigil.thread
          (vigil.frames (.dropping s.barrier.dropped .settled .whole)) .working []) ∨
    (0 < s.barrier.outstanding ∧ vigil.deadline.nanos ≤ now.nanos ∧
      s.proceedWaiting vigil.thread now vigil.start vigil.manner vigil.deadline vigil.base =
        s.turn s.barrier.reset vigil.thread
          (vigil.frames (.dropping s.barrier.dropped
            (.timedOut s.barrier.outstanding s.barrier.config.awaitBudget) .whole)) .working
          [.exceededBudget s.barrier.outstanding s.barrier.config.awaitBudget]) ∨
    (0 < s.barrier.outstanding ∧ now.nanos < vigil.deadline.nanos ∧
      s.proceedWaiting vigil.thread now vigil.start vigil.manner vigil.deadline vigil.base =
        s.turn s.barrier vigil.thread
          (vigil.waiting ⟨now.nanos +
            (s.barrier.config.pollInterval.shorter (vigil.deadline.since now)).nanos⟩)
          .working []) := by
  by_cases settled : s.barrier.outstanding = 0
  · refine .inl ⟨settled, ?_⟩
    simp only [Scheduler.proceedWaiting, Barrier.check, if_pos settled]
    rfl
  · have outstanding := Nat.pos_of_ne_zero settled
    by_cases reached : now.reached vigil.deadline = true
    · refine .inr (.inl ⟨outstanding, Instant.reached_iff.mp reached, ?_⟩)
      simp only [Scheduler.proceedWaiting, Barrier.check, if_neg settled, if_pos reached]
      rfl
    · have early := Nat.lt_of_not_le (Instant.reached_iff.not.mp reached)
      refine .inr (.inr ⟨outstanding, early, ?_⟩)
      simp only [Scheduler.proceedWaiting, Barrier.check, if_neg settled, if_neg reached]
      rfl

/-- A call that fails has not succeeded. -/
theorem exit_timedOut_ne (await : Await ν) (remaining : Nat) (budget : Duration) :
    await.exit (.timedOut remaining budget) .whole ≠ await.exit .settled .whole := by
  obtain ⟨thread, start, ⟨strict, unwinding⟩, base⟩ := await
  cases strict <;> cases unwinding <;> nofun

/-- **Every look is judged.** -/
theorem judged {s : Scheduler ν} {wake now : Instant} {turn : Turn ν}
    (awaiting : s.stack vigil.thread = vigil.waiting wake)
    (taken : s.step vigil.thread now .proceed = some turn) :
    vigil.Judged ⟨s, vigil.thread, now, .proceed, turn⟩ := by
  obtain rfl := Option.some.inj
    ((vigil.attempt_waiting awaiting now).symm.trans (Scheduler.attempt_of_step taken))
  have differs := exit_timedOut_ne vigil.toAwait
  rcases vigil.look_cases s now with ⟨settled, eq⟩ | ⟨outstanding, reached, eq⟩ |
    ⟨outstanding, early, eq⟩
  · refine ⟨?_, ?_, fun time => ?_, ?_⟩
    · simp [Succeeds, ComesTo, eq, settled]
    · simp [Fails, ComesTo, eq, settled, Await.frames, (differs _ _).symm]
    · simp [Sleeps, eq, settled, waiting, Await.frames]
    · simp [Stride.sleeps, Stack.wake?, eq, Await.frames]
  · have some := Nat.ne_of_gt outstanding
    refine ⟨?_, ?_, fun time => ?_, ?_⟩
    · simp [Succeeds, ComesTo, eq, some, Await.frames, differs]
    · simp [Fails, ComesTo, eq, outstanding, reached]
    · simp [Sleeps, eq, waiting, Await.frames, Nat.not_lt.mpr reached]
    · simp [Stride.sleeps, Stack.wake?, eq, Await.frames]
  · have some := Nat.ne_of_gt outstanding
    refine ⟨?_, ?_, fun time => ?_, ?_⟩
    · simp [Succeeds, ComesTo, eq, some, waiting, Await.frames]
    · simp [Fails, ComesTo, eq, waiting, early, Await.frames]
    · obtain ⟨nanos⟩ := time
      simp [Sleeps, eq, waiting, Await.frames, outstanding, early, Duration.shorter, eq_comm]
    · simp [Stride.sleeps, Stack.wake?, eq, waiting, Await.frames]

/-- A waiter sleeps after a look unless the await has ended with it. -/
theorem Judged.sleeps_or {look : Stride ν} (judged : vigil.Judged look) :
    (∃ time, vigil.Sleeps look time) ∨ vigil.Succeeds look ∨ vigil.Fails look := by
  rcases Nat.eq_zero_or_pos look.before.barrier.outstanding with settled | outstanding
  · exact .inr (.inl (judged.succeeds_iff.mpr settled))
  · rcases Nat.lt_or_ge look.now.nanos vigil.deadline.nanos with early | reached
    · exact .inl ⟨_, (judged.sleeps_iff _).mpr ⟨outstanding, early, rfl⟩⟩
    · exact .inr (.inr (judged.fails_iff.mpr ⟨outstanding, reached⟩))

/-- A look is followed by a sleep if and only if the waiter means to look again. -/
theorem Judged.sleeps_eq_true_iff {look : Stride ν} (judged : vigil.Judged look)
    (own : look.thread = vigil.thread) :
    look.sleeps = true ↔ ∃ time, vigil.Sleeps look time := by
  unfold Stride.sleeps
  rw [own]
  constructor
  · intro sleeps
    rcases judged.sleeps_or with sleeping | ended | ended
    · exact sleeping
    all_goals
      rw [show look.turn.scheduler.stack vigil.thread = _ from ended] at sleeps
      cases sleeps
  · rintro ⟨time, sleeping⟩
    rw [show look.turn.scheduler.stack vigil.thread = _ from sleeping]
    rfl

/-! ## How often a waiter looks -/

/-- **How far the clock has come** when a waiter has looked a number of times, was woken early for
some of the looks, and means to look again at `wake`: each look but those is a poll interval after
the one before. -/
inductive Pace (poll start deadline : Nat) : (looks early reading wake : Nat) → Prop
  /-- The waiter has not looked yet. -/
  | begun {reading : Nat} (late : start ≤ reading) : Pace poll start deadline 0 0 reading reading
  /-- It has looked, and sleeps. -/
  | asleep {looks early reading : Nat} (before : reading < deadline)
      (paced : start + looks * poll ≤ reading + (early + 1) * poll) :
      Pace poll start deadline looks early reading (reading + min poll (deadline - reading))

namespace Pace

variable {poll start deadline looks early reading wake now : Nat}

/-- One more look before the deadline. -/
theorem look (pace : Pace poll start deadline looks early reading wake) (onward : reading ≤ now)
    (before : now < deadline) :
    Pace poll start deadline (looks + 1) (early + if now < wake then 1 else 0) now
      (now + min poll (deadline - now)) := by
  refine .asleep before ?_
  cases pace with
  | begun late => simp [Nat.not_lt.mpr onward]; omega
  | asleep _ paced =>
      simp only [Nat.add_mul] at paced ⊢
      -- A waiter that was not woken early has slept for a whole interval, as the deadline has not
      -- come yet.
      split <;> omega

/-- The looks that are made before the deadline. -/
theorem looks_le {budget : Nat} (pace : Pace poll start deadline looks early reading wake)
    (positive : 0 < poll) (affords : deadline = start + budget) :
    looks ≤ budget ⌈/⌉ poll + early := by
  cases pace with
  | begun => exact Nat.zero_le _
  | asleep before paced =>
      have whole : budget ≤ poll * (budget ⌈/⌉ poll) := le_smul_ceilDiv positive
      have fewer : looks * poll < (budget ⌈/⌉ poll + early + 1) * poll := by
        rw [Nat.mul_comm poll] at whole
        simp only [Nat.add_mul] at paced ⊢
        omega
      exact Nat.le_of_lt_succ (Nat.lt_of_mul_lt_mul_right fewer)

end Pace

/-- A look is early if the waiter meant to look later. -/
theorem wokenEarly_cons {s : Scheduler ν} {looks : History ν} {now wake : Instant}
    {turn : Turn ν} (awaiting : s.stack vigil.thread = vigil.waiting wake) :
    History.wokenEarly (⟨s, vigil.thread, now, .proceed, turn⟩ :: looks) =
      looks.wokenEarly + if now.nanos < wake.nanos then 1 else 0 := by
  simp [History.wokenEarly, List.countP_cons, Stride.isEarly, awaiting, Instant.before]

/-- **A vigil that goes on keeps its pace**, and all its looks were followed by sleeps. -/
theorem Looks.pace {looks : History ν} {stack : Stack ν}
    (kept : vigil.Looks config began looks stack) (late : vigil.start.nanos ≤ began.nanos)
    (forwards : looks.Forwards began) {wake : Instant} (waits : stack = vigil.waiting wake) :
    (∀ look ∈ looks, look.sleeps = true) ∧
      Pace config.pollInterval.nanos vigil.start.nanos vigil.deadline.nanos looks.length
        looks.wokenEarly (looks.reading began).nanos wake.nanos := by
  induction kept generalizing wake with
  | begin =>
      obtain rfl := waiting_inj.mp waits
      exact ⟨List.forall_mem_nil _, .begun late⟩
  | @look looks woken now s turn before same awaiting taken ih =>
      obtain ⟨onward, forwards⟩ := forwards.of_cons
      obtain ⟨slept, pace⟩ := ih forwards rfl
      have judged := vigil.judged awaiting taken
      have sleeps : (⟨s, vigil.thread, now, .proceed, turn⟩ : Stride ν).sleeps = true := by
        simp [Stride.sleeps, waits]
      obtain ⟨time, sleeping⟩ := (judged.sleeps_eq_true_iff rfl).mp sleeps
      obtain ⟨-, early, rfl⟩ := (judged.sleeps_iff time).mp sleeping
      have wakes : wake.nanos =
          now.nanos + min config.pollInterval.nanos (vigil.deadline.nanos - now.nanos) := by
        have eq : vigil.waiting wake = vigil.waiting _ := waits.symm.trans sleeping
        rw [waiting_inj.mp eq, ← same]
        rfl
      refine ⟨List.forall_mem_cons.mpr ⟨sleeps, slept⟩, ?_⟩
      rw [wokenEarly_cons awaiting, wakes]
      exact pace.look onward early

/-! ## The end of a vigil -/

/-- **How a vigil ends**, and how it goes on until then. -/
structure Ends (vigil : Vigil ν) (config : Config) (looks : History ν) (stack : Stack ν) :
    Prop where
  /-- What comes of a look depends on what is outstanding then, and on the clock. -/
  judged : ∀ look ∈ looks, vigil.Judged look
  /-- A sleep takes some time, and never ends after the deadline. -/
  lengths : ∀ look ∈ looks, ∀ time, vigil.Sleeps look time →
    0 < time.nanos ∧ look.now.nanos + time.nanos ≤ vigil.deadline.nanos
  /-- There are no more sleeps than poll intervals in the budget, but for those that are cut
  short. -/
  sleeps_le : looks.sleeps ≤
    config.awaitBudget.nanos ⌈/⌉ config.pollInterval.nanos + looks.wokenEarly
  /-- The await ends with the first look that is not followed by a sleep. -/
  slept : ∀ last earlier, looks = last :: earlier →
    ∀ look ∈ earlier, ∃ time, vigil.Sleeps look time
  /-- The await has ended when there have been more looks than that. -/
  ended : config.awaitBudget.nanos ⌈/⌉ config.pollInterval.nanos + looks.wokenEarly <
    looks.length → ∃ last earlier, looks = last :: earlier ∧
      (vigil.Succeeds last ∨ vigil.Fails last)
  /-- Until it has ended, the next look can be made in any state and at any time, as soon as the
  lock is free. -/
  goes_on : ∀ wake, stack = vigil.waiting wake → ∀ s : Scheduler ν,
    s.stack vigil.thread = stack → s.lock = none →
    ∀ now, ∃ turn, s.step vigil.thread now .proceed = some turn

/-- All looks of a vigil are made by one thread with one configuration, and each is judged. -/
theorem Looks.forall_mem {looks : History ν} {stack : Stack ν}
    (kept : vigil.Looks config began looks stack) : ∀ look ∈ looks,
      look.thread = vigil.thread ∧ look.before.barrier.config = config ∧ vigil.Judged look := by
  induction kept with
  | begin => exact List.forall_mem_nil _
  | look _ same awaiting taken ih =>
      exact List.forall_mem_cons.mpr ⟨⟨rfl, same, judged awaiting taken⟩, ih⟩

/-- A look that is followed by a sleep leaves the vigil going on. -/
theorem Judged.exists_waiting {look : Stride ν} (judged : vigil.Judged look)
    (own : look.thread = vigil.thread) (sleeps : look.sleeps = true) :
    ∃ wake, look.turn.scheduler.stack vigil.thread = vigil.waiting wake := by
  obtain ⟨time, sleeping⟩ := (judged.sleeps_eq_true_iff own).mp sleeps
  exact ⟨_, sleeping⟩

/-- The length of a sleep that the settings allow. -/
theorem Judged.length {look : Stride ν} {time : Duration} (judged : vigil.Judged look)
    (sleeping : vigil.Sleeps look time)
    (positive : 0 < look.before.barrier.config.pollInterval.nanos) :
    0 < time.nanos ∧ look.now.nanos + time.nanos ≤ vigil.deadline.nanos := by
  obtain ⟨-, early, rfl⟩ := (judged.sleeps_iff time).mp sleeping
  simp only [Duration.shorter, Instant.since]
  omega

/-- All looks of a vigil but the last were followed by sleeps. -/
theorem Looks.slept {last : Stride ν} {earlier : History ν} {stack : Stack ν}
    (kept : vigil.Looks config began (last :: earlier) stack)
    (late : vigil.start.nanos ≤ began.nanos)
    (forwards : History.Forwards began (last :: earlier)) :
    ∀ look ∈ earlier, look.sleeps = true := by
  cases kept with
  | look before => exact (before.pace late forwards.of_cons.2 rfl).1

/-- **There are no more sleeps than poll intervals in the budget**, but for those cut short. -/
theorem Looks.sleeps_le {looks : History ν} {stack : Stack ν}
    (kept : vigil.Looks config began looks stack) (late : vigil.start.nanos ≤ began.nanos)
    (forwards : looks.Forwards began) (positive : 0 < config.pollInterval.nanos)
    (affords : vigil.deadline.nanos = vigil.start.nanos + config.awaitBudget.nanos) :
    looks.sleeps ≤
      config.awaitBudget.nanos ⌈/⌉ config.pollInterval.nanos + looks.wokenEarly := by
  have whole : ∀ wake, stack = vigil.waiting wake → looks.length ≤
      config.awaitBudget.nanos ⌈/⌉ config.pollInterval.nanos + looks.wokenEarly :=
    fun wake waits => (kept.pace late forwards waits).2.looks_le positive affords
  cases kept with
  | begin => exact Nat.zero_le _
  | @look earlier wake now s turn before same awaiting taken =>
      cases sleeps : (⟨s, vigil.thread, now, .proceed, turn⟩ : Stride ν).sleeps with
      | true =>
          obtain ⟨wake, waits⟩ := (judged awaiting taken).exists_waiting rfl sleeps
          exact List.countP_le_length.trans (whole wake waits)
      | false =>
          -- The vigil went on until this look.
          have few := (before.pace late forwards.of_cons.2 rfl).2.looks_le positive affords
          have slept : History.sleeps earlier ≤ earlier.length := List.countP_le_length
          rw [wokenEarly_cons awaiting]
          simp only [History.sleeps, List.countP_cons, sleeps, Bool.false_eq_true, if_false]
            at slept ⊢
          omega

end Vigil

section End

variable {vigil : Vigil ν} {changes : List Setting} {began : Instant} {looks : History ν}
  {stack : Stack ν}

/-- **The wait of an await ends, not early and not late**, whatever the settings were changed to,
whatever is outstanding when the waiter looks, and however often it is woken early. -/
theorem vigil_ends (kept : vigil.Looks (.ofSettings changes) began looks stack)
    (affords : vigil.start.after? (Config.ofSettings changes).awaitBudget = some vigil.deadline)
    (late : vigil.start.nanos ≤ began.nanos) (forwards : looks.Forwards began) :
    vigil.Ends (.ofSettings changes) looks stack := by
  have positive : 0 < (Config.ofSettings changes).pollInterval.nanos :=
    Nat.lt_of_lt_of_le (by decide) (Config.leastPollInterval_le_ofSettings changes)
  have sleeps_le :=
    kept.sleeps_le late forwards positive (Instant.after?_eq_some_iff.mp affords).2
  have known := kept.forall_mem
  refine ⟨fun look member => (known look member).2.2, fun look member time sleeping => ?_,
    sleeps_le, fun last earlier eq look member => ?_, fun many => ?_,
    fun wake waits s top free now =>
      ⟨_, (Scheduler.step_of_free free).trans (vigil.attempt_waiting (top.trans waits) now)⟩⟩
  · obtain ⟨-, same, judged⟩ := known look member
    exact judged.length sleeping (same ▸ positive)
  · subst eq
    obtain ⟨own, -, judged⟩ := known look (.tail _ member)
    exact (judged.sleeps_eq_true_iff own).mp (kept.slept late forwards look member)
  · cases looks with
    | nil => cases many
    | cons last earlier =>
        obtain ⟨own, -, judged⟩ := known last (.head _)
        refine ⟨last, earlier, rfl, judged.sleeps_or.resolve_left fun sleeping => ?_⟩
        -- Otherwise every look was followed by a sleep, and there are too many of them.
        have all : History.sleeps (last :: earlier) = (last :: earlier).length :=
          List.countP_eq_length.mpr (List.forall_mem_cons.mpr
            ⟨(judged.sleeps_eq_true_iff own).mpr sleeping, kept.slept late forwards⟩)
        omega

end End

/-- A vigil of which the last look was followed by a sleep goes on. -/
theorem Vigil.Looks.exists_waiting {vigil : Vigil ν} {config : Config} {began : Instant}
    {looks : History ν} {stack : Stack ν} (kept : vigil.Looks config began looks stack)
    (asleep : ∀ look ∈ looks, look.sleeps = true) : ∃ wake, stack = vigil.waiting wake := by
  cases kept with
  | begin => exact ⟨began, rfl⟩
  | look _ _ awaiting taken =>
      exact (Vigil.judged awaiting taken).exists_waiting rfl (asleep _ (.head _))

/-- **What a waiting thread does on a path are the looks of a vigil**, up to the first that is not
followed by a sleep. -/
theorem Path.looks (vigil : Vigil ν) {began : Instant} {origin s : Scheduler ν}
    {since : History ν} (path : Path origin since s)
    (waits : origin.stack vigil.thread = vigil.waiting began)
    (asleep : ∀ stride ∈ (since.byThread vigil.thread).tail, stride.sleeps = true) :
    vigil.Looks origin.barrier.config began (since.byThread vigil.thread)
      (s.stack vigil.thread) := by
  induction path with
  | start =>
      rw [waits]
      exact .begin
  | @step since middle thread now move turn path taken ih =>
      rw [History.byThread_cons] at asleep ⊢
      by_cases own : thread = vigil.thread
      · subst own
        rw [if_pos rfl] at asleep ⊢
        have asleep : ∀ stride ∈ since.byThread vigil.thread, stride.sleeps = true := asleep
        have kept := ih fun stride member => asleep stride (List.mem_of_mem_tail member)
        obtain ⟨wake, top⟩ := kept.exists_waiting asleep
        have busy : Stack.isUser (middle.stack vigil.thread) = false := by
          rw [top]
          rfl
        obtain rfl := Scheduler.eq_proceed taken busy
        exact .look (top ▸ kept) path.keeps.2.2 top taken
      · rw [if_neg own] at asleep ⊢
        rw [(Scheduler.follows_of_step taken).others vigil.thread (Ne.symm own)]
        exact ih asleep

/-- Settings that allow two milliseconds and ask for a poll interval of none. -/
def hastySettings : List Setting := [.pollInterval .zero, .awaitBudget (.ofMillis 2)]

/-- The moves of an await that waits for a task which does not fire.  The waiter is woken once
before its first sleep is over. -/
def hastyMoves : List (ThreadId × Instant × Move Unit) :=
  [(0, ⟨0⟩, .request (.accept ⟨0⟩ .once false)), (0, ⟨5⟩, .request (.await .plain)),
    (0, ⟨6⟩, .proceed), (0, ⟨7⟩, .proceed), (0, ⟨500⟩, .proceed), (0, ⟨1000500⟩, .proceed),
    (0, ⟨2000005⟩, .proceed)]

/-- The vigil that `hastyMoves` keep. -/
def hastyVigil : Vigil Unit := ⟨⟨0, ⟨5⟩, .plain, []⟩, ⟨2000005⟩⟩

/-- The vigil of `hastyMoves` ends with its fourth look, one sleep having been cut short. -/
theorem vigil_ends_of_hasty : ∃ (earlier looks : History Unit) (origin s : Scheduler Unit),
    Run earlier origin ∧ Path origin looks s ∧ looks.length = 4 ∧ looks.wokenEarly = 1 ∧
      hastyVigil.Looks (.ofSettings hastySettings) ⟨6⟩ looks (s.stack 0) ∧
      hastyVigil.Ends (.ofSettings hastySettings) looks (s.stack 0) := by
  obtain ⟨earlier, origin, looks, s, begun, config, waits, played, readings, own, early, asleep⟩ :
      ∃ (earlier : History Unit) (origin : Scheduler Unit) (looks : History Unit)
        (s : Scheduler Unit),
        (Scheduler.start 0 (.ofSettings hastySettings) (.byHand .empty) none).play
          (hastyMoves.take 3) = some (earlier, origin) ∧
        origin.barrier.config = .ofSettings hastySettings ∧
        origin.stack 0 = hastyVigil.waiting ⟨6⟩ ∧
        origin.play (hastyMoves.drop 3) = some (looks, s) ∧
        looks.map (·.now.nanos) = [2000005, 1000500, 500, 7] ∧
        looks.byThread 0 = looks ∧ looks.wokenEarly = 1 ∧
        looks.tail.all (·.sleeps) = true :=
    ⟨_, _, _, _, rfl, rfl, rfl, rfl, rfl, rfl, rfl, rfl⟩
  have path := Path.of_play played
  have kept := path.looks hastyVigil waits
  rw [show looks.byThread hastyVigil.thread = looks from own, config] at kept
  have kept := kept (List.all_eq_true.mp asleep)
  have four : looks.length = 4 := by simpa using congrArg List.length readings
  refine ⟨earlier, looks, origin, s, .of_play begun, path, four, early, kept, ?_⟩
  refine vigil_ends kept rfl (by decide) ?_
  rw [History.Forwards, readings]
  decide

end TaskBarrier
