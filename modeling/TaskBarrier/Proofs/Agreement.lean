import TaskBarrier.Proofs.Armed
import TaskBarrier.Proofs.Conservation

/-!
# The barrier and its facility agree

The slots of a barrier and the entries of its facility are two records of the same thing, kept in
different places and changed by different hands.  `Armed` has shown that nothing is armed that no
slot stands for.  Here is the other half: nothing that a task still needs is missing.

A task *needs* the entry of its slot if it is a live one-shot task, or a periodic task that is not
doomed.  As long as only the facility calls callbacks, and until it is shut down,

* every entry that a task needs is armed, except for a one-shot entry that has fired and whose
  callback is still in flight;
* so in every state in which no callback is in flight, the armed keys are the needed ones.

In particular whatever a cancel or the end of a cycle leaves armed, and nothing else, is needed by
a task that is still there.

## Main Definitions

* `Task.key?`, `Barrier.key?`: the key of a task's entry.
* `Task.Needs`: the task needs its entry.
* `Scheduler.Manned`: every entry that is needed is armed, or has fired.
* `Agreement`.

The main statement is `facility_agreement`.
-/

namespace TaskBarrier

variable {ν : Type}

/-! ## The entry of a task -/

namespace Task

/-- The key of the entry that fires the task, for as long as the task has a slot. -/
def key? (task : Task ν) : Option TimerKey := task.slot.map (·.key)

/-- The task needs the entry with the given key: it is a periodic task that does not end with the
run in progress, or a one-shot task whose entry has not fired. -/
def Needs (task : Task ν) (key : TimerKey) : Prop :=
  task.key? = some key ∧ if task.periodic then task.isDoomed = false else task.phase = .live

@[simp] theorem key?_setCounted (task : Task ν) (counted : Bool) :
    (task.setCounted counted).key? = task.key? := by
  simp [key?, setCounted, Function.comp_def]

@[simp] theorem key?_setPhase (task : Task ν) (phase : Phase) :
    (task.setPhase phase).key? = task.key? := rfl

@[simp] theorem key?_doom (task : Task ν) : task.doom.key? = task.key? := by
  simp [key?, doom, Function.comp_def]

@[simp] theorem key?_retire (task : Task ν) (phase : Phase) : (task.retire phase).key? = none := rfl

/-- A run leaves a task its entry, or takes it away. -/
theorem key?_afterRun {task : Task ν} {key : TimerKey}
    (has : (Barrier.afterRun task).key? = some key) : task.key? = some key := by
  unfold Barrier.afterRun at has
  split at has
  · cases has
  · split at has
    · exact has
    · cases has

/-- A reset leaves a task its entry, or takes it away. -/
theorem key?_reset {task : Task ν} {key : TimerKey} (has : task.reset.key? = some key) :
    task.key? = some key ∧ task.isDropped = false := by
  unfold reset at has
  split at has
  · cases has
  · next kept =>
    refine ⟨?_, by simpa using kept⟩
    split at has <;> simpa using has

/-- The entry that a reset disarms for a task is that of a live task which it drops. -/
theorem droppedKey?_eq_some_iff {task : Task ν} {key : TimerKey} :
    task.droppedKey? = some key ↔
      task.isDropped = true ∧ task.phase = .live ∧ task.key? = some key := by
  unfold droppedKey?
  split
  · next drops =>
    obtain ⟨isDropped, live⟩ := Bool.and_eq_true_iff.mp drops
    simp [isDropped, eq_of_beq live, key?]
  · next keeps => simp_all

theorem not_needs_retire (task : Task ν) (phase : Phase) (key : TimerKey) :
    ¬ (task.retire phase).Needs key := (nomatch ·.1)

/-- A doomed task needs no entry. -/
theorem not_needs_doom (task : Task ν) (periodic : task.periodic = true) (key : TimerKey) :
    ¬ task.doom.Needs key := by
  rintro ⟨has, undoomed⟩
  rw [key?_doom, key?, Option.map_eq_some_iff] at has
  obtain ⟨slot, has, -⟩ := has
  simp [doom, isDoomed, has, periodic] at undoomed

/-- What a task needs after a change, it has needed before, if the change gives it nothing. -/
theorem Needs.of_change {task task' : Task ν} {key : TimerKey} (needs : task'.Needs key)
    (periodic : task'.periodic = task.periodic)
    (keys : task'.key? = some key → task.key? = some key)
    (doomed : task'.isDoomed = false → task.isDoomed = false)
    (live : task.periodic = false → task'.phase = .live → task.phase = .live) :
    task.Needs key := by
  refine ⟨keys needs.1, ?_⟩
  have rest := needs.2
  rw [periodic] at rest
  cases once : task.periodic with
  | true =>
      rw [once, if_pos rfl] at rest
      rw [if_pos rfl]
      exact doomed rest
  | false =>
      rw [once, if_neg Bool.false_ne_true] at rest
      rw [if_neg Bool.false_ne_true]
      exact live once rest

/-- A one-shot task needs its entry only as long as it is live. -/
theorem Needs.live {task : Task ν} {key : TimerKey} (needs : task.Needs key)
    (once : task.periodic = false) : task.phase = .live := by
  simpa [once] using needs.2

end Task

/-- The key of the entry of the task with the given number. -/
def Barrier.key? (b : Barrier ν) (id : TaskId) : Option TimerKey := (b.task? id).bind (·.key?)

theorem Barrier.key?_of_found {b : Barrier ν} {id : TaskId} {task : Task ν}
    (found : b.task? id = some task) : b.key? id = task.key? := by
  rw [key?, found]
  rfl

namespace Course

variable {id : TaskId} {deed : Deed} {before after : Option (Task ν)}
  {stages stages' : List RunStage}

/-- A task keeps the key that it was accepted with. -/
theorem key? (course : Course id deed before stages after stages') {key : TimerKey}
    (has : after.bind (·.key?) = some key) :
    deed = .accept id ∨ before.bind (·.key?) = some key := by
  cases course with
  | accept => exact .inl rfl
  | finish => exact .inr (by simpa using Task.key?_afterRun has)
  | reset => exact .inr (Task.key?_reset has).1
  | withdraw => cases has
  | @discard task =>
      obtain ⟨body, promise, eq⟩ := task.discard_eq
      rw [eq] at has
      exact .inr has
  | run | hold | replay | doom => exact .inr (by simpa using has)
  | enter | leave | read | keep => exact .inr has
  | absent => cases has

/-- **What a task needs, it has needed before**, from its acceptance on. -/
theorem needs {task' : Task ν} (course : Course id deed before stages (some task') stages')
    {stage : Option RunStage} (fits : Fits before stage) {key : TimerKey}
    (needs : task'.Needs key) : deed = .accept id ∨
      ∃ task, before = some task ∧ task.Needs key ∧ task.periodic = task'.periodic := by
  cases course with
  | accept => exact .inl rfl
  | @run task | @hold task =>
      refine .inr ⟨task, rfl, needs.of_change rfl (by simp) ?_ (fun _ fired => nomatch fired), rfl⟩
      exact fun undoomed => (task.isDoomed_setCounted true).symm.trans undoomed
  | @replay task =>
      exact .inr ⟨task, rfl, needs.of_change rfl (fun has => has) (fun undoomed => undoomed)
        (fun _ fired => nomatch fired), rfl⟩
  | enter | leave | read => exact .inr ⟨_, rfl, needs, rfl⟩
  | @finish task _ running =>
      refine .inr ⟨task, rfl, ?_, (task.setCounted false).periodic_afterRun.symm⟩
      have keys := Task.key?_afterRun needs.1
      unfold Barrier.afterRun at needs
      split at needs
      · exact absurd needs (Task.not_needs_retire _ _ _)
      · next undoomed =>
        split at needs
        · next periodic =>
          have periodic : task.periodic = true := periodic
          refine ⟨by simpa using keys, ?_⟩
          rw [if_pos periodic]
          simpa using undoomed
        · exact absurd needs (Task.not_needs_retire _ _ _)
  | withdraw => exact absurd needs (Task.not_needs_retire _ _ _)
  | @doom task _ running periodic =>
      exact absurd needs (task.not_needs_doom periodic key)
  | @reset _ _ task =>
      have keys := (Task.key?_reset needs.1).1
      rcases fits.of_some.reset_cases with ⟨-, -, -, eq⟩ | ⟨-, -, periodic, eq⟩ | ⟨-, -, -, eq⟩
      · rw [eq] at needs
        exact absurd needs (Task.not_needs_retire _ _ _)
      · refine .inr ⟨task, rfl, ?_, task.periodic_reset.symm⟩
        refine needs.of_change task.periodic_reset (fun _ => keys) ?_ fun once => ?_
        · rw [eq]
          exact fun undoomed => (task.isDoomed_setCounted false).symm.trans undoomed
        · rw [periodic] at once
          cases once
      · refine .inr ⟨task, rfl, ?_, task.periodic_reset.symm⟩
        refine needs.of_change task.periodic_reset (fun _ => keys) ?_ fun _ => ?_
        · rw [eq, Task.isDoomed_setCounted]
          exact fun undoomed => undoomed
        · rw [eq]
          exact fun live => live
  | @discard task =>
      obtain ⟨body, promise, eq⟩ := task.discard_eq
      rw [eq] at needs ⊢
      exact .inr ⟨task, rfl, needs, rfl⟩
  | keep => exact .inr ⟨_, rfl, needs, rfl⟩

/-- A cancel that is not too late leaves a task without need of its entry. -/
theorem not_needs_of_cancel {answer : Cancellation} {task' : Task ν}
    (course : Course id (.cancel id answer) before stages (some task') stages')
    (inTime : answer ≠ .tooLate) (key : TimerKey) : ¬ task'.Needs key := by
  cases course with
  | withdraw => exact Task.not_needs_retire _ _ _
  | doom _ periodic => exact Task.not_needs_doom _ periodic key
  | keep apart => cases answer <;> simp_all [Deed.concerns]

/-- What a task needs after a reset, it has not been dropped by that reset. -/
theorem isDropped_of_needs {ending : Ending} {dropped : List TaskId} {task task' : Task ν}
    (course : Course id (.reset ending dropped) (some task) stages (some task') stages')
    {key : TimerKey} (needs : task'.Needs key) : task.isDropped = false := by
  cases course with
  | reset => exact (Task.key?_reset needs.1).2
  | keep apart => cases apart

end Course

/-! ## What a step takes away -/

/-- An accept that succeeds arms an entry under the next key, which it uses up. -/
theorem Barrier.nextKey_accept {b : Barrier ν} {now : Instant} {delay : Duration}
    {cadence : Cadence} {produces : Bool} {id : TaskId}
    (answer : (b.accept now delay cadence produces).answer = .accepted id) :
    (b.accept now delay cadence produces).barrier.facility.nextKey = b.facility.nextKey.next := by
  unfold accept at answer ⊢
  by_cases degenerate : cadence.isDegenerate = true
  · simp [degenerate] at answer
  · cases arming : b.facility.arm now delay cadence b.nextId with
    | mk reply facility =>
        cases reply with
        | armed key =>
            have drawn : (b.facility.arm now delay cadence b.nextId).2.nextKey =
              b.facility.nextKey.next := Facility.nextKey_arm (by rw [arming])
            simp only [degenerate, Bool.false_eq_true, if_false, arming] at drawn ⊢
            exact drawn
        | refused => simp [degenerate, arming] at answer
        | overflow => simp [degenerate, arming] at answer

namespace Upkeep

variable {b b' : Barrier ν} {move : Move ν} {deed : Deed} {called : List TaskId}

/-- No step takes back a key or a shutdown. -/
theorem later (upkeep : Upkeep b move deed b' called) : b.facility.Later b'.facility := by
  cases upkeep with
  | rest _ same | call same => exact same ▸ .refl _
  | accept | decline =>
      rcases b.facility_accept _ _ _ _ with same | armed
      · exact same ▸ .refl _
      · exact armed ▸ b.facility.later_arm ..
  | fire byHand fires fired =>
      rw [byHand, fired]
      exact Facility.later_fire? fires
  | @cancel _ id =>
      rcases b.facility_cancel id with ⟨-, same⟩ | ⟨-, task, slot, -, -, disarmed⟩
      · exact same ▸ .refl _
      · exact disarmed ▸ b.facility.later_disarm slot.key
  | shutdown down => exact down ▸ b.facility.later_shutdown
  | reset => exact b.facility.later_disarms _
  | poll byClock looks looked =>
      rw [byClock, looked]
      exact Prod.mk.inj looks |>.2 ▸ Facility.later_poll ..
  | conclude byClock concluded =>
      rw [byClock, concluded]
      exact Facility.later_conclude ..

/-- **How an entry is lost**: by a shutdown, by its own firing, or with the task that it is the
entry of, which is cancelled or dropped. -/
theorem entries_kept (upkeep : Upkeep b move deed b' called) {entry : Entry TaskId}
    (member : entry ∈ b.facility.entries) : entry ∈ b'.facility.entries ∨
      b'.facility.isShutdown = true ∨
      (∃ fired ∈ b.facility.entries, fired.callback ∈ called ∧ fired.periodic = false ∧
        fired.key = entry.key) ∨
      (∃ id answer, deed = .cancel id answer ∧ answer ≠ .tooLate ∧ b.key? id = some entry.key) ∨
      (∃ ending dropped, deed = .reset ending dropped ∧
        ∃ task ∈ b.tasks, task.droppedKey? = some entry.key) := by
  have taken : ∀ {fired}, b.facility.Fires b'.facility fired → fired.callback ∈ called →
      entry ∈ b'.facility.entries ∨ ∃ fired ∈ b.facility.entries, fired.callback ∈ called ∧
        fired.periodic = false ∧ fired.key = entry.key := by
    intro fired fires calls
    by_cases own : fired.periodic = false ∧ fired.key = entry.key
    · exact .inr ⟨fired, fires.listed, calls, own.1, own.2⟩
    · exact .inl ((fires.mem_iff entry).mpr ⟨member, fun once same => own ⟨once, same.symm⟩⟩)
  cases upkeep with
  | rest _ same | call same => exact .inl (same ▸ member)
  | accept answer =>
      rw [(Barrier.accept_of_armed answer).2]
      exact .inl (List.mem_append_left _ member)
  | decline fails =>
      rw [Barrier.entries_of_fails fails]
      exact .inl member
  | fire byHand fires fired =>
      obtain ⟨own, taking, rfl⟩ := Facility.of_fire? fires
      rw [← byHand, ← fired] at taking
      exact (taken taking List.mem_cons_self).imp_right fun fired => .inr (.inl fired)
  | @cancel _ id =>
      rcases b.facility_cancel id with ⟨-, same⟩ | ⟨inTime, task, slot, found, has, disarmed⟩
      · exact .inl (same ▸ member)
      · by_cases own : entry.key = slot.key
        · refine .inr (.inr (.inr (.inl ⟨id, _, rfl, inTime, ?_⟩)))
          rw [Barrier.key?_of_found found, Task.key?, has, own]
          rfl
        · rw [disarmed]
          exact .inl (Facility.mem_entries_disarm.mpr ⟨member, own⟩)
  | shutdown down =>
      rw [down]
      exact .inr (.inl (Facility.isShutdown_shutdown _))
  | reset =>
      by_cases drops : entry.key ∈ b.tasks.filterMap (·.droppedKey?)
      · exact .inr (.inr (.inr (.inr ⟨_, _, rfl, List.mem_filterMap.mp drops⟩)))
      · exact .inl (Barrier.mem_entries_reset.mpr ⟨member, drops⟩)
  | poll byClock looks looked =>
      rw [byClock] at member
      rcases Facility.of_poll looks with ⟨-, same | ⟨down, -⟩⟩ | ⟨own, taking, callback⟩
      · rw [looked, same]
        exact .inl member
      · refine .inr (.inl ?_)
        rw [looked]
        exact (Prod.mk.inj looks |>.2 ▸ Facility.later_poll ..).isShutdown down
      · rw [← byClock, ← looked] at taking
        rw [← byClock] at member
        refine (taken taking ?_).imp_right fun fired => .inr (.inl fired)
        rw [callback]
        exact List.mem_cons_self
  | conclude byClock concluded =>
      rw [concluded]
      rw [byClock] at member
      simp only [Facility.entries, Timer.entries_conclude]
      exact .inl member

end Upkeep

/-! ## Every entry that is needed is armed -/

/-- A decision about a call is made about a callback in flight, and after it a one-shot task needs
its entry no more. -/
theorem Scheduler.Sound.not_needs_of_call {s s' : Scheduler ν} {thread : ThreadId} {id : TaskId}
    {firing : Firing} (sound : s.Sound) (follows : s.Follows thread (.call id firing) s')
    {task : Task ν} (found : s'.barrier.task? id = some task) (once : task.periodic = false)
    (key : TimerKey) : ¬ task.Needs key := by
  intro needs
  obtain ⟨rfl, fired⟩ := follows.transition.of_call
  have live : s'.barrier.phase? id = some .live := by
    rw [Barrier.phase?, found, Option.map_some, needs.live once]
  have holds := sound.verdict_holds id
  rw [← fired] at holds
  generalize (s.barrier.fire id).answer.verdict = verdict at holds
  cases verdict with
  | ignored =>
      obtain ⟨unslotted, same⟩ := holds
      rw [same] at found
      have has := needs.1
      rw [Task.key?, Barrier.slotted?_eq_none_iff.mp unslotted task found] at has
      cases has
  | coalesced =>
      obtain ⟨same, before, slot, has, waiting⟩ := holds
      obtain ⟨found', -⟩ := Barrier.slotted?_eq_some_iff.mp has
      rw [same, found'] at found
      obtain rfl := Option.some.inj found
      rw [needs.live once] at waiting
      simp at waiting
  | admitted =>
      have moved := holds.1
      rw [live] at moved
      split at moved <;> cases moved

namespace Scheduler

/-- **Everything that is needed is there**: entries have keys of their own, and every entry that a
task needs is armed, unless it is a one-shot entry that has fired and whose callback is in
flight. -/
structure Manned (s : Scheduler ν) : Prop where
  keyed : ∀ {id key}, s.barrier.key? id = some key →
    key.number < s.barrier.facility.nextKey.number
  distinct : ∀ {id other key}, s.barrier.key? id = some key → s.barrier.key? other = some key →
    id = other
  /-- A scheduler that has been dropped has shut its facility down. -/
  dropped : s.dropped = true → s.barrier.facility.isShutdown = true
  armed : s.barrier.facility.isShutdown = false → ∀ {id task key},
    s.barrier.task? id = some task → task.Needs key →
      (∃ entry ∈ s.barrier.facility.entries, entry.key = key) ∨
        (task.periodic = false ∧ ∃ thread, id ∈ Stack.called (s.stack thread))

theorem Manned.start (number : Nat) (config : Config) (facility : Facility TaskId)
    (worker : Option ThreadId) : (start number config facility worker : Scheduler ν).Manned where
  keyed := fun has => absurd has (Option.some_ne_none _).symm
  distinct := fun has => absurd has (Option.some_ne_none _).symm
  dropped := fun dropped => absurd dropped Bool.false_ne_true
  armed := fun _ _ _ _ found => absurd found (Option.some_ne_none _).symm

section Step

variable {s s' : Scheduler ν} {thread : ThreadId} {move : Move ν} {deed : Deed}
  {called : List TaskId}

/-- The task that a step accepts, as it is found after the step. -/
theorem task?_of_accept (sound : s.Sound) {id : TaskId}
    (upkeep : Upkeep s.barrier move (.accept id) s'.barrier called) :
    ∃ periodic produces, id = s.barrier.nextId ∧
      s'.barrier.task? id =
        some (.accepted id periodic s.barrier.facility.nextKey produces) ∧
      s'.barrier.facility.nextKey = s.barrier.facility.nextKey.next ∧
      ⟨s.barrier.facility.nextKey, id, periodic⟩ ∈ s'.barrier.facility.entries := by
  generalize after : s'.barrier = b' at upkeep
  cases upkeep with
  | rest apart => cases apart
  | @accept _ _ _ cadence produces _ answer =>
      obtain ⟨tasks, entries⟩ := Barrier.accept_of_armed answer
      obtain ⟨rfl, -⟩ := Barrier.accept_of_accepted answer
      refine ⟨cadence.isPeriodic, produces, rfl, sound.coherent.task?_of_append rfl tasks,
        Barrier.nextKey_accept answer, ?_⟩
      rw [entries]
      exact List.mem_append_right _ (List.mem_singleton_self _)

/-- A key that a task has after a step it has had before, or it is new. -/
theorem key?_step (sound : s.Sound) (follows : s.Follows thread deed s')
    (upkeep : Upkeep s.barrier move deed s'.barrier called) {id : TaskId} {key : TimerKey}
    (has : s'.barrier.key? id = some key) : s.barrier.key? id = some key ∨
      (id = s.barrier.nextId ∧ key = s.barrier.facility.nextKey ∧
        s'.barrier.facility.nextKey = s.barrier.facility.nextKey.next) := by
  rcases (sound.course follows id).key? has with rfl | old
  · obtain ⟨periodic, produces, rfl, found, drawn, -⟩ := task?_of_accept sound upkeep
    rw [Barrier.key?_of_found found] at has
    exact .inr ⟨rfl, (Option.some.inj has).symm, drawn⟩
  · exact .inl old

/-- **Every task has an entry of its own.** -/
structure Keyed (s : Scheduler ν) : Prop where
  drawn : ∀ {id key}, s.barrier.key? id = some key → key.number < s.barrier.facility.nextKey.number
  distinct : ∀ {id other key}, s.barrier.key? id = some key → s.barrier.key? other = some key →
    id = other

/-- No step gives two tasks the same entry. -/
theorem Keyed.step (keyed : s.Keyed) (sound : s.Sound) (follows : s.Follows thread deed s')
    (upkeep : Upkeep s.barrier move deed s'.barrier called) : s'.Keyed where
  drawn := by
    intro id key has
    rcases key?_step sound follows upkeep has with old | ⟨-, rfl, drawn⟩
    · exact Nat.lt_of_lt_of_le (keyed.drawn old) upkeep.later.nextKey
    · rw [drawn]
      exact Nat.lt_succ_self _
  distinct := by
    intro id other key has has'
    rcases key?_step sound follows upkeep has with old | ⟨rfl, rfl, -⟩
    · rcases key?_step sound follows upkeep has' with old' | ⟨rfl, rfl, -⟩
      · exact keyed.distinct old old'
      · exact absurd (keyed.drawn old) (Nat.lt_irrefl _)
    · rcases key?_step sound follows upkeep has' with old' | ⟨rfl, -, -⟩
      · exact absurd (keyed.drawn old') (Nat.lt_irrefl _)
      · rfl

/-- A callback in flight stays there, or is decided about. -/
theorem Flies.stays (flies : s.Flies thread move deed called s')
    (others : ∀ other, other ≠ thread → s'.stack other = s.stack other) {id : TaskId}
    (flying : id ∈ s.heard called ∨ ∃ any, id ∈ Stack.called (s.stack any)) :
    (∃ firing, deed = .call id firing) ∨ ∃ any, id ∈ Stack.called (s'.stack any) := by
  have own : id ∈ s.heard called ++ Stack.called (s.stack thread) →
      (∃ firing, deed = .call id firing) ∨ ∃ any, id ∈ Stack.called (s'.stack any) := by
    intro flying
    rw [← flies.flight] at flying
    rcases List.mem_append.mp flying with decided | stays
    · refine .inl ?_
      cases deed with
      | call other firing =>
          obtain rfl := List.mem_singleton.mp decided
          exact ⟨firing, rfl⟩
      | _ => cases decided
    · exact .inr ⟨thread, stays⟩
  rcases flying with called | ⟨any, flying⟩
  · exact own (List.mem_append_left _ called)
  · by_cases here : any = thread
    · subst here
      exact own (List.mem_append_right _ flying)
    · exact .inr ⟨any, (others any here) ▸ flying⟩

/-- A one-shot entry is fired for the task that has its key. -/
theorem Backed.of_key (backed : s.Backed) (manned : s.Manned) {entry : Entry TaskId}
    (listed : entry ∈ s.barrier.facility.entries) {id : TaskId}
    (has : s.barrier.key? id = some entry.key) :
    entry.callback = id ∧ ∃ task, s.barrier.task? id = some task ∧ entry.Backs task := by
  obtain ⟨task, found, backs⟩ := backed.entries entry listed
  obtain ⟨slot, slotted, key, -⟩ := backs.slotted
  have own : s.barrier.key? entry.callback = some entry.key := by
    rw [Barrier.key?_of_found found, Task.key?, slotted, ← key]
    rfl
  obtain rfl := manned.distinct own has
  exact ⟨rfl, task, found, backs⟩

/-- **An entry that is needed stays armed through every step**, or its callback is in flight. -/
theorem Manned.armed_step (manned : s.Manned) (backed : s.Backed) (sound : s.Sound)
    (follows : s.Follows thread deed s') (flies : s.Flies thread move deed called s')
    (running : s'.barrier.facility.isShutdown = false) {id : TaskId} {task' : Task ν}
    {key : TimerKey} (found' : s'.barrier.task? id = some task') (needs' : task'.Needs key) :
    (∃ entry ∈ s'.barrier.facility.entries, entry.key = key) ∨
      (task'.periodic = false ∧ ∃ thread, id ∈ Stack.called (s'.stack thread)) := by
  have up : s.barrier.facility.isShutdown = false := by
    by_contra down
    rw [flies.upkeep.later.isShutdown (by simpa using down)] at running
    cases running
  have alive : s.isAlive = true := by
    have owned : s.dropped = false := by
      by_contra dropped
      rw [manned.dropped (by simpa using dropped)] at up
      cases up
    simp [isAlive, owned]
  have heard : s.heard called = called := by simp [Scheduler.heard, alive]
  -- A callback in flight may be decided about in this step, but then the entry is not needed.
  have flying : task'.periodic = false →
      (id ∈ s.heard called ∨ ∃ any, id ∈ Stack.called (s.stack any)) →
      ∃ any, id ∈ Stack.called (s'.stack any) := by
    intro once flying
    rcases flies.stays follows.others flying with ⟨firing, rfl⟩ | stays
    · exact absurd needs' (sound.not_needs_of_call follows found' once key)
    · exact stays
  obtain ⟨stage, -, fits⟩ := sound.staged id
  have course := sound.course follows id
  rw [found'] at course
  rcases course.needs fits needs' with rfl | ⟨task, found, needs, periodic⟩
  · obtain ⟨_, _, -, accepted, -, armed⟩ := task?_of_accept sound flies.upkeep
    obtain rfl := Option.some.inj (found'.symm.trans accepted)
    exact .inl ⟨_, armed, Option.some.inj needs'.1⟩
  · have has : s.barrier.key? id = some key := (Barrier.key?_of_found found).trans needs.1
    rcases manned.armed up found needs with ⟨entry, listed, rfl⟩ | ⟨once, flew⟩
    · rcases flies.upkeep.entries_kept listed with kept | down | ⟨fired, armed, calls, once, same⟩ |
        ⟨other, answer, rfl, inTime, own⟩ | ⟨ending, dropped, rfl, other, member, drops⟩
      · exact .inl ⟨entry, kept, rfl⟩
      · rw [running] at down
        cases down
      · obtain ⟨rfl, owner, owned, backs⟩ := backed.of_key manned armed (same.symm ▸ has)
        obtain rfl := Option.some.inj (found.symm.trans owned)
        have once' : task'.periodic = false := periodic ▸ backs.periodic.trans once
        exact .inr ⟨once', flying once' (.inl (heard.symm ▸ calls))⟩
      · obtain rfl := manned.distinct own has
        exact absurd needs' (course.not_needs_of_cancel inTime _)
      · -- The task with that key has been dropped, so that it is another one.
        obtain ⟨isDropped, -, key⟩ := Task.droppedKey?_eq_some_iff.mp drops
        have seen := sound.coherent.task?_of_mem member
        obtain rfl := manned.distinct ((Barrier.key?_of_found seen).trans key) has
        rw [seen] at course
        rw [course.isDropped_of_needs needs'] at isDropped
        cases isDropped
    · exact .inr ⟨periodic ▸ once, flying (periodic ▸ once) (.inr flew)⟩

/-- **Steps keep everything that is needed**, as long as nobody but the facility calls a
callback. -/
theorem Manned.step (manned : s.Manned) (backed : s.Backed) (sound : s.Sound)
    (follows : s.Follows thread deed s') (flies : s.Flies thread move deed called s') :
    s'.Manned where
  keyed := (Keyed.step ⟨manned.keyed, manned.distinct⟩ sound follows flies.upkeep).drawn
  distinct := (Keyed.step ⟨manned.keyed, manned.distinct⟩ sound follows flies.upkeep).distinct
  dropped := by
    intro dropped
    rcases flies.dropped with same | down
    · exact flies.upkeep.later.isShutdown (manned.dropped (same ▸ dropped))
    · exact down
  armed := fun running => manned.armed_step backed sound follows flies running

end Step

end Scheduler

/-- In every state of a run, tasks have entries of their own. -/
theorem Run.keyed {history : History ν} {s : Scheduler ν} (run : Run history s) : s.Keyed := by
  refine run.induct (motive := fun _ s => s.Keyed) (fun _ _ _ _ => ?_) fun run taken keyed => ?_
  · exact ⟨fun has => absurd has (Option.some_ne_none _).symm,
      fun has => absurd has (Option.some_ne_none _).symm⟩
  · exact keyed.step run.sound (Scheduler.follows_of_step taken)
      (Scheduler.flies_of_step taken).upkeep

/-- **Along a run in which only the facility calls callbacks, everything that is needed is
there.** -/
theorem Path.manned {number : Nat} {config : Config} {facility : Facility TaskId}
    {worker : Option ThreadId} {history : History ν} {s : Scheduler ν} (vacant : facility.Vacant)
    (path : Path (.start number config facility worker) history s)
    (faithful : history.FiresByFacility) : s.Manned := by
  induction path with
  | start => exact .start number config facility worker
  | step path taken ih =>
      have earlier : History.FiresByFacility _ := fun stride member =>
        faithful stride (List.mem_cons_of_mem _ member)
      have run : Run _ _ := ⟨number, config, facility, worker, path⟩
      exact (ih earlier).step (path.backed vacant earlier) run.sound
        (Scheduler.follows_of_step taken) (Scheduler.flies_of_step taken)

/-! ## Agreement -/

/-- Whether the deed may take entries away: it cancels a task or ends a cycle. -/
def Deed.disarms : Deed → Bool
  | cancel _ _ | reset _ _ => true
  | _ => false

/-- What disarms decides about no call. -/
theorem Deed.decided_of_disarms {deed : Deed} (disarms : deed.disarms = true) :
    deed.decided = [] := by
  cases deed <;> first | rfl | cases disarms

/-- What disarms adds no entry, calls nobody and shuts nothing down. -/
theorem Upkeep.of_disarms {b b' : Barrier ν} {move : Move ν} {deed : Deed} {called : List TaskId}
    (upkeep : Upkeep b move deed b' called) (disarms : deed.disarms = true) :
    called = [] ∧ b'.facility.isShutdown = b.facility.isShutdown ∧
      ∀ entry ∈ b'.facility.entries, entry ∈ b.facility.entries := by
  cases upkeep with
  | rest _ same =>
      rw [same]
      exact ⟨rfl, rfl, fun _ member => member⟩
  | @cancel _ id =>
      rcases b.facility_cancel id with ⟨-, same⟩ | ⟨-, task, slot, -, -, disarmed⟩
      · rw [same]
        exact ⟨rfl, rfl, fun _ member => member⟩
      · rw [disarmed]
        exact ⟨rfl, b.facility.isShutdown_disarms [slot.key], fun entry member =>
          (Facility.mem_entries_disarm.mp member).1⟩
  | reset =>
      exact ⟨rfl, b.facility.isShutdown_disarms _, fun entry member =>
        (Barrier.mem_entries_reset.mp member).1⟩
  | _ => cases disarms

/-- **The slots of the barrier agree with the entries of the facility.** -/
structure Agreement (s : Scheduler ν) : Prop where
  /-- A key is armed if a task needs its entry, unless the entry fires once and its callback is in
  flight; and no other key is. -/
  armed_iff : ∀ key, key ∈ s.barrier.facility.armedKeys ↔
    ∃ task ∈ s.barrier.tasks, task.Needs key ∧
      (task.periodic = false → ∀ thread, task.id ∉ Stack.called (s.stack thread))
  /-- While no callback is in flight, the armed keys are the needed ones. -/
  settled : (∀ thread, Stack.called (s.stack thread) = []) → ∀ key,
    key ∈ s.barrier.facility.armedKeys ↔ ∃ task ∈ s.barrier.tasks, task.Needs key
  /-- A cancel or the end of a cycle leaves armed what the tasks that are left need, whether or not
  callbacks are in flight, and nothing else. -/
  disarmed : ∀ {thread now move turn}, s.step thread now move = some turn →
    (s.deed thread now move).disarms = true → ∀ key,
      key ∈ turn.scheduler.barrier.facility.armedKeys ↔
        key ∈ s.barrier.facility.armedKeys ∧
          ∃ task ∈ turn.scheduler.barrier.tasks, task.Needs key
  /-- An accept that fails leaves armed what was armed, and the tasks as they were. -/
  refused : ∀ {thread now delay cadence produces turn},
    s.step thread now (.request (.accept delay cadence produces)) = some turn →
    s.deed thread now (.request (.accept delay cadence produces)) = .aside →
      turn.scheduler.barrier.facility.armedKeys = s.barrier.facility.armedKeys ∧
        turn.scheduler.barrier.tasks = s.barrier.tasks

namespace Scheduler

variable {s : Scheduler ν}

/-- An armed key is that of an entry. -/
theorem mem_armedKeys_iff {key : TimerKey} : key ∈ s.barrier.facility.armedKeys ↔
    ∃ entry ∈ s.barrier.facility.entries, entry.key = key := by
  rw [Facility.armedKeys_eq, List.mem_map]

/-- The task that an entry is armed for needs it, and its callback is not in flight if the entry
fires once. -/
theorem Backed.needs (backed : s.Backed) {entry : Entry TaskId}
    (listed : entry ∈ s.barrier.facility.entries) :
    ∃ task ∈ s.barrier.tasks, task.Needs entry.key ∧
      (task.periodic = false → ∀ thread, task.id ∉ Stack.called (s.stack thread)) := by
  obtain ⟨task, found, backs⟩ := backed.entries entry listed
  obtain ⟨slot, has, key, undoomed⟩ := backs.slotted
  refine ⟨task, Barrier.task?_mem found, ⟨by rw [Task.key?, has, ← key]; rfl, ?_⟩, ?_⟩
  · split
    · simp [Task.isDoomed, has, undoomed]
    · next once => exact backs.live (backs.periodic ▸ by simpa using once)
  · intro once thread flying
    rw [Barrier.task?_id found] at flying
    rw [backs.periodic, backed.called thread entry listed flying] at once
    cases once

/-- **Agreement follows** where everything that is armed is backed, and everything that is needed is
there. -/
theorem armed_iff (backed : s.Backed) (manned : s.Manned) (sound : s.Sound)
    (running : s.barrier.facility.isShutdown = false) (key : TimerKey) :
    key ∈ s.barrier.facility.armedKeys ↔ ∃ task ∈ s.barrier.tasks, task.Needs key ∧
      (task.periodic = false → ∀ thread, task.id ∉ Stack.called (s.stack thread)) := by
  rw [mem_armedKeys_iff]
  constructor
  · rintro ⟨entry, listed, rfl⟩
    exact backed.needs listed
  · rintro ⟨task, member, needs, grounded⟩
    rcases manned.armed running (sound.coherent.task?_of_mem member) needs with armed |
      ⟨once, thread, flying⟩
    · exact armed
    · exact absurd flying (grounded once thread)

/-- **A cancel or a reset disarms just the entries that nobody needs afterwards.** -/
theorem armed_iff_of_disarms {s' : Scheduler ν} {thread : ThreadId} {move : Move ν} {deed : Deed}
    {called : List TaskId} (backed : s.Backed) (manned : s.Manned) (sound : s.Sound)
    (follows : s.Follows thread deed s') (flies : s.Flies thread move deed called s')
    (disarms : deed.disarms = true) (backed' : s'.Backed) (manned' : s'.Manned) (sound' : s'.Sound)
    (running : s.barrier.facility.isShutdown = false) (key : TimerKey) :
    key ∈ s'.barrier.facility.armedKeys ↔ key ∈ s.barrier.facility.armedKeys ∧
      ∃ task ∈ s'.barrier.tasks, task.Needs key := by
  obtain ⟨rfl, shutdown, kept⟩ := flies.upkeep.of_disarms disarms
  constructor
  · intro armed
    obtain ⟨entry, listed, rfl⟩ := mem_armedKeys_iff.mp armed
    obtain ⟨task, member, needs, -⟩ := backed'.needs listed
    exact ⟨mem_armedKeys_iff.mpr ⟨entry, kept entry listed, rfl⟩, task, member, needs⟩
  · rintro ⟨armed, task', member, needs'⟩
    obtain ⟨entry, listed, rfl⟩ := mem_armedKeys_iff.mp armed
    refine (armed_iff backed' manned' sound' (shutdown.trans running) _).mpr
      ⟨task', member, needs', fun once any flying => ?_⟩
    have found' := sound'.coherent.task?_of_mem member
    -- What is in flight has been in flight before, so that a one-shot entry cannot be armed.
    have flew : task'.id ∈ Stack.called (s.stack any) := by
      by_cases here : any = thread
      · have flight := flies.flight
        rw [heard_nil, Deed.decided_of_disarms disarms, List.nil_append, List.nil_append] at flight
        rw [here] at flying ⊢
        rwa [flight] at flying
      · rwa [follows.others any here] at flying
    obtain ⟨stage, -, fits⟩ := sound.staged task'.id
    have course := sound.course follows task'.id
    rw [found'] at course
    rcases course.needs fits needs' with rfl | ⟨task, found, needs, periodic⟩
    · cases disarms
    · obtain ⟨callback, owner, owned, backs⟩ :=
        backed.of_key manned listed ((Barrier.key?_of_found found).trans needs.1)
      obtain rfl := Option.some.inj (found.symm.trans owned)
      rw [← periodic, backs.periodic, backed.called any entry listed (callback ▸ flew)] at once
      cases once

/-- What disarms is not the call of a callback. -/
theorem isCall_of_disarms {thread : ThreadId} {now : Instant} {move : Move ν}
    (disarms : (s.deed thread now move).disarms = true) : move.isCall = false := by
  cases move with
  | request request =>
      cases request with
      | call => cases disarms
      | _ => rfl
  | _ => rfl

/-- An accept that fails leaves the entries and the tasks as they were. -/
theorem armedKeys_of_refused {thread : ThreadId} {now : Instant} {delay : Duration}
    {cadence : Cadence} {produces : Bool} {turn : Turn ν}
    (taken : s.step thread now (.request (.accept delay cadence produces)) = some turn)
    (fails : s.deed thread now (.request (.accept delay cadence produces)) = .aside) :
    turn.scheduler.barrier.facility.armedKeys = s.barrier.facility.armedKeys ∧
      turn.scheduler.barrier.tasks = s.barrier.tasks := by
  have after : turn.scheduler.barrier = (s.barrier.accept now delay cadence produces).barrier := by
    have taken : s.request thread now (.accept delay cadence produces) = some turn :=
      attempt_of_step taken
    unfold Scheduler.request at taken
    split at taken
    · cases taken
    · obtain ⟨-, rfl⟩ := by
        simpa only [whileOwned, Option.ite_none_left_eq_some, Option.some.injEq] using taken
      exact s.barrier_requestAccept ..
  have refused : ∀ id, (s.barrier.accept now delay cadence produces).answer ≠ .accepted id := by
    intro id answer
    simp [deed, requestDeed, answer] at fails
  rw [after, Facility.armedKeys_eq, Facility.armedKeys_eq, Barrier.entries_of_fails refused]
  obtain ⟨facility, nextId, -, same⟩ :=
    accept_of_fails s.barrier now delay cadence produces refused
  exact ⟨rfl, by rw [same]⟩

end Scheduler

/-- **The barrier agrees with the facility** in every state of a run that begins with nothing armed
and in which only the facility calls callbacks, until the facility is shut down. -/
theorem facility_agreement {number : Nat} {config : Config} {facility : Facility TaskId}
    {worker : Option ThreadId} {history : History ν} {s : Scheduler ν} (vacant : facility.Vacant)
    (path : Path (.start number config facility worker) history s)
    (faithful : history.FiresByFacility) (running : s.barrier.facility.isShutdown = false) :
    Agreement s := by
  have run : Run history s := ⟨number, config, facility, worker, path⟩
  have backed := path.backed vacant faithful
  have manned := path.manned vacant faithful
  have agrees := Scheduler.armed_iff backed manned run.sound running
  refine ⟨agrees, fun grounded key => ?_, ?_, Scheduler.armedKeys_of_refused⟩
  · refine (agrees key).trans (exists_congr fun task => and_congr_right fun _ => ?_)
    refine and_iff_left fun _ thread => ?_
    rw [grounded thread]
    exact List.not_mem_nil
  · intro thread now move turn taken disarms
    have onward := path.step taken
    have faithful' : History.FiresByFacility (⟨s, thread, now, move, turn⟩ :: history) := by
      exact List.forall_mem_cons.mpr ⟨Scheduler.isCall_of_disarms disarms, faithful⟩
    exact Scheduler.armed_iff_of_disarms backed manned run.sound
      (Scheduler.follows_of_step taken) (Scheduler.flies_of_step taken) disarms
      (onward.backed vacant faithful') (onward.manned vacant faithful')
      (run.append (Path.start.step taken)).sound running

/-- The moves of two tasks, a one-shot and a periodic one.  The periodic one fires and is held, and
the other one is cancelled. -/
def halvedMoves : List (ThreadId × Instant × Move Unit) :=
  [(0, ⟨0⟩, .request (.accept ⟨0⟩ .once false)),
    (0, ⟨0⟩, .request (.accept ⟨0⟩ (.fixedDelay ⟨1⟩) false)),
    (1, ⟨0⟩, .request (.fire ⟨1⟩)), (1, ⟨0⟩, .proceed), (1, ⟨0⟩, .proceed),
    (0, ⟨1⟩, .request (.cancelByHandle ⟨0⟩))]

/-- After `halvedMoves` the entry of the periodic task is armed, and is needed although the task is
held; the entry of the task that has been cancelled is neither. -/
theorem facility_agreement_of_halved : ∃ (history : History Unit) (s : Scheduler Unit),
    Path (.start 0 .default (.byHand .empty) none) history s ∧
      s.barrier.phase? ⟨1⟩ = some .held ∧ s.barrier.facility.armedKeys = [⟨1⟩] ∧
      (∃ task ∈ s.barrier.tasks, task.Needs ⟨1⟩) ∧
      ¬ ∃ task ∈ s.barrier.tasks, task.Needs ⟨0⟩ ∧
        (task.periodic = false → ∀ thread, task.id ∉ Stack.called (s.stack thread)) := by
  obtain ⟨history, s, played, faithful, running, held, armed⟩ : ∃ history s,
      (Scheduler.start 0 .default (.byHand .empty) none).play halvedMoves = some (history, s) ∧
        history.all (!·.move.isCall) = true ∧ s.barrier.facility.isShutdown = false ∧
        s.barrier.phase? ⟨1⟩ = some .held ∧ s.barrier.facility.armedKeys = [⟨1⟩] :=
    ⟨_, _, rfl, rfl, rfl, rfl, rfl⟩
  have path := Path.of_play played
  have vacant : (Facility.byHand .empty : Facility TaskId).Vacant := rfl
  have faithful : history.FiresByFacility := by
    simpa [History.FiresByFacility] using faithful
  have agreement := facility_agreement vacant path faithful running
  obtain ⟨task, member, needs, -⟩ := (agreement.armed_iff ⟨1⟩).mp (by simp [armed])
  exact ⟨history, s, path, held, armed, ⟨task, member, needs⟩,
    fun needed => by simpa [armed] using (agreement.armed_iff ⟨0⟩).mpr needed⟩

end TaskBarrier
