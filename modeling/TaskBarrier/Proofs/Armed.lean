import TaskBarrier.Proofs.Awaiting
import TaskBarrier.Proofs.Upkeep

/-!
# What is armed along a run

An entry of the facility belongs to the task whose callback it calls.  Two things are said of it
along runs that begin with nothing armed.

* **It is known.**  The callbacks of all entries, and all callbacks in flight, are those of tasks
  that have been accepted; so far callbacks are called of such tasks only.
* **It is backed.**  As long as callbacks are called by the facility alone, a task that has an
  entry has a slot with the key of the entry; and a task that has a one-shot entry is live, since
  its callback has not been called.

So a facility on which nobody else calls callbacks is empty once no task has a slot.

## Main Definitions

* `Facility.Vacant`: nothing has been armed.
* `History.CallsKnown`, `History.FiresByFacility`: who calls callbacks.
* `Scheduler.Known`, `Entry.Backs`, `Scheduler.Backed`.

The main statements are `Path.known` and `Path.backed`.
-/

namespace TaskBarrier

variable {ν : Type}

/-! ## What a step does to the entries -/

/-- An accept that succeeds arms an entry under the key that the new task remembers. -/
theorem Barrier.accept_of_armed {b : Barrier ν} {now : Instant} {delay : Duration}
    {cadence : Cadence} {produces : Bool} {id : TaskId}
    (answer : (b.accept now delay cadence produces).answer = .accepted id) :
    (b.accept now delay cadence produces).barrier.tasks =
        b.tasks ++ [.accepted b.nextId cadence.isPeriodic b.facility.nextKey produces] ∧
      (b.accept now delay cadence produces).barrier.facility.entries =
        b.facility.entries ++ [⟨b.facility.nextKey, b.nextId, cadence.isPeriodic⟩] := by
  unfold accept at answer ⊢
  by_cases degenerate : cadence.isDegenerate = true
  · simp [degenerate] at answer
  · rcases b.facility.arm_cases now delay cadence b.nextId with ⟨arming, -⟩ | ⟨arming, -⟩ |
      ⟨arming, entries⟩
    · simp [degenerate, arming] at answer
    · simp [degenerate, arming] at answer
    · simp only [degenerate, Bool.false_eq_true, if_false, arming]
      exact ⟨trivial, entries⟩

/-- An accept may arm an entry, and does nothing else to the facility. -/
theorem Barrier.facility_accept (b : Barrier ν) (now : Instant) (delay : Duration)
    (cadence : Cadence) (produces : Bool) :
    (b.accept now delay cadence produces).barrier.facility = b.facility ∨
      (b.accept now delay cadence produces).barrier.facility =
        (b.facility.arm now delay cadence b.nextId).2 := by
  unfold accept
  split
  · exact .inl rfl
  · simp only
    split <;> exact .inr rfl

/-- An accept that fails arms no entry. -/
theorem Barrier.entries_of_fails {b : Barrier ν} {now : Instant} {delay : Duration}
    {cadence : Cadence} {produces : Bool}
    (fails : ∀ id, (b.accept now delay cadence produces).answer ≠ .accepted id) :
    (b.accept now delay cadence produces).barrier.facility.entries = b.facility.entries := by
  unfold accept at fails ⊢
  split
  · rfl
  · next degenerate =>
    rcases b.facility.arm_cases now delay cadence b.nextId with ⟨arming, same⟩ | ⟨arming, same⟩ |
      ⟨arming, -⟩
    · simp only [arming, same]
    · simp only [arming, same]
    · exact absurd (by simp [degenerate, arming]) (fails b.nextId)

/-- What a cancel does to the facility: it may disarm the entry of the task. -/
theorem Barrier.facility_cancel (b : Barrier ν) (id : TaskId) :
    ((b.cancel id).answer = .tooLate ∧ (b.cancel id).barrier.facility = b.facility) ∨
    ((b.cancel id).answer ≠ .tooLate ∧ ∃ task slot, b.task? id = some task ∧
      task.slot = some slot ∧ (b.cancel id).barrier.facility = b.facility.disarm slot.key) := by
  rcases b.cancel_cases id with ⟨task, slot, found, has, ⟨_, eq⟩ | ⟨_, eq⟩⟩ |
    ⟨task, slot, found, has, _, _, _, answer, eq⟩ | ⟨answer, eq⟩
  · refine .inr ⟨by rw [eq]; nofun, task, slot, found, has, ?_⟩
    rw [eq]
    exact ((b.disarm slot.key).stays_uncount id).facility
  · refine .inr ⟨by rw [eq]; nofun, task, slot, found, has, ?_⟩
    rw [eq]
    exact (((b.disarm slot.key).unhold id).stays_uncount id).facility
  · refine .inr ⟨by rw [answer]; nofun, task, slot, found, has, ?_⟩
    rw [eq]
    rfl
  · exact .inl ⟨answer, by rw [eq]⟩

/-- What a reset leaves armed. -/
theorem Barrier.mem_entries_reset {b : Barrier ν} {entry : Entry TaskId} :
    entry ∈ b.reset.facility.entries ↔
      entry ∈ b.facility.entries ∧ entry.key ∉ b.tasks.filterMap (·.droppedKey?) :=
  Facility.mem_entries_disarms

namespace Upkeep

variable {b b' : Barrier ν} {move : Move ν} {deed : Deed} {called : List TaskId}

/-- **Only an accept arms an entry.** -/
theorem mem_entries (upkeep : Upkeep b move deed b' called) {entry : Entry TaskId}
    (member : entry ∈ b'.facility.entries) :
    entry ∈ b.facility.entries ∨ (entry.callback = b.nextId ∧ b'.nextId = b.nextId.next ∧
      called = [] ∧ ∃ produces,
        b'.tasks = b.tasks ++ [.accepted b.nextId entry.periodic entry.key produces]) := by
  cases upkeep with
  | rest _ same | call same =>
      rw [same] at member
      exact .inl member
  | @accept _ _ _ _ produces _ answer =>
      obtain ⟨tasks, entries⟩ := Barrier.accept_of_armed answer
      obtain ⟨-, _, _, eq⟩ := Barrier.accept_of_accepted answer
      rw [entries] at member
      rcases List.mem_append.mp member with old | new
      · exact .inl old
      · obtain rfl := List.mem_singleton.mp new
        exact .inr ⟨rfl, by rw [eq], rfl, produces, tasks⟩
  | decline fails =>
      rw [Barrier.entries_of_fails fails] at member
      exact .inl member
  | fire byHand fires fired =>
      obtain ⟨_, taken, -⟩ := Facility.of_fire? fires
      rw [fired] at member
      rw [byHand]
      exact .inl ((taken.mem_iff entry).mp member).1
  | @cancel _ id =>
      rcases b.facility_cancel id with ⟨-, same⟩ | ⟨-, task, slot, -, -, disarmed⟩
      · rw [same] at member
        exact .inl member
      · rw [disarmed] at member
        exact .inl (Facility.mem_entries_disarm.mp member).1
  | shutdown down =>
      rw [down] at member
      exact .inl (Facility.mem_entries_shutdown member)
  | reset => exact .inl (Barrier.mem_entries_reset.mp member).1
  | poll byClock looks looked =>
      rw [looked] at member
      rw [byClock]
      rcases Facility.of_poll looks with ⟨-, same | ⟨-, none⟩⟩ | ⟨_, taken, -⟩
      · exact .inl (same ▸ member)
      · rw [none] at member
        cases member
      · exact .inl ((taken.mem_iff entry).mp member).1
  | conclude byClock concluded =>
      rw [concluded] at member
      rw [byClock]
      simp only [Facility.entries, Timer.entries_conclude] at member
      exact .inl member

/-- **A callback is called by somebody who has kept it, or by the facility**, which takes out the
entry first if it is a one-shot one. -/
theorem called_cases (upkeep : Upkeep b move deed b' called) {id : TaskId} (member : id ∈ called) :
    move = .request (.call id) ∨ ∃ fired ∈ b.facility.entries, fired.callback = id ∧
      ∀ entry ∈ b'.facility.entries, fired.periodic = false → entry.key ≠ fired.key := by
  cases upkeep with
  | call =>
      obtain rfl := List.mem_singleton.mp member
      exact .inl rfl
  | fire byHand fires fired =>
      obtain rfl := List.mem_singleton.mp member
      obtain ⟨taken, taking, callback⟩ := Facility.of_fire? fires
      rw [byHand, fired]
      exact .inr ⟨taken, taking.listed, callback, fun entry still =>
        ((taking.mem_iff entry).mp still).2⟩
  | poll byClock looks looked =>
      rcases Facility.of_poll looks with ⟨none, -⟩ | ⟨taken, taking, callback⟩
      · rw [none] at member
        cases member
      · rw [callback, Option.toList_some, List.mem_singleton] at member
        rw [byClock, looked]
        exact .inr ⟨taken, taking.listed, member.symm, fun entry still =>
          ((taking.mem_iff entry).mp still).2⟩
  | _ => cases member

/-- Nothing that a step does brings the facility out of order. -/
theorem orderly (upkeep : Upkeep b move deed b' called) (orderly : b.facility.Orderly) :
    b'.facility.Orderly := by
  cases upkeep with
  | rest _ same | call same => rwa [same]
  | accept | decline =>
      rcases b.facility_accept _ _ _ _ with same | armed
      · rwa [same]
      · rw [armed]
        exact orderly.arm ..
  | fire byHand fires fired =>
      rw [fired]
      rw [byHand] at orderly
      exact orderly.fire? fires
  | @cancel _ id =>
      rcases b.facility_cancel id with ⟨-, same⟩ | ⟨-, task, slot, -, -, disarmed⟩
      · rwa [same]
      · rw [disarmed]
        exact orderly.disarm slot.key
  | shutdown down =>
      rw [down]
      exact orderly.shutdown
  | reset => exact orderly.disarms _
  | poll byClock looks looked =>
      rw [looked]
      rw [byClock] at orderly
      exact Prod.mk.inj looks |>.2 ▸ Timer.Orderly.poll orderly _
  | conclude byClock concluded =>
      rw [concluded]
      rw [byClock] at orderly
      exact Timer.Orderly.conclude orderly _

end Upkeep

/-! ## Entries of tasks that have been accepted -/

/-- Nothing has been armed on the facility, or nothing is left of what has been. -/
def Facility.Vacant {κ : Type} : Facility κ → Prop
  | byHand registry => registry.entries = []
  | byClock timer => timer.armed = [] ∧ timer.agenda = []

namespace Facility.Vacant

variable {κ : Type} {facility : Facility κ}

theorem orderly (vacant : facility.Vacant) : facility.Orderly := by
  cases facility with
  | byHand registry =>
      intro registered listed
      rw [show registry.entries = [] from vacant] at listed
      cases listed
  | byClock timer =>
      obtain ⟨armed, agenda⟩ := vacant
      refine ⟨?_, ?_, ?_, ?_⟩
      · rw [agenda]
        exact List.Pairwise.nil
      · simp [agenda]
      · simp [agenda]
      · simp [armed]

theorem entries (vacant : facility.Vacant) : facility.entries = [] := by
  cases facility with
  | byHand registry => exact List.map_eq_nil_iff.mpr vacant
  | byClock timer => exact List.map_eq_nil_iff.mpr vacant.1

end Facility.Vacant

/-- Callbacks are called only of tasks that have been accepted. -/
def History.CallsKnown (history : History ν) : Prop :=
  ∀ stride ∈ history, ∀ id, stride.move = .request (.call id) →
    id.number < stride.before.barrier.nextId.number

/-- Whether the move is the call of a callback by somebody who has kept it. -/
def Move.isCall : Move ν → Bool
  | request (.call _) => true
  | _ => false

/-- Callbacks are called by the facility alone. -/
def History.FiresByFacility (history : History ν) : Prop :=
  ∀ stride ∈ history, stride.move.isCall = false

theorem Move.ne_call_of_not {move : Move ν} (other : move.isCall = false) (id : TaskId) :
    move ≠ .request (.call id) := by
  rintro rfl
  cases other

theorem History.FiresByFacility.callsKnown {history : History ν}
    (faithful : history.FiresByFacility) : history.CallsKnown :=
  fun stride member id called => absurd called (Move.ne_call_of_not (faithful stride member) id)

namespace Scheduler

/-- The facility is in order, and everything that is armed or in flight concerns tasks that have
been accepted. -/
structure Known (s : Scheduler ν) : Prop where
  orderly : s.barrier.facility.Orderly
  entries : ∀ entry ∈ s.barrier.facility.entries,
    entry.callback.number < s.barrier.nextId.number
  called : ∀ thread, ∀ id ∈ Stack.called (s.stack thread), id.number < s.barrier.nextId.number

/-- A start with a facility on which nothing is armed. -/
theorem Known.start (number : Nat) (config : Config) {facility : Facility TaskId}
    (vacant : facility.Vacant) (worker : Option ThreadId) :
    (start number config facility worker : Scheduler ν).Known where
  orderly := vacant.orderly
  entries := by
    intro entry listed
    have listed : entry ∈ facility.entries := listed
    rw [vacant.entries] at listed
    cases listed
  called := fun _ _ none => absurd none List.not_mem_nil

/-- Steps go on with known tasks, as long as callbacks are called of known tasks. -/
theorem Known.step {s s' : Scheduler ν} {thread : ThreadId} {move : Move ν} {deed : Deed}
    (known : s.Known) (follows : s.Follows thread deed s') (tends : s.Tends thread move deed s')
    (calls : ∀ id, move = .request (.call id) → id.number < s.barrier.nextId.number) :
    s'.Known := by
  obtain ⟨called, upkeep, flight⟩ := tends
  have later := follows.transition.nextId_le
  refine ⟨upkeep.orderly known.orderly, fun entry listed => ?_, fun other id member => ?_⟩
  · rcases upkeep.mem_entries listed with old | ⟨callback, drawn, -⟩
    · exact Nat.lt_of_lt_of_le (known.entries entry old) later
    · rw [callback, drawn]
      exact Nat.lt_succ_self _
  · by_cases same : other = thread
    · subst same
      refine Nat.lt_of_lt_of_le ?_ later
      rcases flight id member with new | old
      · rcases upkeep.called_cases new with asked | ⟨fired, listed, rfl, -⟩
        · exact calls id asked
        · exact known.entries fired listed
      · exact known.called other id old
    · rw [follows.others other same] at member
      exact Nat.lt_of_lt_of_le (known.called other id member) later

end Scheduler

/-- **Along a run everything that is armed or in flight concerns tasks that have been accepted.** -/
theorem Path.known {number : Nat} {config : Config} {facility : Facility TaskId}
    {worker : Option ThreadId} {history : History ν} {s : Scheduler ν} (vacant : facility.Vacant)
    (path : Path (.start number config facility worker) history s)
    (calls : history.CallsKnown) : s.Known := by
  induction path with
  | start => exact .start number config vacant worker
  | step path taken ih =>
      refine (ih fun stride member => calls stride (List.mem_cons_of_mem _ member)).step
        (Scheduler.follows_of_step taken) (Scheduler.tends_of_step taken) ?_
      exact calls _ List.mem_cons_self

/-! ## Entries of tasks that have slots -/

/-- The entry is that of the task: the task has a slot with the key of the entry and is not doomed,
and it is live if the entry fires once. -/
structure Entry.Backs (entry : Entry TaskId) (task : Task ν) : Prop where
  slotted : ∃ slot, task.slot = some slot ∧ slot.key = entry.key ∧ slot.doomed = false
  periodic : task.periodic = entry.periodic
  live : entry.periodic = false → task.phase = .live

namespace Entry.Backs

variable {entry : Entry TaskId} {task : Task ν}

/-- A task that is as it was, but for being counted. -/
theorem setCounted (backs : entry.Backs task) (counted : Bool) :
    entry.Backs (task.setCounted counted) where
  slotted := by
    obtain ⟨slot, has, key, undoomed⟩ := backs.slotted
    exact ⟨{ slot with counted := counted }, by simp [Task.setCounted, has], key, undoomed⟩
  periodic := backs.periodic
  live := backs.live

/-- A periodic task may be in any phase. -/
theorem setPhase (backs : entry.Backs task) (periodic : entry.periodic = true) (phase : Phase) :
    entry.Backs (task.setPhase phase) where
  slotted := backs.slotted
  periodic := backs.periodic
  live := fun once => by simp [periodic] at once

/-- A task that is not live and has an entry is periodic. -/
theorem periodic_of_not_live (backs : entry.Backs task) (phase : task.phase ≠ .live) :
    entry.periodic = true := by
  by_contra once
  exact phase (backs.live (by simpa using once))

/-- The task that has the entry has not ended. -/
theorem isDoomed (backs : entry.Backs task) : task.isDoomed = false := by
  obtain ⟨slot, has, -, undoomed⟩ := backs.slotted
  simp [Task.isDoomed, has, undoomed]

/-- **A task that has an entry keeps it backed** through whatever happens to it, if its callback is
called only where the entry is periodic, and if it loses its slot only with the entry. -/
theorem course (backs : entry.Backs task) {id : TaskId} {deed : Deed}
    {stages stages' : List RunStage} {after : Option (Task ν)} {stage : Option RunStage}
    (fits : task.Fits stage)
    (course : Course id deed (some task) stages after stages')
    (uncalled : ∀ firing, deed = .call id firing → entry.periodic = true)
    (uncancelled : ∀ answer, deed = .cancel id answer → answer = .tooLate)
    (undropped : ∀ ending dropped, deed = .reset ending dropped →
      task.droppedKey? ≠ some entry.key) :
    ∃ task', after = some task' ∧ entry.Backs task' := by
  obtain ⟨slot, has, key, -⟩ := backs.slotted
  cases course with
  | run | hold => exact ⟨_, rfl, (backs.setCounted true).setPhase (uncalled _ rfl) _⟩
  | replay _ held =>
      exact ⟨_, rfl, backs.setPhase (backs.periodic_of_not_live (by simp [held])) _⟩
  | enter => exact ⟨_, rfl, backs.slotted, backs.periodic, backs.live⟩
  | leave => exact ⟨_, rfl, backs.slotted, backs.periodic, backs.live⟩
  | finish running =>
      have periodic := backs.periodic_of_not_live (by simp [running])
      have uncounted := backs.setCounted false
      refine ⟨_, rfl, ?_⟩
      rw [Barrier.afterRun, uncounted.isDoomed, uncounted.periodic, periodic]
      exact uncounted.setPhase periodic .live
  | withdraw => cases uncancelled _ rfl
  | doom => cases uncancelled _ rfl
  | reset =>
      rcases fits.reset_cases with ⟨isDropped, -, once, -⟩ | ⟨-, held, periodic, eq⟩ | ⟨-, -, -, eq⟩
      · -- The entry of a dropped task is disarmed: it is a one-shot one, so the task is live.
        have live := backs.live (backs.periodic.symm.trans once)
        exact absurd (by simp [Task.droppedKey?, isDropped, live, has, key])
          (undropped _ _ rfl)
      · rw [eq]
        exact ⟨_, rfl, (backs.setCounted false).setPhase (backs.periodic.symm.trans periodic) _⟩
      · rw [eq]
        exact ⟨_, rfl, backs.setCounted false⟩
  | discard cancelled =>
      have gone := fits.slotted
      rw [has, cancelled] at gone
      cases gone
  | read => exact ⟨_, rfl, backs.slotted, backs.periodic, backs.live⟩
  | keep => exact ⟨_, rfl, backs⟩

end Entry.Backs

/-- A section that decides about a callback decides about one in flight. -/
theorem Transition.mem_called {b b' : Barrier ν} {stack stack' : Stack ν} {id : TaskId}
    {firing : Firing} (transition : Transition b stack (.call id firing) b' stack') :
    id ∈ Stack.called stack := by
  cases transition with
  | run | pass => exact List.mem_cons_self

/-- A task that is cancelled in time has no entry afterwards. -/
theorem Upkeep.cancel_disarms {b b' : Barrier ν} {move : Move ν} {id : TaskId}
    {answer : Cancellation} {called : List TaskId} {task : Task ν} {slot : Slot}
    (upkeep : Upkeep b move (.cancel id answer) b' called) (inTime : answer ≠ .tooLate)
    (found : b.task? id = some task) (has : task.slot = some slot) {entry : Entry TaskId}
    (member : entry ∈ b'.facility.entries) : entry.key ≠ slot.key := by
  cases upkeep with
  | rest apart => cases apart
  | cancel =>
      rcases b.facility_cancel id with ⟨late, -⟩ | ⟨-, task', slot', found', has', disarmed⟩
      · exact absurd late inTime
      · obtain rfl := Option.some.inj (found.symm.trans found')
        obtain rfl := Option.some.inj (has.symm.trans has')
        rw [disarmed] at member
        exact (Facility.mem_entries_disarm.mp member).2

/-- A task that a reset drops while it is live has no entry afterwards. -/
theorem Upkeep.reset_disarms {b b' : Barrier ν} {move : Move ν} {ending : Ending}
    {dropped : List TaskId} {called : List TaskId} {task : Task ν}
    (upkeep : Upkeep b move (.reset ending dropped) b' called) (listed : task ∈ b.tasks)
    {entry : Entry TaskId} (member : entry ∈ b'.facility.entries) :
    task.droppedKey? ≠ some entry.key := by
  cases upkeep with
  | rest apart => cases apart
  | reset =>
      intro isDropped
      exact (Barrier.mem_entries_reset.mp member).2
        (List.mem_filterMap.mpr ⟨task, listed, isDropped⟩)

namespace Scheduler

/-- Every entry is backed by its task, and if the callback of a task is in flight, the task has no
entry but a periodic one. -/
structure Backed (s : Scheduler ν) : Prop where
  entries : ∀ entry ∈ s.barrier.facility.entries,
    ∃ task, s.barrier.task? entry.callback = some task ∧ entry.Backs task
  called : ∀ thread, ∀ entry ∈ s.barrier.facility.entries,
    entry.callback ∈ Stack.called (s.stack thread) → entry.periodic = true

theorem Backed.start (number : Nat) (config : Config) {facility : Facility TaskId}
    (vacant : facility.Vacant) (worker : Option ThreadId) :
    (start number config facility worker : Scheduler ν).Backed := by
  have none : ∀ entry, entry ∉ facility.entries := by
    rw [vacant.entries]
    exact fun _ => List.not_mem_nil
  exact ⟨fun entry listed => absurd listed (none entry),
    fun _ entry listed => absurd listed (none entry)⟩

section Step

variable {s s' : Scheduler ν} {thread : ThreadId} {move : Move ν} {deed : Deed}

/-- An entry that was there before a step is as backed after it. -/
theorem Backed.entry (backed : s.Backed) (sound : s.Sound) (follows : s.Follows thread deed s')
    {called : List TaskId} (upkeep : Upkeep s.barrier move deed s'.barrier called)
    {entry : Entry TaskId} (before : entry ∈ s.barrier.facility.entries)
    (after : entry ∈ s'.barrier.facility.entries) :
    ∃ task, s'.barrier.task? entry.callback = some task ∧ entry.Backs task := by
  obtain ⟨task, found, backs⟩ := backed.entries entry before
  obtain ⟨slot, has, key, -⟩ := backs.slotted
  obtain ⟨stage, -, fits⟩ := sound.fits_of_found found
  have course := sound.course follows entry.callback
  rw [found] at course
  refine backs.course fits course ?_ ?_ ?_
  · rintro firing rfl
    exact backed.called thread entry before follows.transition.mem_called
  · rintro answer rfl
    by_contra inTime
    exact upkeep.cancel_disarms inTime found has after key.symm
  · rintro ending dropped rfl
    exact upkeep.reset_disarms (Barrier.task?_mem found) after

/-- **Steps keep entries backed**, as long as nobody but the facility calls a callback. -/
theorem Backed.step (backed : s.Backed) (known : s.Known) (sound : s.Sound)
    (follows : s.Follows thread deed s') (tends : s.Tends thread move deed s')
    (faithful : ∀ id, move ≠ .request (.call id)) : s'.Backed := by
  obtain ⟨called, upkeep, flight⟩ := tends
  refine ⟨fun entry listed => ?_, fun other entry listed member => ?_⟩
  · rcases upkeep.mem_entries listed with old | ⟨callback, -, -, produces, tasks⟩
    · exact backed.entry sound follows upkeep old listed
    · -- The new task remembers the key of the new entry.
      rw [callback]
      exact ⟨_, sound.coherent.task?_of_append rfl tasks, ⟨_, rfl, rfl, rfl⟩, rfl, fun _ => rfl⟩
  · have before : entry.callback ∈ called ∨ ∃ any, entry.callback ∈ Stack.called (s.stack any) := by
      by_cases same : other = thread
      · subst same
        exact (flight _ member).imp_right fun old => ⟨other, old⟩
      · rw [follows.others other same] at member
        exact .inr ⟨other, member⟩
    rcases upkeep.mem_entries listed with old | ⟨callback, -, nothing, -⟩
    · rcases before with new | ⟨any, flying⟩
      · -- The facility takes a one-shot entry out before it calls, and the task has no other.
        rcases upkeep.called_cases new with asked | ⟨fired, armed, same, taken⟩
        · exact absurd asked (faithful _)
        · obtain ⟨task, found, backs⟩ := backed.entries entry old
          obtain ⟨task', found', backs'⟩ := backed.entries fired armed
          rw [same, found] at found'
          obtain rfl := Option.some.inj found'
          obtain ⟨slot, has, key, -⟩ := backs.slotted
          obtain ⟨slot', has', key', -⟩ := backs'.slotted
          obtain rfl := Option.some.inj (has.symm.trans has')
          by_contra once
          refine taken entry listed ?_ (key.symm.trans key')
          rw [← backs'.periodic, backs.periodic]
          simpa using once
      · exact backed.called any entry old flying
    · -- The callback of a new task has not been called.
      rcases before with new | ⟨any, flying⟩
      · rw [nothing] at new
        cases new
      · have below := known.called any _ flying
        rw [callback] at below
        exact absurd below (Nat.lt_irrefl _)

end Step

end Scheduler

/-- **Along a run in which only the facility calls callbacks, every entry is that of a task with a
slot.** -/
theorem Path.backed {number : Nat} {config : Config} {facility : Facility TaskId}
    {worker : Option ThreadId} {history : History ν} {s : Scheduler ν} (vacant : facility.Vacant)
    (path : Path (.start number config facility worker) history s)
    (faithful : history.FiresByFacility) : s.Backed := by
  induction path with
  | start => exact .start number config vacant worker
  | step path taken ih =>
      have earlier : History.FiresByFacility _ := fun stride member =>
        faithful stride (List.mem_cons_of_mem _ member)
      have run : Run _ _ := ⟨number, config, facility, worker, path⟩
      exact (ih earlier).step (path.known vacant earlier.callsKnown) run.sound
        (Scheduler.follows_of_step taken) (Scheduler.tends_of_step taken)
        (Move.ne_call_of_not (faithful _ List.mem_cons_self))

/-- A facility on which nobody else calls callbacks is empty once no task has a slot. -/
theorem Scheduler.Backed.armedKeys {s : Scheduler ν} (backed : s.Backed)
    (unslotted : ∀ task ∈ s.barrier.tasks, task.slot = none) :
    s.barrier.facility.armedKeys = [] := by
  rw [Facility.armedKeys_eq, List.map_eq_nil_iff]
  refine List.eq_nil_iff_forall_not_mem.mpr fun entry listed => ?_
  obtain ⟨task, found, backs⟩ := backed.entries entry listed
  obtain ⟨slot, has, -⟩ := backs.slotted
  rw [unslotted task (Barrier.task?_mem found)] at has
  cases has

end TaskBarrier
