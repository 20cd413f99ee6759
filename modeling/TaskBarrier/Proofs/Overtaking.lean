import Mathlib.Algebra.Order.BigOperators.Group.List
import Mathlib.Algebra.Order.Ring.Nat
import TaskBarrier.Proofs.Journey

/-!
# Bounded overtaking

The worker of a timer serves the earliest appointment first, and a periodic entry that runs late is
given appointments in the past.  Such an entry fires in quick succession, ahead of entries that have
been due for a long time.  It does not do so for ever.  Each firing moves its appointment on by a
period at least, so before an entry that is due at `deadline` it has as many **turns** as there are
periods until then, and one more.

While an entry waits, the turns of every other key can only get fewer.

* A key that waits has the turns of its due time, and a key in flight one less than that.
* A one-shot key has one turn, and a key that is due after `deadline` has none.
* A key that is armed when the clock reads `deadline` or more has none either, be its delay nothing
  at all, because its appointment has the higher number.

So an entry whose time has come is fired after no more looks of the worker than there are turns left
at that moment, whatever is armed in the meantime and however late the callbacks come back.

The turns of a key count from an appointment that has been kept to the next one.  With a fixed delay
that takes a clock that does not go back between a look of the worker and the return from the
callback that has been started by it.  Nothing is asked of the readings at which entries are armed.

## Main Definitions

* `Cadence.turns`: how often a key can fire before a deadline.
* `Timer.Allows`: a key has no more than so many turns before an appointment.
* `TimerWait`: an entry that neither fires nor is disarmed.
* `Overtaking`.

The main statement is `overtaking_of_wait`.
-/

namespace TaskBarrier

variable {κ : Type}

/-! ## Turns -/

/-- How often a key that is due at `due` can fire before an entry that is due at `deadline`. -/
def Cadence.turns (cadence : Cadence) (due deadline : Instant) : Nat :=
  if deadline.before due then 0
  else
    match cadence.period? with
    | none => 1
    | some period => (deadline.nanos - due.nanos) / period.nanos + 1

namespace Cadence

theorem turns_of_late (cadence : Cadence) {due deadline : Instant}
    (late : deadline.nanos < due.nanos) : cadence.turns due deadline = 0 :=
  if_pos (Instant.before_iff.mpr late)

theorem turns_pos (cadence : Cadence) {due deadline : Instant}
    (early : due.nanos ≤ deadline.nanos) : 0 < cadence.turns due deadline := by
  have reached : ¬ deadline.before due = true := by
    rw [Instant.before_iff]
    omega
  rw [turns, if_neg reached]
  split
  · exact Nat.one_pos
  · exact Nat.succ_pos _

/-- The next due time lies a period after the last one at least. -/
theorem period_le_of_nextDue {cadence : Cadence} {due finished next : Instant}
    (forward : due.nanos ≤ finished.nanos) (again : cadence.nextDue due finished = .due next) :
    ∃ period, cadence.period? = some period ∧ due.nanos + period.nanos ≤ next.nanos := by
  cases cadence with
  | once => cases again
  | fixedRate period => exact ⟨period, rfl, Nat.le_of_eq (NextDue.nanos_of_after again).symm⟩
  | fixedDelay delay =>
      refine ⟨delay, rfl, ?_⟩
      rw [NextDue.nanos_of_after again]
      exact Nat.add_le_add_right forward _

/-- **Each firing takes a turn**, unless the period is empty. -/
theorem turns_nextDue {cadence : Cadence} (spaced : cadence.isDegenerate = false)
    {due finished next deadline : Instant} (forward : due.nanos ≤ finished.nanos)
    (again : cadence.nextDue due finished = .due next) :
    cadence.turns next deadline ≤ cadence.turns due deadline - 1 := by
  obtain ⟨period, periodic, onward⟩ := period_le_of_nextDue forward again
  have pos : 0 < period.nanos := by
    rw [isDegenerate, periodic] at spaced
    simpa [Duration.isZero, Nat.pos_iff_ne_zero] using spaced
  by_cases late : deadline.nanos < next.nanos
  · rw [cadence.turns_of_late late]
    exact Nat.zero_le _
  · have early : ¬ deadline.before due = true := by
      rw [Instant.before_iff]
      omega
    have reached : ¬ deadline.before next = true := by rwa [Instant.before_iff]
    have steps : (deadline.nanos - next.nanos) / period.nanos + 1 ≤
        (deadline.nanos - due.nanos) / period.nanos := by
      rw [← Nat.add_div_right _ pos]
      exact Nat.div_le_div_right (by omega)
    simpa only [turns, if_neg early, if_neg reached, periodic, Nat.add_sub_cancel] using steps

end Cadence

/-! ## Entries with periods, and readings that do not go back -/

/-- No periodic entry that has been armed comes back without any time in between. -/
def TimerHistory.Spaced (history : TimerHistory κ) : Prop :=
  ∀ stride ∈ history, ∀ key cadence, stride.deed = .arm key cadence → cadence.isDegenerate = false

/-- The clock does not go back between a look of the worker and a return from a callback that comes
after it. -/
def TimerHistory.Forward (history : TimerHistory κ) : Prop :=
  history.Pairwise fun back look => ∀ finished now, back.move = .conclude finished →
    look.move = .poll now → now.nanos ≤ finished.nanos

namespace Timer

variable {timer after : Timer κ} {move : TimerMove κ} {deed : TimerDeed}

/-- No periodic entry that is armed or in flight comes back without any time in between. -/
structure Spaced (timer : Timer κ) : Prop where
  armed : ∀ entry ∈ timer.armed, entry.cadence.isDegenerate = false
  flying : ∀ appointment cadence, timer.worker = .firing appointment cadence →
    cadence.isDegenerate = false

theorem Spaced.advance (spaced : timer.Spaced) (change : timer.Advance move deed after)
    (arms : ∀ key cadence, deed = .arm key cadence → cadence.isDegenerate = false) :
    after.Spaced := by
  cases change with
  | arm =>
      refine ⟨fun entry among => ?_, spaced.flying⟩
      rcases List.mem_append.mp among with old | new
      · exact spaced.armed entry old
      · rw [List.mem_singleton.mp new]
        exact arms _ _ rfl
  | disarm =>
      exact ⟨fun entry among => spaced.armed entry (mem_armed_remove.mp among).1, spaced.flying⟩
  | exit => exact ⟨fun _ among => absurd among List.not_mem_nil, fun _ _ firing => by cases firing⟩
  | fire _ _ _ _ current =>
      refine ⟨fun entry among => spaced.armed entry (mem_armed_take.mp among).1, ?_⟩
      rintro _ _ ⟨⟩
      exact spaced.armed _ (of_entryOf? current).1
  | rearm =>
      refine ⟨fun entry among => ?_, fun _ _ firing => by cases firing⟩
      obtain ⟨old, member, rfl⟩ := List.mem_map.mp among
      have same := spaced.armed old member
      split <;> exact same
  | finish | die => exact ⟨spaced.armed, fun _ _ firing => by cases firing⟩
  | refuse | overflow | miss | shutdown | wait => exact ⟨spaced.armed, spaced.flying⟩

end Timer

namespace TimerRun

variable {history : TimerHistory κ} {timer : Timer κ}

theorem spaced (run : TimerRun history timer) (spaced : history.Spaced) : timer.Spaced := by
  refine run.induct (motive := fun history timer => history.Spaced → timer.Spaced) ?_ ?_ spaced
  · intro _
    exact ⟨fun _ among => absurd among List.not_mem_nil, fun _ _ firing => by cases firing⟩
  · intro history stride _ moved ih spaced
    obtain ⟨arms, spaced⟩ := List.forall_mem_cons.mp spaced
    exact (ih spaced).advance (stride.change moved) arms

/-- A callback that is in flight was started by a look of the worker that found it due. -/
theorem looked (run : TimerRun history timer) : ∀ appointment cadence,
    timer.worker = .firing appointment cadence →
      ∃ look ∈ history, ∃ now, look.move = .poll now ∧ appointment.due.nanos ≤ now.nanos := by
  refine run.induct (motive := fun history timer => ∀ appointment cadence,
    timer.worker = .firing appointment cadence →
      ∃ look ∈ history, ∃ now, look.move = .poll now ∧ appointment.due.nanos ≤ now.nanos)
    (fun _ _ firing => nomatch firing) ?_
  intro history stride _ moved ih appointment cadence firing
  have change := stride.change moved
  have passed : stride.before.worker = .firing appointment cadence → ∃ look ∈ stride :: history,
      ∃ now, look.move = .poll now ∧ appointment.due.nanos ≤ now.nanos := by
    intro before
    obtain ⟨look, member, found⟩ := ih appointment cadence before
    exact ⟨look, List.mem_cons_of_mem _ member, found⟩
  generalize eq : stride.move = move at change
  generalize stride.deed = deed at change
  generalize stride.before = before, stride.after = after at *
  cases change with
  | arm | refuse | overflow | disarm | miss | shutdown => exact passed firing
  | wait idle => cases idle.symm.trans firing
  | @fire now _ _ _ _ _ _ _ _ _ due =>
      cases firing
      refine ⟨stride, List.mem_cons_self, now, eq, ?_⟩
      simpa [Instant.before] using due
  | exit | finish | rearm | die => cases firing

/-- With a clock that does not go back a callback ends after it was due. -/
theorem due_le_finished (run : TimerRun history timer) {stride : TimerStride κ}
    (forward : TimerHistory.Forward (stride :: history)) {finished : Instant}
    (concludes : stride.move = .conclude finished) {appointment : Appointment} {cadence : Cadence}
    (firing : timer.worker = .firing appointment cadence) :
    appointment.due.nanos ≤ finished.nanos := by
  obtain ⟨look, member, now, polls, due⟩ := run.looked appointment cadence firing
  have onward := (List.pairwise_cons.mp forward).1 look member finished now concludes polls
  exact Nat.le_trans due onward

end TimerRun

/-! ## The turns of a key before an appointment -/

namespace Timer

variable {timer after : Timer κ} {move : TimerMove κ} {deed : TimerDeed} {cadence : Cadence}
  {deadline appointment : Appointment} {key : TimerKey} {n : Nat}

/-- **What waits stays where it is**, unless it is disarmed or fires, or the worker ends. -/
theorem Waits.advance (waits : timer.Waits cadence appointment) (tidy : timer.Tidy)
    (change : timer.Advance move deed after) (undisarmed : deed.disarmsKey appointment.key = false)
    (unfired : deed.firesKey appointment.key = false) (alive : after.worker ≠ .exited) :
    after.Waits cadence appointment := by
  obtain ⟨entry, armed, same, keeps⟩ := waits
  have own := keeps.2.1
  rw [own] at undisarmed unfired
  suffices kept : entry ∈ after.armed ∧ after.Keeps entry appointment from
    ⟨entry, kept.1, same, kept.2⟩
  cases change with
  | arm => exact ⟨List.mem_append_left _ armed, Agenda.mem_insert.mpr (.inr keeps.1), keeps.2⟩
  | refuse | overflow | miss | shutdown | finish | die => exact ⟨armed, keeps⟩
  | @disarm other =>
      have apart : entry.key ≠ other := fun same => by simp [same] at undisarmed
      exact ⟨mem_armed_remove.mpr ⟨armed, apart⟩, keeps⟩
  | exit => exact absurd rfl alive
  | wait idle _ agenda stale =>
      obtain ⟨listed, member, own', -⟩ := tidy.listed_of_idle idle agenda stale armed
      obtain rfl := tidy.eq_of_listed (agenda ▸ List.mem_append_right _ member) keeps.1
        (own'.trans own.symm)
      exact ⟨armed, member, keeps.2⟩
  | @fire _ _ _ first taken idle _ agenda stale current =>
      have apart : first.key ≠ entry.key := by simpa using unfired
      obtain ⟨listed, member, own', -⟩ := tidy.listed_of_idle idle agenda stale armed
      obtain rfl := tidy.eq_of_listed (agenda ▸ List.mem_append_right _ member) keeps.1
        (own'.trans own.symm)
      refine ⟨mem_armed_take.mpr ⟨armed, fun _ same => apart ?_⟩, ?_, keeps.2⟩
      · rw [same, (of_entryOf? current).2.1]
      · refine (List.mem_cons.mp member).resolve_left fun same => apart ?_
        rw [← own', same]
  | @rearm _ next flown _ firing =>
      have apart : entry.key ≠ flown.key :=
        fun same => (tidy.flying _ _ firing).2.1 appointment keeps.1 (own.trans same)
      exact keeps.rebook armed apart next

/-- Before the appointment `deadline` the key can fire `n` times at the most. -/
structure Allows (timer : Timer κ) (deadline : Appointment) (key : TimerKey) (n : Nat) : Prop where
  /-- A key that waits is allowed the turns of its appointment. -/
  waiting : ∀ cadence appointment, appointment.key = key → timer.Waits cadence appointment →
    appointment.precedes deadline = true → cadence.turns appointment.due deadline.due ≤ n
  /-- A key in flight has taken one of these. -/
  flying : ∀ cadence appointment, appointment.key = key →
    timer.worker = .firing appointment cadence → cadence.turns appointment.due deadline.due ≤ n + 1

namespace Allows

/-- **The turns of a key only get fewer**, by one with each of its firings. -/
theorem advance (allows : timer.Allows deadline key n) (spaced : timer.Spaced)
    (other : key ≠ deadline.key)
    (waits : timer.worker ≠ .exited → ∃ cadence, timer.Waits cadence deadline)
    (journey : timer.Journey key move deed after)
    (forward : ∀ finished, move = .conclude finished → ∀ appointment cadence,
      timer.worker = .firing appointment cadence → appointment.due.nanos ≤ finished.nanos) :
    ∃ m, (if deed.firesKey key then 1 else 0) + m ≤ n ∧ after.Allows deadline key m := by
  cases journey with
  | stay silent _ stays flies =>
      refine ⟨n, ?_, fun cadence appointment own now => ?_, ?_⟩
      · rw [silent, if_neg Bool.false_ne_true, Nat.zero_add]
      · exact allows.waiting cadence appointment own (stays cadence appointment own now)
      · exact fun cadence appointment own now =>
          allows.flying cadence appointment own (flies cadence appointment own now)
  | @depart _ appointment cadence _ own idle departs _ first flies gone =>
      -- The entry whose appointment is `deadline` waits as well, and has been passed over.
      obtain ⟨cadence', passed⟩ := waits (by simp [idle])
      have precedes := first cadence' deadline passed (Ne.symm other)
      have early : appointment.due.nanos ≤ deadline.due.nanos := by
        rcases Appointment.precedes_iff.mp precedes with earlier | ⟨equal, -⟩ <;> omega
      have turns := allows.waiting cadence appointment own departs precedes
      have pos := cadence.turns_pos early
      have fires : TimerDeed.firesKey key (.fire appointment cadence) = true := beq_iff_eq.mpr own
      refine ⟨n - 1, ?_, fun cadence' again own' now => ?_, fun cadence' again _ now => ?_⟩
      · rw [if_pos fires]
        omega
      · exact absurd own' (gone cadence' again now)
      · cases flies.symm.trans now
        omega
  | @back finished appointment cadence _ own flies again grounded =>
      have turns := allows.flying cadence appointment own flies
      refine ⟨n, by simp, fun cadence' next own' now _ => ?_, fun _ _ _ now => ?_⟩
      · obtain ⟨rfl, due⟩ := again cadence' next own' now
        have fewer : cadence'.turns next.due deadline.due ≤
            cadence'.turns appointment.due deadline.due - 1 :=
          Cadence.turns_nextDue (spaced.flying appointment cadence' flies)
            (forward finished rfl appointment cadence' flies) due
        omega
      · cases grounded.symm.trans (firingKey?_of_firing now)

/-- The turns of a key that has just been armed: there are none if the clock reads `deadline` or
more, because the appointment has the higher number. -/
theorem of_arm (tidy : timer.Tidy) {now : Instant} {delay : Duration} {callback : κ}
    (change : timer.Advance (.arm now delay cadence callback) (.arm key cadence) after)
    (tidy' : after.Tidy) (made : deadline.sequence < timer.nextSequence) :
    after.Allows deadline key (cadence.turns ⟨now.nanos + delay.nanos⟩ deadline.due) ∧
      (deadline.due.nanos ≤ now.nanos → after.Allows deadline key 0) := by
  obtain ⟨waits, grounded⟩ := Waits.of_arm tidy change
  have aloft : ∀ n, ∀ cadence' appointment, appointment.key = key →
      after.worker = .firing appointment cadence' →
      cadence'.turns appointment.due deadline.due ≤ n + 1 := by
    rintro _ _ appointment rfl firing
    exact absurd (firingKey?_of_firing firing) grounded
  refine ⟨⟨fun cadence' appointment own waits' _ => ?_, aloft _⟩, fun late =>
    ⟨fun cadence' appointment own waits' precedes => ?_, aloft 0⟩⟩
  · obtain ⟨rfl, rfl⟩ := tidy'.waits_unique waits waits' own
    exact Nat.le_refl _
  · obtain ⟨rfl, rfl⟩ := tidy'.waits_unique waits waits' own
    rcases Appointment.precedes_iff.mp precedes with earlier | ⟨-, earlier⟩
    · have earlier : now.nanos + delay.nanos < deadline.due.nanos := earlier
      omega
    · exact absurd made (Nat.not_lt.mpr (Nat.le_of_lt earlier))

/-- The turns of a key that has come back. -/
theorem of_conclude {finished next : Instant}
    (journey : timer.Journey appointment.key (.conclude finished) deed after)
    (firing : timer.worker = .firing appointment cadence)
    (due : cadence.nextDue appointment.due finished = .due next) :
    after.Allows deadline appointment.key (cadence.turns next deadline.due) := by
  cases journey with
  | stay _ grounded => exact absurd (firingKey?_of_firing firing) (grounded finished rfl)
  | back _ flies again grounded =>
      cases flies.symm.trans firing
      refine ⟨fun cadence' landed own waits _ => ?_, fun _ _ _ firing => ?_⟩
      · obtain ⟨rfl, next'⟩ := again cadence' landed own waits
        cases next'.symm.trans due
        exact Nat.le_refl _
      · cases grounded.symm.trans (firingKey?_of_firing firing)

end Allows

end Timer

theorem TimerPath.nextKey {origin timer : Timer κ} {history : TimerHistory κ}
    (path : TimerPath origin history timer) : origin.nextKey.number ≤ timer.nextKey.number := by
  induction path with
  | start => exact Nat.le_refl _
  | step _ moved ih => exact Nat.le_trans ih (TimerStride.change moved).nextKey

/-! ## An entry that waits -/

/-- While the moves of `later` are made, the entry waits whose appointment is `deadline`.  It does
so at `origin`, and it is neither disarmed nor fired. -/
structure TimerWait (earlier : TimerHistory κ) (origin : Timer κ) (later : TimerHistory κ)
    (timer : Timer κ) (deadline : Appointment) : Prop where
  run : TimerRun earlier origin
  path : TimerPath origin later timer
  spaced : TimerHistory.Spaced (later ++ earlier)
  forward : TimerHistory.Forward (later ++ earlier)
  armed : ∃ cadence, origin.Waits cadence deadline
  undisarmed : later.disarmsOf deadline.key = 0
  unfired : later.firingsOf deadline.key = 0

namespace TimerWait

variable {earlier later after before : TimerHistory κ} {origin middle timer : Timer κ}
  {stride : TimerStride κ} {deadline : Appointment} {key : TimerKey} {n : Nat}

theorem whole (wait : TimerWait earlier origin later timer deadline) :
    TimerRun (later ++ earlier) timer :=
  TimerPath.append wait.run wait.path

theorem listed (wait : TimerWait earlier origin later timer deadline) :
    deadline ∈ origin.agenda := by
  obtain ⟨_, waits⟩ := wait.armed
  exact waits.listed

/-- An entry that waits has waited before each of the moves. -/
theorem split (wait : TimerWait earlier origin (after ++ stride :: before) timer deadline) :
    TimerWait earlier origin before stride.before deadline ∧
      stride.before.Advance stride.move stride.deed stride.after ∧
      stride.deed.disarmsKey deadline.key = false ∧ stride.deed.firesKey deadline.key = false ∧
      stride.after.Tidy ∧ TimerPath stride.after after timer := by
  obtain ⟨path, moved, rest⟩ := wait.path.stride
  have undisarmed := wait.undisarmed
  have unfired := wait.unfired
  simp only [TimerHistory.disarmsOf, TimerHistory.firingsOf, TimerHistory.tally_append,
    TimerHistory.tally_cons, Nat.add_eq_zero_iff, ite_eq_right_iff, Nat.one_ne_zero, imp_false,
    Bool.not_eq_true] at undisarmed unfired
  obtain ⟨-, before_undisarmed, undisarmed⟩ := undisarmed
  obtain ⟨-, before_unfired, unfired⟩ := unfired
  have part : (before ++ earlier).Sublist ((after ++ stride :: before) ++ earlier) := by
    rw [List.append_assoc, List.cons_append]
    exact (List.sublist_cons_self stride _).trans (List.sublist_append_right after _)
  have wait' : TimerWait earlier origin before stride.before deadline :=
    ⟨wait.run, path, fun other member => wait.spaced other (part.subset member),
      wait.forward.sublist part, wait.armed, before_undisarmed, before_unfired⟩
  exact ⟨wait', stride.change moved, undisarmed, unfired, wait'.whole.tidy.advance moved, rest⟩

/-- Until the worker ends, an entry that waits has its appointment. -/
theorem waits (wait : TimerWait earlier origin later timer deadline) :
    timer.worker ≠ .exited → ∃ cadence, timer.Waits cadence deadline := by
  induction later generalizing timer with
  | nil =>
      cases wait.path
      exact fun _ => wait.armed
  | cons stride later ih =>
      obtain ⟨wait', change, undisarmed, unfired, -, path⟩ := split (show TimerWait earlier origin
        ([] ++ stride :: later) timer deadline from wait)
      cases path
      intro alive
      obtain ⟨cadence, waits⟩ := ih wait' (change.alive alive)
      exact ⟨cadence, waits.advance wait'.whole.tidy change undisarmed unfired alive⟩

/-- **A key fires no more often than it is allowed to**, from any moment of the wait. -/
theorem firingsOf_le (wait : TimerWait earlier origin (after ++ before) timer deadline)
    (path : TimerPath middle after timer) (drawn : key.number < middle.nextKey.number)
    (other : key ≠ deadline.key) (allows : middle.Allows deadline key n) :
    TimerHistory.firingsOf after key ≤ n := by
  -- What is left of the turns is what the key is still allowed at the end.
  suffices left : ∃ m, TimerHistory.firingsOf after key + m ≤ n ∧ timer.Allows deadline key m by
    obtain ⟨m, bound, -⟩ := left
    exact Nat.le_trans (Nat.le_add_right _ m) bound
  induction path with
  | start => exact ⟨n, Nat.le_of_eq (Nat.zero_add n), allows⟩
  | @step after stride path moved ih =>
      obtain ⟨wait', change, -⟩ := split (show TimerWait earlier origin
        ([] ++ stride :: (after ++ before)) stride.after deadline from wait)
      obtain ⟨m, bound, allows⟩ := ih wait'
      have journey : stride.before.Journey key stride.move stride.deed stride.after :=
        change.journey wait'.whole.tidy (Nat.lt_of_lt_of_le drawn path.nextKey)
      obtain ⟨rest, step, allows⟩ := allows.advance (wait'.whole.spaced wait'.spaced) other
        wait'.waits journey fun finished concludes appointment cadence firing =>
          wait'.whole.due_le_finished wait.forward concludes firing
      refine ⟨rest, ?_, allows⟩
      simp only [TimerHistory.firingsOf, TimerHistory.tally_cons] at bound ⊢
      omega

end TimerWait

/-! ## Overtaking -/

/-- Whether the move is a look of the worker. -/
def TimerMove.isLook : TimerMove κ → Bool
  | .poll _ => true
  | .arm .. | .disarm _ | .shutdown | .conclude _ => false

/-- The move does not read the clock before `since`. -/
def TimerMove.Since (since : Instant) : TimerMove κ → Prop
  | .arm now _ _ _ => since.nanos ≤ now.nanos
  | .poll now => since.nanos ≤ now.nanos
  | .conclude finished => since.nanos ≤ finished.nanos
  | .disarm _ | .shutdown => True

/-- How often the worker has looked. -/
def TimerHistory.looks (history : TimerHistory κ) : Nat := history.countP (·.move.isLook)

namespace Timer

/-- The due times of a key: those of its appointments, and the one that is being kept. -/
def duesOf (timer : Timer κ) (key : TimerKey) : List Instant :=
  let kept : Agenda :=
    match timer.worker with
    | .firing appointment _ => [appointment]
    | .idle | .exited | .died => []
  ((kept ++ timer.agenda).filter (·.key == key)).map (·.due)

/-- How many turns the armed entries have before a deadline. -/
def backlog (timer : Timer κ) (deadline : Instant) : Nat :=
  (timer.armed.map fun entry =>
    ((timer.duesOf entry.key).map fun due => entry.cadence.turns due deadline).sum).sum

/-- An armed entry is allowed the turns of its due times. -/
theorem Tidy.allows_duesOf {timer : Timer κ} (tidy : timer.Tidy) {entry : ArmedEntry κ}
    (armed : entry ∈ timer.armed) (deadline : Appointment) :
    timer.Allows deadline entry.key
      ((timer.duesOf entry.key).map fun due => entry.cadence.turns due deadline.due).sum where
  waiting := by
    rintro _ appointment own ⟨other, among, rfl, keeps⟩ _
    obtain rfl := tidy.eq_of_key among armed (keeps.2.1.symm.trans own)
    refine List.le_sum_of_mem (List.mem_map_of_mem (List.mem_map_of_mem ?_))
    exact List.mem_filter.mpr ⟨List.mem_append_right _ keeps.1, beq_iff_eq.mpr own⟩
  flying := by
    intro cadence appointment own firing
    obtain ⟨rfl, -⟩ := (tidy.flying appointment cadence firing).2.2 entry armed own.symm
    refine Nat.le_succ_of_le (List.le_sum_of_mem (List.mem_map_of_mem (List.mem_map_of_mem ?_)))
    refine List.mem_filter.mpr ⟨List.mem_append_left _ ?_, beq_iff_eq.mpr own⟩
    simp [firing]

end Timer

/-- How often an entry that waits for its appointment `deadline` is overtaken. -/
structure Overtaking (origin : Timer κ) (later : TimerHistory κ) (timer : Timer κ)
    (deadline : Appointment) : Prop where
  /-- Another key that waits fires no more often than it has turns from its due time on. -/
  waiting : ∀ cadence appointment, origin.Waits cadence appointment →
    appointment.key ≠ deadline.key →
    later.firingsOf appointment.key ≤ cadence.turns appointment.due deadline.due
  /-- A key that is in flight has taken one of its turns. -/
  flying : ∀ cadence appointment, origin.worker = .firing appointment cadence →
    later.firingsOf appointment.key ≤ cadence.turns appointment.due deadline.due - 1
  /-- A key that comes back during the wait has the turns of its next due time. -/
  back : ∀ after stride before finished cadence appointment next,
    later = after ++ stride :: before → stride.move = .conclude finished →
    stride.before.worker = .firing appointment cadence →
    cadence.nextDue appointment.due finished = .due next →
    TimerHistory.firingsOf after appointment.key ≤ cadence.turns next deadline.due
  /-- A key that is armed during the wait has the turns of its due time, and none if the clock
  reads `deadline` or more by then. -/
  armed : ∀ stride ∈ later, ∀ now delay cadence callback key,
    stride.move = .arm now delay cadence callback → stride.deed = .arm key cadence →
    later.firingsOf key ≤ cadence.turns ⟨now.nanos + delay.nanos⟩ deadline.due ∧
      (deadline.due.nanos ≤ now.nanos → later.firingsOf key = 0)
  /-- No other key fires. -/
  absent : ∀ key, origin.isArmed key = false →
    (∀ stride ∈ later, ∀ cadence, stride.deed ≠ .arm key cadence) → later.firingsOf key = 0
  /-- When the time has come, each look of the worker starts the callback whose turn it is. -/
  served : timer.worker = .idle → timer.isShutdown = false →
    ∀ now, deadline.due.nanos ≤ now.nanos →
      ∃ key callback, (timer.poll now).1 = .firing key callback ∧ timer.IsTurnOf now key callback
  /-- From then on the worker looks no more often than there are turns left. -/
  prompt : timer.isShutdown = false → (∀ stride ∈ later, stride.move.Since deadline.due) →
    later.looks ≤ origin.backlog deadline.due

/-- Moves each of which fires one of the keys are no more than the firings of the keys. -/
theorem TimerHistory.countP_le_firings {history : TimerHistory κ} {keys : List TimerKey}
    {which : TimerStride κ → Bool}
    (fires : ∀ stride ∈ history, which stride = true →
      ∃ key ∈ keys, stride.deed.firesKey key = true) :
    history.countP which ≤ (keys.map (TimerHistory.firingsOf history)).sum := by
  induction history with
  | nil => exact Nat.zero_le _
  | cons stride history ih =>
      obtain ⟨first, rest⟩ := List.forall_mem_cons.mp fires
      have split : (keys.map (TimerHistory.firingsOf (stride :: history))).sum =
          (keys.map (TimerHistory.firingsOf history)).sum +
            (keys.map fun key => if stride.deed.firesKey key then 1 else 0).sum := by
        rw [← List.sum_map_add]
        exact congrArg List.sum (List.map_congr_left fun key _ => tally_cons stride history _)
      have one : (if which stride then 1 else 0) ≤
          (keys.map fun key => if stride.deed.firesKey key then 1 else 0).sum := by
        split
        · next chosen =>
          obtain ⟨key, member, own⟩ := first chosen
          refine List.le_sum_of_mem (List.mem_map.mpr ⟨key, member, ?_⟩)
          exact if_pos own
        · exact Nat.zero_le _
      rw [List.countP_cons, split]
      exact Nat.add_le_add (ih rest) one

theorem TimerHistory.firingsOf_pos {history : TimerHistory κ} {stride : TimerStride κ}
    {key : TimerKey} (member : stride ∈ history) (fires : stride.deed.firesKey key = true) :
    0 < history.firingsOf key :=
  List.countP_pos_iff.mpr ⟨stride, member, fires⟩

/-- A key that is not armed does not fire. -/
theorem TimerPath.firingsOf_eq_zero {origin timer : Timer κ} {history : TimerHistory κ}
    (path : TimerPath origin history timer) {key : TimerKey} (unarmed : origin.isArmed key = false)
    (never : ∀ stride ∈ history, ∀ cadence, stride.deed ≠ .arm key cadence) :
    timer.isArmed key = false ∧ history.firingsOf key = 0 := by
  induction path with
  | start => exact ⟨unarmed, rfl⟩
  | @step history stride _ moved ih =>
      obtain ⟨first, rest⟩ := List.forall_mem_cons.mp never
      obtain ⟨unarmed, silent⟩ := ih rest
      have change := stride.change moved
      have quiet : ¬ stride.deed.firesKey key = true := fun fires => by
        cases unarmed.symm.trans (change.isArmed (.inl fires))
      refine ⟨?_, ?_⟩
      · generalize stride.deed = deed at change first
        generalize stride.before = before, stride.move = move, stride.after = after at *
        cases change with
        | @arm _ _ _ cadence =>
            have other : before.nextKey ≠ key := fun same => first cadence (same ▸ rfl)
            rw [Timer.isArmed_book, unarmed, beq_eq_false_iff_ne.mpr other]
            rfl
        | disarm => rw [Timer.isArmed_remove, unarmed, Bool.false_and]
        | exit => rfl
        | fire => rw [Timer.isArmed_take, unarmed, Bool.false_and]
        | rearm => rw [Timer.isArmed_rebook, unarmed]
        | refuse | overflow | miss | shutdown | wait | finish | die => exact unarmed
      · simp only [TimerHistory.firingsOf, TimerHistory.tally_cons, if_neg quiet] at silent ⊢
        exact silent

namespace TimerWait

variable {earlier later : TimerHistory κ} {origin timer : Timer κ} {stride : TimerStride κ}
  {deadline : Appointment} {key : TimerKey} {cadence : Cadence}

/-- When the time of the entry has come, the worker starts a callback. -/
theorem served (wait : TimerWait earlier origin later timer deadline)
    (idle : timer.worker = .idle) (running : timer.isShutdown = false) {now : Instant}
    (due : deadline.due.nanos ≤ now.nanos) :
    ∃ key callback, (timer.poll now).1 = .firing key callback ∧
      timer.IsTurnOf now key callback := by
  obtain ⟨_, entry, armed, _, keeps⟩ := wait.waits (by simp [idle])
  obtain ⟨appointment, kept, fires⟩ := wait.whole.tidy.fires running idle now armed
  obtain rfl := wait.whole.tidy.eq_of_listed kept.1 keeps.1 (kept.2.1.trans keeps.2.1.symm)
  exact fires due

/-- An entry is armed by a request to do so. -/
theorem move_of_arm (wait : TimerWait earlier origin later timer deadline)
    (member : stride ∈ later) (deed : stride.deed = .arm key cadence) :
    ∃ now delay callback, stride.move = .arm now delay cadence callback := by
  obtain ⟨after, before, rfl⟩ := List.append_of_mem member
  obtain ⟨-, change, -⟩ := wait.split
  rw [deed] at change
  generalize stride.before = state, stride.move = move, stride.after = next at change
  cases change with
  | @arm now _ delay _ callback => exact ⟨now, delay, callback, rfl⟩

/-- A key that is armed during the wait. -/
theorem firingsOf_armed (wait : TimerWait earlier origin later timer deadline)
    (member : stride ∈ later) {now : Instant} {delay : Duration} {callback : κ}
    (move : stride.move = .arm now delay cadence callback) (deed : stride.deed = .arm key cadence) :
    later.firingsOf key ≤ cadence.turns ⟨now.nanos + delay.nanos⟩ deadline.due ∧
      (deadline.due.nanos ≤ now.nanos → later.firingsOf key = 0) := by
  obtain ⟨after, before, rfl⟩ := List.append_of_mem member
  obtain ⟨wait', change, -, -, tidy', path⟩ := wait.split
  rw [move, deed] at change
  have orderly := wait.run.tidy.orderly
  have made : deadline.sequence < stride.before.nextSequence :=
    Nat.lt_of_lt_of_le (orderly.numbered deadline wait.listed) wait'.path.nextSequence
  have fresh : key = stride.before.nextKey := change.key_of_arm
  have other : key ≠ deadline.key := by
    intro same
    have below := Nat.lt_of_lt_of_le (orderly.booked deadline wait.listed) wait'.path.nextKey
    rw [← same, fresh] at below
    exact Nat.lt_irrefl _ below
  have drawn : key.number < stride.after.nextKey.number :=
    tidy'.orderly.booked _ (Timer.Waits.of_arm wait'.whole.tidy change).1.listed
  -- The key has not fired before it was armed.
  have silent : TimerHistory.firingsOf (after ++ stride :: before) key =
      TimerHistory.firingsOf after key := by
    have none := (wait'.whole.leaves_eq_zero (Nat.le_of_eq (congrArg _ fresh.symm))).1
    simp only [TimerHistory.firingsOf, TimerHistory.tally_append, TimerHistory.tally_cons, deed,
      TimerDeed.firesKey, Bool.false_eq_true, if_false] at none ⊢
    omega
  obtain ⟨allows, late⟩ := Timer.Allows.of_arm wait'.whole.tidy change tidy' made
  have fires : ∀ n, stride.after.Allows deadline key n → TimerHistory.firingsOf after key ≤ n :=
    fun n allows => wait.firingsOf_le path drawn other allows
  rw [silent]
  exact ⟨fires _ allows, fun reads => Nat.le_zero.mp (fires 0 (late reads))⟩

/-- A key that comes back during the wait. -/
theorem firingsOf_back {after before : TimerHistory κ}
    (wait : TimerWait earlier origin (after ++ stride :: before) timer deadline)
    {finished next : Instant} {appointment : Appointment}
    (concludes : stride.move = .conclude finished)
    (firing : stride.before.worker = .firing appointment cadence)
    (due : cadence.nextDue appointment.due finished = .due next) :
    TimerHistory.firingsOf after appointment.key ≤ cadence.turns next deadline.due := by
  obtain ⟨wait', change, -, -, -, path⟩ := wait.split
  have tidy := wait'.whole.tidy
  have drawn := (tidy.flying appointment cadence firing).1
  obtain ⟨_, waits⟩ := wait'.waits (by simp [firing])
  have other : appointment.key ≠ deadline.key := Ne.symm (tidy.waits_ne_of_firing firing waits)
  have journey := change.journey tidy drawn
  rw [concludes] at journey
  exact wait.firingsOf_le path (Nat.lt_of_lt_of_le drawn change.nextKey) other
    (.of_conclude journey firing due)

/-- A look of the worker that comes when the time of the entry has come starts a callback. -/
theorem fires_of_look (wait : TimerWait earlier origin later timer deadline)
    (running : timer.isShutdown = false) (since : ∀ stride ∈ later, stride.move.Since deadline.due)
    (member : stride ∈ later) (look : stride.move.isLook = true) :
    ∃ key, stride.deed.firesKey key = true := by
  obtain ⟨after, before, rfl⟩ := List.append_of_mem member
  have reads := since stride member
  obtain ⟨wait', change, -⟩ := wait.split
  have up : stride.before.isShutdown = false := by
    rw [← Bool.not_eq_true, wait'.whole.isShutdown_iff]
    rintro ⟨other, among, shutdown⟩
    have down : timer.isShutdown = true := wait.whole.isShutdown_iff.mpr ⟨other, by
      rw [List.append_assoc, List.cons_append]
      exact List.mem_append_right _ (List.mem_cons_of_mem _ among), shutdown⟩
    cases running.symm.trans down
  have waits := wait'.waits
  have tidy := wait'.whole.tidy
  generalize stride.deed = deed at change
  generalize stride.before = state, stride.move = move, stride.after = next at *
  cases change with
  | exit _ down => cases up.symm.trans down
  | @wait now passed kept idle _ agenda stale early =>
      obtain ⟨_, entry, armed, _, keeps⟩ := waits (by simp [idle])
      obtain ⟨listed, among, own, -⟩ := tidy.listed_of_idle idle agenda stale armed
      obtain rfl := tidy.eq_of_listed (agenda ▸ List.mem_append_right _ among) keeps.1
        (own.trans keeps.2.1.symm)
      obtain ⟨first, front, le⟩ := tidy.head_due_le agenda among
      have late := Instant.before_iff.mp (early first front)
      have reads : listed.due.nanos ≤ now.nanos := reads
      omega
  | @fire _ _ _ first => exact ⟨first.key, beq_self_eq_true first.key⟩
  | arm | refuse | overflow | disarm | miss | shutdown | finish | rearm | die => cases look

/-- While entries that are armed come too late, only keys that were armed before can fire. -/
theorem isArmed_of_fires (wait : TimerWait earlier origin later timer deadline)
    (since : ∀ stride ∈ later, stride.move.Since deadline.due) (member : stride ∈ later)
    (fires : stride.deed.firesKey key = true) : origin.isArmed key = true := by
  by_contra unarmed
  have unarmed : origin.isArmed key = false := by simpa using unarmed
  have fired := TimerHistory.firingsOf_pos member fires
  by_cases never : ∀ stride ∈ later, ∀ cadence, stride.deed ≠ .arm key cadence
  · rw [(wait.path.firingsOf_eq_zero unarmed never).2] at fired
    exact Nat.lt_irrefl _ fired
  · push Not at never
    obtain ⟨arming, among, cadence, deed⟩ := never
    obtain ⟨now, delay, callback, move⟩ := wait.move_of_arm among deed
    have reads : deadline.due.nanos ≤ now.nanos := by
      have since := since arming among
      rwa [move] at since
    rw [(wait.firingsOf_armed among move deed).2 reads] at fired
    exact Nat.lt_irrefl _ fired

end TimerWait

/-- **An entry that waits is overtaken no more often than there are turns before it.** -/
theorem overtaking_of_wait {earlier later : TimerHistory κ} {origin timer : Timer κ}
    {deadline : Appointment} (wait : TimerWait earlier origin later timer deadline) :
    Overtaking origin later timer deadline := by
  have tidy := wait.run.tidy
  have fires : ∀ key, key.number < origin.nextKey.number → key ≠ deadline.key → ∀ n,
      origin.Allows deadline key n → later.firingsOf key ≤ n := fun key drawn other n allows =>
    TimerWait.firingsOf_le (show TimerWait earlier origin (later ++ []) timer deadline from
      (List.append_nil later).symm ▸ wait) wait.path drawn other allows
  refine
    { waiting := ?_
      flying := ?_
      back := ?_
      armed := fun stride member _ _ _ _ _ move deed => wait.firingsOf_armed member move deed
      absent := fun key unarmed never => (wait.path.firingsOf_eq_zero unarmed never).2
      served := fun idle running now due => wait.served idle running due
      prompt := ?_ }
  · intro cadence appointment waits other
    refine fires appointment.key (tidy.orderly.booked appointment waits.listed) other _ ⟨?_, ?_⟩
    · intro cadence' listed own waits' _
      obtain ⟨rfl, rfl⟩ := tidy.waits_unique waits waits' own
      exact Nat.le_refl _
    · intro cadence' flown own firing
      exact absurd own.symm (tidy.waits_ne_of_firing firing waits)
  · intro cadence appointment firing
    obtain ⟨drawn, -, -⟩ := tidy.flying appointment cadence firing
    obtain ⟨_, armed⟩ := wait.armed
    have other := Ne.symm (tidy.waits_ne_of_firing firing armed)
    refine fires appointment.key drawn other _ ⟨?_, ?_⟩
    · intro _ _ own waits _
      exact absurd own (tidy.waits_ne_of_firing firing waits)
    · intro cadence' flown _ firing'
      cases firing.symm.trans firing'
      omega
  · rintro after stride before finished cadence appointment next rfl concludes firing due
    exact wait.firingsOf_back concludes firing due
  · intro running since
    have looks : ∀ stride ∈ later, stride.move.isLook = true →
        ∃ key ∈ origin.armed.map (·.key), stride.deed.firesKey key = true := by
      intro stride member look
      obtain ⟨key, own⟩ := wait.fires_of_look running since member look
      obtain ⟨entry, armed, same⟩ :=
        Timer.isArmed_eq_true_iff.mp (wait.isArmed_of_fires since member own)
      exact ⟨key, same ▸ List.mem_map_of_mem armed, own⟩
    refine Nat.le_trans (TimerHistory.countP_le_firings looks) ?_
    rw [List.map_map]
    refine List.sum_le_sum fun entry armed => ?_
    by_cases same : entry.key = deadline.key
    · simp only [Function.comp_apply, same, wait.unfired]
      exact Nat.zero_le _
    · exact fires entry.key (tidy.orderly.drawn entry armed) same _
        (tidy.allows_duesOf armed deadline)

/-- The moves by which a periodic entry is armed that is due at 5, and a one-shot entry that is due
at 27. -/
def unevenMoves : List (TimerMove Unit) :=
  [.arm ⟨0⟩ ⟨5⟩ (.fixedRate ⟨10⟩) (), .arm ⟨0⟩ ⟨27⟩ .once ()]

/-- The moves of a worker that comes late.  Another one-shot entry is armed before its second
look. -/
def belatedMoves : List (TimerMove Unit) :=
  [.poll ⟨30⟩, .conclude ⟨31⟩, .arm ⟨31⟩ ⟨0⟩ .once (), .poll ⟨31⟩, .conclude ⟨32⟩, .poll ⟨32⟩,
    .conclude ⟨33⟩]

/-- In `belatedMoves` the periodic entry overtakes the one-shot entry that is due at 27 three times,
which is as often as it can, and the entry that is armed too late does not. -/
theorem overtaking_of_belated : ∃ (earlier later : TimerHistory Unit) (origin timer : Timer Unit)
    (deadline : Appointment), TimerWait earlier origin later timer deadline ∧
      Overtaking origin later timer deadline ∧ deadline.due = ⟨27⟩ ∧
      later.firingsOf ⟨0⟩ = 3 ∧ (Cadence.fixedRate ⟨10⟩).turns ⟨5⟩ ⟨27⟩ = 3 ∧
      later.firingsOf ⟨2⟩ = 0 ∧ later.looks ≤ origin.backlog deadline.due := by
  obtain ⟨earlier, origin, later, timer, begun, played, arms, moves, armed, agenda, undisarmed,
      unfired, fired, silent, running⟩ : ∃ earlier origin later timer,
      (Timer.start : Timer Unit).play unevenMoves = some (earlier, origin) ∧
        origin.play belatedMoves = some (later, timer) ∧
        ((later ++ earlier).map (·.deed)).filter TimerDeed.isArm =
          [.arm ⟨2⟩ .once, .arm ⟨1⟩ .once, .arm ⟨0⟩ (.fixedRate ⟨10⟩)] ∧
        (later ++ earlier).map (·.move) = belatedMoves.reverse ++ unevenMoves.reverse ∧
        origin.armed = [⟨⟨0⟩, (), .fixedRate ⟨10⟩, 0⟩, ⟨⟨1⟩, (), .once, 1⟩] ∧
        origin.agenda = [⟨⟨5⟩, 0, ⟨0⟩⟩, ⟨⟨27⟩, 1, ⟨1⟩⟩] ∧
        later.disarmsOf ⟨1⟩ = 0 ∧ later.firingsOf ⟨1⟩ = 0 ∧ later.firingsOf ⟨0⟩ = 3 ∧
        later.firingsOf ⟨2⟩ = 0 ∧ timer.isShutdown = false :=
    ⟨_, _, _, _, rfl, rfl, rfl, rfl, rfl, rfl, rfl, rfl, rfl, rfl, rfl⟩
  have spaced : TimerHistory.Spaced (later ++ earlier) := by
    intro stride member key cadence deed
    have arming : stride.deed ∈ ((later ++ earlier).map (·.deed)).filter TimerDeed.isArm :=
      List.mem_filter.mpr ⟨List.mem_map_of_mem member, by rw [deed]; rfl⟩
    rw [arms, deed] at arming
    simp only [List.mem_cons, TimerDeed.arm.injEq, List.not_mem_nil, or_false] at arming
    rcases arming with ⟨-, rfl⟩ | ⟨-, rfl⟩ | ⟨-, rfl⟩ <;> rfl
  have forward : TimerHistory.Forward (later ++ earlier) := by
    have onward : ((later ++ earlier).map (·.move)).Pairwise fun back look =>
        ∀ finished now, back = .conclude finished → look = .poll now →
          now.nanos ≤ finished.nanos := by
      rw [moves]
      simp [belatedMoves, unevenMoves]
    exact List.pairwise_map.mp onward
  have wait : TimerWait earlier origin later timer ⟨⟨27⟩, 1, ⟨1⟩⟩ :=
    ⟨.of_play begun, .of_play played, spaced, forward,
      ⟨.once, ⟨⟨1⟩, (), .once, 1⟩, by simp [armed], rfl, by simp [agenda], rfl, rfl⟩, undisarmed,
      unfired⟩
  have since : ∀ stride ∈ later, stride.move.Since ⟨27⟩ := by
    intro stride member
    have made := Timer.move_mem_of_play played member
    simp only [belatedMoves, List.mem_cons, List.not_mem_nil, or_false] at made
    rcases made with eq | eq | eq | eq | eq | eq | eq <;> rw [eq] <;>
      simp [TimerMove.Since]
  have overtaking := overtaking_of_wait wait
  exact ⟨earlier, later, origin, timer, _, wait, overtaking, rfl, fired, rfl, silent,
    overtaking.prompt running since⟩

end TaskBarrier
