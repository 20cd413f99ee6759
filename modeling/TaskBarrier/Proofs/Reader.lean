import Mathlib.Data.List.Induction
import TaskBarrier.Event

/-!
# A reader of the log

Somebody who reads the events of one task, one by one, can know whether the task is periodic,
whether it has been held since its last start, whether it ends with the run in progress, and whether
it has ended.  This is the reader's *account* of the task.  An event that does not go with the
account is refused: a replay of a task that has not been held, or anything but a late cancel after
the end.

This module is about readers and events, and knows nothing of barriers.  That no event of a run is
ever refused is shown where runs are.

## Main Definitions

* `Milestone`, `Event.milestone?`: what divides the runs of a task from one another.
* `Chapter`, `Account`: what a reader knows of a task.
* `Account.read`, `Account.readAll`: what the reader knows after some more events.
* `Account.isLast`: whether the task cannot be expected to run again.

The main statements are `Account.held_of_noted`, by which a replay that is expected comes after the
task has been held, and `Account.eq_cancelTooLate_of_closed`, by which nothing comes after an end.
-/

namespace TaskBarrier

/-! ## Milestones -/

/-- What divides the runs of a task from one another. -/
inductive Milestone where
  /-- The body begins to be executed. -/
  | started
  /-- The body has returned or panicked. -/
  | ended
  /-- The run is over. -/
  | ran
  deriving DecidableEq

/-- The milestone that an event tells of. -/
def Event.milestone? : Event → Option Milestone
  | startedByFiring _ | startedByReplay _ => some .started
  | ran _ _ => some .ran
  | _ => none

/-! ## Accounts -/

/-- What the log has told of a task that goes on. -/
structure Chapter where
  periodic : Bool
  /-- Whether the task has been held since its last start. -/
  noted : Bool
  /-- Whether the task ends with the run in progress. -/
  doomed : Bool

/-- What a reader of the log knows of a task. -/
inductive Account where
  /-- The task has not been accepted. -/
  | unheard
  /-- The task goes on, as far as the log tells. -/
  | ongoing (chapter : Chapter)
  /-- The task has ended. -/
  | closed (periodic : Bool)

namespace Account

/-- What the reader knows after one more event, if the event could be expected. -/
def read : Account → Event → Option Account
  | account, .cancelTooLate _ => some account
  | unheard, .accepted _ _ cadence => some (ongoing ⟨cadence.isPeriodic, false, false⟩)
  | ongoing chapter, .coalesced _ => some (ongoing chapter)
  | ongoing chapter, .held _ _ => some (ongoing { chapter with noted := true })
  | ongoing chapter, .startedByFiring _ => some (ongoing { chapter with noted := false })
  | ongoing chapter, .startedByReplay _ =>
      if chapter.noted then some (ongoing { chapter with noted := false }) else none
  | ongoing chapter, .cancelledWhileRunning _ => some (ongoing { chapter with doomed := true })
  | ongoing chapter, .ran _ _ =>
      some (if chapter.periodic && !chapter.doomed then ongoing chapter
        else closed chapter.periodic)
  | ongoing chapter, .cancelled _ _ => some (closed chapter.periodic)
  | _, _ => none

/-- What the reader knows after some more events. -/
def readAll (account : Account) (events : List Event) : Option Account := events.foldlM read account

@[simp] theorem readAll_singleton (account : Account) (event : Event) :
    account.readAll [event] = account.read event := by
  simp [readAll]

theorem readAll_cons (account : Account) (event : Event) (events : List Event) :
    account.readAll (event :: events) = (account.read event).bind (·.readAll events) :=
  List.foldlM_cons

theorem readAll_append (account : Account) (earlier later : List Event) :
    account.readAll (earlier ++ later) = (account.readAll earlier).bind (·.readAll later) :=
  List.foldlM_append

/-- Whether the task is periodic, once that has been told. -/
def periodic? : Account → Option Bool
  | unheard => none
  | ongoing chapter => some chapter.periodic
  | closed periodic => some periodic

/-! ## What an account implies -/

/-- What every event that could be expected keeps, all of them keep. -/
theorem readAll_induct {motive : Account → Prop}
    (step : ∀ {account event account'}, account.read event = some account' → motive account →
      motive account')
    {account account' : Account} {events : List Event}
    (known : account.readAll events = some account') (holds : motive account) :
    motive account' := by
  induction events generalizing account with
  | nil =>
      obtain rfl := Option.some.inj known
      exact holds
  | cons event events ih =>
      rw [readAll_cons] at known
      obtain ⟨next, read, known⟩ := Option.bind_eq_some_iff.mp known
      exact ih known (step read holds)

/-- What the reader knew when an event was read. -/
theorem readAll_split {account last : Account} {earlier later : List Event} {event : Event}
    (known : account.readAll (earlier ++ event :: later) = some last) :
    ∃ before after, account.readAll earlier = some before ∧ before.read event = some after ∧
      after.readAll later = some last := by
  rw [readAll_append] at known
  obtain ⟨before, first, known⟩ := Option.bind_eq_some_iff.mp known
  rw [readAll_cons] at known
  obtain ⟨after, read, second⟩ := Option.bind_eq_some_iff.mp known
  exact ⟨before, after, first, read, second⟩

/-- Whether the task cannot be expected to run again after the run in progress. -/
def isLast : Account → Bool
  | unheard => false
  | ongoing chapter => !(chapter.periodic && !chapter.doomed)
  | closed _ => true

/-- **Of a task that has ended nothing is told** but that it was cancelled too late. -/
theorem closed_of_read {periodic : Bool} {account : Account} {event : Event}
    (read : (closed periodic).read event = some account) :
    (∃ id, event = .cancelTooLate id) ∧ account = closed periodic := by
  cases event with
  | cancelTooLate id => exact ⟨⟨id, rfl⟩, (Option.some.inj read).symm⟩
  | _ => cases read

/-- **What one event can tell of a task that goes on**: that it has ended, or that it goes on, as
periodic as before and no less doomed.  Its replay is expected if it has just been held, or has been
held and not started. -/
theorem ongoing_of_read {chapter : Chapter} {account : Account} {event : Event}
    (read : (ongoing chapter).read event = some account) :
    account = closed chapter.periodic ∨ ∃ noted doomed,
      account = ongoing ⟨chapter.periodic, noted, doomed⟩ ∧
        (chapter.doomed = true → doomed = true) ∧
        (noted = true → (∃ id size, event = .held id size) ∨
          event.milestone? ≠ some .started ∧ chapter.noted = true) := by
  cases event with
  | cancelled =>
      obtain rfl := Option.some.inj read
      exact .inl rfl
  | ran =>
      obtain rfl := Option.some.inj read
      split
      · exact .inr ⟨chapter.noted, chapter.doomed, rfl, id, fun noted => .inr ⟨nofun, noted⟩⟩
      · exact .inl rfl
  | held id size =>
      obtain rfl := Option.some.inj read
      exact .inr ⟨true, chapter.doomed, rfl, fun doomed => doomed, fun _ => .inl ⟨id, size, rfl⟩⟩
  | startedByFiring =>
      obtain rfl := Option.some.inj read
      exact .inr ⟨false, chapter.doomed, rfl, id, nofun⟩
  | startedByReplay =>
      obtain ⟨-, started⟩ := Option.ite_none_right_eq_some.mp read
      obtain rfl := Option.some.inj started
      exact .inr ⟨false, chapter.doomed, rfl, id, nofun⟩
  | cancelledWhileRunning =>
      obtain rfl := Option.some.inj read
      exact .inr ⟨chapter.noted, true, rfl, fun _ => rfl, fun noted => .inr ⟨nofun, noted⟩⟩
  | coalesced | cancelTooLate =>
      obtain rfl := Option.some.inj read
      exact .inr ⟨chapter.noted, chapter.doomed, rfl, id, fun noted => .inr ⟨nofun, noted⟩⟩
  | _ => cases read

/-- No event makes a task periodic, or a periodic task one-shot. -/
theorem periodic?_of_read {account account' : Account} {event : Event} {periodic : Bool}
    (read : account.read event = some account') (told : account.periodic? = some periodic) :
    account'.periodic? = some periodic := by
  cases account with
  | unheard => cases told
  | ongoing chapter =>
      rcases ongoing_of_read read with rfl | ⟨noted, doomed, rfl, -, -⟩
      · exact told
      · exact told
  | closed => rwa [(closed_of_read read).2]

/-- A task that is not to run again is never expected to. -/
theorem isLast_of_read {account account' : Account} {event : Event}
    (read : account.read event = some account') (last : account.isLast = true) :
    account'.isLast = true := by
  cases account with
  | unheard => cases last
  | ongoing chapter =>
      rcases ongoing_of_read read with rfl | ⟨noted, doomed, rfl, dooms, -⟩
      · rfl
      · have last : chapter.periodic = false ∨ chapter.doomed = true := by simpa [isLast] using last
        simpa [isLast] using last.imp_right dooms
  | closed => rwa [(closed_of_read read).2]

/-- What is told after the end of a task. -/
theorem eq_cancelTooLate_of_closed {periodic : Bool} {last : Account} {events : List Event}
    (known : (closed periodic).readAll events = some last) :
    ∀ event ∈ events, ∃ id, event = .cancelTooLate id := by
  induction events with
  | nil => nofun
  | cons event events ih =>
      rw [readAll_cons] at known
      obtain ⟨next, read, known⟩ := Option.bind_eq_some_iff.mp known
      obtain ⟨late, rfl⟩ := closed_of_read read
      intro other member
      rcases List.mem_cons.mp member with rfl | member
      · exact late
      · exact ih known other member

/-- A replay is expected because the task has just been held, or was expected before. -/
theorem noted_of_read {account : Account} {event : Event} {chapter : Chapter}
    (read : account.read event = some (ongoing chapter)) (noted : chapter.noted = true) :
    (∃ id size, event = .held id size) ∨ event.milestone? ≠ some .started ∧
      ∃ chapter', account = ongoing chapter' ∧ chapter'.noted = true := by
  cases account with
  | unheard =>
      cases event with
      | accepted =>
          obtain rfl := Account.ongoing.inj (Option.some.inj read)
          cases noted
      | _ => cases read
  | ongoing chapter' =>
      rcases ongoing_of_read read with ended | ⟨noted', doomed, goes, -, expected⟩
      · cases ended
      · obtain rfl := Account.ongoing.inj goes
        exact (expected noted).imp_right fun ⟨unstarted, noted⟩ => ⟨unstarted, chapter', rfl, noted⟩
  | closed => cases (closed_of_read read).2

/-- A task whose replay is expected has been held, and not been started since. -/
theorem held_of_noted {events : List Event} {chapter : Chapter}
    (known : unheard.readAll events = some (ongoing chapter)) (noted : chapter.noted = true) :
    ∃ before id size between, events = before ++ .held id size :: between ∧
      ∀ event ∈ between, event.milestone? ≠ some .started := by
  induction events using List.reverseRecOn generalizing chapter with
  | nil => cases known
  | append_singleton events event ih =>
      rw [readAll_append] at known
      obtain ⟨account, known, read⟩ := Option.bind_eq_some_iff.mp known
      rw [readAll_singleton] at read
      rcases noted_of_read read noted with ⟨id, size, rfl⟩ | ⟨unstarted, chapter', rfl, noted'⟩
      · exact ⟨events, id, size, [], rfl, nofun⟩
      · obtain ⟨before, id, size, between, rfl, since⟩ := ih known noted'
        refine ⟨before, id, size, between ++ [event], by simp, ?_⟩
        intro other member
        rcases List.mem_append.mp member with member | member
        · exact since other member
        · obtain rfl := List.mem_singleton.mp member
          exact unstarted

/-- A replay is told of only where one is expected. -/
theorem noted_of_startedByReplay {account account' : Account} {id : TaskId}
    (read : account.read (.startedByReplay id) = some account') :
    ∃ chapter, account = ongoing chapter ∧ chapter.noted = true := by
  cases account with
  | ongoing chapter => exact ⟨chapter, rfl, (Option.ite_none_right_eq_some.mp read).1⟩
  | unheard | closed => cases read

/-- A task has ended when it is told that it has been cancelled. -/
theorem closed_of_cancelled {account account' : Account} {id : TaskId} {outstanding : Nat}
    (read : account.read (.cancelled id outstanding) = some account') :
    ∃ periodic, account' = closed periodic := by
  cases account with
  | ongoing chapter => exact ⟨chapter.periodic, (Option.some.inj read).symm⟩
  | unheard | closed => cases read

/-- A task that is not to run again has ended when its run is over. -/
theorem closed_of_ran {account account' : Account} {id : TaskId} {outstanding : Nat}
    (read : account.read (.ran id outstanding) = some account') (last : account.isLast = true) :
    ∃ periodic, account' = closed periodic := by
  cases account with
  | ongoing chapter =>
      obtain rfl := Option.some.inj read
      have last : (chapter.periodic && !chapter.doomed) = false := Bool.not_eq_true' _ |>.mp last
      exact ⟨chapter.periodic, by rw [last]; rfl⟩
  | unheard | closed => cases read

/-- A task is not to run again once it is told that it has been cancelled during a run. -/
theorem isLast_of_cancelledWhileRunning {account account' : Account} {events : List Event}
    {id : TaskId} (known : account.readAll events = some account')
    (told : .cancelledWhileRunning id ∈ events) : account'.isLast = true := by
  obtain ⟨earlier, later, rfl⟩ := List.append_of_mem told
  obtain ⟨before, after, -, read, known⟩ := readAll_split known
  refine readAll_induct isLast_of_read known ?_
  cases before with
  | ongoing chapter =>
      obtain rfl := Option.some.inj read
      simp [isLast]
  | unheard | closed => cases read

/-- A one-shot task whose run is over has ended. -/
theorem closed_of_once {account account' last : Account} {events : List Event} {id : TaskId}
    {outstanding : Nat} (read : account.read (.ran id outstanding) = some account')
    (known : account'.readAll events = some last) (once : last.periodic? = some false) :
    ∃ periodic, account' = closed periodic := by
  cases account with
  | ongoing chapter =>
      have told := readAll_induct (motive := (·.periodic? = some chapter.periodic))
        periodic?_of_read known (periodic?_of_read read rfl)
      have once : chapter.periodic = false := Option.some.inj (told.symm.trans once)
      exact closed_of_ran read (by simp [isLast, once])
  | unheard | closed => cases read

end Account

end TaskBarrier
