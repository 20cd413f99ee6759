import TaskBarrier.Proofs.Bodies
import TaskBarrier.Proofs.Guarantee
import TaskBarrier.Proofs.Handling

/-!
# Delivery of values

A task that is handed in to produce a value leaves whoever handed it in with somebody to ask.  The
producer is hidden in the body.  What the question is answered depends on everything that runs the
body or throws it away: a run on any thread, a panic that leaves the body, a cancel before the run,
and a reset that drops the task.

* The answers are *pending* at first.  Then the value is handed out, once, or not at all; and from
  then on the answer is that the value is abandoned.
* The value that is handed out is the one that the body has returned before.
* While the task is live or held the answer is pending.  Once it has ended, and nobody has its body
  to throw away any more, the answer is the value, if the body has returned one and it has not been
  handed out yet, and otherwise that it is abandoned.
* If nobody asks, nothing else is any different; see `Amend`.

## Main Definitions

* `History.outcome?`: how the body of the task has ended.
* `History.readings`: what those who asked have been told.
* `Told`: how the answers go with the end of the body and with the promise.
* `Honoured`: how they go with the record of the task.
* `Task.IsScheduled`: a task that is to run once and to produce a value.
* `Scheduler.forgo`: nobody will ask any more.
* `Delivery`.

The main statement is `delivery_of_scheduled`.
-/

namespace TaskBarrier

variable {ν : Type}

namespace History

/-- The latest end of the body of the task, and the value with which it has ended. -/
def outcome? (history : History ν) (id : TaskId) : Option (Option ν) :=
  history.findSome? (·.outcome? id)

/-- What those who have asked for the value of the task have been told, the earliest first. -/
def readings (history : History ν) (id : TaskId) : List (Reading ν) :=
  (history.filterMap (·.reading? id)).reverse

variable (stride : Stride ν) (history : History ν) (id : TaskId)

theorem outcome?_cons : History.outcome? (stride :: history) id =
    (stride.outcome? id).or (history.outcome? id) := by
  rw [outcome?, List.findSome?_cons]
  cases stride.outcome? id <;> rfl

theorem readings_cons : History.readings (stride :: history) id =
    history.readings id ++ (stride.reading? id).toList := by
  rw [readings, List.filterMap_cons]
  cases stride.reading? id <;> simp [readings]

variable {stride id}

/-- A step that does not end the body. -/
theorem outcome?_cons_of_none (continues : stride.outcome? id = none) :
    History.outcome? (stride :: history) id = history.outcome? id := by
  rw [outcome?_cons, continues, Option.none_or]

/-- A step in which nobody is told anything. -/
theorem readings_cons_of_none (untold : stride.reading? id = none) :
    History.readings (stride :: history) id = history.readings id := by
  rw [readings_cons, untold, Option.toList_none, List.append_nil]

end History

/-! ## Answers -/

/-- What those who have asked for a value have been told, the earliest first, when the body has
ended with `outcome`, if it has, and the promise has come to where it is. -/
inductive Told : List (Reading ν) → Option (Option ν) → Promise ν → Prop
  /-- There is no value yet. -/
  | pending (asked : Nat) : Told (.replicate asked .pending) none .pending
  /-- There is a value, and nobody has asked since. -/
  | ready (asked : Nat) (value : ν) :
      Told (.replicate asked .pending) (some (some value)) (.ready value)
  /-- The value has been handed out. -/
  | taken (asked : Nat) (value : ν) (late : Nat) :
      Told (.replicate asked .pending ++ .value value :: .replicate late .abandoned)
        (some (some value)) .closed
  /-- There will be no value. -/
  | lost (asked late : Nat) {outcome : Option (Option ν)}
      (valueless : ∀ value, outcome ≠ some (some value)) :
      Told (.replicate asked .pending ++ .replicate late .abandoned) outcome .closed

namespace Told

variable {readings : List (Reading ν)} {outcome : Option (Option ν)} {promise : Promise ν}

/-- Somebody asks. -/
theorem read (told : Told readings outcome promise) :
    Told (readings ++ [promise.read.1]) outcome promise.read.2 := by
  cases told with
  | pending asked => exact List.replicate_succ' ▸ .pending (asked + 1)
  | ready asked value => exact .taken asked value 0
  | taken asked value late =>
      rw [List.append_assoc, List.cons_append, Promise.read_closed, ← List.replicate_succ']
      exact .taken asked value (late + 1)
  | lost asked late valueless =>
      rw [List.append_assoc, Promise.read_closed, ← List.replicate_succ']
      exact .lost asked (late + 1) valueless

/-- As long as the promise is pending, the body has not ended. -/
theorem outcome_of_pending (told : Told readings outcome .pending) : outcome = none := by
  cases told with
  | pending => rfl

/-- The value is lost before anybody has been told. -/
theorem lose (asked : Nat) (valueless : ∀ value, outcome ≠ some (some value)) :
    Told (.replicate asked .pending) outcome .closed := by
  have lost := Told.lost asked 0 valueless
  rwa [List.replicate_zero, List.append_nil] at lost

/-- The body ends. -/
theorem settle (told : Told readings none .pending) (result : Option ν) :
    Told readings (some result) (Promise.pending.settle result) := by
  cases told with
  | pending asked =>
      cases result with
      | some value => exact .ready asked value
      | none => exact lose asked nofun

/-- The body is thrown away. -/
theorem discard (told : Told readings none .pending) : Told readings none .closed := by
  cases told with
  | pending asked => exact lose asked nofun

/-- **The order of the answers.** -/
theorem answers (told : Told readings outcome promise) :
    ∃ (asked : Nat) (value : Option ν) (late : Nat), readings =
      .replicate asked .pending ++ value.toList.map .value ++ .replicate late .abandoned := by
  cases told with
  | pending asked => exact ⟨asked, none, 0, by simp⟩
  | ready asked _ => exact ⟨asked, none, 0, by simp⟩
  | taken asked value late => exact ⟨asked, some value, late, by simp⟩
  | lost asked late => exact ⟨asked, none, late, by simp⟩

/-- What is answered next, when the promise is not pending any more: the value, if there is one and
it has not been handed out. -/
theorem next (told : Told readings outcome promise) (settled : promise ≠ .pending) :
    (∃ value, outcome = some (some value) ∧ .value value ∉ readings ∧
      promise.read.1 = .value value) ∨
    (∀ value, outcome = some (some value) → .value value ∈ readings) ∧
      promise.read.1 = .abandoned := by
  cases told with
  | pending => exact absurd rfl settled
  | ready asked value => exact .inl ⟨value, rfl, by simp, rfl⟩
  | taken asked value late =>
      refine .inr ⟨?_, rfl⟩
      rintro _ ⟨⟩
      simp
  | lost asked late valueless => exact .inr ⟨fun value same => absurd same (valueless value), rfl⟩

end Told

/-! ## The value and the body -/

/-- How the answers to those who ask for the value of a one-shot task, and the end of its body, go
with its record. -/
structure Honoured (id : TaskId) (history : History ν) (stage : Option RunStage) (task : Task ν)
    (promise : Promise ν) : Prop where
  promised : task.promise = some promise
  told : Told (history.readings id) (history.outcome? id) promise
  /-- The promise is pending as long as the end of the body is still to come. -/
  owes : promise = .pending ↔ task.Owes stage

/-- A step that does not end the body of a one-shot task keeps what is owed. -/
theorem Course.owes {id : TaskId} {deed : Deed} {task task' : Task ν}
    {stage stage' : Option RunStage}
    (course : Course id deed (some task) stage.toList (some task') stage'.toList)
    (fits : task.Fits stage) (once : task.periodic = false)
    (unsettled : deed.settles id = false) : task'.Owes stage' ↔ task.Owes stage := by
  generalize own : stage.toList = stages, own' : stage'.toList = stages' at course
  unfold Task.Owes
  cases course with
  | run slotted live =>
      obtain rfl := fits.stage_of_waiting (.inl live)
      obtain rfl := stage_of_toList own'
      simp [Task.setPhase, Task.setCounted]
  | replay slotted held =>
      obtain rfl := fits.stage_of_waiting (.inr held)
      obtain rfl := stage_of_toList own'
      simp [Task.setPhase]
  | enter =>
      obtain rfl := stage_of_toList own
      obtain rfl := stage_of_toList own'
      have intact := fits.body_of_intact (by rw [fits.phase_of_some]; rfl) once (by simp)
      simp [intact]
  | finish =>
      obtain rfl := stage_of_toList own
      cases stage' with
      | none => simp [Task.setCounted]
      | some stage' => simp [← own'] at own
  | leave | discard => simp [Deed.settles] at unsettled
  | hold | withdraw | doom | read | keep =>
      obtain rfl := stage_inj own own'
      exact Iff.rfl
  | reset =>
      obtain rfl := stage_inj own own'
      rw [Task.body_reset]

/-- The body that is left has been executed. -/
theorem Course.stage_of_leave {id : TaskId} {deed : Deed} {before after : Option (Task ν)}
    {stage stage' : Option RunStage}
    (course : Course id deed before stage.toList after stage'.toList) (leaves : deed = .leave id) :
    stage = some .executing ∧ stage' = some .finishing := by
  generalize own : stage.toList = stages, own' : stage'.toList = stages' at course
  cases course with
  | leave => exact ⟨stage_of_toList own, stage_of_toList own'⟩
  | keep apart => simp [leaves, Deed.concerns] at apart
  | _ => cases leaves

/-- The body that is thrown away is not being executed. -/
theorem Course.stage_of_discard {id : TaskId} {deed : Deed} {task : Task ν}
    {after : Option (Task ν)} {stage stage' : Option RunStage}
    (course : Course id deed (some task) stage.toList after stage'.toList)
    (fits : task.Fits stage) (discards : deed = .discard id) : stage = none ∧ stage' = none := by
  generalize own : stage.toList = stages, own' : stage'.toList = stages' at course
  cases course with
  | discard cancelled =>
      obtain rfl := fits.stage_of_ne (by simp [cancelled])
      exact ⟨rfl, stage_inj own own'⟩
  | keep apart => simp [discards, Deed.concerns] at apart
  | _ => cases discards

/-- **Every step keeps the answers in line with the body.** -/
theorem Honoured.step {id : TaskId} {history : History ν} {stride : Stride ν} {task task' : Task ν}
    {stage stage' : Option RunStage} {promise : Promise ν}
    (honoured : Honoured id history stage task promise) (single : task.Single)
    (passage : Passage id stride.deed (some task) stage (some task') stage')
    (handling : Handling id stride task task') :
    ∃ promise', Honoured id (stride :: history) stage' task' promise' := by
  obtain ⟨course, fits, fits', -, -⟩ := passage
  obtain ⟨promised, told, owes⟩ := honoured
  cases handling with
  | read answers continues unsettled =>
      refine ⟨promise.read.2, by rw [promised]; rfl, ?_, ?_⟩
      · rw [History.readings_cons, answers promise promised,
          History.outcome?_cons_of_none _ continues]
        exact told.read
      · rw [course.owes fits.of_some single.once unsettled, ← owes]
        cases promise <;> simp
  | leave untold result ends leaves =>
      obtain ⟨rfl, rfl⟩ := course.stage_of_leave leaves
      obtain rfl := owes.mpr (.inr rfl)
      have spent := fits'.of_some.body_of_used (course.periodic.trans single.once) (.inr rfl)
      refine ⟨Promise.pending.settle result, by rw [Task.leave, promised]; rfl, ?_, ?_⟩
      · rw [told.outcome_of_pending] at told
        rw [History.readings_cons_of_none _ untold, History.outcome?_cons, ends]
        exact told.settle result
      · simp only [Task.Owes, spent]
        cases result <;> simp
  | discard untold continues discards =>
      obtain ⟨rfl, rfl⟩ := course.stage_of_discard fits.of_some discards
      rw [← History.readings_cons_of_none _ untold, ← History.outcome?_cons_of_none _ continues]
        at told
      cases body : task.body with
      | repeating => exact absurd body single.unrepeated
      | spent =>
          have kept : task.discard = task := by rw [Task.discard, body]
          rw [kept]
          exact ⟨promise, promised, told, owes⟩
      | once =>
          obtain rfl := owes.mpr (.inl body)
          have nothing := told.outcome_of_pending
          rw [nothing] at told
          refine ⟨.closed, by simp [Task.discard, body, promised], ?_, ?_⟩
          · rw [nothing]
            exact told.discard
          · simp [Task.Owes]
  | keep untold continues unsettled same =>
      refine ⟨promise, same.trans promised, ?_, ?_⟩
      · rwa [History.readings_cons_of_none _ untold, History.outcome?_cons_of_none _ continues]
      · rw [course.owes fits.of_some single.once unsettled, ← owes]

/-! ## Tasks that are to produce a value -/

/-- A task that is to run once and to produce a value. -/
structure Task.IsScheduled (task : Task ν) : Prop where
  once : task.periodic = false
  produces : task.promise.isSome = true

/-- A task that is to produce a value stays so. -/
theorem Path.isScheduled {s s' : Scheduler ν} {later : History ν} (path : Path s later s')
    (sound : s.Sound) {id : TaskId} {task : Task ν} (found : s.barrier.task? id = some task)
    (scheduled : task.IsScheduled) :
    s'.Sound ∧ ∃ task', s'.barrier.task? id = some task' ∧ task'.IsScheduled := by
  induction path with
  | start => exact ⟨sound, task, found, scheduled⟩
  | step _ taken ih =>
      obtain ⟨sound, task, found, scheduled⟩ := ih
      have follows := Scheduler.follows_of_step taken
      have course := sound.course follows id
      have present := course.isSome_after
      rw [found] at present
      obtain ⟨task', found'⟩ := Option.isSome_iff_exists.mp present
      have handling := Scheduler.handling_of_step sound taken found found'
      rw [found, found'] at course
      exact ⟨sound.step follows, task', found', course.periodic.trans scheduled.once,
        handling.isSome_promise.trans scheduled.produces⟩

/-- No body ends of a task that is not there. -/
theorem Course.ne_leave_of_none {id : TaskId} {deed : Deed} {after : Option (Task ν)}
    {stages stages' : List RunStage} (course : Course id deed none stages after stages') :
    deed ≠ .leave id := by
  rintro rfl
  cases course with
  | keep apart => simp [Deed.concerns] at apart

/-- A step in which the task is not there yet tells nobody anything. -/
theorem Run.seen_of_none {history : History ν} {s : Scheduler ν} (run : Run history s)
    {thread : ThreadId} {now : Instant} {move : Move ν} {turn : Turn ν}
    (taken : s.step thread now move = some turn) {id : TaskId}
    (absent : s.barrier.task? id = none) :
    History.readings (⟨s, thread, now, move, turn⟩ :: history) id = history.readings id ∧
      History.outcome? (⟨s, thread, now, move, turn⟩ :: history) id = history.outcome? id := by
  have course := run.sound.course (Scheduler.follows_of_step taken) id
  rw [absent] at course
  exact ⟨History.readings_cons_of_none _ (Stride.reading?_of_none absent),
    History.outcome?_cons_of_none _ (Stride.outcome?_of_ne course.ne_leave_of_none)⟩

/-- Before a task is accepted, nobody has been told anything about it. -/
theorem Run.unasked {history : History ν} {s : Scheduler ν} (run : Run history s) {id : TaskId} :
    s.barrier.task? id = none → history.readings id = [] ∧ history.outcome? id = none := by
  refine run.induct (motive := fun history s => s.barrier.task? id = none →
    history.readings id = [] ∧ history.outcome? id = none) ?_ ?_
  · intro number config facility worker _
    exact ⟨rfl, rfl⟩
  · intro history s thread now move turn run taken ih absent'
    have present := (run.sound.course (Scheduler.follows_of_step taken) id).isSome_after
    have absent : s.barrier.task? id = none := by
      rw [absent'] at present
      simpa using (Bool.or_eq_false_iff.mp present.symm).1
    obtain ⟨readings, outcome⟩ := run.seen_of_none taken absent
    rw [readings, outcome]
    exact ih absent

/-- A task that has just been accepted owes its value. -/
theorem Honoured.accepted {id : TaskId} {history : History ν} {stage : Option RunStage}
    {periodic produces : Bool} {key : TimerKey}
    (scheduled : (Task.accepted id periodic key produces : Task ν).IsScheduled)
    (unread : history.readings id = []) (continues : history.outcome? id = none) :
    Honoured id history stage (.accepted id periodic key produces) .pending := by
  obtain rfl : periodic = false := scheduled.once
  obtain rfl : produces = true := by simpa [Task.accepted] using scheduled.produces
  refine ⟨rfl, ?_, by simp [Task.Owes, Task.accepted]⟩
  rw [unread, continues]
  exact .pending 0

/-- **In every state of a run, the answers** to those who asked for the value of a task are in line
with what has become of its body. -/
theorem Run.honoured {history : History ν} {s : Scheduler ν} (run : Run history s) {id : TaskId}
    {task : Task ν} (found : s.barrier.task? id = some task) (scheduled : task.IsScheduled) :
    ∃ stage promise, task.Fits stage ∧ Honoured id history stage task promise := by
  obtain ⟨stage, -, fits, holds⟩ := run.induct_passage id (motive := fun history s stage =>
    ∀ task, s.barrier.task? id = some task → task.IsScheduled →
      ∃ promise, Honoured id history stage task promise) (fun _ _ _ _ _ found => by cases found)
    (fun {history s thread now move turn stage stage'} run taken passage ih task' found'
        scheduled' => by
      rw [found'] at passage
      cases found : s.barrier.task? id with
      | none =>
          rw [found] at passage
          obtain ⟨periodic, key, produces, rfl⟩ := passage.course.of_none
          obtain ⟨readings, outcome⟩ := run.seen_of_none taken found
          obtain ⟨unread, continues⟩ := run.unasked found
          exact ⟨_, .accepted scheduled' (readings.trans unread) (outcome.trans continues)⟩
      | some task =>
          rw [found] at passage
          have handling := Scheduler.handling_of_step run.sound taken found found'
          have once := passage.course.periodic.symm.trans scheduled'.once
          have produces := handling.isSome_promise.symm.trans scheduled'.produces
          obtain ⟨promise, honoured⟩ := ih task found ⟨once, produces⟩
          exact honoured.step (run.single found once) passage handling)
  rw [found] at fits
  obtain ⟨promise, honoured⟩ := holds task found scheduled
  exact ⟨stage, promise, fits.of_some, honoured⟩

/-- A value that can be read is the one with which the body has ended. -/
theorem Run.outcome_of_ready {history : History ν} {s : Scheduler ν} (run : Run history s)
    {id : TaskId} {task : Task ν} (found : s.barrier.task? id = some task) {value : ν}
    (ready : task.promise = some (.ready value)) :
    ∃ ending ∈ history, ending.outcome? id = some (some value) := by
  revert task
  refine run.induct (motive := fun history s => ∀ {task : Task ν},
    s.barrier.task? id = some task → task.promise = some (.ready value) →
      ∃ ending ∈ history, ending.outcome? id = some (some value)) ?_ ?_
  · intro number config facility worker task found
    cases found
  · intro history s thread now move turn run taken ih task' found' ready'
    cases found : s.barrier.task? id with
    | none =>
        have course := run.sound.course (Scheduler.follows_of_step taken) id
        rw [found, found'] at course
        obtain ⟨periodic, key, produces, rfl⟩ := course.of_none
        cases produces <;> cases ready'
    | some task =>
        -- Unless the body ends now, the value could be read before.
        suffices before : task.promise = some (.ready value) ∨
            (⟨s, thread, now, move, turn⟩ : Stride ν).outcome? id = some (some value) by
          rcases before with ready | ends
          · obtain ⟨ending, member, ends⟩ := ih found ready
            exact ⟨ending, .tail _ member, ends⟩
          · exact ⟨_, .head _, ends⟩
        cases Scheduler.handling_of_step run.sound taken found found' with
        | read =>
            obtain ⟨promise, -, given⟩ := Option.map_eq_some_iff.mp ready'
            cases promise <;> cases given
        | leave untold result ends =>
            obtain ⟨promise, promised, given⟩ := Option.map_eq_some_iff.mp ready'
            rcases Promise.of_settle given with rfl | rfl
            · exact .inl promised
            · exact .inr ends
        | discard =>
            cases body : task.body with
            | spent => exact .inl (by simpa [Task.discard, body] using ready')
            | once | repeating =>
                have given : task.promise.map (·.settle none) = some (.ready value) := by
                  simpa only [Task.discard, body] using ready'
                obtain ⟨promise, promised, given⟩ := Option.map_eq_some_iff.mp given
                rcases Promise.of_settle given with rfl | delivered
                · exact .inl promised
                · cases delivered
        | keep _ _ _ same => exact .inl (same.symm.trans ready')

/-! ## Values that nobody asks for -/

/-- Whoever has handed the task in gives its value up: nobody will ask for it any more. -/
def Scheduler.forgo (s : Scheduler ν) (id : TaskId) : Scheduler ν :=
  s.amend id (Option.map fun _ => .closed)

/-- A step that is made after the value of the task has been given up. -/
def Stride.forgo (stride : Stride ν) (id : TaskId) : Stride ν :=
  stride.amend id (Option.map fun _ => .closed)

/-- A value that has been given up is not there, whether the body ends before or after. -/
theorem settles_forgone :
    Settles (Option.map fun _ => .closed : Option (Promise ν) → Option (Promise ν)) := by
  intro result promise
  cases promise <;> rfl

/-- Two barriers that differ at most in what has been promised. -/
structure Barrier.Alike (b b' : Barrier ν) : Prop where
  draining : b'.draining = b.draining
  outstanding : b'.outstanding = b.outstanding
  held : b'.held = b.held
  facility : b'.facility = b.facility
  phase? : ∀ id, b'.phase? id = b.phase? id

/-- A barrier is like itself with another promise. -/
theorem Barrier.alike_amend (b : Barrier ν) (id : TaskId)
    (f : Option (Promise ν) → Option (Promise ν)) : b.Alike (b.amend id f) where
  draining := rfl
  outstanding := rfl
  held := rfl
  facility := rfl
  phase? := by
    intro other
    unfold Barrier.phase?
    rw [b.task?_amend, Option.map_map]
    rfl

/-! ## Delivery -/

/-- **What those who ask for the value of a task are told**, after the given steps have led to the
given state. -/
structure Delivery (history : History ν) (s : Scheduler ν) (id : TaskId) (task : Task ν) :
    Prop where
  /-- The answers were pending at first.  Then the value was handed out, once or not at all; and
  since then it is abandoned. -/
  answers : ∃ (asked : Nat) (value : Option ν) (late : Nat), history.readings id =
    .replicate asked .pending ++ value.toList.map .value ++ .replicate late .abandoned
  /-- A value that was handed out is the one with which the body had returned. -/
  value : ∀ later stride earlier value, history = later ++ stride :: earlier →
    stride.reading? id = some (.value value) →
      ∃ ending ∈ earlier, ending.deed = .leave id ∧
        ending.move = .endBody (.returned (some value))
  /-- Whoever asks next is told what `reading` says. -/
  told : ∀ thread now turn, s.step thread now (.request (.read id)) = some turn →
    turn.signal = .answer (.reading (s.reading id))
  /-- While the task is live or held, there is no value yet. -/
  waiting : task.phase = .live ∨ task.phase = .held → s.reading id = .pending
  /-- The task has ended, and whoever has ended it has thrown its body away: there is the value, if
  the body has returned one and it has not been handed out, or else it is abandoned. -/
  ended : task.phase.isTerminal = true → (∀ thread, id ∉ Stack.discards (s.stack thread)) →
    (∃ value, history.outcome? id = some (some value) ∧ .value value ∉ history.readings id ∧
      s.reading id = .value value) ∨
    (∀ value, history.outcome? id = some (some value) → .value value ∈ history.readings id) ∧
      s.reading id = .abandoned
  /-- If nobody will ask any more, the same moves can be made. -/
  forgone : ∀ moves, (∀ entry ∈ moves, entry.2.2.reads id = false) → (s.forgo id).play moves =
    (s.play moves).map fun (later, last) => (later.map (·.forgo id), last.forgo id)
  /-- And they lead to the same barrier, by the same deeds. -/
  undisturbed : ∀ later last, Path s later last →
    last.barrier.Alike (last.forgo id).barrier ∧
      ∀ which, History.tally (later.map (·.forgo id)) which = later.tally which

/-- **A value that is handed out is the one with which the body had returned.** -/
theorem Run.outcome_of_value {later earlier : History ν} {stride : Stride ν} {s : Scheduler ν}
    (run : Run (later ++ stride :: earlier) s) {id : TaskId} {value : ν}
    (told : stride.reading? id = some (.value value)) :
    ∃ ending ∈ earlier, ending.deed = .leave id ∧
      ending.move = .endBody (.returned (some value)) := by
  obtain ⟨run, taken⟩ := run.stride
  obtain ⟨-, present, reading⟩ := (Stride.reading?_eq_some_iff taken).mp told
  obtain ⟨task, found⟩ := Option.isSome_iff_exists.mp present
  cases promised : task.promise with
  | none =>
      rw [Scheduler.reading_of_none found promised] at reading
      cases reading
  | some promise =>
      rw [Scheduler.reading_of_promised found promised] at reading
      cases promise with
      | pending | closed => cases reading
      | ready other =>
          obtain rfl := Reading.value.inj reading
          obtain ⟨ending, member, ends⟩ := run.outcome_of_ready found promised
          exact ⟨ending, member, Stride.eq_of_outcome? ends⟩

/-- While a task is live or held, its value is pending. -/
theorem Run.reading_of_waiting {history : History ν} {s : Scheduler ν} (run : Run history s)
    {id : TaskId} {task : Task ν} (found : s.barrier.task? id = some task)
    (scheduled : task.IsScheduled) (waiting : task.phase = .live ∨ task.phase = .held) :
    s.reading id = .pending := by
  obtain ⟨stage, promise, fits, promised, -, owes⟩ := run.honoured found scheduled
  obtain rfl := fits.stage_of_waiting waiting
  have continues : task.phase.isTerminal = false := by
    rcases waiting with live | held
    · rw [live]
      rfl
    · rw [held]
      rfl
  -- The body is intact, so its end is still to come.
  have once := fits.body_of_intact continues scheduled.once (by simp)
  obtain rfl := owes.mpr (.inl once)
  exact Scheduler.reading_of_promised found promised

/-- Once a task has ended and its body has been thrown away, its value is there or abandoned. -/
theorem Run.reading_of_ended {history : History ν} {s : Scheduler ν} (run : Run history s)
    {id : TaskId} {task : Task ν} (found : s.barrier.task? id = some task)
    (scheduled : task.IsScheduled) (ended : task.phase.isTerminal = true)
    (thrown : ∀ thread, id ∉ Stack.discards (s.stack thread)) :
    (∃ value, history.outcome? id = some (some value) ∧ .value value ∉ history.readings id ∧
      s.reading id = .value value) ∨
    (∀ value, history.outcome? id = some (some value) → .value value ∈ history.readings id) ∧
      s.reading id = .abandoned := by
  obtain ⟨stage, promise, fits, promised, told, owes⟩ := run.honoured found scheduled
  have resting : task.phase ≠ .running := by
    intro running
    rw [running] at ended
    cases ended
  obtain rfl := fits.stage_of_ne resting
  have spent : task.body = .spent := by
    cases phase : task.phase with
    | live | held | running => simp [phase, Phase.isTerminal] at ended
    | ran => exact (run.single found scheduled.once).ran phase
    | cancelled =>
        refine (run.buried found phase).resolve_right ?_
        rintro ⟨thread, discards⟩
        exact thrown thread discards
  have settled : promise ≠ .pending := by simp [owes, Task.Owes, spent]
  rw [Scheduler.reading_of_promised found promised]
  exact told.next settled

/-- **Every value is delivered.** -/
theorem delivery_of_scheduled {history : History ν} {s : Scheduler ν} (run : Run history s)
    {id : TaskId} {task : Task ν} (found : s.barrier.task? id = some task)
    (scheduled : task.IsScheduled) : Delivery history s id task := by
  obtain ⟨stage, promise, -, -, told, -⟩ := run.honoured found scheduled
  have drawn := run.sound.coherent.drawn id (Barrier.mem_ids_iff.mpr (by rw [found]; rfl))
  refine ⟨told.answers, ?_, ?_, run.reading_of_waiting found scheduled,
    run.reading_of_ended found scheduled, ?_, ?_⟩
  · rintro later stride earlier value rfl told
    exact run.outcome_of_value told
  · intro thread now turn taken
    exact (Scheduler.step_of_reads taken).1
  · intro moves unread
    exact Scheduler.play_amend drawn settles_forgone unread
  · intro later last path
    exact ⟨last.barrier.alike_amend id _, path.tally_amend drawn⟩

/-- The moves of a task that is to produce a value.  It is asked for three times: while the task is
held, after the run, and once more. -/
def deliveredMoves : List (ThreadId × Instant × Move Nat) :=
  [(0, ⟨0⟩, .request (.accept ⟨0⟩ .once true)),
    (1, ⟨0⟩, .request (.call ⟨0⟩)), (1, ⟨0⟩, .proceed), (1, ⟨0⟩, .proceed),
    (0, ⟨0⟩, .request (.read ⟨0⟩)),
    (0, ⟨0⟩, .request (.await .plain)), (0, ⟨0⟩, .proceed), (0, ⟨0⟩, .proceed),
    (0, ⟨0⟩, .endBody (.returned (some 7))), (0, ⟨0⟩, .proceed),
    (1, ⟨0⟩, .request (.read ⟨0⟩)), (1, ⟨0⟩, .request (.read ⟨0⟩))]

/-- The value of `deliveredMoves` is handed out once. -/
theorem delivery_of_delivered : ∃ (history : History Nat) (s : Scheduler Nat) (task : Task Nat),
    Run history s ∧ s.barrier.task? ⟨0⟩ = some task ∧ task.IsScheduled ∧ task.phase = .ran ∧
      history.readings ⟨0⟩ = [.pending, .value 7, .abandoned] ∧ Delivery history s ⟨0⟩ task := by
  obtain ⟨history, s, task, played, found, scheduled, ran, readings⟩ : ∃ history s task,
      (Scheduler.start 0 .default (.byHand .empty) none).play deliveredMoves = some (history, s) ∧
        s.barrier.task? ⟨0⟩ = some task ∧ task.IsScheduled ∧ task.phase = .ran ∧
          history.readings ⟨0⟩ = [.pending, .value 7, .abandoned] :=
    ⟨_, _, _, rfl, rfl, ⟨rfl, rfl⟩, rfl, rfl⟩
  have run := Run.of_play played
  exact ⟨history, s, task, run, found, scheduled, ran, readings,
    delivery_of_scheduled run found scheduled⟩

end TaskBarrier
