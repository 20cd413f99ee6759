import TaskBarrier.Time.Instant
import TaskBarrier.Identifier

/-!
# The agenda of a timer

An agenda lists what a timer has to do, the most urgent appointment first.  Appointments are
ordered by due time, and those that are due at the same instant by the order in which they were
made, which their sequence numbers tell.

An agenda is never searched for an entry that has been disarmed or moved.  Such appointments stay
where they are and are recognised as stale when they come up; see `TaskBarrier.Timer`.

## Main Definitions

- `Appointment`, `Appointment.precedes`.
- `Agenda.insert`: makes an appointment.
- `Agenda.Ordered`: the order that `insert` keeps.
-/

namespace TaskBarrier

/-- Something that a timer has to do: `key` is due at `due`. -/
structure Appointment where
  due : Instant
  /-- Appointments are numbered in the order in which they are made. -/
  sequence : Nat
  key : TimerKey
  deriving DecidableEq

namespace Appointment

/-- Whether `a` comes before `b`: earlier due, or equally due and made earlier. -/
def precedes (a b : Appointment) : Bool :=
  a.due.before b.due || (a.due == b.due && decide (a.sequence < b.sequence))

theorem precedes_iff {a b : Appointment} :
    a.precedes b = true ↔
      a.due.nanos < b.due.nanos ∨ (a.due.nanos = b.due.nanos ∧ a.sequence < b.sequence) := by
  obtain ⟨⟨m⟩, i, k⟩ := a
  obtain ⟨⟨n⟩, j, l⟩ := b
  simp [precedes, Instant.before]

end Appointment

/-- Appointments, the most urgent first. -/
abbrev Agenda := List Appointment

namespace Agenda

/-- Makes an appointment: it goes behind all that precede it. -/
def insert (a : Appointment) : Agenda → Agenda
  | [] => [a]
  | b :: rest => if b.precedes a then b :: insert a rest else a :: b :: rest

/-- Every appointment comes before all that stand behind it. -/
def Ordered (agenda : Agenda) : Prop := agenda.Pairwise (fun a b => a.precedes b = true)

@[simp] theorem insert_nil (a : Appointment) : insert a [] = [a] := rfl

theorem insert_cons (a b : Appointment) (rest : Agenda) :
    insert a (b :: rest) = if b.precedes a then b :: insert a rest else a :: b :: rest := rfl

/-- Making an appointment adds it and keeps all others. -/
theorem mem_insert {a b : Appointment} {agenda : Agenda} :
    b ∈ agenda.insert a ↔ b = a ∨ b ∈ agenda := by
  induction agenda with
  | nil => simp
  | cons head rest ih =>
      rw [insert_cons]
      split
      · simp only [List.mem_cons, ih]
        constructor <;> rintro (h | h | h) <;> simp [h]
      · simp

end Agenda

end TaskBarrier
