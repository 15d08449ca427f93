import Mathlib.Data.List.Basic

/-!
Histories of an atomic register.

A history lists the reads and writes of a register in the order in which they take
effect, each read with the value that it has returned. It is legal when every read has
returned what the writes before it left.
-/

namespace AtomicRegister
universe u
variable {α : Type u}

inductive Access (α : Type u) where
  | write (value : α)
  | read (value : α)
  deriving DecidableEq

/-- The value of the register after a history. -/
def after (value : α) : List (Access α) → α
  | [] => value
  | .write written :: rest => after written rest
  | .read _ :: rest => after value rest

def Legal (value : α) : List (Access α) → Prop
  | [] => True
  | .write written :: rest => Legal written rest
  | .read returned :: rest => returned = value ∧ Legal value rest

def Access.written : Access α → Option α
  | .write value => some value
  | .read _ => none

def Access.returned : Access α → Option α
  | .write _ => none
  | .read value => some value

/-- The values written in a history, in order. -/
def writes (history : List (Access α)) : List α := history.filterMap Access.written

/-- The values read in a history, in order. -/
def reads (history : List (Access α)) : List α := history.filterMap Access.returned

theorem writes_append (earlier later : List (Access α)) :
    writes (earlier ++ later) = writes earlier ++ writes later :=
  List.filterMap_append

theorem reads_append (earlier later : List (Access α)) :
    reads (earlier ++ later) = reads earlier ++ reads later :=
  List.filterMap_append

theorem after_append (value : α) (earlier later : List (Access α)) :
    after value (earlier ++ later) = after (after value earlier) later := by
  induction earlier generalizing value with
  | nil => rfl
  | cons access rest ih => cases access <;> exact ih _

theorem legal_append (value : α) (earlier later : List (Access α)) :
    Legal value (earlier ++ later) ↔ Legal value earlier ∧ Legal (after value earlier) later := by
  induction earlier generalizing value with
  | nil => simp [Legal, after]
  | cons access rest ih =>
      cases access with
      | write written => exact ih written
      | read returned => simp only [List.cons_append, Legal, after, ih, and_assoc]

end AtomicRegister
