import Mathlib.Data.List.Basic
import Mathlib.Tactic.Common

/-!
# Checks one after the other

A computation that checks one thing after the other stops at the first that is wrong. What all the
checks find, each for itself, is a list of possible errors; the computation fails with the first
error of that list. The lists of two computations that are carried out one after the other are
joined.
-/

namespace SlotMachine

variable {ε ε' α β : Type}

/-! ### Results -/

lemma of_bind_eq_ok {x : Except ε α} {f : α → Except ε β} {b : β} (h : (x >>= f) = .ok b) :
    ∃ a, x = .ok a ∧ f a = .ok b := by
  cases x with
  | ok a => exact ⟨a, rfl, h⟩
  | error e => cases h

lemma mapError_eq_ok {x : Except ε α} {f : ε → ε'} {a : α} (h : x.mapError f = .ok a) :
    x = .ok a := by
  cases x with
  | ok a' =>
    cases h
    rfl
  | error e => cases h

/-- The error, if there is no result. -/
def error? : Except ε α → Option ε
  | .ok _ => none
  | .error e => some e

/-- A computation fails with the first of these errors, and only if there is one. -/
def FailsFirst (x : Except ε α) (found : List (Option ε)) : Prop :=
  error? x = found.findSome? id

/-- What comes second is checked if the first succeeds, with the result of the first. -/
lemma FailsFirst.bind {x : Except ε α} {f : α → Except ε β} {found found' : List (Option ε)}
    (hx : FailsFirst x found) (hf : ∀ a, x = .ok a → FailsFirst (f a) found') :
    FailsFirst (x >>= f) (found ++ found') := by
  rw [FailsFirst, List.findSome?_append, ← hx]
  cases x with
  | ok a => exact hf a rfl
  | error e => rfl

end SlotMachine
