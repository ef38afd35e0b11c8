import Mathlib.Data.Prod.Lex
import Mathlib.Order.Basic
import SlotMachine.Instant

/-!
# The order of instants

Instants are ordered by seconds and then by nanoseconds, which is the order that `isBefore` decides.
Going back by hours keeps the order, and going back further leads to an earlier instant.
-/

namespace SlotMachine

namespace Instant

variable {a b : Instant}

/-- The seconds and the nanoseconds, compared in this order. -/
def toLexPair (i : Instant) : Int ×ₗ Nat := toLex (i.seconds, i.nanos)

lemma toLexPair_injective : Function.Injective toLexPair := by
  rintro ⟨s, n⟩ ⟨s', n'⟩ h
  obtain ⟨rfl, rfl⟩ := Prod.mk.inj (toLex.injective h)
  rfl

instance : LinearOrder Instant := LinearOrder.lift' toLexPair toLexPair_injective

lemma lt_iff : a < b ↔ a.seconds < b.seconds ∨ a.seconds = b.seconds ∧ a.nanos < b.nanos :=
  Prod.Lex.toLex_lt_toLex

lemma le_iff : a ≤ b ↔ a.seconds < b.seconds ∨ a.seconds = b.seconds ∧ a.nanos ≤ b.nanos :=
  Prod.Lex.toLex_le_toLex

lemma isBefore_eq (a b : Instant) : a.isBefore b = decide (a < b) := by
  rw [Bool.eq_iff_iff, decide_eq_true_iff, lt_iff]
  simp [isBefore]

/-- The later of two instants, taken back by no more hours than the earlier one, stays the later
one. -/
lemma hoursBefore?_mono {hours hours' : Nat} {start start' : Instant} (h : a ≤ b)
    (hh : hours' ≤ hours) (hs : a.hoursBefore? hours = some start)
    (hs' : b.hoursBefore? hours' = some start') : start ≤ start' := by
  simp only [hoursBefore?, Option.ite_none_left_eq_some, Option.some.injEq] at hs hs'
  obtain ⟨-, rfl⟩ := hs
  obtain ⟨-, rfl⟩ := hs'
  rw [le_iff] at h ⊢
  dsimp only
  omega

/-- So many hours earlier, whether such an instant can be told or not. -/
def hoursAgo (i : Instant) (hours : Nat) : Instant :=
  { i with seconds := i.seconds - 3600 * hours }

lemma hoursAgo_mono {hours hours' : Nat} (h : a ≤ b) (hh : hours' ≤ hours) :
    a.hoursAgo hours ≤ b.hoursAgo hours' := by
  rw [le_iff] at h ⊢
  dsimp only [hoursAgo]
  omega

/-- From the start of 1970 on there is always an instant a day earlier. -/
lemma hoursBefore?_eq_some (h : ⟨0, 0⟩ ≤ a) {hours : Nat} (hh : hours ≤ 24) :
    a.hoursBefore? hours = some (a.hoursAgo hours) := by
  have hearliest : earliest.seconds < -86400 := by decide
  refine if_neg ?_
  rw [isBefore_eq, decide_eq_true_iff, lt_iff]
  rw [le_iff] at h
  dsimp only at h ⊢
  omega

end Instant

end SlotMachine
