import SlotMachine.Proofs.Binary64.Signs

/-!
# Signs of sums

What is not below zero is at least `0.0`, and a number that is `BoundedBelow` is not infinitely far
below it: of such numbers there is always a sum, though it may be infinitely far below zero itself.
-/

namespace SlotMachine

namespace Binary64

open Float.Model UnpackedFloat

/-- A number that is not infinitely far below zero. -/
def BoundedBelow (x : Float) : Prop := x.isFinite = true ∨ 0.0 ≤ x

variable {x y : Float}

/-! ### Doubles and their parts -/

def unpacked (x : Float) : UnpackedFloat := x.toModel.unpack

lemma canonical_unpacked (x : Float) : Canonical (unpacked x) := canonical_unpack _

lemma unpacked_zero : unpacked 0.0 = .zero .positive := rfl

lemma unpacked_add (x y : Float) :
    unpacked (x + y) = stored (UnpackedFloat.add Format.binary64 (unpacked x) (unpacked y)) := rfl

lemma unpacked_sub (x y : Float) :
    unpacked (x - y) = stored (UnpackedFloat.sub Format.binary64 (unpacked x) (unpacked y)) := rfl

lemma isFinite_eq (x : Float) : x.isFinite = (unpacked x).isFinite := rfl

lemma isNaN_eq (x : Float) : x.isNaN = (unpacked x).isNaN := rfl

lemma le_iff : x ≤ y ↔ (unpacked x).le (unpacked y) = true := decide_eq_true_iff

lemma lt_iff : x < y ↔ (unpacked x).lt (unpacked y) = true := decide_eq_true_iff

lemma zero_le_iff : 0.0 ≤ x ↔ Nonneg (unpacked x) := by
  rw [le_iff, unpacked_zero]
  cases unpacked x with
  | notANumber => exact iff_of_false nofun id
  | infinity s =>
    cases s with
    | negative => exact iff_of_false nofun nofun
    | positive => exact iff_of_true rfl rfl
  | zero s => exact iff_of_true rfl trivial
  | finite s m e hm =>
    cases s with
    | negative => exact iff_of_false nofun nofun
    | positive => exact iff_of_true rfl rfl

lemma boundedBelow_iff :
    BoundedBelow x ↔ (unpacked x).isFinite = true ∨ Nonneg (unpacked x) :=
  or_congr Iff.rfl zero_le_iff

/-! ### Comparing -/

lemma lt_or_le (hx : 0.0 ≤ x) (hy : 0.0 ≤ y) : x < y ∨ y ≤ x := by
  rw [zero_le_iff] at hx hy
  rw [lt_iff, le_iff]
  exact hx.lt_or_le hy

lemma lt_zero_or_zero_le (h : x.isNaN = false) : x < 0.0 ∨ 0.0 ≤ x := by
  rw [isNaN_eq] at h
  rw [zero_le_iff, lt_iff, unpacked_zero]
  cases hu : unpacked x with
  | notANumber =>
    rw [hu] at h
    cases h
  | infinity s =>
    cases s with
    | negative => exact Or.inl rfl
    | positive => exact Or.inr rfl
  | zero s => exact Or.inr trivial
  | finite s m e hm =>
    cases s with
    | negative => exact Or.inl rfl
    | positive => exact Or.inr rfl

lemma BoundedBelow.isNaN_eq (h : BoundedBelow x) : x.isNaN = false := by
  rw [boundedBelow_iff] at h
  rw [Binary64.isNaN_eq]
  rcases h with hfin | h₀
  · exact isNaN_of_isFinite hfin
  · exact h₀.isNaN_eq

/-! ### Sums and differences -/

lemma zero_le_add (hx : 0.0 ≤ x) (hy : 0.0 ≤ y) : 0.0 ≤ x + y := by
  rw [zero_le_iff] at hx hy ⊢
  rw [unpacked_add]
  exact (hx.add hy).stored

lemma zero_le_sub (hx : 0.0 ≤ x) (hyfin : y.isFinite = true) (hy : 0.0 ≤ y) (h : y ≤ x) :
    0.0 ≤ x - y := by
  rw [zero_le_iff] at hx hy ⊢
  rw [le_iff] at h
  rw [isFinite_eq] at hyfin
  rw [unpacked_sub]
  exact (nonneg_sub (canonical_unpacked x) (canonical_unpacked y) hx hy hyfin h).stored

lemma isFinite_sub (hxfin : x.isFinite = true) (hx : 0.0 ≤ x) (hyfin : y.isFinite = true)
    (hy : 0.0 ≤ y) : (x - y).isFinite = true := by
  rw [zero_le_iff] at hx hy
  rw [isFinite_eq] at hxfin hyfin ⊢
  rw [unpacked_sub]
  have hexponent := exponentLe_sub (canonical_unpacked x) (canonical_unpacked y) hx hy hxfin hyfin
  exact hexponent.isFinite_stored

lemma boundedBelow_sub (hx : 0.0 ≤ x) (hyfin : y.isFinite = true) (hy : 0.0 ≤ y) :
    BoundedBelow (x - y) := by
  cases hxfin : x.isFinite with
  | true => exact Or.inl (isFinite_sub hxfin hx hyfin hy)
  | false =>
    right
    rw [zero_le_iff] at hx ⊢
    rw [isFinite_eq] at hxfin hyfin
    rw [unpacked_sub]
    exact (nonneg_sub_of_not_isFinite hx hxfin hyfin).stored

lemma boundedBelow_add (hxfin : x.isFinite = true) (hy : 0.0 ≤ y) : BoundedBelow (x + y) := by
  rw [zero_le_iff] at hy
  rw [isFinite_eq] at hxfin
  rw [boundedBelow_iff, unpacked_add]
  rcases nonneg_or_exponentLe_add (canonical_unpacked x) (canonical_unpacked y) hxfin hy with h | h
  · exact Or.inr h.stored
  · exact Or.inl h.isFinite_stored

lemma BoundedBelow.isNaN_add (hx : BoundedBelow x) (hy : BoundedBelow y) :
    (x + y).isNaN = false := by
  rw [boundedBelow_iff] at hx hy
  rw [Binary64.isNaN_eq, unpacked_add]
  exact isNaN_stored (Binary64.isNaN_add hx hy)

end Binary64

end SlotMachine
