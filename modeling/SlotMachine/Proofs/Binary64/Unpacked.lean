import Mathlib

/-!
# The parts of doubles

A double is worked with in parts, that is, as a sign, a mantissa and an exponent, and a result is
stored as a double again. The parts of a double fit its format (`canonical_unpack`). What is stored
keeps its sign, and is finite if its exponent is not too large (`stored_finite`).
-/

namespace SlotMachine

namespace Binary64

open Float.Model UnpackedFloat

/-- A mantissa and an exponent that a finite double can have. Only with the least exponent a
mantissa is short. -/
structure Fits (m : Nat) (e : Int) : Prop where
  mantissa_lt : m < 2 ^ 53
  le_exponent : -1074 ≤ e
  exponent_le : e ≤ 971
  normal : 2 ^ 52 ≤ m ∨ e = -1074

def Canonical : UnpackedFloat → Prop
  | .finite _ m e _ => Fits m e
  | _ => True

/-- A number with the sign, which may be infinite. -/
def HasSign (s : Sign) : UnpackedFloat → Prop
  | .notANumber => False
  | .infinity s' => s' = s
  | .zero s' => s' = s
  | .finite s' _ _ _ => s' = s

/-- A finite number with no larger exponent. -/
def ExponentLe (e : Int) : UnpackedFloat → Prop
  | .notANumber => False
  | .infinity _ => False
  | .zero _ => True
  | .finite _ _ e' _ => e' ≤ e

/-! ### The parts of a double -/

lemma toNat_one_append (fraction : BitVec 52) :
    ((1#1 : BitVec 1) ++ fraction).toNat = 2 ^ 52 + fraction.toNat := by
  rw [BitVec.toNat_append, ← Nat.shiftLeft_add_eq_or_of_lt fraction.isLt]
  rfl

lemma fits_subnormal (fraction : BitVec 52) : Fits fraction.toNat (0 - (1023 + 52) + 1) where
  mantissa_lt := Nat.lt_trans fraction.isLt (by decide : 2 ^ 52 < 2 ^ 53)
  le_exponent := by decide
  exponent_le := by decide
  normal := Or.inr rfl

lemma fits_normal {field : BitVec 11} (fraction : BitVec 52) (hzero : field ≠ 0#11)
    (hfull : field ≠ -1#11) :
    Fits ((1#1 : BitVec 1) ++ fraction).toNat (field.toNat - (1023 + 52)) := by
  have hfraction := fraction.isLt
  have hfield := field.isLt
  have hne : field.toNat ≠ 0 := fun h => hzero (BitVec.eq_of_toNat_eq h)
  have hne' : field.toNat ≠ 2047 := fun h => hfull (BitVec.eq_of_toNat_eq h)
  rw [toNat_one_append]
  constructor
  · omega
  · omega
  · omega
  · exact Or.inl (Nat.le_add_right _ _)

lemma canonical_unpack (b : BitVec 64) : Canonical (UnpackedFloat.unpack Format.binary64 b) := by
  unfold UnpackedFloat.unpack
  dsimp only
  split
  case isTrue =>
    split
    · trivial
    · trivial
  case isFalse hfull =>
    split
    case isTrue hzero =>
      split
      · trivial
      · rw [hzero]
        exact fits_subnormal _
    case isFalse hzero => exact fits_normal _ hzero hfull

/-! ### Storing a result -/

/-- What is left of a number when it is stored as a double. -/
def stored (u : UnpackedFloat) : UnpackedFloat :=
  UnpackedFloat.unpack Format.binary64 (UnpackedFloat.pack Format.binary64 u)

lemma stored_zero (s : Sign) : stored (.zero s) = .zero s := by
  cases s with
  | negative => rfl
  | positive => rfl

lemma stored_infinity (s : Sign) : stored (.infinity s) = .infinity s := by
  cases s with
  | negative => rfl
  | positive => rfl

lemma ofBitVec_unpackSign (s : Sign) (field : BitVec 11) (fraction : BitVec 52) :
    Sign.ofBitVec (@unpackSign Format.binary64
      (packComponents Format.binary64 s field fraction)) = s := by
  simp only [unpackSign, packComponents, BitVec.extractLsb]
  rw [BitVec.extractLsb'_append_eq_of_le (by decide),
    BitVec.extractLsb'_append_eq_of_le (by decide)]
  cases s with
  | negative => rfl
  | positive => rfl

lemma unpack_packComponents {s : Sign} {field : BitVec 11} {fraction : BitVec 52}
    (hfull : field ≠ -1#11) :
    let u := UnpackedFloat.unpack Format.binary64
      (packComponents Format.binary64 s field fraction)
    HasSign s u ∧ u.isFinite = true := by
  unfold UnpackedFloat.unpack
  simp only [unpackMantissa_packComponents, unpackExponent_packComponents, ofBitVec_unpackSign]
  rw [if_neg hfull]
  by_cases hzero : field = 0#11
  · rw [if_pos hzero]
    split
    · exact ⟨rfl, rfl⟩
    · exact ⟨rfl, rfl⟩
  · rw [if_neg hzero]
    exact ⟨rfl, rfl⟩

lemma stored_finite (s : Sign) (m : Nat) (e : Int) (hm : 0 < m) :
    HasSign s (stored (.finite s m e hm)) ∧
      (e ≤ 971 → (stored (.finite s m e hm)).isFinite = true) := by
  unfold stored UnpackedFloat.pack
  have hbiased : e + (Format.binary64.exponentBias : Int) +
    (Format.binary64.mantissaBitsWithoutImplicit : Int) = e + 1023 + 52 := rfl
  rw [hbiased]
  dsimp only
  split
  case isTrue hlarge =>
    constructor
    · exact (congrArg (HasSign s) (stored_infinity s)).mpr rfl
    · omega
  case isFalse hsmall =>
    split
    · have hfull : BitVec.ofNat 11 (e + 1023 + 52).toNat ≠ -1#11 := by
        intro h
        have hvalue := congrArg BitVec.toNat h
        rw [BitVec.toNat_ofNat, Nat.mod_eq_of_lt (by omega)] at hvalue
        change _ = 2047 at hvalue
        omega
      exact ⟨(unpack_packComponents hfull).1, fun _ => (unpack_packComponents hfull).2⟩
    · have hfull : (0#11 : BitVec 11) ≠ -1#11 := by decide
      exact ⟨(unpack_packComponents hfull).1, fun _ => (unpack_packComponents hfull).2⟩

variable {u : UnpackedFloat} {s : Sign}

lemma HasSign.stored (h : HasSign s u) : HasSign s (stored u) := by
  cases u with
  | notANumber => exact h.elim
  | infinity s' =>
    rw [stored_infinity]
    exact h
  | zero s' =>
    rw [stored_zero]
    exact h
  | finite s' m e hm =>
    obtain rfl : s' = s := h
    exact (stored_finite s' m e hm).1

lemma ExponentLe.mono {e e' : Int} (h : ExponentLe e u) (he : e ≤ e') : ExponentLe e' u := by
  cases u with
  | notANumber => exact h
  | infinity s => exact h
  | zero s => trivial
  | finite s m e₀ hm => exact Int.le_trans h he

lemma ExponentLe.isFinite_stored (h : ExponentLe 971 u) :
    (Binary64.stored u).isFinite = true := by
  cases u with
  | notANumber => exact h.elim
  | infinity s => exact h.elim
  | zero s =>
    rw [stored_zero]
    rfl
  | finite s m e hm => exact (stored_finite s m e hm).2 h

end Binary64

end SlotMachine
