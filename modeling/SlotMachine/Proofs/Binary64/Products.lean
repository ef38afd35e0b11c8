import SlotMachine.Binary64
import SlotMachine.Proofs.Binary64.Overflow
import SlotMachine.Proofs.Binary64.Sums

/-!
# Products

The product of two doubles is rounded once, from its exact value, so that it overflows exactly if
that does (`isFinite_mul_iff`). The exact value is told in rational numbers, by the `size` of a
number in parts, which is that of the magnitude that is read from its bits.
-/

namespace SlotMachine

namespace Binary64

open Float.Model UnpackedFloat

/-! ### Sizes of doubles -/

/-- The size of a finite number. -/
def size : UnpackedFloat → ℚ
  | .finite _ m e _ => m * 2 ^ e
  | _ => 0

lemma size_nonneg (u : UnpackedFloat) : 0 ≤ size u := by
  cases u with
  | notANumber => exact le_rfl
  | infinity s => exact le_rfl
  | zero s => exact le_rfl
  | finite s m e hm => exact mul_nonneg m.cast_nonneg (zpow_nonneg two_pos.le e)

variable {u v : UnpackedFloat}

lemma Nonneg.mul (hu : Nonneg u) (hv : Nonneg v) (hufin : u.isFinite = true)
    (hvfin : v.isFinite = true) : Nonneg (UnpackedFloat.mul Format.binary64 u v) := by
  rcases hu.cases_of_isFinite hufin with ⟨s₁, rfl⟩ | ⟨m₁, e₁, hm₁, rfl⟩
  · rcases hv.cases_of_isFinite hvfin with ⟨s₂, rfl⟩ | ⟨m₂, e₂, hm₂, rfl⟩
    · trivial
    · trivial
  · rcases hv.cases_of_isFinite hvfin with ⟨s₂, rfl⟩ | ⟨m₂, e₂, hm₂, rfl⟩
    · trivial
    · exact (hasSign_roundWithAccuracy .positive).nonneg

lemma cases_of_isFinite (h : u.isFinite = true) :
    (∃ s, u = .zero s) ∨ ∃ s m e hm, u = .finite s m e hm := by
  cases u with
  | notANumber => cases h
  | infinity s => cases h
  | zero s => exact Or.inl ⟨s, rfl⟩
  | finite s m e hm => exact Or.inr ⟨s, m, e, hm, rfl⟩

lemma isFinite_stored_zero (s : Sign) : (stored (.zero s)).isFinite = true := by
  rw [stored_zero]
  rfl

lemma isFinite_stored_mul (hu : Canonical u) (hv : Canonical v) (hufin : u.isFinite = true)
    (hvfin : v.isFinite = true) :
    (stored (UnpackedFloat.mul Format.binary64 u v)).isFinite = true ↔
      size u * size v < overflow := by
  have hoverflow : 0 < overflow := lt_of_lt_of_le (by positivity) two_zpow_le_overflow
  rcases cases_of_isFinite hufin with ⟨s₁, rfl⟩ | ⟨s₁, m₁, e₁, hm₁, rfl⟩
  · have hsize : size (.zero s₁) * size v = 0 := zero_mul _
    rw [hsize]
    refine iff_of_true ?_ hoverflow
    rcases cases_of_isFinite hvfin with ⟨s₂, rfl⟩ | ⟨s₂, m₂, e₂, hm₂, rfl⟩
    · exact isFinite_stored_zero (s₁ * s₂)
    · exact isFinite_stored_zero (s₁ * s₂)
  · rcases cases_of_isFinite hvfin with ⟨s₂, rfl⟩ | ⟨s₂, m₂, e₂, hm₂, rfl⟩
    · have hsize : size (.finite s₁ m₁ e₁ hm₁) * size (.zero s₂) = 0 := mul_zero _
      rw [hsize]
      exact iff_of_true (isFinite_stored_zero (s₁ * s₂)) hoverflow
    · have hsize : size (.finite s₁ m₁ e₁ hm₁) * size (.finite s₂ m₂ e₂ hm₂) =
          ↑(m₁ * m₂) * 2 ^ (e₁ + e₂) := by
        rw [size, size, Nat.cast_mul, zpow_add₀ two_ne_zero]
        ring
      have hnormal : 2 ^ 52 ≤ m₁ * m₂ ∨ e₁ + e₂ ≤ 971 := by
        rcases hu.normal with h₁ | h₁
        · exact Or.inl (h₁.trans (Nat.le_mul_of_pos_right m₁ hm₂))
        · have h₂ := hv.exponent_le
          exact Or.inr (by omega)
      rw [hsize]
      exact isFinite_roundWithAccuracy_iff (s₁ * s₂) (Nat.mul_pos hm₁ hm₂).ne' hnormal

end Binary64

/-- The number that a magnitude stands for. -/
def Magnitude.value (m : Magnitude) : ℚ := m.mantissa * 2 ^ m.exponent

namespace Binary64

open Float.Model UnpackedFloat

lemma toNat_unpackMantissa (b : BitVec 64) :
    (@unpackMantissa Format.binary64 b).toNat = b.toNat % fractionCount := by
  unfold unpackMantissa BitVec.extractLsb
  rw [BitVec.toNat_cast, BitVec.extractLsb'_toNat, Nat.shiftRight_zero]
  rfl

lemma toNat_unpackExponent (b : BitVec 64) :
    (@unpackExponent Format.binary64 b).toNat = b.toNat / fractionCount % exponentCount := by
  unfold unpackExponent BitVec.extractLsb
  rw [BitVec.toNat_cast, BitVec.extractLsb'_toNat, Nat.shiftRight_eq_div_pow]
  rfl

lemma unpackExponent_ne_of_isFinite {b : BitVec 64}
    (h : (UnpackedFloat.unpack Format.binary64 b).isFinite = true) :
    @unpackExponent Format.binary64 b ≠ -1#11 := by
  intro hfull
  unfold UnpackedFloat.unpack at h
  dsimp only at h
  rw [if_pos hfull] at h
  split at h
  · cases h
  · cases h

/-- The magnitude of a finite double is told by its parts. -/
lemma magnitude_cases {x : Float} (h : x.isFinite = true) :
    (∃ s, unpacked x = .zero s ∧ magnitude x = ⟨0, -1074⟩) ∨
      ∃ s m e hm, unpacked x = .finite s m e hm ∧ magnitude x = ⟨m, e⟩ := by
  have hparts : unpacked x = UnpackedFloat.unpack Format.binary64 x.toBits.toBitVec := rfl
  have hbits : x.toBits.toBitVec.toNat = x.toBits.toNat := rfl
  rw [isFinite_eq, hparts] at h
  rw [hparts]
  unfold magnitude
  dsimp only
  rw [← hbits, ← toNat_unpackMantissa, ← toNat_unpackExponent]
  unfold UnpackedFloat.unpack
  dsimp only
  rw [if_neg (unpackExponent_ne_of_isFinite h)]
  by_cases hzero : @unpackExponent Format.binary64 x.toBits.toBitVec = 0#11
  · have hfield : (@unpackExponent Format.binary64 x.toBits.toBitVec).toNat = 0 := by
      rw [hzero]
      rfl
    rw [if_pos hzero, if_pos hfield]
    split
    case isTrue hfraction =>
      rw [hfraction]
      exact Or.inl ⟨_, rfl, rfl⟩
    case isFalse hfraction =>
      have hpos := Nat.pos_of_ne_zero fun h => hfraction (BitVec.eq_of_toNat_eq h)
      rw [hfield]
      exact Or.inr ⟨_, _, _, hpos, rfl, rfl⟩
  · have hfield : (@unpackExponent Format.binary64 x.toBits.toBitVec).toNat ≠ 0 :=
      fun h => hzero (BitVec.eq_of_toNat_eq h)
    rw [if_neg hzero, if_neg hfield]
    refine Or.inr ⟨_, _, _, Nat.pos_of_ne_zero ?_, rfl, congrArg (Magnitude.mk · _) ?_⟩
    · rw [toNat_one_append]
      omega
    · rw [toNat_one_append, Nat.add_comm]
      rfl

lemma value_magnitude {x : Float} (h : x.isFinite = true) :
    (magnitude x).value = size (unpacked x) := by
  rcases magnitude_cases h with ⟨s, hparts, hx⟩ | ⟨s, m, e, hm, hparts, hx⟩
  · rw [hparts, hx, Magnitude.value, Nat.cast_zero, zero_mul]
    rfl
  · rw [hparts, hx]
    rfl

lemma fits_magnitude {x : Float} (h : x.isFinite = true) :
    Fits (magnitude x).mantissa (magnitude x).exponent := by
  have hx := canonical_unpacked x
  rcases magnitude_cases h with ⟨s, hparts, hmagnitude⟩ | ⟨s, m, e, hm, hparts, hmagnitude⟩
  · rw [hmagnitude]
    exact fits_subnormal 0
  · rw [hmagnitude]
    rw [hparts] at hx
    exact hx

/-! ### Whole numbers -/

variable {m : Nat} {e : Int}

lemma unpack_packComponents_normal {field : BitVec 11} (s : Sign) (fraction : BitVec 52)
    (hzero : field ≠ 0#11) (hfull : field ≠ -1#11) (hm : 0 < m)
    (hmantissa : 2 ^ 52 + fraction.toNat = m) (hexponent : field.toNat - 1075 = e) :
    UnpackedFloat.unpack Format.binary64 (packComponents Format.binary64 s field fraction) =
      .finite s m e hm := by
  rw [← toNat_one_append] at hmantissa
  subst hmantissa hexponent
  unfold UnpackedFloat.unpack
  simp only [unpackMantissa_packComponents, unpackExponent_packComponents, ofBitVec_unpackSign]
  rw [if_neg hfull, if_neg hzero]
  rfl

/-- What fits is stored as it is, if its mantissa is not short. -/
lemma stored_of_fits (s : Sign) (hm : 0 < m) (h : Fits m e) (hnormal : 2 ^ 52 ≤ m) :
    stored (.finite s m e hm) = .finite s m e hm := by
  have hlow := h.le_exponent
  have hhigh := h.exponent_le
  have hlt := h.mantissa_lt
  have hbiased : e + (Format.binary64.exponentBias : Int) +
    (Format.binary64.mantissaBitsWithoutImplicit : Int) = e + 1023 + 52 := rfl
  have hsmall : ¬2 ^ Format.binary64.exponentBits ≤ (e + 1023 + 52).toNat + 1 := by
    show ¬2048 ≤ _
    omega
  have hbits : m.log2 + 1 = Format.binary64.mantissaBits :=
    congrArg (· + 1) ((Nat.log2_eq_iff hm.ne').2 ⟨hnormal, hlt⟩)
  have hfield : (BitVec.ofNat 11 (e + 1023 + 52).toNat).toNat = (e + 1023 + 52).toNat := by
    rw [BitVec.toNat_ofNat, Nat.mod_eq_of_lt (by omega)]
  have hfraction : (BitVec.ofNat 52 m).toNat = m % 2 ^ 52 := BitVec.toNat_ofNat m 52
  unfold stored UnpackedFloat.pack
  dsimp only
  rw [hbiased, if_neg hsmall, if_pos hbits]
  apply unpack_packComponents_normal
  · intro h
    rw [show (BitVec.ofNat 11 (e + 1023 + 52).toNat).toNat = 0 from congrArg _ h] at hfield
    omega
  · intro h
    rw [show (BitVec.ofNat 11 (e + 1023 + 52).toNat).toNat = 2047 from congrArg _ h] at hfield
    omega
  · show 2 ^ 52 + (BitVec.ofNat 52 m).toNat = m
    omega
  · show ((BitVec.ofNat 11 (e + 1023 + 52).toNat).toNat : Int) - 1075 = e
    omega

lemma mul_two_pow_bounds {k : Nat} (hm : m ≠ 0) (hk : m.log2 + k = 52) :
    2 ^ 52 ≤ m * 2 ^ k ∧ m * 2 ^ k < 2 ^ 53 := by
  have hlow : 2 ^ m.log2 ≤ m := Nat.log2_self_le hm
  have hhigh : m < 2 ^ (m.log2 + 1) := Nat.lt_log2_self
  constructor
  · rw [← hk, Nat.pow_add]
    exact Nat.mul_le_mul_right _ hlow
  · rw [show 53 = m.log2 + 1 + k by omega, Nat.pow_add]
    exact Nat.mul_lt_mul_of_pos_right hhigh (Nat.two_pow_pos k)

/-- A whole number is only lengthened when it is rounded. -/
lemma round_of_log2_add_eq {k : Nat} (s : Sign) (hm : 0 < m * 2 ^ k) (hk : m.log2 + k = 52) :
    UnpackedFloat.round Format.binary64 s m 0 = .finite s (m * 2 ^ k) (-k) hm := by
  have hm₀ : m ≠ 0 := by
    rintro rfl
    simp at hm
  have hlength : (0 - Format.binary64.targetExponent (totalExponent m 0)).toNat = k := by
    rw [targetExponent_eq]
    omega
  have hlong : (m * 2 ^ k).log2 = 52 := (Nat.log2_eq_iff hm.ne').2 (mul_two_pow_bounds hm₀ hk)
  have hresult := roundWithAccuracy_eq (m := m * 2 ^ k) (e := 0 - k) (n := 0) (r := m * 2 ^ k)
    (k := 0) s (by rw [targetExponent_eq]; omega) rfl (by rw [targetExponent_eq]; omega)
    (by simp; omega)
  unfold UnpackedFloat.round decreaseExponent
  dsimp only
  rw [hlength, Nat.shiftLeft_eq, hresult]
  simp

/-- A whole number that is longer than a mantissa changes by less than its last step. -/
lemma round_of_log2_eq {k : Nat} (s : Sign) (hm : m.log2 = 52 + k) (hk : k ≤ 900) :
    ∃ m' e' hm', UnpackedFloat.round Format.binary64 s m 0 = .finite s m' e' hm' ∧
      Fits m' e' ∧ 2 ^ 52 ≤ m' ∧ (m' : ℚ) * 2 ^ e' ≤ m + 2 ^ k := by
  have hlength : (0 - Format.binary64.targetExponent (totalExponent m 0)).toNat = 0 := by
    rw [targetExponent_eq]
    omega
  obtain ⟨r, hpos, hr, hle, hbound, hparts⟩ :=
    roundWithAccuracy_parts (e := 0) s hm (by omega)
  have hround : UnpackedFloat.round Format.binary64 s m 0 =
      .finite s (r / 2 ^ (r.log2 - 52)) (0 + k + (r.log2 - 52 : ℕ)) hpos := by
    unfold UnpackedFloat.round decreaseExponent
    dsimp only
    rw [hlength]
    exact hparts
  have hvalue : (r : ℚ) * 2 ^ (0 + k : ℤ) ≤ m + 2 ^ k := by
    have hrounded := roundedMantissa_le ((⟨m, false, false⟩ : ExtendedMantissa) >>> k)
    rw [← hr, mantissa_shiftRight] at hrounded
    have hdiv : m / 2 ^ k * 2 ^ k ≤ m := Nat.div_mul_le_self m (2 ^ k)
    have hle : r * 2 ^ k ≤ m + 2 ^ k := by nlinarith [Nat.two_pow_pos k]
    rw [zero_add, zpow_natCast]
    exact_mod_cast hle
  rcases Nat.lt_or_eq_of_le hbound with hlt | rfl
  · have hlog : r.log2 = 52 := (Nat.log2_eq_iff (by omega)).2 ⟨hle, hlt⟩
    simp only [hlog, Nat.sub_self, Nat.pow_zero, Nat.div_one, Nat.cast_zero, add_zero] at hround
    exact ⟨r, 0 + k, by omega, hround, ⟨hlt, by omega, by omega, Or.inl hle⟩, hle, hvalue⟩
  · have hlog : (2 ^ 53).log2 = 53 := Nat.log2_two_pow
    simp only [hlog] at hround
    refine ⟨2 ^ 52, 0 + k + 1, by decide, hround, ?_, le_rfl, ?_⟩
    · exact ⟨by decide, by omega, by omega, Or.inl le_rfl⟩
    · rw [zpow_add_one₀ two_ne_zero]
      push_cast at hvalue ⊢
      linarith

/-- A whole number as a double. -/
def whole (n : Nat) : UnpackedFloat :=
  stored (UnpackedFloat.normalize Format.binary64 n 0 .positive)

lemma unpacked_toFloat32 (n : UInt32) : unpacked n.toFloat = whole n.toNat := rfl

lemma unpacked_toFloat64 (n : UInt64) : unpacked n.toFloat = whole n.toNat := rfl

lemma nonneg_whole (n : Nat) : Nonneg (whole n) :=
  (hasSign_normalize (Int.natCast_nonneg n)).stored.nonneg

variable {n : Nat}

lemma isFinite_whole (hn : n < 2 ^ 64) : (whole n).isFinite = true := by
  have hbound : (n : Int).natAbs ≤ 1 * 2 ^ 64 := by omega
  have hexponent := exponentLe_normalize (e := 0) (by decide) hbound (by decide) .positive
  exact (hexponent.mono (by decide)).isFinite_stored

lemma whole_of_ne_zero (hn : n ≠ 0) :
    whole n = stored (UnpackedFloat.round Format.binary64 .positive n 0) := by
  rw [whole, normalize_of_pos (by omega), Int.toNat_natCast]

/-- A short whole number loses nothing as a double. -/
lemma size_whole (hn : n < 2 ^ 53) : size (whole n) = n := by
  by_cases hn₀ : n = 0
  · subst hn₀
    exact Nat.cast_zero.symm
  · have hlog : n.log2 < 53 := (Nat.log2_lt hn₀).2 hn
    obtain ⟨k, hk⟩ : ∃ k, n.log2 + k = 52 := ⟨52 - n.log2, by omega⟩
    obtain ⟨hnormal, hlt⟩ := mul_two_pow_bounds hn₀ hk
    have hm : 0 < n * 2 ^ k := by omega
    have hfits : Fits (n * 2 ^ k) (-k) := by
      constructor
      · exact hlt
      · omega
      · omega
      · exact Or.inl hnormal
    rw [whole_of_ne_zero hn₀, round_of_log2_add_eq .positive hm hk,
      stored_of_fits .positive hm hfits hnormal, size, Nat.cast_mul, mul_assoc, zpow_neg,
      zpow_natCast]
    push_cast
    rw [mul_inv_cancel₀ (by positivity), mul_one]

/-- A longer one changes by less than the last step of its mantissa. -/
lemma size_whole_le (hn : n < 2 ^ 64) : size (whole n) ≤ n * (1 + 1 / 2 ^ 52) := by
  by_cases hshort : n < 2 ^ 53
  · rw [size_whole hshort]
    exact le_mul_of_one_le_right n.cast_nonneg (by norm_num)
  · have hn₀ : n ≠ 0 := by omega
    have hlog : 53 ≤ n.log2 := (Nat.le_log2 hn₀).2 (by omega)
    have hlog' : n.log2 < 64 := (Nat.log2_lt hn₀).2 hn
    obtain ⟨k, hk⟩ : ∃ k, n.log2 = 52 + k := ⟨n.log2 - 52, by omega⟩
    obtain ⟨m, e, hm, hround, hfits, hnormal, hvalue⟩ :=
      round_of_log2_eq .positive hk (by omega)
    have hstep : (2 : ℚ) ^ k * 2 ^ 52 ≤ n := by
      have hle : 2 ^ n.log2 ≤ n := Nat.log2_self_le hn₀
      rw [hk, Nat.add_comm, Nat.pow_add] at hle
      exact_mod_cast hle
    rw [whole_of_ne_zero hn₀, hround, stored_of_fits .positive hm hfits hnormal, size]
    linarith

/-! ### Products of doubles -/

variable {x y : Float}

lemma unpacked_mul (x y : Float) :
    unpacked (x * y) = stored (UnpackedFloat.mul Format.binary64 (unpacked x) (unpacked y)) := rfl

lemma zero_le_mul (hxfin : x.isFinite = true) (hx : 0.0 ≤ x) (hyfin : y.isFinite = true)
    (hy : 0.0 ≤ y) : 0.0 ≤ x * y := by
  rw [zero_le_iff] at hx hy ⊢
  rw [isFinite_eq] at hxfin hyfin
  rw [unpacked_mul]
  exact (hx.mul hy hxfin hyfin).stored

lemma isInf_of_isFinite (h : x.isFinite = true) : x.isInf = false := by
  have hparts : x.isInf = (unpacked x).isInf := rfl
  rw [isFinite_eq] at h
  rw [hparts]
  rcases cases_of_isFinite h with ⟨s, hx⟩ | ⟨s, m, e, hm, hx⟩
  · rw [hx]
    rfl
  · rw [hx]
    rfl

/-- A product is finite unless its exact value overflows. -/
lemma isFinite_mul_iff (hx : x.isFinite = true) (hy : y.isFinite = true) :
    (x * y).isFinite = true ↔ size (unpacked x) * size (unpacked y) < overflow := by
  rw [isFinite_eq] at hx hy ⊢
  rw [unpacked_mul]
  exact isFinite_stored_mul (canonical_unpacked x) (canonical_unpacked y) hx hy

lemma isFinite_toFloat (n : UInt32) : n.toFloat.isFinite = true :=
  isFinite_whole (n.toNat_lt.trans (by decide))

lemma zero_le_toFloat (n : UInt32) : 0.0 ≤ n.toFloat := zero_le_iff.2 (nonneg_whole n.toNat)

/-- A word is exact as a double, so that only one rounding is left. -/
lemma isFinite_mul_toFloat_iff (hx : x.isFinite = true) (n : UInt32) :
    (x * n.toFloat).isFinite = true ↔ (magnitude x).value * n.toNat < overflow := by
  have hn : n.toNat < 2 ^ 53 := n.toNat_lt.trans (by decide)
  rw [isFinite_mul_iff hx (isFinite_toFloat n), value_magnitude hx, unpacked_toFloat32,
    size_whole hn]

end Binary64

end SlotMachine
