import SlotMachine.Proofs.Binary64.Rounding

/-!
# Results that overflow

A result overflows exactly if its exact value reaches half of the step above the largest double,
`overflow`: halfway cases go to an even mantissa, and the largest double has an odd one
(`roundedMantissa_lt_iff`).
-/

namespace SlotMachine

namespace Binary64

open Float.Model UnpackedFloat

/-! ### Rounding a mantissa -/

lemma roundBit_shiftRight (m n : Nat) :
    ((⟨m, false, false⟩ : ExtendedMantissa) >>> (n + 1)).roundBit = (m / 2 ^ n % 2 != 0) := by
  have hstep : ((⟨m, false, false⟩ : ExtendedMantissa) >>> (n + 1)).roundBit =
      (((⟨m, false, false⟩ : ExtendedMantissa) >>> n).mantissa % 2 != 0) := rfl
  rw [hstep, mantissa_shiftRight]

lemma roundedMantissa_of_not_roundBit {em : ExtendedMantissa} (h : em.roundBit = false) :
    em.roundedMantissa = em.mantissa := by
  obtain ⟨m, _ | _, _ | _⟩ := em
  · rfl
  · rfl
  · cases h
  · cases h

/-- Halfway between two mantissas the even one is taken. -/
lemma roundedMantissa_of_roundBit {em : ExtendedMantissa} (h : em.roundBit = true)
    (hodd : em.mantissa % 2 = 1) : em.roundedMantissa = em.mantissa + 1 := by
  obtain ⟨m, _ | _, _ | _⟩ := em
  · cases h
  · cases h
  · exact congrArg (m + ·) hodd
  · rfl

lemma le_roundedMantissa (em : ExtendedMantissa) : em.mantissa ≤ em.roundedMantissa := by
  obtain ⟨m, _ | _, _ | _⟩ := em
  · exact le_rfl
  · exact le_rfl
  · exact Nat.le_add_right m _
  · exact Nat.le_succ m

/-- An even bound is reached from halfway below it on. -/
lemma roundedMantissa_lt_iff {m n bound : Nat} (heven : bound % 2 = 0) (hbound : 0 < bound) :
    ((⟨m, false, false⟩ : ExtendedMantissa) >>> n).roundedMantissa < bound ↔
      2 * m < (2 * bound - 1) * 2 ^ n := by
  cases n with
  | zero =>
    show m < bound ↔ _
    omega
  | succ n =>
    obtain ⟨em, hem⟩ : ∃ em, em = (⟨m, false, false⟩ : ExtendedMantissa) >>> (n + 1) := ⟨_, rfl⟩
    have hmantissa : em.mantissa = m / 2 ^ n / 2 := by
      rw [hem, mantissa_shiftRight, Nat.pow_succ, Nat.div_div_eq_div_mul]
    have hbit : em.roundBit = (m / 2 ^ n % 2 != 0) := by rw [hem, roundBit_shiftRight]
    have hhalf : 2 * m < (2 * bound - 1) * 2 ^ (n + 1) ↔ m / 2 ^ n < 2 * bound - 1 := by
      rw [Nat.div_lt_iff_lt_mul (Nat.two_pow_pos n), Nat.pow_succ, ← Nat.mul_assoc,
        Nat.mul_comm 2 m]
      exact Nat.mul_lt_mul_right Nat.two_pos
    rw [hhalf, ← hem]
    have hle := le_roundedMantissa em
    by_cases hzero : m / 2 ^ n % 2 = 0
    · have hbit' : em.roundBit = false := by simp [hbit, hzero]
      have hrounded := roundedMantissa_of_not_roundBit hbit'
      omega
    · have hone : m / 2 ^ n % 2 = 1 := by omega
      have hbit' : em.roundBit = true := by simp [hbit, hone]
      have hup := roundedMantissa_le em
      by_cases hodd : em.mantissa % 2 = 1
      · have hrounded := roundedMantissa_of_roundBit hbit' hodd
        omega
      · omega

/-! ### Results that overflow -/

/-- Half of the step above the largest double. -/
def overflow : ℚ := (2 ^ 54 - 1) * 2 ^ (970 : ℤ)

variable {m : Nat} {e : Int}

lemma isFinite_stored_finite_iff (s : Sign) (hm : 0 < m) :
    (stored (.finite s m e hm)).isFinite = true ↔ e ≤ 971 := by
  constructor
  · intro h
    by_contra he
    have hbiased : e + (Format.binary64.exponentBias : Int) +
      (Format.binary64.mantissaBitsWithoutImplicit : Int) = e + 1023 + 52 := rfl
    have hlarge : 2 ^ Format.binary64.exponentBits ≤ (e + 1023 + 52).toNat + 1 := by
      show 2048 ≤ _
      omega
    have hinf : stored (.finite s m e hm) = stored (.infinity s) := by
      unfold stored UnpackedFloat.pack
      dsimp only
      rw [hbiased, if_pos hlarge]
    rw [hinf, stored_infinity] at h
    cases h
  · exact (stored_finite s m e hm).2

/-- A result is rounded once, and shifted once more if it has become longer by that. -/
lemma roundWithAccuracy_eq {n r k : Nat} (s : Sign)
    (hn : (Format.binary64.targetExponent (totalExponent m e) - e).toNat = n)
    (hr : ((⟨m, false, false⟩ : ExtendedMantissa) >>> n).roundedMantissa = r)
    (hk : (Format.binary64.targetExponent (totalExponent r (e + n)) - (e + n)).toNat = k)
    (hpos : 0 < r / 2 ^ k) :
    roundWithAccuracy Format.binary64 s m e .exact = .finite s (r / 2 ^ k) (e + n + k) hpos := by
  have hmantissa := mantissa_shiftRight ⟨r, false, false⟩ k
  subst hn hr hk
  unfold roundWithAccuracy
  dsimp only
  split
  case isTrue hzero => exact absurd (hmantissa.symm.trans hzero) hpos.ne'
  case isFalse => congr

/-- The parts of a result whose mantissa is not short. -/
lemma roundWithAccuracy_parts {n : Nat} (s : Sign) (hm : m.log2 = 52 + n) (he : -1074 ≤ e + n) :
    ∃ r hpos, r = ((⟨m, false, false⟩ : ExtendedMantissa) >>> n).roundedMantissa ∧
      2 ^ 52 ≤ r ∧ r ≤ 2 ^ 53 ∧
      roundWithAccuracy Format.binary64 s m e .exact =
        .finite s (r / 2 ^ (r.log2 - 52)) (e + n + (r.log2 - 52 : ℕ)) hpos := by
  have hpos : m ≠ 0 := by
    rintro rfl
    rw [Nat.log2_zero] at hm
    omega
  obtain ⟨r, hr⟩ : ∃ r, ((⟨m, false, false⟩ : ExtendedMantissa) >>> n).roundedMantissa = r :=
    ⟨_, rfl⟩
  have hle : 2 ^ 52 ≤ r := by
    rw [← hr]
    refine Nat.le_trans ?_ (le_roundedMantissa _)
    rw [mantissa_shiftRight, Nat.le_div_iff_mul_le (Nat.two_pow_pos n), ← Nat.pow_add, ← hm]
    exact Nat.log2_self_le hpos
  have hr₀ : r ≠ 0 := by omega
  have hlog : 52 ≤ r.log2 := (Nat.le_log2 hr₀).2 hle
  have hfinal : 0 < r / 2 ^ (r.log2 - 52) := by
    have hpow : 2 ^ (r.log2 - 52) ≤ r :=
      (Nat.pow_le_pow_right Nat.two_pos (Nat.sub_le _ _)).trans (Nat.log2_self_le hr₀)
    exact Nat.div_pos hpow (Nat.two_pow_pos _)
  have hbound : r ≤ 2 ^ 53 := by
    rw [← hr]
    apply roundedMantissa_shiftRight_le
    rw [← Nat.pow_add, show 53 + n = m.log2 + 1 by omega]
    exact Nat.lt_log2_self.le
  refine ⟨r, hfinal, hr.symm, hle, hbound, ?_⟩
  apply roundWithAccuracy_eq s ?_ hr ?_
  · rw [targetExponent_eq]
    omega
  · rw [targetExponent_eq]
    omega

/-- A result with a large exponent fits if its mantissa does when it has been rounded. -/
lemma isFinite_roundWithAccuracy_of_le {n : Nat} (s : Sign) (hm : m.log2 = 52 + n)
    (he : 971 ≤ e + n) :
    (stored (roundWithAccuracy Format.binary64 s m e .exact)).isFinite = true ↔
      ((⟨m, false, false⟩ : ExtendedMantissa) >>> n).roundedMantissa < 2 ^ 53 ∧ e + n = 971 := by
  obtain ⟨r, hpos, hr, hle, -, hparts⟩ := roundWithAccuracy_parts s hm (e := e) (by omega)
  have hlog : r.log2 < 53 ↔ r < 2 ^ 53 := Nat.log2_lt (by omega)
  rw [hparts, isFinite_stored_finite_iff, ← hr, ← hlog]
  omega

lemma two_zpow_log2_le (hm : m ≠ 0) : (2 : ℚ) ^ (m.log2 + e) ≤ m * 2 ^ e := by
  rw [zpow_add₀ two_ne_zero, zpow_natCast]
  have hle : (2 : ℚ) ^ m.log2 ≤ m := by exact_mod_cast Nat.log2_self_le hm
  gcongr

lemma lt_two_zpow_log2 : (m : ℚ) * 2 ^ e < 2 ^ (m.log2 + e + 1) := by
  rw [show (m.log2 + e + 1 : Int) = (m.log2 + 1 : ℕ) + e by omega, zpow_add₀ two_ne_zero,
    zpow_natCast]
  have hlt : (m : ℚ) < 2 ^ (m.log2 + 1) := by exact_mod_cast Nat.lt_log2_self
  gcongr

lemma two_zpow_le_overflow : (2 : ℚ) ^ (1023 : ℤ) ≤ overflow := by
  rw [overflow, show (1023 : ℤ) = 53 + 970 from rfl, zpow_add₀ two_ne_zero]
  gcongr
  norm_num

lemma overflow_le_two_zpow : overflow ≤ 2 ^ (1024 : ℤ) := by
  rw [overflow, show (1024 : ℤ) = 54 + 970 from rfl, zpow_add₀ two_ne_zero]
  gcongr
  norm_num

lemma lt_overflow_iff {n : Nat} (h : e + n = 971) :
    (m : ℚ) * 2 ^ e < overflow ↔ 2 * m < (2 * 2 ^ 53 - 1) * 2 ^ n := by
  have hpow : (2 : ℚ) ^ (970 : ℤ) * 2 = 2 ^ n * 2 ^ e := by
    rw [← zpow_natCast, ← zpow_add₀ two_ne_zero, ← zpow_add_one₀ two_ne_zero]
    congr 1
    omega
  have hhalf : overflow = (2 ^ 54 - 1) * 2 ^ n / 2 * 2 ^ e := by
    rw [overflow]
    linear_combination (2 ^ 54 - 1) / 2 * hpow
  have hpos : (0 : ℚ) < 2 ^ e := by positivity
  rw [hhalf, mul_lt_mul_iff_left₀ hpos, lt_div_iff₀ two_pos, ← Nat.cast_lt (α := ℚ)]
  push_cast
  rw [mul_comm]
  norm_num

/-- A result overflows if its exact value does, unless its mantissa is short of a large exponent. -/
lemma isFinite_roundWithAccuracy_iff (s : Sign) (hm : m ≠ 0) (h : 2 ^ 52 ≤ m ∨ e ≤ 971) :
    (stored (roundWithAccuracy Format.binary64 s m e .exact)).isFinite = true ↔
      (m : ℚ) * 2 ^ e < overflow := by
  have hlog : 2 ^ 52 ≤ m ↔ 52 ≤ m.log2 := (Nat.le_log2 hm).symm
  have hlt : m < 2 ^ (m.log2 + 1) := Nat.lt_log2_self
  rcases lt_or_ge (m.log2 + e) 1023 with hsmall | hlarge
  · have hexponent : e + (971 - e).toNat = 971 := by omega
    have hbound : m ≤ 2 ^ 52 * 2 ^ (971 - e).toNat := by
      rw [← Nat.pow_add]
      exact hlt.le.trans (Nat.pow_le_pow_right Nat.two_pos (by omega))
    refine iff_of_true ?_ ?_
    · have hround := exponentLe_roundWithAccuracy (e := e) s (by decide) hbound (by omega)
      rw [hexponent] at hround
      exact hround.isFinite_stored
    · calc (m : ℚ) * 2 ^ e < 2 ^ (m.log2 + e + 1) := lt_two_zpow_log2
        _ ≤ 2 ^ (1023 : ℤ) := zpow_le_zpow_right₀ one_le_two (by omega)
        _ ≤ overflow := two_zpow_le_overflow
  · obtain ⟨n, hn⟩ : ∃ n, m.log2 = 52 + n := ⟨m.log2 - 52, by omega⟩
    rw [isFinite_roundWithAccuracy_of_le s hn (by omega)]
    by_cases hexponent : e + n = 971
    · rw [and_iff_left hexponent, lt_overflow_iff hexponent]
      exact roundedMantissa_lt_iff (by decide) (by decide)
    · refine iff_of_false (fun h => hexponent h.2) (not_lt.2 ?_)
      calc overflow ≤ 2 ^ (1024 : ℤ) := overflow_le_two_zpow
        _ ≤ 2 ^ (m.log2 + e) := zpow_le_zpow_right₀ one_le_two (by omega)
        _ ≤ m * 2 ^ e := two_zpow_log2_le hm

end Binary64

end SlotMachine
