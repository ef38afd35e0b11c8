import SlotMachine.Proofs.Binary64.Unpacked

/-!
# Rounding

A result is rounded to the nearest double: its mantissa is shifted until it fits, and the bits that
are lost decide about one more. So it never gets above a number that fits already, and a result
that is no larger than a double has no larger exponent (`exponentLe_round`): it does not overflow.
-/

namespace SlotMachine

namespace Binary64

open Float.Model UnpackedFloat

/-! ### Shifting a mantissa -/

lemma mantissa_shiftRight (em : ExtendedMantissa) (n : Nat) :
    (em >>> n).mantissa = em.mantissa / 2 ^ n := by
  induction n with
  | zero => exact (Nat.div_one _).symm
  | succ n ih =>
    have hstep : (em >>> (n + 1)).mantissa = (em >>> n).mantissa / 2 := rfl
    rw [hstep, ih, Nat.div_div_eq_div_mul, ← Nat.pow_succ]

/-- Shifting zeros out loses nothing. -/
lemma shiftRight_mul_two_pow (m n : Nat) :
    (⟨m * 2 ^ n, false, false⟩ : ExtendedMantissa) >>> n = ⟨m, false, false⟩ := by
  induction n generalizing m with
  | zero =>
    rw [Nat.pow_zero, Nat.mul_one]
    rfl
  | succ n ih =>
    have hstep : (⟨m * 2 ^ (n + 1), false, false⟩ : ExtendedMantissa) >>> (n + 1) =
      ((⟨m * 2 ^ (n + 1), false, false⟩ : ExtendedMantissa) >>> n).shiftRightOne := rfl
    rw [hstep, Nat.pow_succ', ← Nat.mul_assoc, ih (m * 2)]
    simp [ExtendedMantissa.shiftRightOne]

lemma roundedMantissa_le (em : ExtendedMantissa) : em.roundedMantissa ≤ em.mantissa + 1 := by
  obtain ⟨m, _ | _, _ | _⟩ := em
  · exact Nat.le_succ m
  · exact Nat.le_succ m
  · exact Nat.add_le_add_left (Nat.le_of_lt_succ (Nat.mod_lt m Nat.two_pos)) m
  · exact le_rfl

/-- Rounding up does not lead above a bound, as bits are lost only below it. -/
lemma roundedMantissa_shiftRight_le {m bound n : Nat} (h : m ≤ bound * 2 ^ n) :
    ((⟨m, false, false⟩ : ExtendedMantissa) >>> n).roundedMantissa ≤ bound := by
  have hquotient : m / 2 ^ n ≤ bound := Nat.div_le_of_le_mul (Nat.mul_comm _ _ ▸ h)
  rcases Nat.lt_or_eq_of_le hquotient with hlt | heq
  · have hrounded := roundedMantissa_le ((⟨m, false, false⟩ : ExtendedMantissa) >>> n)
    rw [mantissa_shiftRight] at hrounded
    exact hrounded.trans hlt
  · have hm : m = bound * 2 ^ n := le_antisymm h (heq ▸ Nat.div_mul_le_self m (2 ^ n))
    rw [hm, shiftRight_mul_two_pow]
    exact le_rfl

/-! ### Exponents of results -/

section

variable {m bound k : Nat} {e : Int}

lemma log2_le (hbound : bound < 2 ^ 53) (h : m ≤ bound * 2 ^ k) : m.log2 ≤ 52 + k := by
  by_cases hm : m = 0
  · subst hm
    exact Nat.zero_le _
  · have hlt : m < 2 ^ (53 + k) := by
      rw [Nat.pow_add]
      exact h.trans_lt (Nat.mul_lt_mul_of_pos_right hbound (Nat.two_pow_pos k))
    have hlog := (Nat.log2_lt hm).2 hlt
    omega

lemma targetExponent_eq (m : Nat) (e : Int) :
    Format.binary64.targetExponent (totalExponent m e) = max (m.log2 - 52 + e) (-1074) := by
  have hmin : Format.binary64.minExponent = -1074 := rfl
  have hbits : (Format.binary64.mantissaBits : Int) = 53 := rfl
  rw [Format.targetExponent, totalExponent, hmin, hbits]
  omega

lemma targetExponent_le (hbound : bound < 2 ^ 53) (h : m ≤ bound * 2 ^ k) (he : -1074 ≤ e + k) :
    Format.binary64.targetExponent (totalExponent m e) ≤ e + k := by
  have hlog := log2_le hbound h
  rw [targetExponent_eq]
  omega

lemma exponentLe_roundWithAccuracy (s : Sign) (hbound : bound < 2 ^ 53) (h : m ≤ bound * 2 ^ k)
    (he : -1074 ≤ e + k) :
    ExponentLe (e + k) (roundWithAccuracy Format.binary64 s m e .exact) := by
  unfold roundWithAccuracy shiftToTargetExponent shiftToExponent
  dsimp only
  have htarget := targetExponent_le hbound h he
  generalize Format.binary64.targetExponent (totalExponent m e) = t at htarget ⊢
  -- The first shift drops at most the bits that are below the bound.
  obtain ⟨n, hn⟩ : ∃ n, n = (t - e).toNat := ⟨_, rfl⟩
  have hnk : n ≤ k := by omega
  have hrounded : ((⟨m, false, false⟩ : ExtendedMantissa) >>> n).roundedMantissa ≤
      bound * 2 ^ (k - n) := by
    apply roundedMantissa_shiftRight_le
    rw [Nat.mul_assoc, ← Nat.pow_add, Nat.sub_add_cancel hnk]
    exact h
  have hfinal := targetExponent_le (e := e + n) hbound hrounded (by omega)
  rw [← hn]
  change ExponentLe _ (if h : _ = 0 then _ else _)
  split
  · trivial
  · change e + n + ((Format.binary64.targetExponent _ - (e + n)).toNat : Int) ≤ e + k
    simp only [ExtendedMantissa.ofMantissaAndAccuracy]
    omega

/-- A number that is no larger than `bound * 2 ^ k` in its units has no larger exponent when it is
rounded. -/
lemma exponentLe_round (s : Sign) (hbound : bound < 2 ^ 53) (h : m ≤ bound * 2 ^ k)
    (he : -1074 ≤ e + k) : ExponentLe (e + k) (UnpackedFloat.round Format.binary64 s m e) := by
  unfold UnpackedFloat.round decreaseExponent
  dsimp only
  generalize (e - Format.binary64.targetExponent (totalExponent m e)).toNat = n
  have hshift : m <<< n ≤ bound * 2 ^ (k + n) := by
    rw [Nat.shiftLeft_eq, Nat.pow_add, ← Nat.mul_assoc]
    exact Nat.mul_le_mul_right _ h
  have hexponent : e - n + (k + n : ℕ) = e + k := by omega
  rw [← hexponent]
  exact exponentLe_roundWithAccuracy s hbound hshift (by omega)

lemma hasSign_roundWithAccuracy (s : Sign) :
    HasSign s (roundWithAccuracy Format.binary64 s m e .exact) := by
  unfold roundWithAccuracy
  dsimp only
  split
  · rfl
  · rfl

lemma hasSign_round (s : Sign) : HasSign s (UnpackedFloat.round Format.binary64 s m e) :=
  hasSign_roundWithAccuracy s

end

/-! ### Normalizing a sum -/

variable {n e : Int}

lemma normalize_of_pos (h : 0 < n) (zeroSign : Sign) :
    UnpackedFloat.normalize Format.binary64 n e zeroSign =
      UnpackedFloat.round Format.binary64 .positive n.toNat e := by
  unfold UnpackedFloat.normalize
  rw [Int.compare_eq_gt.2 h]

lemma normalize_of_neg (h : n < 0) (zeroSign : Sign) :
    UnpackedFloat.normalize Format.binary64 n e zeroSign =
      UnpackedFloat.round Format.binary64 .negative (-n).toNat e := by
  unfold UnpackedFloat.normalize
  rw [Int.compare_eq_lt.2 h]

/-- A sum is positive if it is not below zero. -/
lemma hasSign_normalize (h : 0 ≤ n) :
    HasSign .positive (UnpackedFloat.normalize Format.binary64 n e .positive) := by
  rcases lt_or_eq_of_le h with hpos | rfl
  · rw [normalize_of_pos hpos]
    exact hasSign_round .positive
  · rfl

lemma exponentLe_normalize {bound k : Nat} (hbound : bound < 2 ^ 53)
    (h : n.natAbs ≤ bound * 2 ^ k) (he : -1074 ≤ e + k) (zeroSign : Sign) :
    ExponentLe (e + k) (UnpackedFloat.normalize Format.binary64 n e zeroSign) := by
  rcases lt_trichotomy n 0 with hneg | rfl | hpos
  · rw [normalize_of_neg hneg]
    exact exponentLe_round .negative hbound (by omega) he
  · trivial
  · rw [normalize_of_pos hpos]
    exact exponentLe_round .positive hbound (by omega) he

/-- The difference of two doubles without a sign is no larger than one of them. -/
lemma exponentLe_difference {m₁ m₂ : Nat} {e₁ e₂ : Int} (h₁ : Fits m₁ e₁) (h₂ : Fits m₂ e₂) :
    ExponentLe 971 (UnpackedFloat.normalize Format.binary64
      (↑(m₁ <<< (e₁ - min e₁ e₂).toNat) - ↑(m₂ <<< (e₂ - min e₁ e₂).toNat))
      (min e₁ e₂) .positive) := by
  rw [Nat.shiftLeft_eq, Nat.shiftLeft_eq]
  have hk₁ : min e₁ e₂ + ((e₁ - min e₁ e₂).toNat : Int) = e₁ := by omega
  have hk₂ : min e₁ e₂ + ((e₂ - min e₁ e₂).toNat : Int) = e₂ := by omega
  generalize (e₁ - min e₁ e₂).toNat = k₁ at hk₁ ⊢
  generalize (e₂ - min e₁ e₂).toNat = k₂ at hk₂ ⊢
  have hmin₁ := h₁.le_exponent
  have hmin₂ := h₂.le_exponent
  rcases le_total (m₂ * 2 ^ k₂) (m₁ * 2 ^ k₁) with hle | hle
  · have h := exponentLe_normalize (n := ↑(m₁ * 2 ^ k₁) - ↑(m₂ * 2 ^ k₂)) h₁.mantissa_lt
      (by omega) (hk₁ ▸ hmin₁) .positive
    rw [hk₁] at h
    exact h.mono h₁.exponent_le
  · have h := exponentLe_normalize (n := ↑(m₁ * 2 ^ k₁) - ↑(m₂ * 2 ^ k₂)) h₂.mantissa_lt
      (by omega) (hk₂ ▸ hmin₂) .positive
    rw [hk₂] at h
    exact h.mono h₂.exponent_le

end Binary64

end SlotMachine
