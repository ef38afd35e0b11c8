import SlotMachine.Proofs.Binary64.Rounding

/-!
# Signs of sums in parts

What can be told of sums and differences without knowing how they are rounded: which are below zero,
which are finite, and which are numbers at all. The difference of two finite numbers that are not
below zero does not overflow, and is not below zero either if nothing larger is subtracted.
-/

namespace SlotMachine

namespace Binary64

open Float.Model UnpackedFloat

/-- Not below zero, and a number. -/
def Nonneg : UnpackedFloat → Prop
  | .notANumber => False
  | .infinity s => s = .positive
  | .zero _ => True
  | .finite s _ _ _ => s = .positive

variable {u v : UnpackedFloat} {s : Sign}

/-! ### The cases of a number -/

lemma Nonneg.cases (h : Nonneg u) : u = .infinity .positive ∨ (∃ s, u = .zero s) ∨
    ∃ m e hm, u = .finite .positive m e hm := by
  cases u with
  | notANumber => exact h.elim
  | infinity s =>
    obtain rfl : s = .positive := h
    exact Or.inl rfl
  | zero s => exact Or.inr (Or.inl ⟨s, rfl⟩)
  | finite s m e hm =>
    obtain rfl : s = .positive := h
    exact Or.inr (Or.inr ⟨m, e, hm, rfl⟩)

lemma Nonneg.cases_of_isFinite (h : Nonneg u) (hfin : u.isFinite = true) :
    (∃ s, u = .zero s) ∨ ∃ m e hm, u = .finite .positive m e hm := by
  rcases h.cases with rfl | h
  · cases hfin
  · exact h

/-- What is finite is below zero if it is not `Nonneg`. -/
lemma finite_of_not_nonneg (hfin : u.isFinite = true) (h : ¬Nonneg u) :
    ∃ m e hm, u = .finite .negative m e hm := by
  cases u with
  | notANumber => cases hfin
  | infinity s => cases hfin
  | zero s => exact absurd trivial h
  | finite s m e hm =>
    cases s with
    | negative => exact ⟨m, e, hm, rfl⟩
    | positive => exact absurd rfl h

lemma isNaN_of_isFinite (h : u.isFinite = true) : u.isNaN = false := by
  cases u with
  | notANumber => cases h
  | infinity s => cases h
  | zero s => rfl
  | finite s m e hm => rfl

lemma Nonneg.isNaN_eq (h : Nonneg u) : u.isNaN = false := by
  rcases h.cases with rfl | ⟨s, rfl⟩ | ⟨m, e, hm, rfl⟩
  · rfl
  · rfl
  · rfl

lemma HasSign.isNaN_eq (h : HasSign s u) : u.isNaN = false := by
  cases u with
  | notANumber => exact h.elim
  | infinity s' => rfl
  | zero s' => rfl
  | finite s' m e hm => rfl

lemma HasSign.nonneg (h : HasSign .positive u) : Nonneg u := by
  cases u with
  | notANumber => exact h
  | infinity s => exact h
  | zero s => trivial
  | finite s m e hm => exact h

/-- Numbers that are not below zero can be compared. -/
lemma Nonneg.lt_or_le (hu : Nonneg u) (hv : Nonneg v) : u.lt v = true ∨ v.le u = true := by
  rcases hu.cases with rfl | ⟨s, rfl⟩ | ⟨m₁, e₁, hm₁, rfl⟩
  · rcases hv.cases with rfl | ⟨s, rfl⟩ | ⟨m, e, hm, rfl⟩
    · exact Or.inr rfl
    · exact Or.inr rfl
    · exact Or.inr rfl
  · rcases hv.cases with rfl | ⟨s, rfl⟩ | ⟨m, e, hm, rfl⟩
    · exact Or.inl rfl
    · exact Or.inr rfl
    · exact Or.inl rfl
  · rcases hv.cases with rfl | ⟨s, rfl⟩ | ⟨m₂, e₂, hm₂, rfl⟩
    · exact Or.inl rfl
    · exact Or.inr rfl
    · have hswap : (compare e₂ e₁).then (compare m₂ m₁) =
          ((compare e₁ e₂).then (compare m₁ m₂)).swap := by
        rw [Ordering.swap_then, Int.compare_swap, Nat.compare_swap]
      change (some ((compare e₁ e₂).then (compare m₁ m₂)) == some .lt) = true ∨
        ((compare e₂ e₁).then (compare m₂ m₁)).isLE = true
      rw [hswap]
      cases (compare e₁ e₂).then (compare m₁ m₂) with
      | lt => exact Or.inl rfl
      | eq => exact Or.inr rfl
      | gt => exact Or.inr rfl

/-! ### Storing -/

lemma Nonneg.stored (h : Nonneg u) : Nonneg (stored u) := by
  rcases h.cases with rfl | ⟨s, rfl⟩ | ⟨m, e, hm, rfl⟩
  · rw [stored_infinity]
    exact h
  · rw [stored_zero]
    trivial
  · exact (stored_finite .positive m e hm).1.nonneg

lemma isNaN_stored (h : u.isNaN = false) : (stored u).isNaN = false := by
  cases u with
  | notANumber => cases h
  | infinity s =>
    rw [stored_infinity]
    rfl
  | zero s =>
    rw [stored_zero]
    rfl
  | finite s m e hm => exact (stored_finite s m e hm).1.isNaN_eq

/-! ### Sums -/

lemma add_zero_zero (s s' : Sign) :
    ∃ t, UnpackedFloat.add Format.binary64 (.zero s) (.zero s') = .zero t := by
  unfold UnpackedFloat.add
  dsimp only
  split
  · exact ⟨s, rfl⟩
  · exact ⟨.positive, rfl⟩

lemma sub_zero_zero (s s' : Sign) :
    ∃ t, UnpackedFloat.sub Format.binary64 (.zero s) (.zero s') = .zero t := by
  unfold UnpackedFloat.sub
  dsimp only
  split
  · exact ⟨s, rfl⟩
  · exact ⟨.positive, rfl⟩

lemma isNaN_normalize {n e : Int} {zeroSign : Sign} :
    (UnpackedFloat.normalize Format.binary64 n e zeroSign).isNaN = false := by
  rcases lt_trichotomy n 0 with hneg | rfl | hpos
  · rw [normalize_of_neg hneg]
    exact (hasSign_round .negative).isNaN_eq
  · rfl
  · rw [normalize_of_pos hpos]
    exact (hasSign_round .positive).isNaN_eq

lemma Nonneg.add (hu : Nonneg u) (hv : Nonneg v) :
    Nonneg (UnpackedFloat.add Format.binary64 u v) := by
  rcases hu.cases with rfl | ⟨s, rfl⟩ | ⟨m₁, e₁, hm₁, rfl⟩
  · rcases hv.cases with rfl | ⟨s, rfl⟩ | ⟨m, e, hm, rfl⟩
    · rfl
    · rfl
    · rfl
  · rcases hv.cases with rfl | ⟨s', rfl⟩ | ⟨m, e, hm, rfl⟩
    · rfl
    · obtain ⟨t, ht⟩ := add_zero_zero s s'
      rw [ht]
      trivial
    · rfl
  · rcases hv.cases with rfl | ⟨s, rfl⟩ | ⟨m₂, e₂, hm₂, rfl⟩
    · rfl
    · rfl
    · have hsum := Int.add_nonneg (Int.natCast_nonneg (m₁ <<< (e₁ - min e₁ e₂).toNat))
        (Int.natCast_nonneg (m₂ <<< (e₂ - min e₁ e₂).toNat))
      exact (hasSign_normalize hsum).nonneg

/-- What is finite stays finite, or is not below zero, when something is added that is not. -/
lemma nonneg_or_exponentLe_add (hu : Canonical u) (hv : Canonical v) (hfin : u.isFinite = true)
    (hv₀ : Nonneg v) :
    Nonneg (UnpackedFloat.add Format.binary64 u v) ∨
      ExponentLe 971 (UnpackedFloat.add Format.binary64 u v) := by
  by_cases hu₀ : Nonneg u
  · exact Or.inl (hu₀.add hv₀)
  · obtain ⟨m₁, e₁, hm₁, rfl⟩ := finite_of_not_nonneg hfin hu₀
    rcases hv₀.cases with rfl | ⟨s, rfl⟩ | ⟨m₂, e₂, hm₂, rfl⟩
    · exact Or.inl rfl
    · exact Or.inr hu.exponent_le
    · right
      have h := exponentLe_difference hv hu
      rw [min_comm, Int.sub_eq_add_neg, Int.add_comm] at h
      exact h

/-- Only of infinities with different signs there is no sum. -/
lemma isNaN_add (hu : u.isFinite = true ∨ Nonneg u) (hv : v.isFinite = true ∨ Nonneg v) :
    (UnpackedFloat.add Format.binary64 u v).isNaN = false := by
  cases u with
  | notANumber => exact (hu.resolve_left nofun).elim
  | infinity s =>
    obtain rfl : s = .positive := hu.resolve_left nofun
    cases v with
    | notANumber => exact (hv.resolve_left nofun).elim
    | infinity s =>
      obtain rfl : s = .positive := hv.resolve_left nofun
      rfl
    | zero s => rfl
    | finite s m e hm => rfl
  | zero s =>
    cases v with
    | notANumber => exact (hv.resolve_left nofun).elim
    | infinity s => rfl
    | zero s' =>
      obtain ⟨t, ht⟩ := add_zero_zero s s'
      rw [ht]
      rfl
    | finite s m e hm => rfl
  | finite s m e hm =>
    cases v with
    | notANumber => exact (hv.resolve_left nofun).elim
    | infinity s => rfl
    | zero s => rfl
    | finite s' m' e' hm' => exact isNaN_normalize

/-! ### Differences -/

/-- The difference of what is finite and not below zero does not overflow. -/
lemma exponentLe_sub (hu : Canonical u) (hv : Canonical v) (hu₀ : Nonneg u) (hv₀ : Nonneg v)
    (hufin : u.isFinite = true) (hvfin : v.isFinite = true) :
    ExponentLe 971 (UnpackedFloat.sub Format.binary64 u v) := by
  rcases hu₀.cases_of_isFinite hufin with ⟨s, rfl⟩ | ⟨m₁, e₁, hm₁, rfl⟩
  · rcases hv₀.cases_of_isFinite hvfin with ⟨s', rfl⟩ | ⟨m, e, hm, rfl⟩
    · obtain ⟨t, ht⟩ := sub_zero_zero s s'
      rw [ht]
      trivial
    · exact hv.exponent_le
  · rcases hv₀.cases_of_isFinite hvfin with ⟨s, rfl⟩ | ⟨m₂, e₂, hm₂, rfl⟩
    · exact hu.exponent_le
    · exact exponentLe_difference hu hv

/-- Doubles are ordered by their exponents and then by their mantissas. -/
lemma aligned_le {m₁ m₂ : Nat} {e₁ e₂ : Int} (h₁ : Fits m₁ e₁) (h₂ : Fits m₂ e₂)
    (h : ((compare e₁ e₂).then (compare m₁ m₂)).isLE = true) :
    m₁ <<< (e₁ - min e₁ e₂).toNat ≤ m₂ <<< (e₂ - min e₁ e₂).toNat := by
  rw [Nat.shiftLeft_eq, Nat.shiftLeft_eq]
  rcases lt_trichotomy e₁ e₂ with hlt | rfl | hgt
  · -- The larger exponent is not the least one, so its mantissa is not short.
    have hlong : 2 ^ 52 ≤ m₂ := by
      have hleast := h₁.le_exponent
      exact h₂.normal.resolve_right (by omega)
    have hshort := h₁.mantissa_lt
    obtain ⟨k, hk⟩ : ∃ k, (e₂ - min e₁ e₂).toNat = k + 1 := ⟨(e₂ - e₁ - 1).toNat, by omega⟩
    have hzero : (e₁ - min e₁ e₂).toNat = 0 := by omega
    rw [hk, hzero, Nat.pow_zero, Nat.mul_one, Nat.pow_succ', ← Nat.mul_assoc]
    calc m₁ ≤ m₂ * 2 := by omega
      _ ≤ m₂ * 2 * 2 ^ k := Nat.le_mul_of_pos_right _ (Nat.two_pow_pos k)
  · rw [Std.compare_self] at h
    have hle : m₁ ≤ m₂ := Std.isLE_compare.1 h
    exact Nat.mul_le_mul_right _ hle
  · rw [Int.compare_eq_gt.2 hgt] at h
    cases h

/-- A difference is not below zero if nothing larger is subtracted. -/
lemma nonneg_sub (hu : Canonical u) (hv : Canonical v) (hu₀ : Nonneg u) (hv₀ : Nonneg v)
    (hvfin : v.isFinite = true) (hle : v.le u = true) :
    Nonneg (UnpackedFloat.sub Format.binary64 u v) := by
  rcases hv₀.cases_of_isFinite hvfin with ⟨s', rfl⟩ | ⟨m₂, e₂, hm₂, rfl⟩
  · rcases hu₀.cases with rfl | ⟨s, rfl⟩ | ⟨m, e, hm, rfl⟩
    · rfl
    · obtain ⟨t, ht⟩ := sub_zero_zero s s'
      rw [ht]
      trivial
    · rfl
  · rcases hu₀.cases with rfl | ⟨s, rfl⟩ | ⟨m₁, e₁, hm₁, rfl⟩
    · rfl
    · cases hle
    · have haligned := aligned_le hv hu hle
      rw [min_comm] at haligned
      exact (hasSign_normalize (Int.sub_nonneg.2 (Int.ofNat_le.2 haligned))).nonneg

lemma nonneg_sub_of_not_isFinite (hu₀ : Nonneg u) (hu : u.isFinite = false)
    (hv : v.isFinite = true) : Nonneg (UnpackedFloat.sub Format.binary64 u v) := by
  rcases hu₀.cases with rfl | ⟨s, rfl⟩ | ⟨m, e, hm, rfl⟩
  · cases v with
    | notANumber => cases hv
    | infinity s => cases hv
    | zero s => rfl
    | finite s m e hm => rfl
  · cases hu
  · cases hu

end Binary64

end SlotMachine
