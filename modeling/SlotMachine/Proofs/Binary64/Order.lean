import SlotMachine.Proofs.Binary64.Sums

/-!
# The order of doubles

Numbers are ordered as they lie on the line: by their side of zero, and then by exponent and
mantissa, which count backwards below zero. So less-than is transitive, whatever is compared.
-/

namespace SlotMachine

namespace Binary64

open Float.Model UnpackedFloat

/-- Where a number lies on the line. -/
def place : UnpackedFloat → Int ×ₗ Int ×ₗ Int
  | .infinity .negative => toLex (-2, toLex (0, 0))
  | .finite .negative m e _ => toLex (-1, toLex (-e, -m))
  | .finite .positive m e _ => toLex (1, toLex (e, m))
  | .infinity .positive => toLex (2, toLex (0, 0))
  | _ => toLex (0, toLex (0, 0))

lemma then_eq_lt_iff {m m' : Nat} {e e' : Int} :
    (compare e e').then (compare m m') = .lt ↔ e < e' ∨ e = e' ∧ m < m' := by
  rw [Ordering.then_eq_lt, Int.compare_eq_lt, Int.compare_eq_eq, Nat.compare_eq_lt]

lemma then_eq_gt_iff {m m' : Nat} {e e' : Int} :
    (compare e e').then (compare m m') = .gt ↔ e' < e ∨ e = e' ∧ m' < m := by
  rw [Ordering.then_eq_gt, Int.compare_eq_gt, Int.compare_eq_eq, Nat.compare_eq_gt]

lemma compare_negative_positive : compare Sign.negative Sign.positive = .lt := rfl

lemma lt_iff_place (u v : UnpackedFloat) :
    u.lt v = true ↔ u.isNaN = false ∧ v.isNaN = false ∧ place u < place v := by
  unfold UnpackedFloat.lt UnpackedFloat.compare
  cases u with
  | notANumber => simp [UnpackedFloat.isNaN]
  | infinity s | zero s | finite s m e hm =>
    cases v with
    | notANumber => simp [UnpackedFloat.isNaN]
    | infinity s' | zero s' | finite s' m' e' hm' =>
      -- only two finite numbers on the same side are compared by their parts
      cases s <;> cases s' <;>
        simp [UnpackedFloat.isNaN, place, Prod.Lex.toLex_lt_toLex, then_eq_lt_iff, then_eq_gt_iff,
          compare_negative_positive]

variable {x y z : Float}

lemma lt_trans (hxy : x < y) (hyz : y < z) : x < z := by
  rw [lt_iff, lt_iff_place] at hxy hyz ⊢
  exact ⟨hxy.1, hyz.2.1, hxy.2.2.trans hyz.2.2⟩

/-- What is not a number is neither less nor greater than anything. -/
lemma isNaN_of_lt (h : x < y) : x.isNaN = false ∧ y.isNaN = false := by
  rw [lt_iff, lt_iff_place] at h
  exact ⟨h.1, h.2.1⟩

end Binary64

end SlotMachine
