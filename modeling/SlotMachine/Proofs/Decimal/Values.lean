import SlotMachine.Decimal.Shortest
import SlotMachine.Proofs.Binary64.Overflow

/-!
# Values of decimals

The shortest decimal of a double is within half a step of the double. Only the upper end is told:
what is written for a double is not much larger.
-/

namespace SlotMachine

namespace Decimal

def value (d : Decimal) : ℚ := d.digits * 10 ^ d.power

variable {tie : TieRule} {i : Interval} {power : Int} {bound : ℚ}

lemma zpow_mul_pow_toNat_neg {b : ℚ} (hb : b ≠ 0) (e : Int) :
    b ^ e * b ^ (-e).toNat = b ^ e.toNat := by
  rw [← zpow_natCast, ← zpow_natCast, ← zpow_add₀ hb]
  congr 1
  omega

/-- A point that is inside the interval on the grid is not above its upper end. -/
lemma inside_le {q : Nat} (low : Nat)
    (h : inside i.closed low (i.onGrid power).1.2.2 (i.onGrid power).2 q) :
    (q : ℚ) * 10 ^ power ≤ i.high * 2 ^ i.unit := by
  have hle : q * (i.onGrid power).2 ≤ (i.onGrid power).1.2.2 := by
    unfold inside at h
    grind
  have hscaled : (q : ℚ) * (2 ^ (-i.unit).toNat * 10 ^ power.toNat) ≤
      i.high * (2 ^ i.unit.toNat * 10 ^ (-power).toNat) := by
    exact_mod_cast hle
  rw [← zpow_mul_pow_toNat_neg two_ne_zero i.unit,
    ← zpow_mul_pow_toNat_neg (by norm_num : (10 : ℚ) ≠ 0) power] at hscaled
  have hpos : (0 : ℚ) < 2 ^ (-i.unit).toNat * 10 ^ (-power).toNat := by positivity
  refine le_of_mul_le_mul_right ?_ hpos
  linarith

lemma nearestOnGrid?_le {q : Nat} (h : nearestOnGrid? tie i power = some q) :
    (q : ℚ) * 10 ^ power ≤ i.high * 2 ^ i.unit := by
  unfold nearestOnGrid? at h
  dsimp only at h
  apply inside_le (i.onGrid power).1.1
  split at h
  case h_1 hbelow habove =>
    simp only [Bool.and_eq_true] at hbelow
    grind
  case h_2 hbelow _ =>
    cases h
    simp only [Bool.and_eq_true] at hbelow
    exact hbelow.1
  case h_3 habove =>
    cases h
    exact habove
  case h_4 => cases h

lemma value_onFirstGrid_le (hhigh : i.high * 2 ^ i.unit ≤ bound) (tries : Nat)
    (hlast : i.middle * 10 ^ (power - tries) ≤ bound) :
    (onFirstGrid tie i tries power).value ≤ bound := by
  induction tries generalizing power with
  | zero => simpa [onFirstGrid, value] using hlast
  | succ tries ih =>
    unfold onFirstGrid
    split
    case h_1 hq => exact (nearestOnGrid?_le hq).trans hhigh
    case h_2 =>
      apply ih
      rw [show power - 1 - tries = power - (tries + 1 : ℕ) by omega]
      exact hlast

/-- The shortest decimal of a double is at most half a step above it. -/
lemma value_shortest_le {m : Magnitude} (h : Binary64.Fits m.mantissa m.exponent)
    (hstep : (m.mantissa + 1 / 2) * 2 ^ m.exponent ≤ bound) (hbound : 2 ^ 55 * 10 ^ 279 ≤ bound) :
    (shortest tie m).value ≤ bound := by
  have hlt := h.mantissa_lt
  have hexponent := h.exponent_le
  have hlog : m.mantissa.log2 ≤ 52 := by
    by_cases hm : m.mantissa = 0
    · rw [hm, Nat.log2_zero]
      omega
    · have := (Nat.log2_lt (k := 53) hm).2 hlt
      omega
  apply value_onFirstGrid_le
  · have hhigh : ((4 * m.mantissa + 2 : ℕ) : ℚ) * 2 ^ (m.exponent - 2) =
        (m.mantissa + 1 / 2) * 2 ^ m.exponent := by
      rw [zpow_sub₀ two_ne_zero]
      push_cast
      ring
    exact hhigh.trans_le hstep
  · -- The last grid is never used, as one of the thirty has a point inside.
    have hsize : ((m.mantissa.log2 : Int) + m.exponent + 2) * 30103 / 100000 + 1 - 30 ≤ 279 := by
      omega
    have hmantissa : ((4 * m.mantissa : ℕ) : ℚ) ≤ 2 ^ 55 := by
      have hle : 4 * m.mantissa ≤ 2 ^ 55 := by omega
      exact_mod_cast hle
    have hpower := zpow_le_zpow_right₀ (by norm_num : (1 : ℚ) ≤ 10) hsize
    exact (mul_le_mul hmantissa hpower (by positivity) (by positivity)).trans hbound

end Decimal

end SlotMachine
