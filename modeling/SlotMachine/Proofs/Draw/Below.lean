import Mathlib.Algebra.Order.Ring.Nat
import Mathlib.Tactic.Ring
import SlotMachine.Proofs.Draw.Ensures

/-!
# Uniform choices

A uniform choice below `n` takes one half word, or two. The choice is the same as if it always took
two: where the second one is left out, it could not have made a carry. So it is the top of the
product of `n` with the fraction that both half words make.
-/

namespace SlotMachine

/-- The half word that the draw with this number would take. -/
def Chance.half (chance : Chance) (i : Nat) : UInt32 := (chance.word i).toUInt32

namespace Draw

/-- Two half words as one word, the first one on top. -/
def joined (a b : Nat) : Nat := a * 2 ^ 32 + b

variable {n a b : Nat}

lemma mul_div_lt (hn : 0 < n) (hb : b < 2 ^ 32) : b * n / 2 ^ 32 < n :=
  (Nat.div_lt_iff_lt_mul (by decide)).2 (by rw [mul_comm n]; exact (Nat.mul_lt_mul_right hn).2 hb)

/-- The two places of the product that are looked at carry at most one. -/
lemma scaled_eq (hn : 0 < n) (hle : n ≤ 2 ^ 32) (hb : b < 2 ^ 32) :
    scaled n a b = joined a b * n / 2 ^ 64 := by
  have htop : joined a b * n / 2 ^ 64 = (a * n + b * n / 2 ^ 32) / 2 ^ 32 := by
    have hprod : joined a b * n = b * n + 2 ^ 32 * (a * n) := by
      rw [joined]
      ring
    rw [hprod, pow_add 2 32 32, ← Nat.div_div_eq_div_mul,
      Nat.add_mul_div_left _ _ (by decide), add_comm]
  have hcarry := mul_div_lt hn hb
  rw [htop, scaled]
  simp only [UInt32.size] at *
  split <;> omega

/-- Where the first half word leaves a small fraction, the second one makes no difference. -/
lemma scaled_zero (hn : 0 < n) (hle : n ≤ 2 ^ 32) (hb : b < 2 ^ 32)
    (hsmall : a * n % UInt32.size ≤ UInt32.size - n) : scaled n a 0 = scaled n a b := by
  have hcarry := mul_div_lt hn hb
  simp only [scaled, UInt32.size] at *
  rw [if_neg (by omega), if_neg (by omega)]

/-- How many words a uniform choice below `n` takes, of which the half word `a` is the first. -/
def wordsBelow (n : Nat) (a : UInt32) : Nat :=
  if UInt32.size - n < a.toNat * n % UInt32.size then 2 else 1

/-- The choice, and how many words it takes. -/
lemma below_apply (hn : 0 < n) (hle : n ≤ 2 ^ 32) (chance : Chance) (meter : Meter) :
    let a := chance.half meter.drawn
    let b := chance.half (meter.drawn + 1)
    (below n hn chance meter).1.val = joined a.toNat b.toNat * n / 2 ^ 64 ∧
    (below n hn chance meter).2 = { meter with drawn := meter.drawn + wordsBelow n a } := by
  intro a b
  have hb : b.toNat < 2 ^ 32 := b.toNat_lt
  have hfirst : halfWord chance meter = (a, { meter with drawn := meter.drawn + 1 }) := rfl
  rw [← scaled_eq hn hle hb, below, bind_apply, hfirst, wordsBelow]
  by_cases hlarge : UInt32.size - n < a.toNat * n % UInt32.size
  · rw [if_pos hlarge, if_pos hlarge]
    exact ⟨rfl, rfl⟩
  · rw [if_neg hlarge, if_neg hlarge]
    exact ⟨scaled_zero hn hle hb (not_lt.1 hlarge), rfl⟩

end Draw

end SlotMachine
