import Mathlib.Data.Nat.Prime.Basic
import SlotMachine.Primes

/-!
# Trial division

Trial division finds a word to be prime exactly if it is a prime number. It stays within the range
of words and comes to an end: the same loop with every step checked and every turn counted
(`isPrime?`) gives the same answer for every word, in as many turns as there are numbers below the
square root of the largest.
-/

namespace SlotMachine

namespace Primes

variable {n d : UInt64}

/-! ### Divisors -/

lemma one_lt_toNat (hd : 1 < d) : 1 < d.toNat := UInt64.lt_iff_toNat_lt.1 hd

/-- The bound says of words what it says of numbers, without a square that could be too large. -/
lemma le_div_iff (hd : 1 < d) : d ≤ n / d ↔ d.toNat * d.toNat ≤ n.toNat := by
  rw [UInt64.le_iff_toNat_le, UInt64.toNat_div,
    Nat.le_div_iff_mul_le (Nat.zero_lt_of_lt (one_lt_toNat hd))]

lemma mod_eq_zero_iff : n % d = 0 ↔ d.toNat ∣ n.toNat := by
  rw [← UInt64.toNat_inj, UInt64.toNat_mod, UInt64.toNat_zero, Nat.dvd_iff_mod_eq_zero]

/-- A divisor within the bound is not the last word. -/
lemma toNat_succ_divisor (hd : 1 < d) (h : d ≤ n / d) : (d + 1).toNat = d.toNat + 1 := by
  have hlt := toNat_lt_of_le_div hd h
  have hn := n.toNat_lt
  rw [UInt64.toNat_add, UInt64.toNat_one, Nat.mod_eq_of_lt (by omega)]

lemma one_lt_succ_divisor (hd : 1 < d) (h : d ≤ n / d) : 1 < d + 1 := by
  rw [UInt64.lt_iff_toNat_lt, toNat_succ_divisor hd h]
  exact Nat.lt_succ_of_lt (one_lt_toNat hd)

lemma hasNoDivisorFrom_iff (hd : 1 < d) : hasNoDivisorFrom n d = true ↔
    ∀ m, d.toNat ≤ m → m * m ≤ n.toNat → ¬m ∣ n.toNat := by
  induction d using hasNoDivisorFrom.induct n with
  | case1 d hbound hzero =>
    rw [hasNoDivisorFrom, dif_pos hbound, if_pos hzero]
    apply iff_of_false Bool.false_ne_true
    intro hall
    exact hall d.toNat le_rfl ((le_div_iff hd).1 hbound.2) (mod_eq_zero_iff.1 hzero)
  | case2 d hbound hzero ih =>
    rw [hasNoDivisorFrom, dif_pos hbound, if_neg hzero, ih (one_lt_succ_divisor hd hbound.2),
      toNat_succ_divisor hd hbound.2]
    constructor
    · intro hall m hm hsquare
      rcases Nat.eq_or_lt_of_le hm with rfl | hlt
      · rwa [← mod_eq_zero_iff]
      · exact hall m hlt hsquare
    · intro hall m hm
      exact hall m (Nat.le_of_succ_le hm)
  | case3 d hbound =>
    rw [hasNoDivisorFrom, dif_neg hbound]
    apply iff_of_true rfl
    intro m hm hsquare
    have hlarge : ¬d.toNat * d.toNat ≤ n.toNat := fun h => hbound ⟨hd, (le_div_iff hd).2 h⟩
    exact absurd ((Nat.mul_le_mul hm hm).trans hsquare) hlarge

lemma isPrime_iff : isPrime n = true ↔ n.toNat.Prime := by
  rw [isPrime, Bool.and_eq_true, decide_eq_true_iff, hasNoDivisorFrom_iff (by decide),
    UInt64.le_iff_toNat_le, Nat.prime_def_le_sqrt]
  simp only [Nat.le_sqrt]
  rfl

/-! ### With every step checked -/

/-- The next word, if there is one. -/
def next? (w : UInt64) : Option UInt64 :=
  if w.toNat + 1 < UInt64.size then some (w + 1) else none

/-- A quotient and its remainder, if there are any. -/
def divide? (n d : UInt64) : Option (UInt64 × UInt64) :=
  if d = 0 then none else some (n / d, n % d)

/-- Trial division that gives nothing if something is divided by zero, if a divisor has no next
word, or if it is not over after so many turns. -/
def hasNoDivisorFrom? (n : UInt64) : Nat → UInt64 → Option Bool
  | 0, _ => none
  | turns + 1, d => do
    let divided ← divide? n d
    if d ≤ divided.1 then
      if divided.2 = 0 then pure false
      else
        let d ← next? d
        hasNoDivisorFrom? n turns d
    else pure true

def isPrime? (turns : Nat) (n : UInt64) : Option Bool :=
  if 2 ≤ n then hasNoDivisorFrom? n turns 2 else pure false

/-- Only the last word has no next one. -/
lemma next?_eq (w : UInt64) : next? w = if w = lastWord then none else some (w + 1) := by
  have hlast : w.toNat + 1 < UInt64.size ↔ ¬w = lastWord := by
    have hlt := w.toNat_lt_size
    rw [← UInt64.toNat_inj, show lastWord.toNat = UInt64.size - 1 from rfl]
    omega
  rw [next?, if_congr hlast rfl rfl, ite_not]

lemma divide?_eq (hd : 1 < d) : divide? n d = some (n / d, n % d) := by
  apply if_neg
  rintro rfl
  exact absurd hd (by decide)

lemma next?_divisor (hd : 1 < d) (h : d ≤ n / d) : next? d = some (d + 1) := by
  rw [next?_eq, if_neg]
  rintro rfl
  -- the last word would be followed by zero
  exact absurd (one_lt_succ_divisor hd h) (by decide)

/-- A divisor within the bound is below the square root of all words. -/
lemma toNat_lt_root (hd : 1 < d) (h : d ≤ n / d) : d.toNat < 2 ^ 32 := by
  have hsquare := (le_div_iff hd).1 h
  have hn := n.toNat_lt
  by_contra hle
  have hroot := Nat.mul_le_mul (Nat.not_lt.1 hle) (Nat.not_lt.1 hle)
  omega

/-- Where a loop begins above one, and with a turn for each divisor up to the root, all checks are
passed. -/
lemma hasNoDivisorFrom?_eq {turns : Nat} (hd : 1 < d) (hroot : d.toNat ≤ 2 ^ 32)
    (hturns : 2 ^ 32 < turns + d.toNat) :
    hasNoDivisorFrom? n turns d = some (hasNoDivisorFrom n d) := by
  induction d using hasNoDivisorFrom.induct n generalizing turns with
  | case1 d hbound hzero =>
    obtain ⟨turns, rfl⟩ : ∃ rest, turns = rest + 1 := Nat.exists_eq_succ_of_ne_zero (by omega)
    rw [hasNoDivisorFrom?, hasNoDivisorFrom, divide?_eq hd, dif_pos hbound, if_pos hzero]
    simp [hbound.2, hzero]
  | case2 d hbound hzero ih =>
    obtain ⟨turns, rfl⟩ : ∃ rest, turns = rest + 1 := Nat.exists_eq_succ_of_ne_zero (by omega)
    have hlt := toNat_lt_root hd hbound.2
    have hnext := toNat_succ_divisor hd hbound.2
    have hrest : hasNoDivisorFrom? n turns (d + 1) = some (hasNoDivisorFrom n (d + 1)) :=
      ih (one_lt_succ_divisor hd hbound.2) (by omega) (by omega)
    rw [hasNoDivisorFrom?, hasNoDivisorFrom, divide?_eq hd, dif_pos hbound, if_neg hzero, ← hrest]
    simp [hbound.2, hzero, next?_divisor hd hbound.2]
  | case3 d hbound =>
    obtain ⟨turns, rfl⟩ : ∃ rest, turns = rest + 1 := Nat.exists_eq_succ_of_ne_zero (by omega)
    have hlarge : ¬d ≤ n / d := fun h => hbound ⟨hd, h⟩
    rw [hasNoDivisorFrom?, hasNoDivisorFrom, divide?_eq hd, dif_neg hbound]
    simp [hlarge]

lemma isPrime?_eq (n : UInt64) : isPrime? (2 ^ 32) n = some (isPrime n) := by
  have htwo : (2 : UInt64).toNat = 2 := rfl
  rw [isPrime?, isPrime, hasNoDivisorFrom?_eq (by decide) (by omega) (by omega)]
  by_cases h : 2 ≤ n <;> simp [h]

end Primes

end SlotMachine
