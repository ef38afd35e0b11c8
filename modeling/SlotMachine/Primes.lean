import SlotMachine.Draw

/-!
# Primes

The primes at and above a floor, found by trial division. The search walks through the 64-bit words
and ends at the last of them.
-/

namespace SlotMachine

namespace Primes

theorem toNat_lt_of_le_div {n d : UInt64} (hd : 1 < d) (h : d ≤ n / d) : d.toNat < n.toNat := by
  have hd' : 1 < d.toNat := by simpa using UInt64.lt_iff_toNat_lt.1 hd
  have h' : d.toNat ≤ n.toNat / d.toNat := by
    simpa [UInt64.toNat_div] using UInt64.le_iff_toNat_le.1 h
  have := (Nat.le_div_iff_mul_le (by omega)).1 h'
  calc d.toNat < d.toNat * d.toNat := Nat.lt_mul_self_iff.2 hd'
    _ ≤ n.toNat := this

/-- Whether no number from `d` up to the square root of `n` divides `n`. -/
def hasNoDivisorFrom (n d : UInt64) : Bool :=
  if h : 1 < d ∧ d ≤ n / d then
    if n % d = 0 then false else hasNoDivisorFrom n (d + 1)
  else true
termination_by n.toNat - d.toNat
decreasing_by
  have hlt := toNat_lt_of_le_div h.1 h.2
  have hn := n.toNat_lt
  rw [UInt64.toNat_add, Nat.mod_eq_of_lt (by simpa using by omega)]
  simp only [UInt64.reduceToNat]
  omega

def isPrime (n : UInt64) : Bool :=
  2 ≤ n && hasNoDivisorFrom n 2

/-- The largest candidate. -/
def lastWord : UInt64 := 0xffffffffffffffff

/-- The first `wanted` primes from `candidate` on, after those `found` already, last first. The flag
is looked at before each candidate. -/
def search (wanted : Nat) (found : List UInt64) (candidate : UInt64) : Spin (List UInt64) :=
  if wanted = 0 then pure found.reverse
  else do
    Spin.checkpoint
    let hit := isPrime candidate
    let found := if hit then candidate :: found else found
    let wanted := if hit then wanted - 1 else wanted
    if h : candidate = lastWord then pure found.reverse
    else search wanted found (candidate + 1)
termination_by UInt64.size - candidate.toNat
decreasing_by
  have hlt : candidate.toNat < 18446744073709551616 := candidate.toNat_lt_size
  have hne : candidate.toNat ≠ 18446744073709551615 := fun he => h (UInt64.toNat_inj.1 he)
  rw [UInt64.toNat_add, Nat.mod_eq_of_lt (by simpa using by omega)]
  simp only [UInt64.reduceToNat]
  have hs : UInt64.size = 18446744073709551616 := rfl
  omega

/-- The first `count` primes at or above `floor`; fewer if the words run out. -/
def upward (floor count : UInt64) : Spin (List UInt64) := do
  Spin.reserve count.toNat
  search count.toNat [] floor

end Primes

end SlotMachine
