/-!
# Random draws

A draw takes random words, one after the other, from whatever stream of words it is given, and a
spin that can be cancelled looks at a flag now and then. Both the words and the flag are arbitrary:
`Chance` fixes them, and `Meter` counts what has been taken and how often the flag has been looked
at. A uniform choice among `n` is the top of the product of `n` with a random fraction of 32 binary
places, and with 32 more of them when those could carry.
-/

namespace SlotMachine

/-- The random words in order, and whether the flag is up after so many words and looks. -/
structure Chance where
  word : Nat → UInt64
  raised : (drawn looks : Nat) → Bool

structure Meter where
  drawn : Nat := 0
  looks : Nat := 0
  deriving DecidableEq, Repr

abbrev Draw := ReaderT Chance (StateM Meter)

namespace Draw

/-- The next word. -/
def word : Draw UInt64 := fun chance meter =>
  (chance.word meter.drawn, { meter with drawn := meter.drawn + 1 })

/-- The low half of the next word. -/
def halfWord : Draw UInt32 :=
  UInt64.toUInt32 <$> word

/-- A number from `0` to below `1` on the grid of the multiples of `2 ^ -53`. -/
def unit : Draw Float :=
  (fun w : UInt64 => (w >>> 11).toFloat * 1.1102230246251565e-16) <$> word

/-- True with probability `p`. For `p = 1` no word is needed. -/
def chance (p : Float) : Draw Bool :=
  if p == 1.0 then pure true
  else do
    let w ← word
    pure (w < (p * 18446744073709551616.0).toUInt64)

/-- The whole part of `(a + b / 2 ^ 32) * n / 2 ^ 32`. -/
def scaled (n a b : Nat) : Nat :=
  let size := UInt32.size
  a * n / size + if size ≤ a * n % size + b * n / size then 1 else 0

theorem scaled_lt {n a b : Nat} (hn : 0 < n) (ha : a < UInt32.size) (hb : b < UInt32.size) :
    scaled n a b < n := by
  simp only [UInt32.size] at ha hb
  simp only [scaled, UInt32.size]
  have h1 : (a + 1) * n ≤ 4294967296 * n := Nat.mul_le_mul_right n ha
  have h2 : b * n < 4294967296 * n := (Nat.mul_lt_mul_right hn).2 hb
  have h3 : (a + 1) * n = a * n + n := Nat.succ_mul a n
  have h4 : b * n / 4294967296 < n := (Nat.div_lt_iff_lt_mul (by decide)).2 (by omega)
  have h5 := Nat.div_add_mod (a * n) 4294967296
  split <;> omega

/-- A uniform choice among the numbers below `n`. The second half word is taken only when the
fraction that the first one leaves is so large that a carry is possible. -/
def below (n : Nat) (hn : 0 < n) : Draw (Fin n) := do
  let a ← halfWord
  if UInt32.size - n < a.toNat * n % UInt32.size then
    let b ← halfWord
    pure ⟨scaled n a.toNat b.toNat, scaled_lt hn a.toNat_lt b.toNat_lt⟩
  else
    pure ⟨scaled n a.toNat 0, scaled_lt hn a.toNat_lt (by decide)⟩

end Draw

/-- Why a spin has no outcome: it saw the cancel flag up, or its settings ask for a list that is
longer than any list can be. -/
inductive Interruption
  | cancelled
  | oversized
  deriving DecidableEq, Repr

abbrev Spin := ExceptT Interruption Draw

namespace Spin

/-- Looks at the flag and stops if it is up. -/
def checkpoint : Spin Unit := fun chance meter =>
  let raised := chance.raised meter.drawn meter.looks
  (if raised then .error .cancelled else .ok (), { meter with looks := meter.looks + 1 })

/-- No list is longer than this many entries of eight bytes: half of all addresses is its most. -/
def maxLength : Nat := UInt64.size / 2 / 8

/-- Stops if a list of this length cannot exist. -/
def reserve (length : Nat) : Spin Unit :=
  if length < maxLength then pure () else throw .oversized

end Spin

end SlotMachine
