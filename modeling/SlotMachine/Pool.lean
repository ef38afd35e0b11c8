import SlotMachine.Draw
import SlotMachine.Table

/-!
# Weighted pools

The pool of a table holds each symbol as often as its weight says, in the order of the table. A
symbol is drawn by choosing an entry uniformly.
-/

namespace SlotMachine

structure Pool where
  entries : Array Symbol
  size_pos : 0 < entries.size

namespace Pool

variable (p : Pool)

def size : Nat := p.entries.size

/-- The entry at an index, counted round and round. -/
def entryAt (index : Nat) : Symbol :=
  have := Nat.mod_lt index p.size_pos
  p.entries[index % p.entries.size]

def draw : Draw Symbol := do
  let i ← Draw.below p.entries.size p.size_pos
  pure p.entries[i]

end Pool

namespace SymbolTable

/-- Every symbol as often as its weight, in order. -/
def poolEntries (specs : List SymbolSpec) : List Symbol :=
  specs.flatMap fun spec => List.replicate spec.weight.toNat spec.symbol

theorem length_poolEntries (specs : List SymbolSpec) :
    (poolEntries specs).length = SymbolSpec.totalWeight specs := by
  induction specs with
  | nil => rfl
  | cons spec rest ih =>
    rw [SymbolSpec.totalWeight, ← ih]
    simp [poolEntries]

theorem totalWeight_pos (t : SymbolTable) : 0 < t.totalWeight := by
  have hl := t.two_le_length
  have hw := t.weight_ne_zero
  match hs : t.specs, hl with
  | spec :: rest, _ =>
    have h0 : spec.weight.toNat ≠ 0 := fun h =>
      hw spec (by simp [hs]) (UInt32.toNat_inj.1 (by simpa using h))
    simp only [totalWeight, SymbolSpec.totalWeight, hs]
    omega

def pool (t : SymbolTable) : Pool where
  entries := (poolEntries t.specs).toArray
  size_pos := by
    rw [List.size_toArray, length_poolEntries]
    exact t.totalWeight_pos

end SymbolTable

end SlotMachine
