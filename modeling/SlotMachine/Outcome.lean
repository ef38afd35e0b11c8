import SlotMachine.Table

/-!
# Outcomes

Three reels, whether they win, and what a win multiplies the bet by.
-/

namespace SlotMachine

structure Reels where
  first : Symbol
  second : Symbol
  third : Symbol
  deriving DecidableEq, Repr

namespace Reels

def toList (r : Reels) : List Symbol := [r.first, r.second, r.third]

def ofList? : List Symbol → Option Reels
  | [a, b, c] => some ⟨a, b, c⟩
  | _ => none

/-- Three of a kind. -/
def allEqual (r : Reels) : Bool := r.first == r.second && r.second == r.third

end Reels

structure Outcome where
  reels : Reels
  win : Bool
  multiplier : UInt32
  deriving DecidableEq, Repr

namespace Outcome

/-- Three times the same symbol, at the multiplier of the table. -/
def winning (s : Symbol) (t : SymbolTable) : Outcome where
  reels := ⟨s, s, s⟩
  win := true
  multiplier := t.multiplier s

def losing (reels : Reels) : Outcome where
  reels
  win := false
  multiplier := 0

end Outcome

end SlotMachine
