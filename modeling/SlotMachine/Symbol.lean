/-!
# Symbols

What a reel can show. A symbol has a glyph, which is how it is written, and a plain name, which is
accepted wherever a symbol is read.
-/

namespace SlotMachine

inductive Symbol
  | cherry
  | lemon
  | orange
  | grape
  | star
  | diamond
  deriving DecidableEq, Repr, Inhabited

namespace Symbol

/-- All symbols, in the order of the reference table. -/
def all : List Symbol := [cherry, lemon, orange, grape, star, diamond]

def glyph : Symbol → String
  | cherry => "🍒"
  | lemon => "🍋"
  | orange => "🍊"
  | grape => "🍇"
  | star => "⭐"
  | diamond => "💎"

def name : Symbol → String
  | cherry => "cherry"
  | lemon => "lemon"
  | orange => "orange"
  | grape => "grape"
  | star => "star"
  | diamond => "diamond"

/-- The symbol with this glyph or this name. -/
def ofText? (text : String) : Option Symbol :=
  all.find? fun s => s.glyph == text || s.name == text

@[simp] theorem mem_all (s : Symbol) : s ∈ all := by cases s <;> decide

end Symbol

end SlotMachine
