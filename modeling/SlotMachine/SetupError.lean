import SlotMachine.Decimal.Text
import SlotMachine.Symbol

/-!
# What can be wrong with a setup

The reasons for which a symbol table or an outcome engine is not built. They arise before the first
spin, never while spinning.
-/

namespace SlotMachine

inductive SetupError
  | emptyTable
  | zeroTotalWeight
  | totalWeightTooLarge (limit : Nat)
  | zeroWeight (symbol : Symbol)
  | zeroMultiplier (symbol : Symbol)
  | duplicateSymbol (symbol : Symbol)
  | tooFewSymbols (count : Nat)
  | unknownSymbol (symbol : Symbol)
  | invalidWinProbability (probability : Float)
  | tooFewPrimes (count : Nat)
  | noIterations
  | unreadableTable

namespace SetupError

def message : SetupError → String
  | emptyTable => "symbol table is empty"
  | zeroTotalWeight => "symbol table total weight is zero"
  | totalWeightTooLarge limit => s!"symbol table total weight exceeds {limit}"
  | zeroWeight symbol => s!"symbol {symbol.glyph} has zero weight"
  | zeroMultiplier symbol => s!"symbol {symbol.glyph} has zero multiplier"
  | duplicateSymbol symbol => s!"symbol {symbol.glyph} is configured more than once"
  | tooFewSymbols count => s!"symbol table needs at least 2 distinct symbols, found {count}"
  | unknownSymbol symbol => s!"symbol {symbol.glyph} is not configured"
  | invalidWinProbability p => s!"win probability {messageText p} must be within [0, 1]"
  | tooFewPrimes count => s!"heavy strategy needs at least 3 primes, got {count}"
  | noIterations => "heavy strategy needs a non-zero iteration count"
  | unreadableTable => "invalid symbol table yaml"

end SetupError

end SlotMachine
