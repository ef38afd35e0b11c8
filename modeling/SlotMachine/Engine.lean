import SlotMachine.Outcome
import SlotMachine.Pool

/-!
# Outcome engines

An outcome engine is a symbol table with a win probability and the settings of the heavy strategy. A
value of type `Engine` has passed all checks: its probability is within `[0, 1]` and its heavy
strategy has at least three primes and one iteration to work with.
-/

namespace SlotMachine

inductive Strategy
  | normal
  | heavy
  deriving DecidableEq, Repr

namespace Strategy

/-- How a strategy is named in reports. -/
def label : Strategy → String
  | normal => "normal"
  | heavy => "cpu_intensive"

/-- How a strategy is written in data. -/
def key : Strategy → String
  | normal => "normal"
  | heavy => "heavy"

def ofCpuIntensive (cpuIntensive : Bool) : Strategy :=
  if cpuIntensive then heavy else normal

end Strategy

/-- The heavy strategy burns processor time: it searches primes, multiplies matrices and adds up
sines. When it is not enabled, heavy requests get the normal strategy. -/
structure HeavySettings where
  enabled : Bool := true
  primeFloor : UInt64 := 10000000
  primeCount : UInt64 := 10
  iterations : UInt32 := 5000
  matrixSize : UInt64 := 100
  matrixRounds : UInt32 := 5
  deriving DecidableEq, Repr

/-- Whether a number is within `[0, 1]`; not-a-number is not. -/
def isProbability (p : Float) : Bool := 0.0 ≤ p && p ≤ 1.0

structure Engine where
  table : SymbolTable
  pool : Pool
  pool_eq : pool = table.pool
  winProbability : Float
  isProbability : isProbability winProbability = true
  heavy : HeavySettings
  three_le_primeCount : 3 ≤ heavy.primeCount
  iterations_ne_zero : heavy.iterations ≠ 0

namespace Engine

def defaultWinProbability : Float := 0.30

/-- An engine with the default heavy settings. -/
def ofTable (table : SymbolTable) (winProbability : Float) : Except SetupError Engine :=
  if h : SlotMachine.isProbability winProbability then
    .ok {
      table, winProbability
      pool := table.pool
      pool_eq := rfl
      isProbability := h
      heavy := {}
      three_le_primeCount := by decide
      iterations_ne_zero := by decide }
  else .error (.invalidWinProbability winProbability)

/-- Three reels need three primes, and each prime at least one pass. -/
def withHeavy (e : Engine) (heavy : HeavySettings) : Except SetupError Engine :=
  if hp : 3 ≤ heavy.primeCount then
    if hi : heavy.iterations = 0 then .error .noIterations
    else .ok { e with heavy, three_le_primeCount := hp, iterations_ne_zero := hi }
  else .error (.tooFewPrimes heavy.primeCount.toNat)

variable (e : Engine)

/-- The strategy that a request gets. -/
def resolve : Strategy → Strategy
  | .heavy => if e.heavy.enabled then .heavy else .normal
  | .normal => .normal

end Engine

end SlotMachine
