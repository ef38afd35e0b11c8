import SlotMachine.Engine
import SlotMachine.Settings.Placeholder
import SlotMachine.Settings.SocketAddress
import SlotMachine.Settings.StartupError
import SlotMachine.Table.Yaml
import SlotMachine.Text.Blank

/-!
# Settings

What the service is told by variables of its environment, and the engine that is built from it. A
variable that is unset or blank leaves its setting at the default; blanks around a value do not
count. The variables are read in a fixed order, and the first that is wrong is reported.
-/

namespace SlotMachine

namespace Environment

variable (env : Environment)

/-- The value of a variable without blanks around it, unless nothing is left. -/
def value? (name : String) : Option String :=
  ((env name).map trim).filter (!·.isEmpty)

/-- What a text says as a switch. -/
def flagOfText? (text : String) : Option Bool :=
  let word := String.ofList ((trim text).toList.map Char.toLower)
  if ["true", "1", "yes", "on"].contains word then some true
  else if ["false", "0", "no", "off"].contains word then some false
  else none

def flag (name : String) (absent : Bool) : Except StartupError Bool :=
  match env.value? name with
  | none => .ok absent
  | some value =>
    match flagOfText? value with
    | some flag => .ok flag
    | none => .error (.invalidFlag name ((env name).getD ""))

def word (name : String) (limit absent : Nat) : Except StartupError Nat :=
  match env.value? name with
  | none => .ok absent
  | some value => (Number.word limit value).mapError (.invalidNumber name)

def word32 (name : String) (absent : UInt32) : Except StartupError UInt32 :=
  (env.word name UInt32.size absent.toNat).map Nat.toUInt32

def word64 (name : String) (absent : UInt64) : Except StartupError UInt64 :=
  (env.word name UInt64.size absent.toNat).map Nat.toUInt64

def float (name : String) (absent : Float) : Except StartupError Float :=
  match env.value? name with
  | none => .ok absent
  | some value => (Number.float value).mapError (.invalidNumber name)

/-- An address to listen at. Blanks count here. -/
def address (name default : String) : Except StartupError SocketAddress :=
  match SocketAddress.ofText? ((env name).getD default) with
  | some address => .ok address
  | none => .error (.invalidAddress name)

end Environment

/-- What users start with. -/
def defaultBalance : Float := 1000.0

structure Settings where
  enableRest : Bool
  enableConnect : Bool
  winProbability : Float
  heavy : HeavySettings
  tablePath : Option String
  defaultBalance : Float
  useWagerService : Bool

/-- What the file at a path holds. -/
abbrev Files := String → Except FileError String

namespace Settings

def readHeavy (env : Environment) : Except StartupError HeavySettings := do
  let default : HeavySettings := {}
  let enabled ← env.flag "HEAVY_STRATEGY_ENABLED" default.enabled
  let primeFloor ← env.word64 "HEAVY_PRIME_FLOOR" default.primeFloor
  let primeCount ← env.word64 "HEAVY_PRIME_COUNT" default.primeCount
  let iterations ← env.word32 "HEAVY_ITERATIONS" default.iterations
  let matrixSize ← env.word64 "HEAVY_MATRIX_SIZE" default.matrixSize
  let matrixRounds ← env.word32 "HEAVY_MATRIX_ROUNDS" default.matrixRounds
  pure { enabled, primeFloor, primeCount, iterations, matrixSize, matrixRounds }

def ofEnvironment (env : Environment) : Except StartupError Settings := do
  let enableRest ← env.flag "ENABLE_REST" true
  let enableConnect ← env.flag "ENABLE_CONNECT" true
  let winProbability ← env.float "WIN_PROBABILITY" Engine.defaultWinProbability
  let heavy ← readHeavy env
  let tablePath := env.value? "SYMBOL_TABLE_CONFIG_PATH"
  let defaultBalance ← env.float "DEFAULT_BALANCE" SlotMachine.defaultBalance
  let useWagerService ← env.flag "USE_WAGER_SERVICE" false
  pure {
    enableRest, enableConnect, winProbability, heavy, tablePath, defaultBalance, useWagerService }

/-- The table in the file at this path, after its placeholders have been filled in. -/
def loadTable (env : Environment) (files : Files) (path : String) :
    Except StartupError SymbolTable := do
  let text ← (files path).mapError (.unreadableFile path)
  (SymbolTable.ofYaml (Placeholder.expand env text)).mapError (.invalidTable path)

def buildTable (s : Settings) (env : Environment) (files : Files) :
    Except StartupError SymbolTable :=
  match s.tablePath with
  | some path => loadTable env files path
  | none => .ok .reference

/-- The engine for the settings; the probability is checked before the heavy strategy. -/
def buildEngine (s : Settings) (env : Environment) (files : Files) :
    Except StartupError Engine := do
  let table ← s.buildTable env files
  let engine ← (Engine.ofTable table s.winProbability).mapError .invalidEngine
  (engine.withHeavy s.heavy).mapError .invalidHeavy

end Settings

end SlotMachine
