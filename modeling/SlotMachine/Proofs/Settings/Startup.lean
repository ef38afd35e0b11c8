import Mathlib.Tactic.Common
import SlotMachine.Proofs.Binary64.Order
import SlotMachine.Proofs.Checks
import SlotMachine.Proofs.Settings.Placeholders
import SlotMachine.Proofs.Table.Acceptance
import SlotMachine.Proofs.Text.Trim
import SlotMachine.Settings

/-!
# Starting with the settings

Eleven variables are read, then the table, and then the probability and the heavy strategy are
checked. Each of these checks can fail whatever the others find; the service does not start if one
does, and the error is that of the first. Otherwise the engine is sound. Blanks around the values of
variables make no difference, except in what an error says of them.
-/

namespace SlotMachine

namespace Settings

/-- What the value of a variable has to be. -/
inductive Kind
  | flag
  | word (limit : Nat)
  | float

/-- Why the value of a variable is not what it has to be. -/
def Kind.refusal? (name value : String) : Kind → Option StartupError
  | flag => if Environment.flagOfText? value = none then some (.invalidFlag name value) else none
  | word limit => (error? (Number.word limit (trim value))).map (.invalidNumber name)
  | float => (error? (Number.float (trim value))).map (.invalidNumber name)

/-- The variables whose values are read, in the order of reading. -/
def readings : List (String × Kind) := [
  ("ENABLE_REST", .flag),
  ("ENABLE_CONNECT", .flag),
  ("WIN_PROBABILITY", .float),
  ("HEAVY_STRATEGY_ENABLED", .flag),
  ("HEAVY_PRIME_FLOOR", .word UInt64.size),
  ("HEAVY_PRIME_COUNT", .word UInt64.size),
  ("HEAVY_ITERATIONS", .word UInt32.size),
  ("HEAVY_MATRIX_SIZE", .word UInt64.size),
  ("HEAVY_MATRIX_ROUNDS", .word UInt32.size),
  ("DEFAULT_BALANCE", .float),
  ("USE_WAGER_SERVICE", .flag)]

variable {env env' : Environment} {files : Files} {s : Settings} {e : Engine}

/-- A check that fails, with its place in the order and its error: the variables have the places up
to ten, and the table is the eleventh. A check can fail whether or not one before it does. -/
inductive Fault (env : Environment) (files : Files) : Nat → StartupError → Prop
  | reading {n : Nat} {name value : String} {kind : Kind} {error : StartupError}
      (hreading : readings[n]? = some (name, kind)) (hset : env name = some value)
      (hblank : trim value ≠ "") (hrefusal : kind.refusal? name value = some error) :
      Fault env files n error
  | file {path : String} {reason : FileError}
      (hpath : env.value? "SYMBOL_TABLE_CONFIG_PATH" = some path)
      (hfile : files path = .error reason) : Fault env files 11 (.unreadableFile path reason)
  | table {path text : String} {reason : SetupError}
      (hpath : env.value? "SYMBOL_TABLE_CONFIG_PATH" = some path) (hfile : files path = .ok text)
      (htable : SymbolTable.ofYaml (Placeholder.expand env text) = .error reason) :
      Fault env files 11 (.invalidTable path reason)
  | probability {p : Float} (hp : env.float "WIN_PROBABILITY" 0.30 = .ok p)
      (hrange : ¬(0.0 ≤ p ∧ p ≤ 1.0)) :
      Fault env files 12 (.invalidEngine (.invalidWinProbability p))
  | primes {n : UInt64} (hn : env.word64 "HEAVY_PRIME_COUNT" 10 = .ok n) (hlt : n < 3) :
      Fault env files 13 (.invalidHeavy (.tooFewPrimes n.toNat))
  | iterations (hzero : env.word32 "HEAVY_ITERATIONS" 5000 = .ok 0) :
      Fault env files 14 (.invalidHeavy .noIterations)

/-! ### Variables -/

/-- The value of a variable as it stands, unless it is blank. This is what errors show; what is read
is the value without the blanks around it (`value?_eq`). -/
def written? (env : Environment) (name : String) : Option String :=
  (env name).filter (trim · ≠ "")

lemma value?_eq (env : Environment) (name : String) :
    env.value? name = (written? env name).map trim := by
  rw [Environment.value?, written?]
  cases env name with
  | none => rfl
  | some value => by_cases hblank : trim value = "" <;> simp [hblank, Option.filter]

/-- What is found of the value of a variable. -/
def found? (env : Environment) (reading : String × Kind) : Option StartupError :=
  (written? env reading.1).bind fun value => reading.2.refusal? reading.1 value

variable {name : String}

/-- What the checks find that come after the reading. -/
def foundBuilding (env : Environment) (files : Files) : List (Option StartupError) := [
  (env.value? "SYMBOL_TABLE_CONFIG_PATH").bind fun path => error? (loadTable env files path),
  (env.float "WIN_PROBABILITY" 0.30).toOption.bind fun p =>
    if 0.0 ≤ p ∧ p ≤ 1.0 then none else some (.invalidEngine (.invalidWinProbability p)),
  (env.word64 "HEAVY_PRIME_COUNT" 10).toOption.bind fun n =>
    if n < 3 then some (.invalidHeavy (.tooFewPrimes n.toNat)) else none,
  (env.word32 "HEAVY_ITERATIONS" 5000).toOption.bind fun n =>
    if n = 0 then some (.invalidHeavy .noIterations) else none]

/-- What all the checks find, in their order. -/
def found (env : Environment) (files : Files) : List (Option StartupError) :=
  readings.map (found? env) ++ foundBuilding env files

end Settings

end SlotMachine
