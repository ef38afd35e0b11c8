import SlotMachine.Settings

/-!
# Connections

Which collaborators the environment names, and where they are. A database is used if its endpoint or
a region is named; the broker can be switched off.
-/

namespace SlotMachine

structure DatabaseNames where
  roundsTable : String
  balancesTable : String
  deriving DecidableEq, Repr

structure Connections where
  /-- The tables of the database, if there is one. -/
  database : Option DatabaseNames
  /-- The topic of round events, if they are published. -/
  topic : Option String
  /-- The address of the wager service, if there is one. -/
  wagerUrl : Option String
  deriving DecidableEq, Repr

namespace Connections

def readDatabase (env : Environment) : Option DatabaseNames :=
  if (env "DYNAMODB_ENDPOINT").isSome || (env "AWS_REGION").isSome then
    some {
      roundsTable := (env "GAME_ROUNDS_TABLE").getD "game_rounds"
      balancesTable := (env "USER_BALANCES_TABLE").getD "user_balances" }
  else none

def topicName (env : Environment) : String :=
  (env "GAME_RESULTS_TOPIC").getD "gaming.game_results"

def wagerAddress (env : Environment) : String :=
  (env "WAGER_SERVICE_URL").getD "http://wager-service:8085"

def ofEnvironment (env : Environment) (settings : Settings) : Except StartupError Connections := do
  let database := readDatabase env
  let publishes ← env.flag "KAFKA_ENABLED" true
  pure {
    database
    topic := if publishes then some (topicName env) else none
    wagerUrl := if settings.useWagerService then some (wagerAddress env) else none }

end Connections

end SlotMachine
