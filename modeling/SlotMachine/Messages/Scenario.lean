import SlotMachine.Messages.Play

/-!
# Metric scenarios and their messages

A scenario is a set of made-up metrics by which dashboards and alarms can be tried out. It is asked
for by name.
-/

namespace SlotMachine

open Json (Decoder RecordField Record)

inductive Scenario
  | rtpAnomaly
  | sessionSurge
  | winRateManipulation
  | normal
  deriving DecidableEq, Repr

namespace Scenario

def key : Scenario → String
  | rtpAnomaly => "rtp_anomaly"
  | sessionSurge => "session_surge"
  | winRateManipulation => "win_rate_manipulation"
  | normal => "normal"

def all : List Scenario := [rtpAnomaly, sessionSurge, winRateManipulation, normal]

def ofKey? (key : String) : Option Scenario :=
  all.find? (·.key == key)

/-- The scenario with this name, blanks around it apart; any other name means the normal one. -/
def ofName (name : String) : Scenario := (ofKey? (trim name)).getD normal

def toJson (s : Scenario) : Json := .string s.key

def decoder : Decoder Scenario := Decoder.choice ofKey? Decoder.unit

end Scenario

/-- A request to run the scenario with this name. -/
structure ScenarioRequest where
  scenario : String := "normal"

namespace ScenarioRequest

def toJson (r : ScenarioRequest) : Json := .object [("scenario", .string r.scenario)]

def scenarioField : RecordField String := ⟨["scenario"], Decoder.string, some "normal"⟩

def decoder : Decoder ScenarioRequest :=
  Decoder.record [scenarioField.names] fun r => mk <$> r.get scenarioField

end ScenarioRequest

/-- What a scenario reports: its data stand in line with the status and the error. -/
structure ScenarioReply where
  status : String
  data : List (String × Json)
  error : Option String := none

namespace ScenarioReply

def toJson (r : ScenarioReply) : Json :=
  .object ([("status", .string r.status)] ++ r.data ++ optionalMember "error" (r.error.map .string))

def statusField : RecordField String := ⟨["status"], Decoder.string, none⟩
def errorField : RecordField (Option String) :=
  ⟨["error"], Decoder.option Decoder.string, some none⟩

def fields : List (List String) := [statusField.names, errorField.names]

/-- The values of all members that belong to no field; of members with one name the last counts. -/
def readData (r : Record) : Json.Placed (List (String × Json)) :=
  let members := (r.others fields).map fun (key, node) => (some key, node)
  match Decoder.dictionary Json.value (r.room + 1) (.object members true) with
  | .ok data => .value data
  | .error e => .fault (r.members.length + 1) e

def decoder : Decoder ScenarioReply :=
  Decoder.openRecord fields fun r =>
    mk <$> r.get statusField <*> readData r <*> r.get errorField

end ScenarioReply

end SlotMachine
