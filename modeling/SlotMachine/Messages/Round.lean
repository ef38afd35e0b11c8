import SlotMachine.Messages.Outcome
import SlotMachine.Stats

/-!
# Rounds and statistics in messages

A round is written as one object, its outcome in line with its other members. The event of a round
is the round with the trace of its request.
-/

namespace SlotMachine

open Json (Decoder RecordField Record)

namespace Instant

def decoder : Decoder Instant := fun room node => do
  match ofText? (← Decoder.string room node) with
  | some time => .ok time
  | none => .error .mismatched

end Instant

namespace Round

def toJson (r : Round) : Json :=
  .object ([("id", (r.id.map Json.string).getD .null), ("user_id", .string r.userId),
    ("bet", .float r.bet)] ++ r.outcome.members ++
    [("payout", .float r.payout), ("timestamp", .string r.time.text)])

def idField : RecordField (Option String) := ⟨["id"], Decoder.option Decoder.string, some none⟩
def userField : RecordField String := ⟨["user_id"], Decoder.string, none⟩
def betField : RecordField Float := ⟨["bet"], Decoder.float, none⟩
def payoutField : RecordField Float := ⟨["payout"], Decoder.float, none⟩
def timeField : RecordField Instant := ⟨["timestamp"], Instant.decoder, none⟩

def fields : List (List String) :=
  [idField.names, userField.names, betField.names, payoutField.names, timeField.names]

def decoder : Decoder Round :=
  Decoder.openRecord fields fun r =>
    mk <$> r.get idField <*> r.get userField <*> r.get betField <*> Outcome.within fields r <*>
      r.get payoutField <*> r.get timeField

end Round

/-- Headers that tell where a request came from, sorted by name. -/
abbrev Trace := List (String × String)

def Trace.toJson (t : Trace) : Json := .object (t.map fun (name, value) => (name, .string value))

/-- What is published about a settled round. -/
structure RoundEvent where
  round : Round
  trace : Trace
  time : Instant

namespace RoundEvent

def ofRound (round : Round) (trace : Trace) : RoundEvent where
  round
  trace
  time := round.time

def toJson (e : RoundEvent) : Json :=
  .object [("data", e.round.toJson), ("trace", e.trace.toJson), ("timestamp", .string e.time.text)]

def roundField : RecordField Round := ⟨["data"], Round.decoder, none⟩
def traceField : RecordField Trace := ⟨["trace"], Decoder.dictionary Decoder.string, none⟩
def timeField : RecordField Instant := ⟨["timestamp"], Instant.decoder, none⟩

def decoder : Decoder RoundEvent :=
  Decoder.record [roundField.names, traceField.names, timeField.names] fun r =>
    mk <$> r.get roundField <*> r.get traceField <*> r.get timeField

end RoundEvent

/-! ### Statistics -/

/-- A count of rounds or users. -/
def countDecoder : Decoder Nat := Decoder.below UInt64.size

def totalBetsField : RecordField Float := ⟨["total_bets"], Decoder.float, none⟩
def totalPayoutsField : RecordField Float := ⟨["total_payouts"], Decoder.float, none⟩
def countField : RecordField Nat := ⟨["count"], countDecoder, none⟩
def uniquePlayersField : RecordField Nat := ⟨["unique_players"], countDecoder, none⟩

namespace SessionStats

def toJson (s : SessionStats) : Json :=
  .object [("total_bets", .float s.totalBets), ("total_payouts", .float s.totalPayouts),
    ("count", .int s.count)]

def decoder : Decoder SessionStats :=
  Decoder.record [totalBetsField.names, totalPayoutsField.names, countField.names] fun r =>
    mk <$> r.get totalBetsField <*> r.get totalPayoutsField <*> r.get countField

end SessionStats

namespace RollingStats

def toJson (s : RollingStats) : Json :=
  .object [("total_bets", .float s.totalBets), ("total_payouts", .float s.totalPayouts),
    ("count", .int s.count), ("unique_players", .int s.uniquePlayers)]

def decoder : Decoder RollingStats :=
  Decoder.record
    [totalBetsField.names, totalPayoutsField.names, countField.names, uniquePlayersField.names]
    fun r => mk <$> r.get totalBetsField <*> r.get totalPayoutsField <*> r.get countField <*>
      r.get uniquePlayersField

end RollingStats

end SlotMachine
