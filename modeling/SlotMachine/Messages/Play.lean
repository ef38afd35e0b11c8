import SlotMachine.Messages.Outcome
import SlotMachine.Round

/-!
# Requests for a spin and their replies

One request, which may be spelled in two ways, and two kinds of reply: the plain one, in which a
failed spin is told by an `error` beside zeros, and the Connect one, in which it is an error message
of its own.
-/

namespace SlotMachine

open Json (Decoder RecordField Record)

/-- A request as it is sent. What is left out is empty, zero or false. -/
structure PlayRequest where
  userId : String := ""
  bet : Float := 0.0
  cpuIntensive : Bool := false

namespace PlayRequest

def toSpinRequest (r : PlayRequest) : SpinRequest where
  userId := r.userId
  bet := r.bet
  strategy := .ofCpuIntensive r.cpuIntensive

def toJson (r : PlayRequest) : Json :=
  .object [("user_id", .string r.userId), ("bet", .float r.bet),
    ("cpu_intensive", .bool r.cpuIntensive)]

def userField : RecordField String := ⟨["user_id", "userId"], Decoder.string, some ""⟩
def betField : RecordField Float := ⟨["bet"], Decoder.float, some 0.0⟩
def intensiveField : RecordField Bool :=
  ⟨["cpu_intensive", "cpuIntensive"], Decoder.bool, some false⟩

def decoder : Decoder PlayRequest :=
  Decoder.record [userField.names, betField.names, intensiveField.names] fun r =>
    mk <$> r.get userField <*> r.get betField <*> r.get intensiveField

end PlayRequest

/-- Writes a member that may be missing. -/
def optionalMember (key : String) (value : Option Json) : List (String × Json) :=
  match value with
  | some value => [(key, value)]
  | none => []

/-- How far the user is with wagering a bonus. -/
structure WageringProgress where
  percent : Float
  remaining : Float
  canConvert : Bool

namespace WageringProgress

/-- Reads the progress that a wager service tells; what is missing or of another kind is zero or
false. -/
def ofJson (value : Json) : WageringProgress where
  percent := ((value.get? "progress_percent").bind Json.number?).getD 0.0
  remaining := ((value.get? "remaining").bind Json.number?).getD 0.0
  canConvert := ((value.get? "can_convert").bind Json.bool?).getD false

def toJson (p : WageringProgress) : Json :=
  .object [("progressPercent", .float p.percent), ("remaining", .float p.remaining),
    ("canConvert", .bool p.canConvert)]

def percentField : RecordField Float := ⟨["progressPercent"], Decoder.float, none⟩
def remainingField : RecordField Float := ⟨["remaining"], Decoder.float, none⟩
def convertField : RecordField Bool := ⟨["canConvert"], Decoder.bool, none⟩

def decoder : Decoder WageringProgress :=
  Decoder.record [percentField.names, remainingField.names, convertField.names] fun r =>
    mk <$> r.get percentField <*> r.get remainingField <*> r.get convertField

end WageringProgress

/-- The plain reply. -/
structure PlayReply where
  win : Bool := false
  payout : Float := 0.0
  symbols : List Symbol := []
  newBalance : Float := 0.0
  progress : Option Json := none
  error : Option String := none

namespace PlayReply

/-- The reply about a settled round. -/
def settled (round : Round) (newBalance : Float) (progress : Option Json) : PlayReply where
  win := round.outcome.win
  payout := round.payout
  symbols := round.outcome.reels.toList
  newBalance
  progress

/-- The reply about a failed spin. -/
def failed (message : String) : PlayReply where
  error := some message

def toJson (r : PlayReply) : Json :=
  .object ([("win", .bool r.win), ("payout", .float r.payout),
    ("symbols", .array (r.symbols.map Symbol.toJson)), ("new_balance", .float r.newBalance)] ++
    optionalMember "wagering_progress" r.progress ++
    optionalMember "error" (r.error.map .string))

def winField : RecordField Bool := ⟨["win"], Decoder.bool, none⟩
def payoutField : RecordField Float := ⟨["payout"], Decoder.float, none⟩
def symbolsField : RecordField (List Symbol) := ⟨["symbols"], Decoder.list Symbol.decoder, none⟩
def balanceField : RecordField Float := ⟨["new_balance"], Decoder.float, none⟩
def progressField : RecordField (Option Json) :=
  ⟨["wagering_progress"], Decoder.option Json.value, some none⟩
def errorField : RecordField (Option String) :=
  ⟨["error"], Decoder.option Decoder.string, some none⟩

def decoder : Decoder PlayReply :=
  Decoder.record [winField.names, payoutField.names, symbolsField.names, balanceField.names,
    progressField.names, errorField.names] fun r =>
    mk <$> r.get winField <*> r.get payoutField <*> r.get symbolsField <*> r.get balanceField <*>
      r.get progressField <*> r.get errorField

end PlayReply

/-! ### Connect -/

/-- The Connect reply to a settled spin. -/
structure ConnectReply where
  win : Bool
  payout : Float
  symbols : List Symbol
  newBalance : Float
  progress : Option WageringProgress

namespace ConnectReply

def ofReply (r : PlayReply) : ConnectReply where
  win := r.win
  payout := r.payout
  symbols := r.symbols
  newBalance := r.newBalance
  progress := r.progress.map .ofJson

def toJson (r : ConnectReply) : Json :=
  .object ([("win", .bool r.win), ("payout", .float r.payout),
    ("symbols", .array (r.symbols.map Symbol.toJson)), ("newBalance", .float r.newBalance)] ++
    optionalMember "wageringProgress" (r.progress.map WageringProgress.toJson))

def balanceField : RecordField Float := ⟨["newBalance"], Decoder.float, none⟩
def progressField : RecordField (Option WageringProgress) :=
  ⟨["wageringProgress"], Decoder.option WageringProgress.decoder, some none⟩

def decoder : Decoder ConnectReply :=
  Decoder.record [PlayReply.winField.names, PlayReply.payoutField.names,
    PlayReply.symbolsField.names, balanceField.names, progressField.names] fun r =>
    mk <$> r.get PlayReply.winField <*> r.get PlayReply.payoutField <*>
      r.get PlayReply.symbolsField <*> r.get balanceField <*> r.get progressField

end ConnectReply

inductive ConnectCode
  | invalidArgument
  | internal
  deriving DecidableEq, Repr

namespace ConnectCode

def key : ConnectCode → String
  | invalidArgument => "invalid_argument"
  | internal => "internal"

def ofKey? (key : String) : Option ConnectCode :=
  [invalidArgument, internal].find? (·.key == key)

/-- The status of the response that carries the code. -/
def status : ConnectCode → Nat
  | invalidArgument => 400
  | internal => 500

def toJson (c : ConnectCode) : Json := .string c.key

def decoder : Decoder ConnectCode := Decoder.choice ofKey? Decoder.unit

end ConnectCode

/-- The Connect message about a failure. -/
structure ConnectFailure where
  code : ConnectCode
  message : String

namespace ConnectFailure

def toJson (f : ConnectFailure) : Json :=
  .object [("code", f.code.toJson), ("message", .string f.message)]

def codeField : RecordField ConnectCode := ⟨["code"], ConnectCode.decoder, none⟩
def messageField : RecordField String := ⟨["message"], Decoder.string, none⟩

def decoder : Decoder ConnectFailure :=
  Decoder.record [codeField.names, messageField.names] fun r =>
    mk <$> r.get codeField <*> r.get messageField

end ConnectFailure

end SlotMachine
