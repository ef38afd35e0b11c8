import SlotMachine.Json.Decode
import SlotMachine.Json.Text
import SlotMachine.Engine

/-!
# Symbols and outcomes in messages

A symbol is written as its glyph. It is read from its glyph or its name, and also from an object
whose only member has that name; what may stand for the value of that member depends on the place.
-/

namespace SlotMachine

open Json (Decoder RecordField Record)

namespace Symbol

def toJson (s : Symbol) : Json := .string s.glyph

def decoder (payload : Decoder Unit := Decoder.unit) : Decoder Symbol :=
  Decoder.choice ofText? payload

end Symbol

namespace Strategy

def toJson (s : Strategy) : Json := .string s.key

def ofKey? (key : String) : Option Strategy :=
  [normal, heavy].find? (·.key == key)

def decoder : Decoder Strategy := Decoder.choice ofKey? Decoder.unit

end Strategy

namespace SymbolSpec

def toJson (s : SymbolSpec) : Json :=
  .object [("symbol", s.symbol.toJson), ("weight", .int s.weight.toNat),
    ("multiplier", .int s.multiplier.toNat)]

def symbolField : RecordField Symbol := ⟨["symbol"], Symbol.decoder, none⟩
def weightField : RecordField UInt32 := ⟨["weight"], Decoder.word32, none⟩
def multiplierField : RecordField UInt32 := ⟨["multiplier"], Decoder.word32, none⟩

def decoder : Decoder SymbolSpec :=
  Decoder.record [symbolField.names, weightField.names, multiplierField.names] fun r =>
    mk <$> r.get symbolField <*> r.get weightField <*> r.get multiplierField

end SymbolSpec

namespace Reels

def toJson (r : Reels) : Json := .array (r.toList.map Symbol.toJson)

/-- Exactly three symbols. -/
def decoder (payload : Decoder Unit := Decoder.unit) : Decoder Reels := fun room node => do
  let symbols ← Decoder.list (Symbol.decoder payload) room node
  match ofList? symbols with
  | some reels => .ok reels
  | none => .error .mismatched

end Reels

namespace Outcome

/-- The members of an outcome, which also stand within those of a round. -/
def members (o : Outcome) : List (String × Json) :=
  [("symbols", o.reels.toJson), ("win", .bool o.win), ("multiplier", .int o.multiplier.toNat)]

def toJson (o : Outcome) : Json := .object o.members

def reelsField (payload : Decoder Unit) : RecordField Reels :=
  ⟨["symbols"], Reels.decoder payload, none⟩
def winField : RecordField Bool := ⟨["win"], Decoder.bool, none⟩
def multiplierField : RecordField UInt32 := ⟨["multiplier"], Decoder.word32, none⟩

def fields : List (List String) := [["symbols"], winField.names, multiplierField.names]

def read (payload : Decoder Unit) (r : Record) : Json.Placed Outcome :=
  mk <$> r.get (reelsField payload) <*> r.get winField <*> r.get multiplierField

def decoder : Decoder Outcome := Decoder.record fields (read Decoder.unit)

/-- Within other members a symbol's object may also hold an empty object. -/
def emptyPayload : Decoder Unit
  | _, .object [] true => .ok ()
  | room, node => Decoder.unit room node

/-- The outcome that stands among the members of a record that has fields of its own. -/
def within (outer : List (List String)) (r : Record) : Json.Placed Outcome :=
  let own := (r.others outer).filterMap fun (key, node) =>
    if fields.any (·.contains key) then some (some key, node) else none
  match Decoder.record fields (read emptyPayload) (r.room + 1) (.object own true) with
  | .ok outcome => .value outcome
  | .error _ => .fault (r.members.length + 1) .mismatched

end Outcome

end SlotMachine
