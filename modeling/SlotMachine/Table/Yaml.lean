import SlotMachine.Table
import SlotMachine.Yaml.Node

/-!
# Symbol tables in YAML

A table is a mapping with a list of `symbols`, each a mapping of a `symbol`, its `weight` and its
`multiplier`. Other entries are passed over.
-/

namespace SlotMachine

namespace Yaml

namespace Node

def text? : Node → Option String
  | scalar text _ => some text
  | _ => none

/-- The values of the entries with these names, each of which is there once. All keys are scalars.
-/
def fields? (names : List String) : Node → Option (List Node)
  | map entries =>
    if entries.all (·.1.text?.isSome) then
      names.mapM fun name =>
        match entries.filter (·.1.text? == some name) with
        | [(_, value)] => some value
        | _ => none
    else none
  | _ => none

/-- The items of a list; nothing at all is a list without items. -/
def items? : Node → Option (List Node)
  | list items => some items
  | scalar "" true => some []
  | _ => none

/-- The value of a digit in a base. -/
def digit? (base : Nat) (c : Char) : Option Nat :=
  (Json.hexValue? c).filter (· < base)

/-- A number in a base, of at least one digit. -/
def ofDigits? (base : Nat) (digits : List Char) : Option Nat :=
  if digits.isEmpty then none
  else digits.foldlM (fun n c => (digit? base c).map (base * n + ·)) 0

/-- A number in base ten, which has no needless zero in front, or after `0x`, `0o` or `0b` in
another. -/
def unsigned? : List Char → Option Nat
  | '0' :: 'x' :: digits => ofDigits? 16 digits
  | '0' :: 'o' :: digits => ofDigits? 8 digits
  | '0' :: 'b' :: digits => ofDigits? 2 digits
  | '0' :: _ :: _ => none
  | digits => ofDigits? 10 digits

/-- A word, perhaps with a plus sign, as a plain scalar. -/
def word? : Node → Option UInt32
  | scalar text true =>
    let n := match text.toList with
      | '+' :: rest => unsigned? rest
      | cs => unsigned? cs
    (n.filter (· < UInt32.size)).map Nat.toUInt32
  | _ => none

def symbol? (node : Node) : Option Symbol := node.text?.bind Symbol.ofText?

def spec? (node : Node) : Option SymbolSpec :=
  match node.fields? ["symbol", "weight", "multiplier"] with
  | some [symbol, weight, multiplier] => do
    pure ⟨← symbol.symbol?, ← weight.word?, ← multiplier.word?⟩
  | _ => none

/-- The entries of a table. -/
def specs? (node : Node) : Option (List SymbolSpec) :=
  match node.fields? ["symbols"] with
  | some [symbols] => symbols.items?.bind (·.mapM spec?)
  | _ => none

end Node

end Yaml

namespace SymbolTable

/-- The table that a text describes. -/
def ofYaml (text : String) : Except SetupError SymbolTable :=
  match (Yaml.Node.ofText? text).bind Yaml.Node.specs? with
  | some specs => ofSpecs specs
  | none => .error .unreadableTable

end SymbolTable

end SlotMachine
