import SlotMachine.Proofs.Decimal.Digits
import SlotMachine.Proofs.Yaml.Listings
import SlotMachine.Table.Yaml

/-!
# Tables written in YAML

The entries of a table can be written down in YAML, each on a line in braces or on three lines, with
the symbol told by its name or by its glyph. What is written down is a listing, and reading it gives
what the entries themselves give, be it a table or an error.
-/

namespace SlotMachine

/-! ### Writing -/

/-- How a symbol is spelled: plainly by its name, or by its glyph in double quotes. -/
inductive Spelling
  | name
  | glyph

namespace Spelling

variable (symbol : Symbol)

def value : Spelling → String
  | name => symbol.name
  | glyph => symbol.glyph

def text : Spelling → String
  | name => symbol.name
  | glyph => "\"" ++ symbol.glyph ++ "\""

def plain : Spelling → Bool
  | name => true
  | glyph => false

end Spelling

/-- An entry of a table, and how it is written. -/
structure WrittenSpec where
  spec : SymbolSpec
  spelling : Spelling
  layout : Yaml.Layout

namespace WrittenSpec

def symbolText (w : WrittenSpec) : String := w.spelling.text w.spec.symbol

def text (w : WrittenSpec) : String :=
  match w.layout with
  | .flow =>
    "  - \x7bsymbol: " ++ w.symbolText ++ ", weight: " ++ toString w.spec.weight ++
      ", multiplier: " ++ toString w.spec.multiplier ++ "\x7d"
  | .block =>
    "  - symbol: " ++ w.symbolText ++ "\n    weight: " ++ toString w.spec.weight ++
      "\n    multiplier: " ++ toString w.spec.multiplier

end WrittenSpec

/-- A table as a text, perhaps with a line break at the end. -/
def tableText (entries : List WrittenSpec) (ended : Bool) : String :=
  "symbols:" ++ String.join (entries.map fun w => "\n" ++ w.text) ++ if ended then "\n" else ""

/-! ### The listing -/

open Yaml (IsWord IsOrdinary isGap)

open Yaml.Scanner (Spells)

namespace Symbol

variable (s : Symbol)

lemma isWord_name : IsWord s.name.toList := by
  cases s <;> decide

/-- A glyph is a single character, which means nothing in a text. -/
lemma exists_glyph_eq :
    ∃ c, s.glyph = String.ofList [c] ∧ IsOrdinary c ∧ isGap c = false ∧ c ≠ '"' ∧ c ≠ '\\' := by
  cases s with
  | cherry => exact ⟨'🍒', rfl, by decide⟩
  | lemon => exact ⟨'🍋', rfl, by decide⟩
  | orange => exact ⟨'🍊', rfl, by decide⟩
  | grape => exact ⟨'🍇', rfl, by decide⟩
  | star => exact ⟨'⭐', rfl, by decide⟩
  | diamond => exact ⟨'💎', rfl, by decide⟩

end Symbol

lemma Spelling.spells (sp : Spelling) (s : Symbol) :
    Spells (sp.text s).toList (sp.value s) sp.plain := by
  cases sp with
  | name =>
    have h := Spells.word s.isWord_name
    rwa [String.ofList_toList] at h
  | glyph =>
    obtain ⟨c, hglyph, hordinary, hgap, hquote, hescape⟩ := s.exists_glyph_eq
    have h := Spells.char hordinary hgap hquote hescape
    simpa [text, value, plain, hglyph] using h

lemma isWord_toDigits (n : Nat) : IsWord (Nat.toDigits 10 n) where
  ne_nil := (areDigits_toDigits n).1
  alphanum c hc := by
    have hdigit := (areDigits_toDigits n).2 c hc
    simp [Char.isAlphanum, hdigit]

/-- An entry that tells a word. -/
def wordEntry (name : String) (hword : IsWord name.toList) (hshort : name.toList.length ≤ 1024)
    (n : UInt32) : Yaml.Entry where
  name := name
  text := Nat.toDigits 10 n.toNat
  value := toString n
  plain := true
  isWord := hword
  short := hshort
  spells := .word (isWord_toDigits n.toNat)

namespace WrittenSpec

variable (w : WrittenSpec)

def symbolEntry : Yaml.Entry where
  name := "symbol"
  text := w.symbolText.toList
  value := w.spelling.value w.spec.symbol
  plain := w.spelling.plain
  isWord := by decide
  short := by decide
  spells := w.spelling.spells w.spec.symbol

def item : Yaml.Item where
  layout := w.layout
  first := w.symbolEntry
  more := [wordEntry "weight" (by decide) (by decide) w.spec.weight,
    wordEntry "multiplier" (by decide) (by decide) w.spec.multiplier]

lemma toList_text : ("\n" ++ w.text).toList = w.item.text := by
  obtain ⟨spec, spelling, layout⟩ := w
  have hword (n : UInt32) : (toString n).toList = Nat.toDigits 10 n.toNat := String.toList_ofList
  cases layout <;> simp [text, item, symbolEntry, wordEntry, hword, Yaml.Item.text,
    Yaml.Item.body, Yaml.Entry.line, Yaml.margin]

end WrittenSpec

def tableListing (entries : List WrittenSpec) : Yaml.Listing where
  name := "symbols"
  items := entries.map (·.item)
  isWord := by decide
  short := by decide

lemma toList_tableText (entries : List WrittenSpec) (ended : Bool) :
    (tableText entries ended).toList = (tableListing entries).text ended := by
  have hlines : (String.join (entries.map fun w => "\n" ++ w.text)).toList =
      (entries.map (·.item)).flatMap (·.text) := by
    rw [String.toList_join, List.flatMap_map, List.flatMap_map]
    exact List.flatMap_congr fun w _ => w.toList_text
  have hend : (if ended then "\n" else "").toList = if ended then Yaml.margin 0 else [] := by
    cases ended <;> rfl
  rw [tableText, String.toList_append, String.toList_append, hlines, hend]
  simp [Yaml.Listing.text, Yaml.itemLines, tableListing]

/-! ### Reading -/

namespace Yaml

namespace Node

lemma digit?_of_isDigit {c : Char} (h : c.isDigit = true) :
    digit? 10 c = some (c.toNat - '0'.toNat) := by
  have hle : c.toNat ≤ 57 := (Char.isDigit_iff_toNat.1 h).2
  have hlt : c.toNat - 48 < 10 := by omega
  simp [digit?, Json.hexValue?, h, hlt]

lemma foldlM_digit? {cs : List Char} (h : ∀ c ∈ cs, c.isDigit = true) (n : Nat) :
    cs.foldlM (fun n c => (digit? 10 c).map (10 * n + ·)) n = some (Nat.ofDigitChars 10 cs n) := by
  induction cs generalizing n with
  | nil => rfl
  | cons c cs ih =>
    obtain ⟨hc, hcs⟩ := List.forall_mem_cons.1 h
    rw [List.foldlM_cons, digit?_of_isDigit hc, Nat.ofDigitChars_cons]
    exact ih hcs _

lemma ofDigits?_toDigits (n : Nat) : ofDigits? 10 (Nat.toDigits 10 n) = some n := by
  obtain ⟨hne, hdigits⟩ := areDigits_toDigits n
  rw [ofDigits?, foldlM_digit? hdigits, Nat.ofDigitChars_ten_toDigits]
  simp [hne]

lemma unsigned?_of_head?_ne {cs : List Char} (h : cs.head? ≠ some '0') :
    unsigned? cs = ofDigits? 10 cs := by
  unfold unsigned?
  split
  case h_5 => rfl
  all_goals exact absurd rfl h

lemma unsigned?_toDigits (n : Nat) : unsigned? (Nat.toDigits 10 n) = some n := by
  by_cases hn : n = 0
  · subst hn
    rfl
  · rw [unsigned?_of_head?_ne (head?_toDigits_ne_zero hn), ofDigits?_toDigits]

lemma word?_toString (n : UInt32) : (scalar (toString n) true).word? = some n := by
  have htext : (toString n).toList = Nat.toDigits 10 n.toNat := String.toList_ofList
  have hplus : (Nat.toDigits 10 n.toNat).head? ≠ some '+' := fun h =>
    absurd ((areDigits_toDigits n.toNat).2 '+' (List.mem_of_head? h)) (by decide)
  rw [word?, htext]
  split
  case h_1 heq => simp [heq] at hplus
  case h_2 =>
    rw [unsigned?_toDigits]
    simp [n.toNat_lt]

lemma symbol?_value (sp : Spelling) (s : Symbol) (plain : Bool) :
    (scalar (sp.value s) plain).symbol? = some s := by
  cases sp <;> cases s <;> rfl

lemma spec?_item (w : WrittenSpec) : w.item.node.spec? = some w.spec := by
  have hfields : w.item.node.fields? ["symbol", "weight", "multiplier"] =
      some [.scalar (w.spelling.value w.spec.symbol) w.spelling.plain,
        .scalar (toString w.spec.weight) true, .scalar (toString w.spec.multiplier) true] := by
    simp [fields?, text?, Item.node, Entry.node, WrittenSpec.item, WrittenSpec.symbolEntry,
      wordEntry]
  rw [spec?, hfields]
  simp [symbol?_value, word?_toString]

lemma specs?_tableListing (entries : List WrittenSpec) :
    (tableListing entries).node.specs? = some (entries.map (·.spec)) := by
  have hspecs : (entries.map fun w => w.item.node).mapM spec? = some (entries.map (·.spec)) := by
    induction entries with
    | nil => rfl
    | cons w entries ih => simp [spec?_item, ih]
  cases entries with
  | nil => rfl
  | cons w entries =>
    have hfields : (tableListing (w :: entries)).node.fields? ["symbols"] =
        some [.list ((w :: entries).map fun w => w.item.node)] := by
      simp [fields?, text?, Listing.node, tableListing]
    rw [specs?, hfields]
    exact hspecs

end Node

end Yaml

namespace SymbolTable

/-- A table that is written in YAML is read as if its entries had been given directly, whichever way
each of them is written. -/
theorem ofYaml_tableText (entries : List WrittenSpec) (ended : Bool) :
    ofYaml (tableText entries ended) = ofSpecs (entries.map (·.spec)) := by
  have htext : tableText entries ended = String.ofList ((tableListing entries).text ended) := by
    rw [← toList_tableText, String.ofList_toList]
  rw [ofYaml, htext, Yaml.Node.ofText?_listing, Option.bind_some, Yaml.Node.specs?_tableListing]

end SymbolTable

end SlotMachine
