import SlotMachine.Json.Decode
import SlotMachine.Proofs.Json.Numbers
import SlotMachine.Proofs.Json.Strings

/-!
# Values in JSON texts

The text of a value is read as the tree of that value, whatever the value is (`ofSource_text`). The
induction is on the fuel of the reader, as its recursion is: `ReadsWith` says of a value, of the
items of a list and of the members of an object that they are read where the fuel suffices, and what
follows them in the text is left.
-/

namespace SlotMachine

namespace Json

open Source (ofString)

/-! ### The tree of a value -/

mutual

/-- The tree of a value; a double that is not finite has none of its own. -/
def node : Json → Node
  | null => .null
  | bool value => .bool value
  | int value => .number (.ofInt value)
  | float value => if value.isFinite then .number (.ofFloat value) else .null
  | string value => .string (some value)
  | array items => .array (itemNodes items) true
  | object members => .object (memberNodes members) true

def itemNodes : List Json → List Node
  | [] => []
  | item :: rest => node item :: itemNodes rest

def memberNodes : List (String × Json) → Members
  | [] => []
  | (key, value) :: rest => (some key, node value) :: memberNodes rest

end

/-! ### Single values -/

/-- What follows a value in a text: nothing, or the next item or member, or an end. -/
def Follows (rest : Source) : Prop :=
  ∀ c, rest.head? = some c → c = some ',' ∨ c = some ']' ∨ c = some '\x7d'

variable {rest : Source} {fuel : Nat}

lemma Follows.stops (h : Follows rest) : Stops rest := by
  intro c hc
  rcases h _ hc with hc | hc | hc
  · cases hc; decide
  · cases hc; decide
  · cases hc; decide

lemma follows_nil : Follows [] := by
  intro c hc
  cases hc

lemma follows_comma (source : Source) : Follows (some ',' :: source) := by
  intro c hc
  cases hc
  simp

lemma follows_bracket (source : Source) : Follows (some ']' :: source) := by
  intro c hc
  cases hc
  simp

lemma follows_brace (source : Source) : Follows (some '\x7d' :: source) := by
  intro c hc
  cases hc
  simp

/-- Where a number starts, nothing else does. -/
lemma ne_of_numberStart {c d : Char} (hc : c = '-' ∨ c.isDigit = true) (hd : d ≠ '-')
    (hdigit : d.isDigit = false) : c ≠ d := by
  rintro rfl
  rcases hc with hc | hc
  · exact hd hc
  · simp [hc] at hdigit

lemma isJsonBlank_of_numberStart {c : Char} (hc : c = '-' ∨ c.isDigit = true) :
    isJsonBlank (some c) = false := by
  have hother (d : Char) := ne_of_numberStart (d := d) hc
  simp [isJsonBlank, hother ' ', hother '\t', hother '\n', hother '\r']

lemma read_number {n : NumberLiteral} (h : n.Proper) (hrest : Stops rest) :
    Node.read (fuel + 1) (n.chars.map some ++ rest) = (.number n, rest) := by
  have hnumber := NumberLiteral.readNumber?_chars h hrest
  obtain ⟨c, cs, hcs, hc⟩ := NumberLiteral.head_chars h
  have hother (d : Char) := ne_of_numberStart (d := d) hc
  have hblank := isJsonBlank_of_numberStart hc
  have hword (d : Char) (ds : List Char) (hd : d ≠ '-') (hdigit : d.isDigit = false)
      (source : Source) : skipWord? (d :: ds) (some c :: source) = none := by
    simp [skipWord?, (hother d hd hdigit).symm]
  rw [hcs, List.map_cons, List.cons_append] at hnumber ⊢
  unfold Node.read
  rw [skipBlank, List.dropWhile_cons_of_neg (by simp [hblank])]
  split
  case h_1 heq => cases heq; exact absurd rfl (hother _ (by decide) (by decide))
  case h_2 heq => cases heq; exact absurd rfl (hother _ (by decide) (by decide))
  case h_3 heq => cases heq; exact absurd rfl (hother _ (by decide) (by decide))
  case h_4 =>
    rw [show skipWord? "null".toList _ = none from hword 'n' _ (by decide) (by decide) _,
      show skipWord? "true".toList _ = none from hword 't' _ (by decide) (by decide) _,
      show skipWord? "false".toList _ = none from hword 'f' _ (by decide) (by decide) _, hnumber]

lemma read_string (text : String) :
    Node.read (fuel + 1) (ofString (quote text) ++ rest) = (.string (some text), rest) := by
  obtain ⟨source, hsource, htext⟩ := readString?_quote text rest
  rw [hsource]
  simp [Node.read, skipBlank, isJsonBlank, htext]

lemma read_null : Node.read (fuel + 1) (ofString "null" ++ rest) = (.null, rest) := rfl

lemma read_true : Node.read (fuel + 1) (ofString "true" ++ rest) = (.bool true, rest) := rfl

lemma read_false : Node.read (fuel + 1) (ofString "false" ++ rest) = (.bool false, rest) := rfl

/-! ### Nested values -/

/-- A value starts neither with a blank nor with the end of a list. -/
lemma head_text (j : Json) :
    ∃ c cs, ofString j.text = some c :: cs ∧ isJsonBlank (some c) = false ∧ c ≠ ']' := by
  have hnumber {n : NumberLiteral} (h : n.Proper) : ∃ c cs, n.chars.map some = some c :: cs ∧
      isJsonBlank (some c) = false ∧ c ≠ ']' := by
    obtain ⟨c, cs, hcs, hc⟩ := NumberLiteral.head_chars h
    exact ⟨c, cs.map some, by simp [hcs], isJsonBlank_of_numberStart hc,
      ne_of_numberStart hc (by decide) (by decide)⟩
  match j with
  | null => exact ⟨'n', _, rfl, rfl, by decide⟩
  | bool true => exact ⟨'t', _, rfl, rfl, by decide⟩
  | bool false => exact ⟨'f', _, rfl, rfl, by decide⟩
  | int value =>
    rw [text, ofString, NumberLiteral.toList_toString_int]
    exact hnumber (NumberLiteral.proper_ofInt value)
  | float value =>
    by_cases h : value.isFinite = true
    · rw [text, ofString, NumberLiteral.toList_numberText h]
      exact hnumber (NumberLiteral.proper_ofFloat value)
    · rw [text, numberText, if_neg h]
      exact ⟨'n', _, rfl, rfl, by decide⟩
  | string value => exact ⟨'"', _, by simp [text, quote, ofString]; rfl, rfl, by decide⟩
  | array items => exact ⟨'[', _, by simp [text, ofString]; rfl, rfl, by decide⟩
  | object members => exact ⟨'\x7b', _, by simp [text, ofString]; rfl, rfl, by decide⟩

/-- A value is written with at least one character. -/
lemma length_text_pos (j : Json) : 0 < j.text.length := by
  obtain ⟨c, cs, hcs, -, -⟩ := head_text j
  have hlength := congrArg List.length hcs
  rw [Source.length_ofString, List.length_cons] at hlength
  omega

lemma head_itemsText (item : Json) (items : List Json) :
    ∃ c cs, ofString (itemsText (item :: items)) = some c :: cs ∧
      isJsonBlank (some c) = false ∧ c ≠ ']' := by
  obtain ⟨c, cs, hcs, hblank, hc⟩ := head_text item
  cases items with
  | nil => exact ⟨c, cs, hcs, hblank, hc⟩
  | cons next items =>
    exact ⟨c, cs ++ ofString "," ++ ofString (itemsText (next :: items)), by simp [itemsText, hcs],
      hblank, hc⟩

lemma head_membersText (key : String) (value : Json) (members : List (String × Json)) :
    ∃ cs, ofString (membersText ((key, value) :: members)) = some '"' :: cs := by
  cases members with
  | nil => exact ⟨_, by simp [membersText, quote, ofString]; rfl⟩
  | cons next members => exact ⟨_, by simp [membersText, quote, ofString]; rfl⟩

/-! The steps of the reader, each with what it reads next. -/

section

variable {source more : Source} {value : Node} {nodes : List Node} {members : Members}

lemma read_bracket {c : Char} (hblank : isJsonBlank (some c) = false) (hc : c ≠ ']')
    (hnodes : Node.readItems fuel (some c :: source) = (nodes, true, more)) :
    Node.read (fuel + 1) (some '[' :: some c :: source) = (.array nodes true, more) := by
  have hskip : skipBlank (some c :: source) = some c :: source :=
    List.dropWhile_cons_of_neg (by simp [hblank])
  have hskip' : skipBlank (some '[' :: some c :: source) = some '[' :: some c :: source := rfl
  simp [Node.read, hskip, hskip', hc, hnodes]

lemma read_brace (hmembers : Node.readMembers fuel (some '"' :: source) = (members, true, more)) :
    Node.read (fuel + 1) (some '\x7b' :: some '"' :: source) = (.object members true, more) := by
  simp [Node.read, skipBlank, isJsonBlank, hmembers]

lemma readItems_last (hvalue : Node.read fuel source = (value, some ']' :: more)) :
    Node.readItems (fuel + 1) source = ([value], true, more) := by
  simp [Node.readItems, hvalue, skipBlank, isJsonBlank]

lemma readItems_comma {c : Char} {next : Source} (hblank : isJsonBlank (some c) = false)
    (hc : c ≠ ']') (hvalue : Node.read fuel source = (value, some ',' :: some c :: next))
    (hnodes : Node.readItems fuel (some c :: next) = (nodes, true, more)) :
    Node.readItems (fuel + 1) source = (value :: nodes, true, more) := by
  have hskip : skipBlank (some c :: next) = some c :: next :=
    List.dropWhile_cons_of_neg (by simp [hblank])
  have hskip' : skipBlank (some ',' :: some c :: next) = some ',' :: some c :: next := rfl
  simp [Node.readItems, hvalue, hskip, hskip', hc, hnodes]

lemma readMembers_last {key : String} {next : Source}
    (hkey : readString? source = some (some key, some ':' :: next))
    (hvalue : Node.read fuel next = (value, some '\x7d' :: more)) :
    Node.readMembers (fuel + 1) (some '"' :: source) = ([(some key, value)], true, more) := by
  simp [Node.readMembers, hkey, hvalue, skipBlank, isJsonBlank]

lemma readMembers_comma {key : String} {next following : Source}
    (hkey : readString? source = some (some key, some ':' :: next))
    (hvalue : Node.read fuel next = (value, some ',' :: some '"' :: following))
    (hmembers : Node.readMembers fuel (some '"' :: following) = (members, true, more)) :
    Node.readMembers (fuel + 1) (some '"' :: source) =
      ((some key, value) :: members, true, more) := by
  simp [Node.readMembers, hkey, hvalue, hmembers, skipBlank, isJsonBlank]

end

/-! ### Whole values -/

/-- All that is written is read back, as far as this fuel suffices. -/
structure ReadsWith (fuel : Nat) : Prop where
  value : ∀ (j : Json) (rest : Source), 2 * j.text.length ≤ fuel → Follows rest →
    Node.read fuel (ofString j.text ++ rest) = (j.node, rest)
  items : ∀ (item : Json) (items : List Json) (rest : Source),
    2 * (itemsText (item :: items)).length < fuel →
    Node.readItems fuel (ofString (itemsText (item :: items)) ++ some ']' :: rest) =
      (itemNodes (item :: items), true, rest)
  members : ∀ (key : String) (value : Json) (members : List (String × Json)) (rest : Source),
    2 * (membersText ((key, value) :: members)).length < fuel →
    Node.readMembers fuel
        (ofString (membersText ((key, value) :: members)) ++ some '\x7d' :: rest) =
      (memberNodes ((key, value) :: members), true, rest)

namespace ReadsWith

lemma value_succ (h : ReadsWith fuel) (j : Json) (rest : Source)
    (hfuel : 2 * j.text.length ≤ fuel + 1) (hrest : Follows rest) :
    Node.read (fuel + 1) (ofString j.text ++ rest) = (j.node, rest) := by
  cases j with
  | null => exact read_null
  | bool value =>
    cases value with
    | true => exact read_true
    | false => exact read_false
  | int value =>
    rw [text, ofString, NumberLiteral.toList_toString_int]
    exact read_number (NumberLiteral.proper_ofInt value) hrest.stops
  | float value =>
    by_cases h : value.isFinite = true
    · rw [text, ofString, NumberLiteral.toList_numberText h, node, if_pos h]
      exact read_number (NumberLiteral.proper_ofFloat value) hrest.stops
    · rw [text, numberText, if_neg h, node, if_neg h]
      exact read_null
  | string value => exact read_string value
  | array items =>
    cases items with
    | nil => rfl
    | cons item items =>
      have hlength : "[".length = 1 ∧ "]".length = 1 := ⟨rfl, rfl⟩
      simp only [text, String.length_append, hlength] at hfuel
      obtain ⟨c, cs, hcs, hblank, hc⟩ := head_itemsText item items
      have hitems := h.items item items rest (by omega)
      have htext : ofString (array (item :: items)).text ++ rest =
          some '[' :: some c :: (cs ++ some ']' :: rest) := by
        simp [text, hcs]
        rfl
      rw [hcs] at hitems
      rw [htext]
      exact read_bracket hblank hc hitems
  | object members =>
    cases members with
    | nil => rfl
    | cons member members =>
      obtain ⟨key, value⟩ := member
      have hlength : "\x7b".length = 1 ∧ "\x7d".length = 1 := ⟨rfl, rfl⟩
      simp only [text, String.length_append, hlength] at hfuel
      obtain ⟨cs, hcs⟩ := head_membersText key value members
      have hmembers := h.members key value members rest (by omega)
      have htext : ofString (object ((key, value) :: members)).text ++ rest =
          some '\x7b' :: some '"' :: (cs ++ some '\x7d' :: rest) := by
        simp [text, hcs]
        rfl
      rw [hcs] at hmembers
      rw [htext]
      exact read_brace hmembers

lemma items_succ (h : ReadsWith fuel) (item : Json) (items : List Json) (rest : Source)
    (hfuel : 2 * (itemsText (item :: items)).length < fuel + 1) :
    Node.readItems (fuel + 1) (ofString (itemsText (item :: items)) ++ some ']' :: rest) =
      (itemNodes (item :: items), true, rest) := by
  cases items with
  | nil =>
    have hitem := h.value item _ (Nat.lt_succ_iff.1 hfuel) (follows_bracket rest)
    exact readItems_last hitem
  | cons next items =>
    have hlength : ",".length = 1 := rfl
    simp only [itemsText, String.length_append, hlength] at hfuel
    obtain ⟨c, cs, hcs, hblank, hc⟩ := head_itemsText next items
    have hitem := h.value item _ (by omega) (follows_comma (some c :: (cs ++ some ']' :: rest)))
    have hitems := h.items next items rest (by omega)
    have htext : ofString (itemsText (item :: next :: items)) ++ some ']' :: rest =
        ofString item.text ++ some ',' :: some c :: (cs ++ some ']' :: rest) := by
      simp [itemsText, hcs]
      rfl
    rw [hcs] at hitems
    rw [htext]
    exact readItems_comma hblank hc hitem hitems

lemma members_succ (h : ReadsWith fuel) (key : String) (value : Json)
    (members : List (String × Json)) (rest : Source)
    (hfuel : 2 * (membersText ((key, value) :: members)).length < fuel + 1) :
    Node.readMembers (fuel + 1)
        (ofString (membersText ((key, value) :: members)) ++ some '\x7d' :: rest) =
      (memberNodes ((key, value) :: members), true, rest) := by
  cases members with
  | nil =>
    simp only [membersText, String.length_append] at hfuel
    have hvalue := h.value value _ (by omega) (follows_brace rest)
    obtain ⟨source, hsource, hkey⟩ := readString?_quote key
      (some ':' :: (ofString value.text ++ some '\x7d' :: rest))
    have htext : ofString (membersText [(key, value)]) ++ some '\x7d' :: rest =
        some '"' :: source := by
      rw [← hsource]
      simp [membersText]
      rfl
    rw [htext]
    exact readMembers_last hkey hvalue
  | cons next members =>
    obtain ⟨nextKey, nextValue⟩ := next
    have hlength : ":".length = 1 ∧ ",".length = 1 := ⟨rfl, rfl⟩
    simp only [membersText, String.length_append, hlength] at hfuel
    obtain ⟨cs, hcs⟩ := head_membersText nextKey nextValue members
    have hvalue := h.value value _ (by omega)
      (follows_comma (some '"' :: (cs ++ some '\x7d' :: rest)))
    have hmembers := h.members nextKey nextValue members rest (by omega)
    obtain ⟨source, hsource, hkey⟩ := readString?_quote key (some ':' ::
      (ofString value.text ++ some ',' :: some '"' :: (cs ++ some '\x7d' :: rest)))
    have htext : ofString (membersText ((key, value) :: (nextKey, nextValue) :: members)) ++
        some '\x7d' :: rest = some '"' :: source := by
      rw [← hsource]
      simp [membersText, hcs]
      rfl
    rw [hcs] at hmembers
    rw [htext]
    exact readMembers_comma hkey hvalue hmembers

end ReadsWith

/-- The reader spends fuel on every level and on every item; two units a character are enough. -/
lemma readsWith (fuel : Nat) : ReadsWith fuel := by
  induction fuel with
  | zero =>
    constructor
    · intro j rest hfuel
      have hpos := length_text_pos j
      omega
    · intro item items rest hfuel
      exact absurd hfuel (Nat.not_lt_zero _)
    · intro key value members rest hfuel
      exact absurd hfuel (Nat.not_lt_zero _)
  | succ fuel ih => exact ⟨ih.value_succ, ih.items_succ, ih.members_succ⟩

/-- The text of a value is read to its end, as the tree of the value. -/
lemma ofSource_text (j : Json) : Node.ofSource (ofString j.text) = (j.node, true) := by
  have hread := (readsWith _).value j [] (Nat.le_add_right _ 2) follows_nil
  unfold Node.ofSource
  rw [Source.length_ofString]
  rw [List.append_nil] at hread
  simp [hread, skipBlank]

/-- Whoever reads the text of a value reads its tree. -/
lemma Decoder.ofSource_text {α : Type} (decoder : Decoder α) (j : Json) :
    decoder.ofSource (ofString j.text) = decoder maxDepth j.node := by
  unfold Decoder.ofSource
  rw [Json.ofSource_text]
  dsimp only
  cases decoder maxDepth j.node <;> rfl

end Json

end SlotMachine
