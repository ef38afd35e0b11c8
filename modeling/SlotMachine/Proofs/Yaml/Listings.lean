import SlotMachine.Proofs.Yaml.Scanning
import SlotMachine.Yaml.Node

/-!
# Listings

A listing is a mapping with one name, under which there is a list of mappings. Each of them stands
on a line of its own in braces, or goes on over several lines with one entry on each. Its tokens are
found by cutting the text item by item, and its tree by reading the tokens item by item.
-/

namespace SlotMachine

namespace Yaml

open Scanner (Spells EndsBefore Opens IsGap isGap_nil isGap_blank isGap_margin)

/-! ### The text of a listing -/

/-- An entry of a mapping. Its name is a word that is short enough for a key. -/
structure Entry where
  name : String
  /-- The scalar as it is written. -/
  text : List Char
  /-- The scalar as it is read. -/
  value : String
  plain : Bool
  isWord : IsWord name.toList
  short : name.toList.length ≤ 1024
  spells : Spells text value plain

namespace Entry

variable (e : Entry)

def line : List Char := e.name.toList ++ ':' :: ' ' :: e.text

def tokens : List Token :=
  [.key, .scalar e.name true, .value, .scalar e.value e.plain]

def node : Node × Node := (.scalar e.name true, .scalar e.value e.plain)

lemma length_tokens : e.tokens.length = 4 := rfl

end Entry

/-- A mapping is laid out in braces, or on several lines. -/
inductive Layout
  | flow
  | block

/-- An item of a listing: a mapping, which has at least one entry. -/
structure Item where
  layout : Layout
  first : Entry
  more : List Entry

namespace Item

variable (i : Item)

def body : List Char :=
  match i.layout with
  | .flow =>
    '\x7b' :: (i.first.line ++ ((i.more.flatMap fun e => ',' :: ' ' :: e.line) ++ ['\x7d']))
  | .block => i.first.line ++ i.more.flatMap fun e => margin 4 ++ e.line

/-- The lines of an item, each with the line break before it. -/
def text : List Char := margin 2 ++ '-' :: ' ' :: i.body

def bodyTokens : List Token :=
  match i.layout with
  | .flow =>
    .mapOpen :: (i.first.tokens ++
      ((i.more.flatMap fun e => .separator :: e.tokens) ++ [.mapClose]))
  | .block => .blockMap :: (i.first.tokens ++ (i.more.flatMap (·.tokens) ++ [.blockEnd]))

def tokens : List Token := .item :: i.bodyTokens

def node : Node := .map ((i.first :: i.more).map (·.node))

end Item

/-- The lines of some items, perhaps with a line break at the end. -/
def itemLines (items : List Item) (ended : Bool) : List Char :=
  items.flatMap (·.text) ++ if ended then margin 0 else []

/-- Items in a list under a name. -/
structure Listing where
  name : String
  items : List Item
  isWord : IsWord name.toList
  short : name.toList.length ≤ 1024

namespace Listing

variable (l : Listing)

def text (ended : Bool) : List Char := l.name.toList ++ ':' :: itemLines l.items ended

def tokens : List Token :=
  .blockMap :: .key :: .scalar l.name true :: .value ::
    match l.items with
    | [] => [.blockEnd]
    | items => .blockList :: (items.flatMap (·.tokens) ++ [.blockEnd, .blockEnd])

def node : Node :=
  .map [(.scalar l.name true,
    match l.items with
    | [] => .empty
    | items => .list (items.map (·.node)))]

end Listing

/-! ### The tokens of a listing -/

namespace Scanner

variable {s : Scanner} {flow : Bool} {column : Nat} {indents indents' kept closed : List Nat}
  {tokens tokens' : List Token} {gap rest follow : List Char}

lemma endsBefore_more (more : List Entry) :
    EndsBefore true indents ((more.flatMap fun e => ',' :: ' ' :: e.line) ++ '\x7d' :: rest) := by
  cases more with
  | nil => exact .mapClose _ _
  | cons _ _ => exact .separator _ _

lemma endsBefore_moreLines (more : List Entry)
    (hends : EndsBefore false (column :: indents) follow) :
    EndsBefore false (column :: indents)
      ((more.flatMap fun e => margin column ++ e.line) ++ follow) := by
  cases more with
  | nil => exact hends
  | cons e more =>
    obtain ⟨c, name, hname⟩ := List.exists_cons_of_ne_nil e.isWord.ne_nil
    have hsolid : Solid c := solid_of_isAlphanum (e.isWord.alphanum c (by simp [hname]))
    rw [List.flatMap_cons, List.append_assoc, List.append_assoc]
    refine .line _ le_rfl fun d hd => ?_
    have hd : c = d := by simpa [Entry.line, hname] using hd
    exact hd ▸ hsolid

namespace Stands

lemma entry (e : Entry) (h : s.Stands flow indents tokens (gap ++ (e.line ++ follow)))
    (hgap : IsGap gap) (hallowed : (s.keyAllowed || (!flow && gap.any isBreak)) = true)
    (hopens : Opens .blockMap (s.place.afterAll gap).column flow indents tokens indents' tokens')
    (hends : EndsBefore flow indents' follow) :
    ∃ t, s.Leads t ∧ t.Stands flow indents' (e.tokens.reverse ++ tokens') follow := by
  have hline : e.line ++ follow = e.name.toList ++ ':' :: ' ' :: (e.text ++ follow) := by
    simp [Entry.line]
  rw [hline] at h
  obtain ⟨r, hleads, hr, hkey, hkept⟩ := h.key hgap e.isWord e.short rfl hallowed hopens
  rw [String.ofList_toList] at hr
  obtain ⟨t, hleads', ht⟩ := hr.scalar hkey hkept e.spells hends
  exact ⟨t, hleads.trans hleads', ht⟩

/-- The other entries of a mapping in braces, up to the closing one. -/
lemma moreInFlow (more : List Entry)
    (h : s.Stands true indents tokens
      ((more.flatMap fun e => ',' :: ' ' :: e.line) ++ '\x7d' :: rest)) :
    ∃ t, s.Leads t ∧ t.Stands false indents
      (.mapClose :: ((more.flatMap fun e => .separator :: e.tokens).reverse ++ tokens)) rest := by
  induction more generalizing s tokens with
  | nil => exact h.mapClose
  | cons e more ih =>
    rw [List.flatMap_cons, List.append_assoc] at h
    obtain ⟨q, hleads, hq, hallowed⟩ := Stands.separator h
    obtain ⟨r, hleads', hr⟩ :=
      hq.entry e isGap_blank (by simp [hallowed]) (.flow _ _) (endsBefore_more more)
    obtain ⟨t, hleads'', ht⟩ := ih hr
    refine ⟨t, (hleads.trans hleads').trans hleads'', ?_⟩
    simpa using ht

/-- The other entries of a mapping on several lines. -/
lemma moreInBlock (more : List Entry)
    (h : s.Stands false (column :: indents) tokens
      ((more.flatMap fun e => margin column ++ e.line) ++ follow))
    (hends : EndsBefore false (column :: indents) follow) :
    ∃ t, s.Leads t ∧ t.Stands false (column :: indents)
      ((more.flatMap (·.tokens)).reverse ++ tokens) follow := by
  induction more generalizing s tokens with
  | nil => exact ⟨s, .refl s, h⟩
  | cons e more ih =>
    rw [List.flatMap_cons, List.append_assoc, List.append_assoc] at h
    have hopens : Opens .blockMap (s.place.afterAll (margin column)).column false
        (column :: indents) tokens (column :: indents) tokens := by
      rw [column_afterAll_margin]
      exact .same _ _
    obtain ⟨r, hleads, hr⟩ := h.entry e (isGap_margin column) (by simp [any_isBreak_margin])
      hopens (endsBefore_moreLines more hends)
    obtain ⟨t, hleads', ht⟩ := ih hr
    refine ⟨t, hleads.trans hleads', ?_⟩
    simpa using ht

lemma flowBody (first : Entry) (more : List Entry)
    (h : s.Stands false indents tokens (' ' :: (Item.body ⟨.flow, first, more⟩ ++ follow)))
    (hallowed : s.keyAllowed = true) (hkept : ∀ i ∈ indents.head?, i ≤ s.place.column) :
    ∃ t, s.Leads t ∧ t.Stands false indents
      ((Item.bodyTokens ⟨.flow, first, more⟩).reverse ++ tokens) follow := by
  have hbody : Item.body ⟨.flow, first, more⟩ ++ follow = '\x7b' :: (first.line ++
      ((more.flatMap fun e => ',' :: ' ' :: e.line) ++ '\x7d' :: follow)) := by
    simp [Item.body]
  rw [hbody] at h
  obtain ⟨q, hleads, hq, hallowed'⟩ := h.mapOpen hallowed hkept
  obtain ⟨r, hleads', hr⟩ :=
    Stands.entry first hq isGap_nil (by simp [hallowed']) (.flow _ _) (endsBefore_more more)
  obtain ⟨t, hleads'', ht⟩ := hr.moreInFlow more
  refine ⟨t, (hleads.trans hleads').trans hleads'', ?_⟩
  simpa [Item.bodyTokens] using ht

lemma blockBody (first : Entry) (more : List Entry)
    (h : s.Stands false indents tokens (' ' :: (Item.body ⟨.block, first, more⟩ ++ follow)))
    (hallowed : s.keyAllowed = true) (hcolumn : s.place.column = 3)
    (hkept : ∀ i ∈ indents.head?, i < 4) (hends : EndsBefore false (4 :: indents) follow) :
    ∃ t, s.Leads t ∧ t.Stands false (4 :: indents)
      ((more.flatMap (·.tokens)).reverse ++ (first.tokens.reverse ++ .blockMap :: tokens))
      follow := by
  have hbody : ' ' :: (Item.body ⟨.block, first, more⟩ ++ follow) = [' '] ++ (first.line ++
      ((more.flatMap fun e => margin 4 ++ e.line) ++ follow)) := by
    simp [Item.body]
  rw [hbody] at h
  have hopens : Opens .blockMap (s.place.afterAll [' ']).column false indents tokens
      (4 :: indents) (.blockMap :: tokens) := by
    have hfour : (s.place.afterAll [' ']).column = 4 := congrArg (· + 1) hcolumn
    rw [hfour]
    exact .new hkept _
  obtain ⟨r, hleads, hr⟩ :=
    h.entry first isGap_blank (by simp [hallowed]) hopens (endsBefore_moreLines more hends)
  obtain ⟨t, hleads', ht⟩ := hr.moreInBlock more hends
  exact ⟨t, hleads.trans hleads', ht⟩

end Stands

/-- Items of a list have been read. Blocks within the last one may still be open; the tokens are
given as they are when these are closed. -/
def Listed (s : Scanner) (tokens : List Token) (rest : List Char) : Prop :=
  ∃ closed before, (∀ i ∈ closed, 2 < i) ∧ s.Stands false (closed ++ [2, 0]) before rest ∧
    closed.map (fun _ => .blockEnd) ++ before = tokens

/-- An item of the list in the third column, where the list may begin. -/
lemma Stands.listed (i : Item) (h : s.Stands false (closed ++ kept) tokens (i.text ++ follow))
    (hclosed : ∀ c ∈ closed, 2 < c)
    (hopens : Opens .blockList 2 false kept (closed.map (fun _ => .blockEnd) ++ tokens) [2, 0]
      tokens')
    (hends : EndsBefore false [4, 2, 0] follow) :
    ∃ t, s.Leads t ∧ t.Listed (i.tokens.reverse ++ tokens') follow := by
  have htext : i.text ++ follow = margin 2 ++ '-' :: ' ' :: (i.body ++ follow) := by
    simp [Item.text]
  rw [htext] at h
  obtain ⟨r, hleads, hr, hallowed, hcolumn⟩ := h.item hclosed hopens
  obtain ⟨layout, first, more⟩ := i
  -- behind braces no block of the item is open, behind its last line its mapping still is
  cases layout with
  | flow =>
    obtain ⟨t, hleads', ht⟩ := hr.flowBody first more hallowed (by simp [hcolumn])
    refine ⟨t, hleads.trans hleads', [], _, List.forall_mem_nil _, ht, ?_⟩
    simp [Item.tokens]
  | block =>
    obtain ⟨t, hleads', ht⟩ := hr.blockBody first more hallowed hcolumn (by simp) hends
    refine ⟨t, hleads.trans hleads', [4], _, by simp, ht, ?_⟩
    simp [Item.tokens, Item.bodyTokens]

/-- An item ends at the next one and at the end of the text. -/
lemma endsBefore_items (items : List Item) (ended : Bool) :
    EndsBefore false (4 :: indents) (itemLines items ended) := by
  cases items with
  | nil =>
    cases ended with
    | false => exact .text _
    | true =>
      have hbreak : itemLines [] true = margin 0 ++ [] := rfl
      rw [hbreak]
      exact .line _ (Nat.zero_le 4) nofun
  | cons i items =>
    have hdash : Solid '-' := by decide
    have hlines : itemLines (i :: items) ended =
        margin 2 ++ '-' :: ' ' :: (i.body ++ itemLines items ended) := by
      simp [itemLines, Item.text]
    rw [hlines]
    exact .line _ (by decide) (by simpa using hdash)

lemma itemLines_cons (i : Item) (items : List Item) (ended : Bool) :
    itemLines (i :: items) ended = i.text ++ itemLines items ended := by
  rw [itemLines, List.flatMap_cons, List.append_assoc, itemLines]

lemma Listed.items (items : List Item) (ended : Bool)
    (h : s.Listed tokens (itemLines items ended)) :
    ∃ t, s.Leads t ∧
      t.Listed ((items.flatMap (·.tokens)).reverse ++ tokens) (itemLines [] ended) := by
  induction items generalizing s tokens with
  | nil => exact ⟨s, .refl s, h⟩
  | cons i items ih =>
    obtain ⟨closed, before, hclosed, hs, rfl⟩ := h
    rw [itemLines_cons] at hs
    obtain ⟨r, hleads, hr⟩ := hs.listed i hclosed (.same _ _) (endsBefore_items items ended)
    obtain ⟨t, hleads', ht⟩ := ih hr
    refine ⟨t, hleads.trans hleads', ?_⟩
    simpa using ht

lemma atGap_itemLines (items : List Item) (ended : Bool) :
    atGap (itemLines items ended) = true := by
  cases items with
  | nil => cases ended <;> rfl
  | cons _ _ => rfl

lemma isGap_itemLines_nil (ended : Bool) : IsGap (itemLines [] ended) := by
  cases ended with
  | false => exact isGap_nil
  | true => exact isGap_margin 0

/-- At the end of the text the list and the mapping around it are closed. -/
lemma Listed.finish {ended : Bool} (h : s.Listed tokens (itemLines [] ended)) (fuel : Nat) :
    ∃ t, run? (fuel + 1) s = some t ∧ t.tokens = .blockEnd :: .blockEnd :: tokens := by
  obtain ⟨closed, before, -, hs, rfl⟩ := h
  obtain ⟨t, hrun, ht⟩ := hs.finish (isGap_itemLines_nil ended) fuel
  refine ⟨t, hrun, ?_⟩
  have hcomm : (closed ++ [2, 0]).map (fun _ => Token.blockEnd) =
      ([2, 0] ++ closed).map (fun _ => Token.blockEnd) := by
    rw [List.map_const', List.map_const', List.length_append, List.length_append, Nat.add_comm]
  rw [ht, hcomm]
  rfl

lemma run?_listing (l : Listing) (ended : Bool) :
    ∃ t, run? ((l.text ended).length + 1) { rest := l.text ended } = some t ∧
      t.tokens.reverse = l.tokens := by
  have hstart : Stands { rest := l.text ended } false [] []
      ([] ++ (l.name.toList ++ ':' :: itemLines l.items ended)) :=
    ⟨rfl, rfl, rfl, idle_none, List.forall_mem_nil _, rfl⟩
  have hopens : Opens .blockMap 0 false [] [] [0] [.blockMap] := .new (by simp) []
  obtain ⟨q, hleads, hq, -, -⟩ :=
    hstart.key isGap_nil l.isWord l.short (atGap_itemLines _ _) rfl hopens
  rw [String.ofList_toList] at hq
  obtain ⟨name, items, hword, hshort⟩ := l
  cases items with
  | nil =>
    obtain ⟨fuel, hfuel⟩ := hleads.run?_eq
    obtain ⟨t, hrun, ht⟩ := hq.finish (isGap_itemLines_nil ended) fuel
    refine ⟨t, hfuel.trans hrun, ?_⟩
    rw [ht]
    rfl
  | cons i items =>
    have hfirst : q.Stands false ([] ++ [0]) _ (i.text ++ itemLines items ended) :=
      itemLines_cons i items ended ▸ hq
    obtain ⟨r, hleads', hr⟩ := hfirst.listed i (List.forall_mem_nil _) (.new (by simp) _)
      (endsBefore_items items ended)
    obtain ⟨r', hleads'', hr'⟩ := hr.items
    obtain ⟨fuel, hfuel⟩ := ((hleads.trans hleads').trans hleads'').run?_eq
    obtain ⟨t, hrun, ht⟩ := hr'.finish fuel
    refine ⟨t, hfuel.trans hrun, ?_⟩
    rw [ht]
    simp [Listing.tokens]

end Scanner

lemma Entry.isOrdinary (e : Entry) : ∀ c ∈ e.line, IsOrdinary c := by
  have hcolon : IsOrdinary ':' ∧ IsOrdinary ' ' := by decide
  simp only [line, List.forall_mem_append, List.forall_mem_cons]
  exact ⟨e.isWord.isOrdinary, hcolon.1, hcolon.2, e.spells.isOrdinary⟩

lemma Item.isOrdinary (i : Item) : ∀ c ∈ i.text, IsOrdinary c := by
  have hmargin : ∀ width, ∀ c ∈ margin width, IsOrdinary c := fun _ _ => isOrdinary_of_mem_margin
  have hmarks : IsOrdinary '-' ∧ IsOrdinary ' ' ∧ IsOrdinary ',' ∧ IsOrdinary '\x7b' ∧
      IsOrdinary '\x7d' := by decide
  have hbody : ∀ c ∈ i.body, IsOrdinary c := by
    unfold body
    split
    all_goals
      simp only [List.forall_mem_append, List.forall_mem_cons, List.forall_mem_flatMap]
      grind [Entry.isOrdinary]
  simp only [text, List.forall_mem_append, List.forall_mem_cons]
  exact ⟨hmargin 2, hmarks.1, hmarks.2.1, hbody⟩

lemma Listing.isOrdinary (l : Listing) (ended : Bool) : ∀ c ∈ l.text ended, IsOrdinary c := by
  have hcolon : IsOrdinary ':' := by decide
  have hending : ∀ c ∈ if ended then margin 0 else [], IsOrdinary c := by
    cases ended with
    | false => exact List.forall_mem_nil _
    | true => exact fun _ => isOrdinary_of_mem_margin
  simp only [text, itemLines, List.forall_mem_append, List.forall_mem_cons,
    List.forall_mem_flatMap]
  exact ⟨l.isWord.isOrdinary, hcolon, fun i _ => i.isOrdinary, hending⟩

lemma tokens?_listing (l : Listing) (ended : Bool) :
    tokens? (String.ofList (l.text ended)) = some l.tokens := by
  have hall : (l.text ended).all isPrintable = true :=
    List.all_eq_true.2 fun c hc => (l.isOrdinary ended c hc).printable
  obtain ⟨t, hrun, htokens⟩ := Scanner.run?_listing l ended
  have hmark : (l.text ended).head? ≠ some '\ufeff' := by
    obtain ⟨c, name, hname⟩ := List.exists_cons_of_ne_nil l.isWord.ne_nil
    have hc : c ≠ '\ufeff' := ne_of_isAlphanum (l.isWord.alphanum c (by simp [hname])) rfl
    simpa [Listing.text, hname] using hc
  rw [tokens?, String.toList_ofList]
  split
  case h_1 heq => simp [heq] at hmark
  case h_2 => simp [hall, normalize_eq (l.isOrdinary ended), hrun, htokens]

/-! ### The tree of a listing -/

namespace Node

variable {block afterKey : Bool} {ends rest follow follow' : List Token} {text : String}
  {plain : Bool} {es : List (Node × Node)} {fuel : Nat}

lemma readOr?_scalar (hends : .scalar text plain ∉ ends) (fuel : Nat) :
    readOr? block afterKey ends (fuel + 2) (.scalar text plain :: rest) =
      some (.scalar text plain, rest) := by
  simp [readOr?, read?, hends]

lemma readOr?_mapOpen (hends : .mapOpen ∉ ends)
    (h : mapEntries? true fuel follow = some (es, rest)) :
    readOr? block afterKey ends (fuel + 2) (.mapOpen :: follow) = some (.map es, rest) := by
  simp [readOr?, read?, hends, h]

lemma readOr?_blockMap (hends : .blockMap ∉ ends)
    (h : blockEntries? fuel follow = some (es, rest)) :
    readOr? true afterKey ends (fuel + 2) (.blockMap :: follow) = some (.map es, rest) := by
  simp [readOr?, read?, hends, h]

lemma valueOr?_scalar (hends : .scalar text plain ∉ ends) (fuel : Nat) :
    valueOr? block ends (fuel + 3) (.value :: .scalar text plain :: rest) =
      some (.scalar text plain, rest) := by
  rw [valueOr?, readOr?_scalar hends]

/-- The first entry of a mapping on several lines. -/
lemma blockEntries?_key {value : Node}
    (hvalue : valueOr? true [.key, .value, .blockEnd] (fuel + 2) follow = some (value, follow'))
    (hmore : blockEntries? (fuel + 2) follow' = some (es, rest)) :
    blockEntries? (fuel + 3) (.key :: .scalar text plain :: follow) =
      some ((.scalar text plain, value) :: es, rest) := by
  rw [blockEntries?, readOr?_scalar (by simp)]
  simp [hvalue, hmore]

lemma blockEntries?_cons (e : Entry)
    (h : blockEntries? (fuel + 3) follow = some (es, rest)) :
    blockEntries? (fuel + 4) (e.tokens ++ follow) = some (e.node :: es, rest) :=
  blockEntries?_key (valueOr?_scalar (by simp) fuel) h

lemma blockEntries?_tokens (es : List Entry)
    (hfuel : (es.flatMap (·.tokens)).length + 4 ≤ fuel) (rest : List Token) :
    blockEntries? fuel (es.flatMap (·.tokens) ++ .blockEnd :: rest) =
      some (es.map (·.node), rest) := by
  induction es generalizing fuel with
  | nil =>
    obtain ⟨fuel, rfl⟩ := Nat.exists_eq_add_of_le' hfuel
    rfl
  | cons e es ih =>
    rw [List.flatMap_cons, List.length_append, e.length_tokens] at hfuel
    obtain ⟨fuel, rfl⟩ := Nat.exists_eq_add_of_le' (show 4 ≤ fuel by omega)
    rw [List.flatMap_cons, List.append_assoc]
    exact blockEntries?_cons e (ih (by omega))

lemma mapEntries?_separator (fuel : Nat) (rest : List Token) :
    mapEntries? false (fuel + 1) (.separator :: .key :: rest) =
      mapEntries? true (fuel + 1) (.key :: rest) := by
  simp [mapEntries?]

lemma mapEntries?_cons (e : Entry)
    (h : mapEntries? false (fuel + 3) follow = some (es, rest)) :
    mapEntries? true (fuel + 4) (e.tokens ++ follow) = some (e.node :: es, rest) := by
  have hends : ∀ text plain, .scalar text plain ∉ [Token.value, .separator, .mapClose] := by simp
  have hends' : ∀ text plain, .scalar text plain ∉ [Token.separator, .mapClose] := by simp
  have hvalue := @valueOr?_scalar false _ follow e.value e.plain (hends' _ _) fuel
  rw [Entry.tokens, List.cons_append, mapEntries?.eq_def]
  simp [readOr?_scalar (hends _ _), hvalue, h, Entry.node]

/-- The entries of a mapping in braces behind the first one. -/
lemma mapEntries?_more (es : List Entry)
    (hfuel : (es.flatMap fun e => .separator :: e.tokens).length + 4 ≤ fuel)
    (rest : List Token) :
    mapEntries? false fuel ((es.flatMap fun e => .separator :: e.tokens) ++ .mapClose :: rest) =
      some (es.map (·.node), rest) := by
  induction es generalizing fuel with
  | nil =>
    obtain ⟨fuel, rfl⟩ := Nat.exists_eq_add_of_le' hfuel
    rfl
  | cons e es ih =>
    rw [List.flatMap_cons, List.length_append, List.length_cons, e.length_tokens] at hfuel
    obtain ⟨fuel, rfl⟩ := Nat.exists_eq_add_of_le' (show 4 ≤ fuel by omega)
    have hread := mapEntries?_cons e (@ih (fuel + 3) (by omega))
    rw [List.flatMap_cons, List.append_assoc]
    exact (mapEntries?_separator _ _).trans hread

/-- An item is read behind its dash. -/
lemma readOr?_item (i : Item) (hfuel : i.bodyTokens.length + 5 ≤ fuel)
    (rest : List Token) :
    readOr? true false [.item, .blockEnd] fuel (i.bodyTokens ++ rest) = some (i.node, rest) := by
  obtain ⟨layout, first, more⟩ := i
  cases layout with
  | flow =>
    have htokens : Item.bodyTokens ⟨.flow, first, more⟩ ++ rest = .mapOpen :: (first.tokens ++
        ((more.flatMap fun e => .separator :: e.tokens) ++ .mapClose :: rest)) := by
      simp [Item.bodyTokens]
    simp only [Item.bodyTokens, List.length_cons, List.length_append] at hfuel
    obtain ⟨fuel, rfl⟩ := Nat.exists_eq_add_of_le' (show 6 ≤ fuel by omega)
    have hmore := @mapEntries?_more (fuel + 3) more (by omega) rest
    rw [htokens]
    exact readOr?_mapOpen (by simp) (mapEntries?_cons first hmore)
  | block =>
    have htokens : Item.bodyTokens ⟨.block, first, more⟩ ++ rest =
        .blockMap :: ((first :: more).flatMap (·.tokens) ++ .blockEnd :: rest) := by
      simp [Item.bodyTokens]
    simp only [Item.bodyTokens, List.length_cons, List.length_append] at hfuel
    obtain ⟨fuel, rfl⟩ := Nat.exists_eq_add_of_le' (show 2 ≤ fuel by omega)
    have hlength : ((first :: more).flatMap (·.tokens)).length + 4 ≤ fuel := by
      rw [List.flatMap_cons, List.length_append]
      omega
    rw [htokens]
    exact readOr?_blockMap (by simp) (blockEntries?_tokens (first :: more) hlength rest)

lemma blockItems?_tokens (items : List Item)
    (hfuel : (items.flatMap (·.tokens)).length + 5 ≤ fuel) (rest : List Token) :
    blockItems? fuel (items.flatMap (·.tokens) ++ .blockEnd :: rest) =
      some (items.map (·.node), rest) := by
  induction items generalizing fuel with
  | nil =>
    obtain ⟨fuel, rfl⟩ := Nat.exists_eq_add_of_le' hfuel
    rfl
  | cons i items ih =>
    rw [List.flatMap_cons, List.length_append, Item.tokens, List.length_cons] at hfuel
    obtain ⟨fuel, rfl⟩ := Nat.exists_eq_add_of_le' (show 1 ≤ fuel by omega)
    have hitem := @readOr?_item fuel i (by omega)
    rw [List.flatMap_cons, List.append_assoc, Item.tokens, List.cons_append, blockItems?]
    simp [hitem, @ih fuel (by omega)]

lemma valueOr?_items {items : List Item}
    (hfuel : (items.flatMap (·.tokens)).length + 5 ≤ fuel) (rest : List Token) :
    valueOr? true [.key, .value, .blockEnd] (fuel + 3)
      (.value :: .blockList :: (items.flatMap (·.tokens) ++ .blockEnd :: rest)) =
      some (.list (items.map (·.node)), rest) := by
  simp [valueOr?, readOr?, read?, blockItems?_tokens items hfuel]

lemma readOr?_listing (l : Listing) (hfuel : l.tokens.length + 8 ≤ fuel) :
    readOr? true false [.documentStart, .documentEnd] fuel l.tokens = some (l.node, []) := by
  obtain ⟨fuel, rfl⟩ := Nat.exists_eq_add_of_le' (show 8 ≤ fuel by omega)
  obtain ⟨name, items, hword, hshort⟩ := l
  cases items with
  | nil =>
    -- without items there is nothing behind the colon, which is an empty scalar
    have hvalue : valueOr? true [.key, .value, .blockEnd] (fuel + 5) [.value, .blockEnd] =
        some (.empty, [.blockEnd]) := rfl
    exact readOr?_blockMap (by simp) (blockEntries?_key hvalue rfl)
  | cons i items =>
    have hlength : ((i :: items).flatMap (·.tokens)).length + 5 ≤ fuel + 2 := by
      simp only [Listing.tokens, List.length_cons, List.length_append] at hfuel
      omega
    have htokens : Listing.tokens ⟨name, i :: items, hword, hshort⟩ =
        .blockMap :: .key :: .scalar name true :: .value :: .blockList ::
          ((i :: items).flatMap (·.tokens) ++ .blockEnd :: [.blockEnd]) := by
      simp [Listing.tokens]
    have hvalue := valueOr?_items hlength [.blockEnd]
    rw [htokens]
    exact readOr?_blockMap (by simp) (blockEntries?_key hvalue rfl)

lemma ofTokens?_listing (l : Listing) : ofTokens? l.tokens = some l.node := by
  have hfuel : l.tokens.length + 8 ≤ 3 * l.tokens.length + 3 := by
    rw [Listing.tokens]
    grind
  have hne : l.tokens.isEmpty = false := rfl
  rw [ofTokens?]
  · simp [hne, readOr?_listing l hfuel]
  · exact nofun

lemma ofText?_listing (l : Listing) (ended : Bool) :
    ofText? (String.ofList (l.text ended)) = some l.node := by
  rw [ofText?, tokens?_listing, Option.bind_some, ofTokens?_listing]

end Node

end Yaml

end SlotMachine
