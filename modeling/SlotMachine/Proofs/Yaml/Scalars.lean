import Mathlib.Data.List.TakeWhile
import SlotMachine.Yaml.Scalar

/-!
# Reading scalars

A word of letters and digits is read as it stands, up to whatever cannot belong to it: the end of
the text, a gap, a colon with a gap behind it, and within a flow collection one of its indicators.
A plain scalar goes on after a line break only if the next line is indented deep enough. A single
character in double quotes is read as that character.
-/

namespace SlotMachine

namespace Yaml

/-! ### Characters -/

/-- There are letters and digits, and nothing else. -/
structure IsWord (word : List Char) : Prop where
  ne_nil : word ≠ []
  alphanum : ∀ c ∈ word, c.isAlphanum = true

instance (word : List Char) : Decidable (IsWord word) :=
  decidable_of_iff (word ≠ [] ∧ word.all Char.isAlphanum = true)
    ⟨fun h => ⟨h.1, List.all_eq_true.1 h.2⟩, fun h => ⟨h.1, List.all_eq_true.2 h.2⟩⟩

/-- The character begins a token, wherever it stands: it is no part of a gap and starts no comment.
-/
structure Solid (c : Char) : Prop where
  not_gap : isGap c = false
  ne_hash : c ≠ '#'

instance (c : Char) : Decidable (Solid c) :=
  decidable_of_iff (isGap c = false ∧ c ≠ '#') ⟨fun h => ⟨h.1, h.2⟩, fun h => ⟨h.1, h.2⟩⟩

section

variable {c : Char}

lemma ne_of_isAlphanum {d : Char} (hc : c.isAlphanum = true) (hd : d.isAlphanum = false) :
    c ≠ d := by
  rintro rfl
  rw [hc] at hd
  cases hd

lemma solid_of_isAlphanum (h : c.isAlphanum = true) : Solid c where
  not_gap := by
    simp only [isGap, isSpace, isBreak, Bool.or_eq_false_iff, decide_eq_false_iff_not]
    exact ⟨⟨ne_of_isAlphanum h rfl, ne_of_isAlphanum h rfl⟩,
      ⟨ne_of_isAlphanum h rfl, ne_of_isAlphanum h rfl⟩, ne_of_isAlphanum h rfl⟩
  ne_hash := ne_of_isAlphanum h rfl

lemma isFlowMark_of_isAlphanum (h : c.isAlphanum = true) : isFlowMark c = false := by
  simp only [isFlowMark, Bool.or_eq_false_iff, decide_eq_false_iff_not]
  exact ⟨⟨⟨⟨ne_of_isAlphanum h rfl, ne_of_isAlphanum h rfl⟩, ne_of_isAlphanum h rfl⟩,
    ne_of_isAlphanum h rfl⟩, ne_of_isAlphanum h rfl⟩

lemma Solid.not_break (h : Solid c) : isBreak c = false := by
  have hgap := h.not_gap
  rw [isGap, Bool.or_eq_false_iff] at hgap
  exact hgap.2

end

/-! ### Places -/

namespace Place

variable (p : Place)

@[simp] lemma afterAll_nil : p.afterAll [] = p := rfl

@[simp] lemma afterAll_cons (c : Char) (cs : List Char) :
    p.afterAll (c :: cs) = (p.after c).afterAll cs := rfl

lemma upTo_append (cs rest : List Char) : p.upTo (cs ++ rest) rest = p.afterAll cs := by
  simp [upTo]

/-- On one line, only the column changes. -/
lemma afterAll_of_not_break {cs : List Char} (h : ∀ c ∈ cs, isBreak c = false) :
    p.afterAll cs = ⟨p.index + cs.length, p.line, p.column + cs.length⟩ := by
  induction cs generalizing p with
  | nil => rfl
  | cons c cs ih =>
    obtain ⟨hc, hcs⟩ := List.forall_mem_cons.1 h
    rw [afterAll_cons, after, hc, if_neg Bool.false_ne_true, ih _ hcs]
    simp only [List.length_cons, Place.mk.injEq, true_and]
    omega

end Place

/-! ### Margins -/

/-- A line break and the blanks in front of the next line. -/
def margin (width : Nat) : List Char := '\n' :: List.replicate width ' '

lemma mem_margin {width : Nat} {c : Char} (h : c ∈ margin width) : c = '\n' ∨ c = ' ' := by
  rcases List.mem_cons.1 h with rfl | h
  · exact .inl rfl
  · exact .inr (List.eq_of_mem_replicate h)

lemma isGap_of_mem_margin {width : Nat} {c : Char} (h : c ∈ margin width) : isGap c = true := by
  rcases mem_margin h with rfl | rfl <;> rfl

lemma column_afterAll_margin (p : Place) (width : Nat) :
    (p.afterAll (margin width)).column = width := by
  have hblank : ∀ c ∈ List.replicate width ' ', isBreak c = false := fun c hc => by
    rw [List.eq_of_mem_replicate hc]
    rfl
  rw [margin, Place.afterAll_cons, Place.afterAll_of_not_break _ hblank]
  simp [Place.after, isBreak]

lemma any_isBreak_margin (width : Nat) : (margin width).any isBreak = true := rfl

/-- There are no tabs in a margin. -/
lemma hasEarlyTab_margin (indent : Nat) (broken : Bool) (p : Place) (width : Nat) :
    hasEarlyTab indent broken p (margin width) = false := by
  have hnone : ∀ cs : List Char, (∀ c ∈ cs, c ≠ '\t') → ∀ broken p,
      hasEarlyTab indent broken p cs = false := by
    intro cs
    induction cs with
    | nil => exact fun _ _ _ => rfl
    | cons c cs ih =>
      intro h broken p
      obtain ⟨hc, hcs⟩ := List.forall_mem_cons.1 h
      simp [hasEarlyTab, hc, ih hcs]
  refine hnone _ (fun c hc => ?_) broken p
  rcases mem_margin hc with rfl | rfl <;> decide

section

variable {width : Nat} {rest : List Char} (h : ∀ c ∈ rest.head?, isGap c = false)

include h

lemma takeWhile_margin : (margin width ++ rest).takeWhile isGap = margin width := by
  rw [List.takeWhile_append_of_pos fun c hc => isGap_of_mem_margin hc]
  cases rest with
  | nil => simp
  | cons c rest => simp [h c rfl]

lemma dropWhile_margin : (margin width ++ rest).dropWhile isGap = rest := by
  rw [List.dropWhile_append_of_pos fun c hc => isGap_of_mem_margin hc]
  cases rest with
  | nil => rfl
  | cons c rest => simp [h c rfl]

end

/-! ### Plain scalars -/

section

variable {inFlow : Bool} {word follow rest : List Char}

/-- A word cannot go on with this text. -/
def Stops (inFlow : Bool) (follow : List Char) : Prop :=
  plainWord? inFlow follow = some ([], follow)

lemma stops_nil : Stops inFlow [] := rfl

lemma stops_margin (width : Nat) : Stops inFlow (margin width ++ rest) := rfl

lemma stops_colon (h : atGap rest = true) : Stops inFlow (':' :: rest) := by
  have hhead : rest.head?.any (fun d => isFlowMark d || d = '?') = false := by
    cases rest with
    | nil => rfl
    | cons c rest =>
      have hc : isGap c = true := h
      simp only [isGap, isSpace, isBreak, Bool.or_eq_true, decide_eq_true_eq] at hc
      obtain (rfl | rfl) | (rfl | rfl) | rfl := hc <;> rfl
  unfold Stops plainWord?
  rw [hhead, h]
  simp [isGap, isSpace, isBreak]

lemma stops_separator : Stops true (',' :: rest) := rfl

lemma stops_close : Stops true ('\x7d' :: rest) := rfl

lemma plainWord?_append (hword : ∀ c ∈ word, c.isAlphanum = true) (hstop : Stops inFlow follow) :
    plainWord? inFlow (word ++ follow) = some (word, follow) := by
  induction word with
  | nil => exact hstop
  | cons c word ih =>
    obtain ⟨hc, hword⟩ := List.forall_mem_cons.1 hword
    have hcolon : c ≠ ':' := ne_of_isAlphanum hc rfl
    rw [List.cons_append, plainWord?]
    simp [(solid_of_isAlphanum hc).not_gap, isFlowMark_of_isAlphanum hc, hcolon, ih hword]

lemma startsWithMark_of_ne {mark c : Char} (h : c ≠ mark) (cs : List Char) :
    startsWithMark mark (c :: cs) = false := by
  unfold startsWithMark
  split
  case h_1 heq =>
    cases heq
    simp [h]
  case h_2 => rfl

lemma atDocumentMark_word {p : Place} (hword : IsWord word) (follow : List Char) :
    atDocumentMark p (word ++ follow) = false := by
  obtain ⟨c, word, rfl⟩ := List.exists_cons_of_ne_nil hword.ne_nil
  have hc : c.isAlphanum = true := hword.alphanum c List.mem_cons_self
  have hmark : ∀ mark : Char, mark.isAlphanum = false →
      startsWithMark mark (c :: (word ++ follow)) = false := fun mark hmark =>
    startsWithMark_of_ne (ne_of_isAlphanum hc hmark) _
  simp [atDocumentMark, hmark '-' rfl, hmark '.' rfl]

/-- What a word makes of a plain scalar is up to what follows the gap behind it. -/
lemma plainFrom?_word (hword : IsWord word) (hstop : Stops inFlow follow) (indent fuel : Nat)
    (p : Place) :
    plainFrom? inFlow indent (fuel + 1) [] p (word ++ follow) =
      let gap := follow.takeWhile isGap
      let place := p.afterAll word
      if gap.isEmpty then some ⟨word, place, follow.dropWhile isGap, false⟩
      else if hasEarlyTab indent false place gap then none
      else if !inFlow && (place.afterAll gap).column < indent then
        some ⟨word, place.afterAll gap, follow.dropWhile isGap, gap.any isBreak⟩
      else (plainFrom? inFlow indent fuel gap (place.afterAll gap) (follow.dropWhile isGap)).map
        (·.prepend word) := by
  have hmark := @atDocumentMark_word _ p hword follow
  have hread := plainWord?_append hword.alphanum hstop
  obtain ⟨c, word, rfl⟩ := List.exists_cons_of_ne_nil hword.ne_nil
  have hc : c ≠ '#' := (solid_of_isAlphanum (hword.alphanum c List.mem_cons_self)).ne_hash
  have hhead : decide ((c :: word ++ follow).head? = some '#') = false := by simpa using hc
  rw [plainFrom?, hmark, hhead, hread]
  rfl

variable (indent : Nat) (p : Place)

lemma plain?_word (hword : IsWord word) (hstop : Stops inFlow follow)
    (hgap : ∀ c ∈ follow.head?, isGap c = false) :
    plain? inFlow indent p (word ++ follow) = some ⟨word, p.afterAll word, follow, false⟩ := by
  rw [plain?, plainFrom?_word hword hstop]
  cases follow with
  | nil => rfl
  | cons c follow => simp [hgap c rfl]

/-- A line break with too narrow a margin ends a plain scalar, which takes the margin along. -/
lemma plain?_word_margin {width : Nat} (hword : IsWord word)
    (hrest : ∀ c ∈ rest.head?, isGap c = false) (hwidth : width < indent) :
    plain? false indent p (word ++ (margin width ++ rest)) =
      some ⟨word, (p.afterAll word).afterAll (margin width), rest, true⟩ := by
  have hne : (margin width).isEmpty = false := rfl
  rw [plain?, plainFrom?_word hword (stops_margin width), takeWhile_margin hrest,
    dropWhile_margin hrest]
  simp [hne, hasEarlyTab_margin, column_afterAll_margin, hwidth, any_isBreak_margin]

end

/-! ### Quoted scalars -/

lemma quotedWord?_char {c : Char} (hc : isGap c = false) (hquote : c ≠ '"') (hescape : c ≠ '\\')
    (fuel : Nat) (rest : List Char) :
    quotedWord? true (fuel + 2) (c :: '"' :: rest) = some ([c], .quote, rest) := by
  have hend : quotedWord? true (fuel + 1) ('"' :: rest) = some ([], .quote, rest) := rfl
  rw [quotedWord?]
  simp [hc, hquote, hescape, hend]

/-- A single character between double quotes. -/
lemma quoted?_char {c : Char} (hc : isGap c = false) (hquote : c ≠ '"') (hescape : c ≠ '\\')
    (p : Place) (rest : List Char) :
    quoted? true p (c :: '"' :: rest) = some ⟨[c], p.afterAll [c, '"'], rest, false⟩ := by
  have hmark : atDocumentMark p (c :: '"' :: rest) = false := by
    cases rest <;> simp [atDocumentMark, startsWithMark]
  have hplace : p.upTo (c :: '"' :: rest) rest = p.afterAll [c, '"'] := p.upTo_append [c, '"'] rest
  have hword := quotedWord?_char hc hquote hescape (rest.length + 1) rest
  rw [quoted?, List.length_cons, List.length_cons, quotedFrom?]
  simp [hmark, hword, hplace]

end Yaml

end SlotMachine
