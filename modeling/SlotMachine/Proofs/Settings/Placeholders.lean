import Mathlib.Data.List.TakeWhile
import Mathlib.Tactic.Common
import SlotMachine.Settings.Placeholder

/-!
# Placeholders in a text

A placeholder starts with the only dollar sign in it, so two of them never overlap. Which ones a
text has does therefore not depend on what is put in for them: a text falls into what stands before
the first placeholder, which stays as it is, the placeholder and the rest (`expand_first`). It may
also be cut anywhere but in the middle of a placeholder (`expandChars_append`), and all else follows
from that.
-/

namespace SlotMachine

namespace Placeholder

/-! ### Names -/

def IsLetter (c : Char) : Prop := 'A' ≤ c ∧ c ≤ 'Z' ∨ 'a' ≤ c ∧ c ≤ 'z'

def IsDigit (c : Char) : Prop := '0' ≤ c ∧ c ≤ '9'

/-- A letter or an underscore, then letters, digits and underscores. -/
def IsName : List Char → Prop
  | [] => False
  | c :: rest => (IsLetter c ∨ c = '_') ∧ ∀ d ∈ rest, IsLetter d ∨ IsDigit d ∨ d = '_'

lemma isAlpha_iff {c : Char} : c.isAlpha = true ↔ IsLetter c := by
  have hupper : c.isUpper = true ↔ 'A' ≤ c ∧ c ≤ 'Z' := decide_eq_true_iff
  have hlower : c.isLower = true ↔ 'a' ≤ c ∧ c ≤ 'z' :=
    Bool.and_eq_true_iff.trans (and_congr decide_eq_true_iff decide_eq_true_iff)
  exact Bool.or_eq_true_iff.trans (or_congr hupper hlower)

lemma isNameStart_iff {c : Char} : isNameStart c = true ↔ IsLetter c ∨ c = '_' := by
  simp [isNameStart, isAlpha_iff]

lemma isNameChar_iff {c : Char} : isNameChar c = true ↔ IsLetter c ∨ IsDigit c ∨ c = '_' := by
  simp [isNameChar, Char.isAlphanum, isAlpha_iff, Char.isDigit, IsDigit, Char.le_def, or_assoc]

lemma isName_cons_iff {c : Char} {rest : List Char} :
    IsName (c :: rest) ↔ isNameStart c = true ∧ ∀ d ∈ rest, isNameChar d = true := by
  simp only [IsName, isNameStart_iff, isNameChar_iff]

/-! ### Placeholders -/

/-- The placeholder with a name, in characters. -/
def writtenChars (name : List Char) : List Char := '$' :: '\x7b' :: (name ++ ['\x7d'])

/-- A placeholder is found at the start of a text exactly if there is one. -/
lemma atStart?_eq_some_iff {cs name after : List Char} :
    atStart? cs = some (name, after) ↔ IsName name ∧ cs = writtenChars name ++ after := by
  constructor
  · intro h
    unfold atStart? at h
    split at h
    case h_2 => cases h
    case h_1 c rest =>
    split at h
    case isFalse => cases h
    case isTrue hstart =>
    split at h
    case h_2 => cases h
    case h_1 tail htail =>
    obtain ⟨rfl, rfl⟩ := Prod.mk.inj (Option.some.inj h)
    refine ⟨isName_cons_iff.2 ⟨hstart, fun d hd => List.mem_takeWhile_imp hd⟩, ?_⟩
    have hrest : rest.takeWhile isNameChar ++ '\x7d' :: tail = rest := by
      rw [← htail, List.takeWhile_append_dropWhile]
    simp [writtenChars, hrest]
  · rintro ⟨hname, rfl⟩
    cases name with
    | nil => cases hname
    | cons c rest =>
      obtain ⟨hstart, hrest⟩ := isName_cons_iff.1 hname
      have hbrace : isNameChar '\x7d' = false := by decide
      simp [writtenChars, atStart?, hstart, List.dropWhile_append_of_pos hrest,
        List.takeWhile_append_of_pos hrest, hbrace]

/-- Where a name is written in characters, in a text of characters. -/
structure OccursIn (cs before name after : List Char) : Prop where
  isName : IsName name
  eq : cs = before ++ writtenChars name ++ after

variable {cs before name after a b : List Char} {env : Environment}

lemma occursIn_nil_iff : OccursIn cs [] name after ↔ atStart? cs = some (name, after) := by
  rw [atStart?_eq_some_iff]
  exact ⟨fun h => ⟨h.isName, h.eq⟩, fun h => ⟨h.1, h.2⟩⟩

lemma OccursIn.append_left (h : OccursIn cs before name after) (more : List Char) :
    OccursIn (more ++ cs) (more ++ before) name after where
  isName := h.isName
  eq := by simp [h.eq]

lemma OccursIn.append_right (h : OccursIn cs before name after) (more : List Char) :
    OccursIn (cs ++ more) before name (after ++ more) where
  isName := h.isName
  eq := by simp [h.eq]

/-- A placeholder of which one part stands in `a` and the other in `b`. -/
def StraddlesIn (a b : List Char) : Prop :=
  ∃ before name after, OccursIn (a ++ b) before name after ∧
    before.length < a.length ∧ a.length < before.length + (writtenChars name).length

lemma StraddlesIn.append_left (h : StraddlesIn a b) (more : List Char) :
    StraddlesIn (more ++ a) b := by
  obtain ⟨before, name, after, hoccurs, hlt, hlt'⟩ := h
  refine ⟨more ++ before, name, after, ?_, ?_, ?_⟩
  · simpa using hoccurs.append_left more
  · simpa using hlt
  · simp only [List.length_append]
    omega

lemma dollar_notMem (h : IsName name) : '$' ∉ '\x7b' :: (name ++ ['\x7d']) := by
  have hstart : isNameStart '$' = false := by decide
  have hchar : isNameChar '$' = false := by decide
  cases name with
  | nil => cases h
  | cons c rest =>
    obtain ⟨hc, hrest⟩ := isName_cons_iff.1 h
    have hne : '$' ≠ c := fun heq => by simp [← heq, hstart] at hc
    have hnot : '$' ∉ rest := fun hmem => by simp [hrest _ hmem] at hchar
    simp [hne, hnot]

/-- A placeholder has a dollar sign only at its start, so none is cut in two before one. -/
lemma not_straddlesIn_dollar : ¬StraddlesIn a ('$' :: b) := by
  rintro ⟨before, name, after, hoccurs, hlt, hlt'⟩
  obtain ⟨k, hk⟩ : ∃ k, a.length - before.length = k + 1 := ⟨a.length - before.length - 1, by omega⟩
  have hleft : (a ++ '$' :: b)[a.length]? = some '$' := by simp
  rw [hoccurs.eq, List.getElem?_append_left (by simpa using hlt'),
    List.getElem?_append_right hlt.le, hk, writtenChars, List.getElem?_cons_succ] at hleft
  exact dollar_notMem hoccurs.isName (List.mem_of_getElem? hleft)

/-! ### What is put in -/

lemma expandChars_of_some (h : atStart? cs = some (name, after)) :
    expandChars env cs = valueOf env name ++ expandChars env after := by
  rw [expandChars]
  split
  case h_1 name' after' h' =>
    obtain ⟨rfl, rfl⟩ := Prod.mk.inj (Option.some.inj (h.symm.trans h'))
    rfl
  case h_2 h' => cases h.symm.trans h'

lemma expandChars_cons_of_none {c : Char} {rest : List Char} (h : atStart? (c :: rest) = none) :
    expandChars env (c :: rest) = c :: expandChars env rest := by
  rw [expandChars]
  split
  case h_1 h' => cases h.symm.trans h'
  case h_2 => rfl

lemma expandChars_nil : expandChars env [] = [] := by
  rw [expandChars]
  rfl

/-- A text may be cut wherever no placeholder is in the way. -/
lemma expandChars_append (h : ¬StraddlesIn a b) :
    expandChars env (a ++ b) = expandChars env a ++ expandChars env b := by
  induction a using expandChars.induct with
  | case1 cs name after hstart ih =>
    have hoccurs := occursIn_nil_iff.2 hstart
    have hafter : ¬StraddlesIn after b := fun hstraddles =>
      h (hoccurs.eq ▸ hstraddles.append_left (writtenChars name))
    rw [expandChars_of_some hstart,
      expandChars_of_some (occursIn_nil_iff.1 (hoccurs.append_right b)), ih hafter,
      List.append_assoc]
  | case2 hnone =>
    rw [expandChars_nil]
    rfl
  | case3 c rest hnone ih =>
    -- a placeholder at the start would end within `c :: rest`, where none starts, or straddle
    have hnone' : atStart? (c :: (rest ++ b)) = none := by
      refine Option.eq_none_iff_forall_ne_some.2 fun ⟨name, after⟩ hsome => ?_
      have hoccurs := occursIn_nil_iff.2 hsome
      have hle : (writtenChars name).length ≤ (c :: rest).length := by
        by_contra hlt
        exact h ⟨[], name, after, hoccurs, by simp, by simpa using hlt⟩
      obtain ⟨more, hmore⟩ := List.prefix_of_prefix_length_le
        ⟨after, hoccurs.eq.symm⟩ (List.prefix_append (c :: rest) b) hle
      cases hnone.symm.trans (occursIn_nil_iff.1 ⟨hoccurs.isName, hmore.symm⟩)
    have hrest : ¬StraddlesIn rest b := fun hstraddles => h (hstraddles.append_left [c])
    rw [List.cons_append, expandChars_cons_of_none hnone', ih hrest, expandChars_cons_of_none hnone,
      List.cons_append]

lemma expandChars_eq_self (h : ∀ before name after, ¬OccursIn cs before name after) :
    expandChars env cs = cs := by
  induction cs with
  | nil => exact expandChars_nil
  | cons c rest ih =>
    have hnone : atStart? (c :: rest) = none :=
      Option.eq_none_iff_forall_ne_some.2 fun ⟨name, after⟩ hsome =>
        h [] name after (occursIn_nil_iff.2 hsome)
    rw [expandChars_cons_of_none hnone,
      ih fun before name after hoccurs => h (c :: before) name after (hoccurs.append_left [c])]

/-- What stands before the first placeholder stays as it is. -/
lemma expandChars_first (hoccurs : OccursIn cs before name after)
    (hfirst : ∀ before' name' after', OccursIn cs before' name' after' →
      before.length ≤ before'.length) :
    expandChars env cs = before ++ valueOf env name ++ expandChars env after := by
  have hcs : cs = before ++ (writtenChars name ++ after) :=
    hoccurs.eq.trans (List.append_assoc _ _ _)
  have hbefore : ∀ before' name' after', ¬OccursIn before before' name' after' := by
    intro before' name' after' hoccurs'
    have hle := hfirst before' name' _ (hcs ▸ hoccurs'.append_right (writtenChars name ++ after))
    have hlength := congrArg List.length hoccurs'.eq
    simp only [List.length_append, writtenChars, List.length_cons] at hlength
    omega
  have hcut : ¬StraddlesIn before (writtenChars name ++ after) := by
    rintro ⟨before', name', after', hoccurs', hlt, -⟩
    rw [← hcs] at hoccurs'
    exact Nat.not_le.2 hlt (hfirst before' name' after' hoccurs')
  have hstart : atStart? (writtenChars name ++ after) = some (name, after) :=
    occursIn_nil_iff.1 ⟨hoccurs.isName, rfl⟩
  rw [hcs, expandChars_append hcut, expandChars_eq_self hbefore, expandChars_of_some hstart,
    List.append_assoc]

/-- The placeholder with a name. -/
def written (name : String) : String := "$\x7b" ++ name ++ "\x7d"

/-- Where a name is written in a text, as `text` is what stands before, the placeholder and what
stands after it. -/
structure Occurs (text before name after : String) : Prop where
  isName : IsName name.toList
  eq : text = before ++ written name ++ after

/-- A placeholder of which one part stands in `a` and the other in `b`. -/
def Straddles (a b : String) : Prop :=
  ∃ before name after, Occurs (a ++ b) before name after ∧
    before.length < a.length ∧ a.length < before.length + (written name).length

lemma toList_written (name : String) : (written name).toList = writtenChars name.toList := by
  simp [written, writtenChars]

lemma occurs_iff {text before name after : String} : Occurs text before name after ↔
    OccursIn text.toList before.toList name.toList after.toList := by
  have heq : text = before ++ written name ++ after ↔
      text.toList = before.toList ++ writtenChars name.toList ++ after.toList := by
    rw [← String.toList_inj, String.toList_append, String.toList_append, toList_written]
  exact ⟨fun h => ⟨h.isName, heq.1 h.eq⟩, fun h => ⟨h.isName, heq.2 h.eq⟩⟩

lemma occurs_ofList_iff {text : String} : Occurs text (.ofList before) (.ofList name)
    (.ofList after) ↔ OccursIn text.toList before name after := by
  simp only [occurs_iff, String.toList_ofList]

lemma Occurs.dollar_mem {text before name after : String} (h : Occurs text before name after) :
    '$' ∈ text.toList := by
  rw [h.eq]
  simp [written]

lemma straddles_iff {a b : String} : Straddles a b ↔ StraddlesIn a.toList b.toList := by
  constructor
  · rintro ⟨before, name, after, hoccurs, hlt, hlt'⟩
    rw [occurs_iff, String.toList_append] at hoccurs
    refine ⟨_, _, _, hoccurs, by simpa only [String.length_toList] using hlt, ?_⟩
    rwa [← toList_written, String.length_toList, String.length_toList, String.length_toList]
  · rintro ⟨before, name, after, hoccurs, hlt, hlt'⟩
    rw [← String.toList_append, ← occurs_ofList_iff] at hoccurs
    refine ⟨_, _, _, hoccurs, by simpa [String.length_toList] using hlt, ?_⟩
    rwa [← String.length_toList, ← String.length_toList, ← String.length_toList, toList_written,
      String.toList_ofList, String.toList_ofList]

lemma toList_expand (text : String) : (expand env text).toList = expandChars env text.toList := by
  rw [expand, String.toList_ofList]

lemma toList_valueOf (name : String) : valueOf env name.toList = ((env name).getD "").toList := by
  rw [valueOf, String.ofList_toList]

lemma expand_append {a b : String} (h : ¬Straddles a b) :
    expand env (a ++ b) = expand env a ++ expand env b := by
  rw [straddles_iff] at h
  simp only [← String.toList_inj, toList_expand, String.toList_append, expandChars_append h]

/-- A dollar sign that starts no placeholder stays, and is never part of one. -/
lemma expand_dollar (a b : String) (h : ∀ name after, ¬Occurs ("$" ++ b) "" name after) :
    expand env (a ++ "$" ++ b) = expand env a ++ "$" ++ expand env b := by
  have hnone : atStart? ('$' :: b.toList) = none := by
    refine Option.eq_none_iff_forall_ne_some.2 fun ⟨name, after⟩ hsome => ?_
    refine h (.ofList name) (.ofList after) (occurs_iff.2 ?_)
    simpa using occursIn_nil_iff.2 hsome
  have htext : (a ++ "$" ++ b).toList = a.toList ++ '$' :: b.toList := by simp
  rw [← String.toList_inj, toList_expand, htext, expandChars_append not_straddlesIn_dollar,
    expandChars_cons_of_none hnone]
  simp [toList_expand]

/-- The outer one of two nested openings stays. -/
lemma expand_nested {name : String} (h : IsName name.toList) :
    expand env ("$\x7b" ++ written name ++ "\x7d") = "$\x7b" ++ (env name).getD "" ++ "\x7d" := by
  have htext : ("$\x7b" ++ written name ++ "\x7d").toList =
      '$' :: '\x7b' :: (writtenChars name.toList ++ ['\x7d']) := by
    simp [toList_written]
  have hname : atStart? (writtenChars name.toList ++ ['\x7d']) = some (name.toList, ['\x7d']) :=
    occursIn_nil_iff.1 ⟨h, rfl⟩
  rw [← String.toList_inj, toList_expand, htext, expandChars_cons_of_none rfl,
    expandChars_cons_of_none rfl, expandChars_of_some hname, expandChars_cons_of_none rfl,
    expandChars_nil, toList_valueOf]
  simp

/-- A text without a placeholder stays as it is. In any other the first placeholder is replaced by
the value of the variable, or by nothing where there is none; what stands before it stays, the value
is not looked at again, and what stands after it goes on in the same way. So two texts may be put
together before or after, unless a placeholder straddles them, and an opening that is none stays. -/
theorem expand_first (env : Environment) :
    (∀ text, (∀ before name after, ¬Occurs text before name after) → expand env text = text) ∧
    (∀ text before name after, Occurs text before name after →
      (∀ before' name' after', Occurs text before' name' after' →
        before.length ≤ before'.length) →
      expand env text = before ++ (env name).getD "" ++ expand env after) ∧
    (∀ a b, ¬Straddles a b → expand env (a ++ b) = expand env a ++ expand env b) ∧
    (∀ a b, (∀ name after, ¬Occurs ("$" ++ b) "" name after) →
      expand env (a ++ "$" ++ b) = expand env a ++ "$" ++ expand env b) ∧
    (∀ name : String, IsName name.toList →
      expand env ("$\x7b" ++ written name ++ "\x7d") = "$\x7b" ++ (env name).getD "" ++ "\x7d") ∧
    expand env "$\x7b1\x7d" = "$\x7b1\x7d" ∧ expand env "$\x7b\x7d" = "$\x7b\x7d" := by
  refine ⟨fun text h => ?_, fun text before name after hoccurs hfirst => ?_,
    fun a b => expand_append, expand_dollar, fun name => expand_nested, ?_, ?_⟩
  · rw [← String.toList_inj, toList_expand]
    exact expandChars_eq_self fun before name after hoccurs =>
      h _ _ _ (occurs_ofList_iff.2 hoccurs)
  · have hfirst' : ∀ before' name' after', OccursIn text.toList before' name' after' →
        before.toList.length ≤ before'.length := by
      intro before' name' after' hoccurs'
      simpa [String.length_toList] using hfirst _ _ _ (occurs_ofList_iff.2 hoccurs')
    rw [← String.toList_inj, toList_expand, expandChars_first (occurs_iff.1 hoccurs) hfirst',
      toList_valueOf]
    simp [toList_expand]
  · rw [← String.toList_inj, toList_expand]
    simp [expandChars_cons_of_none, expandChars_nil, atStart?, isNameStart]
  · rw [← String.toList_inj, toList_expand]
    simp [expandChars_cons_of_none, expandChars_nil, atStart?, isNameStart]

/-- Where a variable is set to what looks like a placeholder. -/
def looksWritten : Environment := fun name => if name = "A" then some "$\x7bA\x7d" else none

theorem expand_first_looksWritten :
    Occurs "x$\x7bA\x7dy" "x" "A" "y" ∧ IsName ['A'] ∧ ¬Straddles "x" "$\x7bA\x7dy" ∧
    expand looksWritten "x$\x7bA\x7dy" = "x$\x7bA\x7dy" ∧
    expand looksWritten ("x" ++ "$\x7bA\x7dy") = "x" ++ expand looksWritten "$\x7bA\x7dy" ∧
    expand looksWritten ("x" ++ "$" ++ "\x7b1\x7d") = "x$\x7b1\x7d" ∧
    expand looksWritten "$\x7b$\x7bA\x7d\x7d" = "$\x7b$\x7bA\x7d\x7d" := by
  obtain ⟨hplain, hfirst, happend, hdollar, hnested, -⟩ := expand_first looksWritten
  have hname : IsName ['A'] := ⟨.inl (.inl (by decide)), nofun⟩
  have hoccurs : Occurs "x$\x7bA\x7dy" "x" "A" "y" := ⟨hname, rfl⟩
  -- a text without a dollar sign has no placeholder
  have hsame (text : String) (h : '$' ∉ text.toList) : expand looksWritten text = text :=
    hplain text fun before name after hoccurs => h hoccurs.dollar_mem
  have hleftmost : ∀ before name after, Occurs "x$\x7bA\x7dy" before name after →
      "x".length ≤ before.length := by
    intro before name after hoccurs
    by_contra hlt
    obtain rfl : before = "" := String.length_eq_zero_iff.1 (Nat.lt_one_iff.1 (Nat.not_le.1 hlt))
    cases occursIn_nil_iff.1 (occurs_iff.1 hoccurs)
  have hcut : ¬Straddles "x" "$\x7bA\x7dy" := fun h => not_straddlesIn_dollar (straddles_iff.1 h)
  have hone : ∀ name after, ¬Occurs ("$" ++ "\x7b1\x7d") "" name after := fun name after h => by
    cases occursIn_nil_iff.1 (occurs_iff.1 h)
  refine ⟨hoccurs, hname, hcut, ?_, ?_, ?_, hnested "A" hname⟩
  · rw [hfirst _ _ _ _ hoccurs hleftmost, hsame "y" (by decide)]
    rfl
  · rw [happend _ _ hcut, hsame "x" (by decide)]
  · rw [hdollar _ _ hone, hsame "x" (by decide), hsame "\x7b1\x7d" (by decide)]
    rfl

end Placeholder

end SlotMachine
