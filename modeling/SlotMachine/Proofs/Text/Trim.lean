import Mathlib.Data.List.TakeWhile
import SlotMachine.Text.Blank

/-!
# Blanks at the ends of a text

Trimming sees to it that blanks around a text make no difference.
-/

namespace SlotMachine

section

variable {p : Char → Bool} {dropped : List Char}

lemma dropWhileEnd_append (h : ∀ c ∈ dropped, p c = true) (cs : List Char) :
    dropWhileEnd p (cs ++ dropped) = dropWhileEnd p cs := by
  simp only [dropWhileEnd, List.reverse_append]
  rw [List.dropWhile_append_of_pos fun c hc => h c (List.mem_reverse.1 hc)]

lemma dropWhileEnd_dropWhile_append (h : ∀ c ∈ dropped, p c = true) (cs : List Char) :
    dropWhileEnd p ((cs ++ dropped).dropWhile p) = dropWhileEnd p (cs.dropWhile p) := by
  rw [List.dropWhile_append]
  split
  case isTrue hempty =>
    -- nothing is left of `cs`, so that what follows is at the front as well
    rw [List.isEmpty_iff.1 hempty, List.dropWhile_eq_nil_iff.2 h]
  case isFalse => exact dropWhileEnd_append h _

end

/-- Blanks before and after a text are trimmed. -/
lemma trim_append {before after : String} (hbefore : ∀ c ∈ before.toList, isBlank c = true)
    (hafter : ∀ c ∈ after.toList, isBlank c = true) (text : String) :
    trim (before ++ text ++ after) = trim text := by
  simp only [trim, String.toList_append, List.append_assoc]
  rw [List.dropWhile_append_of_pos hbefore, dropWhileEnd_dropWhile_append hafter]

/-- There are no blanks at the ends of a text. -/
structure Unpadded (text : String) : Prop where
  head : ∀ c ∈ text.toList.head?, isBlank c = false
  last : ∀ c ∈ text.toList.getLast?, isBlank c = false

section

variable {p : Char → Bool} {cs : List Char} {c : Char}

lemma head?_dropWhile (h : c ∈ (cs.dropWhile p).head?) : p c = false := by
  have hhead := List.head?_dropWhile_not p cs
  rw [Option.mem_def.1 h] at hhead
  exact hhead

lemma getLast?_dropWhileEnd (h : c ∈ (dropWhileEnd p cs).getLast?) : p c = false := by
  rw [dropWhileEnd, List.getLast?_reverse] at h
  exact head?_dropWhile h

/-- What is dropped at the end is not the head, unless nothing is left. -/
lemma head?_dropWhileEnd (h : c ∈ (dropWhileEnd p cs).head?) : c ∈ cs.head? := by
  obtain ⟨dropped, hdropped⟩ : dropWhileEnd p cs <+: cs := by
    rw [dropWhileEnd, ← List.reverse_suffix, List.reverse_reverse]
    exact List.dropWhile_suffix p
  rw [← hdropped, List.head?_append, Option.mem_def.1 h]
  rfl

end

lemma unpadded_trim (text : String) : Unpadded (trim text) where
  head c h := by
    rw [trim, String.toList_ofList] at h
    exact head?_dropWhile (head?_dropWhileEnd h)
  last c h := by
    rw [trim, String.toList_ofList] at h
    exact getLast?_dropWhileEnd h

lemma dropWhile_eq_self {p : Char → Bool} {cs : List Char} (h : ∀ c ∈ cs.head?, p c = false) :
    cs.dropWhile p = cs := by
  cases cs with
  | nil => rfl
  | cons c rest => exact List.dropWhile_cons_of_neg (by simp [h c rfl])

lemma dropWhileEnd_eq_self {p : Char → Bool} {cs : List Char}
    (h : ∀ c ∈ cs.getLast?, p c = false) : dropWhileEnd p cs = cs := by
  have hend : cs.reverse.dropWhile p = cs.reverse :=
    dropWhile_eq_self fun c hc => h c (by rwa [List.getLast?_eq_head?_reverse])
  rw [dropWhileEnd, hend, List.reverse_reverse]

/-- Nothing is left of blanks. -/
lemma trim_eq_empty {blanks : String} (h : ∀ c ∈ blanks.toList, isBlank c = true) :
    trim blanks = "" := by
  rw [trim, List.dropWhile_eq_nil_iff.2 h]
  rfl

lemma trim_eq_empty_iff {text : String} :
    trim text = "" ↔ ∀ c ∈ text.toList, isBlank c = true := by
  refine ⟨fun h => ?_, trim_eq_empty⟩
  have hempty : dropWhileEnd isBlank (text.toList.dropWhile isBlank) = [] := by
    rwa [trim, String.ofList_eq_empty_iff] at h
  rw [dropWhileEnd, List.reverse_eq_nil_iff, List.dropWhile_eq_nil_iff] at hempty
  -- what is left at the front begins with no blank, so that nothing is left there
  rw [← List.dropWhile_eq_nil_iff]
  cases hfront : text.toList.dropWhile isBlank with
  | nil => rfl
  | cons c rest =>
    have hc : isBlank c = false := head?_dropWhile (p := isBlank) (by rw [hfront]; rfl)
    rw [hfront] at hempty
    have hblank := hempty c (by simp)
    rw [hc] at hblank
    cases hblank

end SlotMachine
