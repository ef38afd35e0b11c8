import Mathlib.Data.List.Basic
import Mathlib.Order.Compare
import Mathlib.Order.Lattice

/-!
# The order of texts

Texts are compared byte by byte. Texts in ASCII are so in the order of their characters, and where
two of them begin with parts of the same length, these parts are compared first.
-/

namespace SlotMachine

/-! ### Comparisons -/

section

variable {α β γ : Type} [LinearOrder α] [LinearOrder β] [LinearOrder γ] {a b : α} {c d : β}
  {e f : γ}

lemma compare_congr (hlt : a < b ↔ c < d) (hgt : b < a ↔ d < c) : compare a b = compare c d := by
  rcases lt_trichotomy a b with h | h | h
  · rw [compare_lt_iff_lt.2 h, compare_lt_iff_lt.2 (hlt.1 h)]
  · have hcd : c = d := le_antisymm (not_lt.1 fun hdc => (hgt.2 hdc).ne' h)
      (not_lt.1 fun hcd => (hlt.2 hcd).ne h)
    rw [compare_eq_iff_eq.2 h, compare_eq_iff_eq.2 hcd]
  · rw [compare_gt_iff_gt.2 h, compare_gt_iff_gt.2 (hgt.1 h)]

/-- Two comparisons, the second one where the first one finds no difference, are one comparison. -/
lemma compare_then_eq (hlt : a < b ∨ a = b ∧ c < d ↔ e < f)
    (hgt : b < a ∨ b = a ∧ d < c ↔ f < e) :
    (compare a b).then (compare c d) = compare e f := by
  rcases lt_trichotomy a b with h | rfl | h
  · rw [compare_lt_iff_lt.2 h, compare_lt_iff_lt.2 (hlt.1 (.inl h))]
    rfl
  · rw [compare_eq_iff_eq.2 rfl]
    exact compare_congr (by simpa using hlt) (by simpa using hgt)
  · rw [compare_gt_iff_gt.2 h, compare_gt_iff_gt.2 (hgt.1 (.inl h))]
    rfl

end

lemma compare_char (c d : Char) : compare c d = compare c.toNat d.toNat := by
  show compareOfLessAndEq c d = compareOfLessAndEq c.toNat d.toNat
  simp only [compareOfLessAndEq, Char.toNat_inj]
  rfl

/-- Parts of the same length are compared first. -/
lemma compare_append {α : Type} [Ord α] {xs ys : List α} (h : xs.length = ys.length)
    (xs' ys' : List α) :
    compare (xs ++ xs') (ys ++ ys') = (compare xs ys).then (compare xs' ys') := by
  induction xs generalizing ys with
  | nil =>
    rw [List.eq_nil_of_length_eq_zero h.symm]
    rfl
  | cons x xs ih =>
    obtain ⟨y, ys, rfl⟩ := List.exists_cons_of_length_eq_add_one h.symm
    simp only [List.cons_append, List.compare_cons_cons, ih (Nat.succ.inj h), Ordering.then_assoc]

/-! ### Bytes -/

/-- The bytes of a text. -/
def bytes (text : String) : List UInt8 := text.toUTF8.data.toList

/-- How two texts compare byte by byte. -/
def compareBytes (a b : String) : Ordering := compare (bytes a) (bytes b)

/-- A text in ASCII. -/
def IsAscii (cs : List Char) : Prop := ∀ c ∈ cs, c.utf8Size = 1

@[simp] lemma isAscii_nil : IsAscii [] := by simp [IsAscii]

@[simp] lemma isAscii_cons {c : Char} {cs : List Char} :
    IsAscii (c :: cs) ↔ c.utf8Size = 1 ∧ IsAscii cs := List.forall_mem_cons

@[simp] lemma isAscii_append {cs ds : List Char} :
    IsAscii (cs ++ ds) ↔ IsAscii cs ∧ IsAscii ds := List.forall_mem_append

lemma bytes_eq {text : String} (h : IsAscii text.toList) :
    bytes text = text.toList.map (·.val.toUInt8) := by
  rw [bytes, String.toUTF8, ← String.utf8Encode_toList, List.utf8Encode, List.data_toByteArray,
    List.map_eq_flatMap]
  exact List.flatMap_congr fun c hc => String.utf8EncodeChar_eq_singleton (h c hc)

lemma compare_byte {c d : Char} (hc : c.utf8Size = 1) (hd : d.utf8Size = 1) :
    compare c.val.toUInt8 d.val.toUInt8 = compare c d := by
  rw [Char.utf8Size_eq_one_iff, UInt32.le_iff_toNat_le] at hc hd
  have hbyte {c : Char} (h : c.val.toNat ≤ 127) : c.val.toUInt8.toNat = c.val.toNat := by
    rw [UInt32.toNat_toUInt8]
    exact Nat.mod_eq_of_lt (by omega)
  have hlt : c.val.toUInt8 < d.val.toUInt8 ↔ c < d := by
    rw [UInt8.lt_iff_toNat_lt, hbyte hc, hbyte hd]
    rfl
  have heq : c.val.toUInt8 = d.val.toUInt8 ↔ c = d := by
    rw [← UInt8.toNat_inj, hbyte hc, hbyte hd, UInt32.toNat_inj, Char.val_inj]
  show compareOfLessAndEq _ _ = compareOfLessAndEq _ _
  simp only [compareOfLessAndEq, hlt, heq]

lemma compare_map_byte {cs ds : List Char} (hcs : IsAscii cs) (hds : IsAscii ds) :
    compare (cs.map (·.val.toUInt8)) (ds.map (·.val.toUInt8)) = compare cs ds := by
  induction cs generalizing ds with
  | nil => cases ds <;> rfl
  | cons c cs ih =>
    cases ds with
    | nil => rfl
    | cons d ds =>
      obtain ⟨hc, hcs⟩ := List.forall_mem_cons.1 hcs
      obtain ⟨hd, hds⟩ := List.forall_mem_cons.1 hds
      rw [List.map_cons, List.map_cons, List.compare_cons_cons, List.compare_cons_cons,
        compare_byte hc hd, ih hcs hds]

/-- Texts in ASCII are in the order of their characters. -/
lemma compareBytes_eq {a b : String} (ha : IsAscii a.toList) (hb : IsAscii b.toList) :
    compareBytes a b = compare a.toList b.toList := by
  rw [compareBytes, bytes_eq ha, bytes_eq hb, compare_map_byte ha hb]

end SlotMachine
