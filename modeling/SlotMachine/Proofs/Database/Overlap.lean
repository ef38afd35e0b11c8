import Mathlib.Algebra.Order.Ring.Rat
import Mathlib.Tactic.Ring
import SlotMachine.Proofs.Database.Settlements

/-!
# Overlapping settlements

What two settlements of one user may come to that are under way at the same time. `Ends` tells how a
pair of conversations may end; it is worked out from the last requests back to the first: for each
pair of points at which two settlements may wait, a lemma says what the ends are, given what is
stored. The lemmas `ends_settle` and `ends_settle_of_none` are the results.

What differs from one order after the other comes about in two ways. A settlement that overdraws the
balance sets it anew with a second request, and the other one may get in `Between`. And both may
find no balance, so that the second one that creates it undoes what the first one did.
-/

namespace SlotMachine

namespace Database

/-- How two settlements of one user end: what each of them returns, and what balance is stored. -/
structure Ending (N : Type) where
  left : Except Failure N
  right : Except Failure N
  balance : Option N

namespace Ending

variable {N : Type}

def swap (o : Ending N) : Ending N := ⟨o.right, o.left, o.balance⟩

/-- Both settlements return a balance. -/
def paid (a b balance : N) : Ending N := ⟨.ok a, .ok b, some balance⟩

@[simp] lemma swap_swap (o : Ending N) : o.swap.swap = o := rfl

lemma swap_eq_iff {o o' : Ending N} : o.swap = o' ↔ o = o'.swap := by
  constructor
  · rintro rfl
    rfl
  · rintro rfl
    rfl

@[simp] lemma swap_paid (a b balance : N) : (paid a b balance).swap = paid b a balance := rfl

@[simp] lemma paid_inj {a b c a' b' c' : N} :
    paid a b c = paid a' b' c' ↔ a = a' ∧ b = b' ∧ c = c' := by
  simp [paid]

end Ending

namespace Ledger

/-- How two conversations about the balance of a user may end. -/
def Ends {N : Type} [Add N] (l : Ledger N) (userId : String)
    (d e : Conversation N (Except Failure N)) (s : Tables N) (o : Ending N) : Prop :=
  ∃ s', Dialogue.Interleaves Tables.answer d e s o.left o.right s' ∧
    s'.balance? l.table userId = o.balance

section

variable {N : Type} [Add N] {l : Ledger N} {userId : String}
  {d e d' e' : Conversation N (Except Failure N)} {s s₁ s₂ : Tables N} {o : Ending N}

lemma ends_swap : l.Ends userId d e s o ↔ l.Ends userId e d s o.swap :=
  exists_congr fun _ => and_congr_left fun _ => Dialogue.interleaves_swap

lemma ends_done {x y : Except Failure N} :
    l.Ends userId (.done x) (.done y) s o ↔ o = ⟨x, y, s.balance? l.table userId⟩ := by
  constructor
  · rintro ⟨s', h, hbalance⟩
    obtain ⟨hx, hy, rfl⟩ := Dialogue.interleaves_done_done.1 h
    cases o
    simp_all
  · rintro rfl
    exact ⟨s, .done x y s, rfl⟩

lemma ends_done_right {y : Except Failure N} (h : Dialogue.Goes Tables.answer d s d' s₁) :
    l.Ends userId d (.done y) s o ↔ l.Ends userId d' (.done y) s₁ o :=
  exists_congr fun _ => and_congr_left fun _ => Dialogue.interleaves_done_right h

lemma ends_iff (hd : Dialogue.Goes Tables.answer d s d' s₁)
    (he : Dialogue.Goes Tables.answer e s e' s₂) :
    l.Ends userId d e s o ↔ l.Ends userId d' e s₁ o ∨ l.Ends userId d e' s₂ o := by
  simp only [Ends, Dialogue.interleaves_iff hd he, or_and_right, exists_or]

end

section

variable {N : Type} [Add N] [Sub N] {l : Ledger N} {userId : String} {a b : Charge N}
  {s : Tables N} {o : Ending N}

/-! ### Settlements of which one is over -/

lemma ends_resetting_done {y : Except Failure N} :
    l.Ends userId (l.resetting userId a) (.done y) s o ↔
      o = ⟨.ok (l.anew a), y, some (l.anew a)⟩ := by
  obtain ⟨s₁, hgoes, h₁⟩ := goes_resetting l userId a s
  rw [ends_done_right hgoes, ends_done, h₁.balance]

lemma ends_done_resetting {y : Except Failure N} :
    l.Ends userId (.done y) (l.resetting userId b) s o ↔
      o = ⟨y, .ok (l.anew b), some (l.anew b)⟩ := by
  rw [ends_swap, ends_resetting_done, Ending.swap_eq_iff]
  rfl

end

section

variable {N : Type} [Zero N] [Add N] [Sub N] [LE N] [DecidableLE N] {l : Ledger N}
  {userId : String} {a b : Charge N} {s : Tables N} {x : N} {o : Ending N}

lemma ends_adding_done {y : Except Failure N}
    (h : s.reckoned? l.table userId l.defaultBalance = some x) :
    l.Ends userId (l.adding userId a) (.done y) s o ↔
      o = ⟨.ok (l.after a x), y, some (l.after a x)⟩ := by
  obtain ⟨s₁, hgoes, h₁⟩ := goes_adding a h
  rw [ends_done_right hgoes]
  by_cases hx : 0 ≤ x + a.change
  · simp only [after, hx, if_true]
    rw [ends_done, h₁.balance]
  · simp only [after, hx, if_false]
    rw [ends_resetting_done]

lemma ends_done_adding {y : Except Failure N}
    (h : s.reckoned? l.table userId l.defaultBalance = some x) :
    l.Ends userId (.done y) (l.adding userId b) s o ↔
      o = ⟨y, .ok (l.after b x), some (l.after b x)⟩ := by
  rw [ends_swap, ends_adding_done h, Ending.swap_eq_iff]
  rfl

/-! ### Settlements that have yet to read -/

variable {d e : Conversation N (Except Failure N)}

/-- Where there is an item, the first request of a settlement tells nothing. -/
lemma ends_settle_left {c : Charge N} (h : (s (l.table, userId)).isSome) :
    l.Ends userId (l.settle userId c) e s o ↔ l.Ends userId (l.adding userId c) e s o :=
  exists_congr fun _ => and_congr_left fun _ =>
    Dialogue.interleaves_pending (fun request _ => Tables.isSome_answer request)
      (fun _ => goes_settle c) h

lemma ends_settle_right {c : Charge N} (h : (s (l.table, userId)).isSome) :
    l.Ends userId d (l.settle userId c) s o ↔ l.Ends userId d (l.adding userId c) s o := by
  rw [ends_swap, ends_settle_left h, ← ends_swap]

end

/-! ### Settlements that have read the balance -/

variable {l : Ledger ℚ} {userId : String} {a b : Charge ℚ} {s : Tables ℚ} {x : ℚ} {o : Ending ℚ}

lemma anew_eq (c : Charge ℚ) : l.anew c = l.defaultBalance + c.change := by
  simp only [anew, Charge.change]
  ring

lemma after_of_nonneg {c : Charge ℚ} (h : 0 ≤ x + c.change) : l.after c x = x + c.change :=
  if_pos h

lemma after_of_neg {c : Charge ℚ} (h : x + c.change < 0) : l.after c x = l.anew c :=
  if_neg (not_le.2 h)

@[simp] lemma after_default (c : Charge ℚ) : l.after c l.defaultBalance = l.anew c := by
  rcases lt_or_ge (l.defaultBalance + c.change) 0 with h | h
  · exact after_of_neg h
  · rw [after_of_nonneg h, anew_eq]

/-- The settlement `a` of a balance `x` and then the settlement `b`. -/
def serial (l : Ledger ℚ) (a b : Charge ℚ) (x : ℚ) : Ending ℚ :=
  .paid (l.after a x) (l.after b (l.after a x)) (l.after b (l.after a x))

/-- Both settlements set the balance anew, so that one of them is lost. -/
def Crossed (l : Ledger ℚ) (a b : Charge ℚ) (o : Ending ℚ) : Prop :=
  o = .paid (l.anew a) (l.anew b) (l.anew b) ∨ o = .paid (l.anew a) (l.anew b) (l.anew a)

lemma crossed_swap : l.Crossed a b o ↔ l.Crossed b a o.swap := by
  simp only [Crossed, Ending.swap_eq_iff, Ending.swap_paid]
  exact or_comm

lemma ends_resetting_resetting :
    l.Ends userId (l.resetting userId a) (l.resetting userId b) s o ↔ l.Crossed a b o := by
  obtain ⟨s₁, hgoes₁, -⟩ := goes_resetting l userId a s
  obtain ⟨s₂, hgoes₂, -⟩ := goes_resetting l userId b s
  rw [ends_iff hgoes₁ hgoes₂, ends_done_resetting, ends_resetting_done]
  rfl

lemma ends_resetting_adding (h : s.reckoned? l.table userId l.defaultBalance = some x) :
    l.Ends userId (l.resetting userId a) (l.adding userId b) s o ↔
      o = .paid (l.anew a) (l.after b (l.anew a)) (l.after b (l.anew a)) ∨
      if 0 ≤ x + b.change then o = .paid (l.anew a) (x + b.change) (l.anew a)
      else l.Crossed a b o := by
  obtain ⟨s₁, hgoes₁, h₁⟩ := goes_resetting l userId a s
  obtain ⟨s₂, hgoes₂, -⟩ := goes_adding b h
  rw [ends_iff hgoes₁ hgoes₂, ends_done_adding h₁.reckoned]
  refine or_congr Iff.rfl ?_
  split
  · exact ends_resetting_done
  · exact ends_resetting_resetting

/-- What comes of two settlements of a balance `x` of which the first one overdraws it, if the
second one gets in between. -/
def Between (l : Ledger ℚ) (a b : Charge ℚ) (x : ℚ) (o : Ending ℚ) : Prop :=
  x + a.change < 0 ∧
    if 0 ≤ x + a.change + b.change then
      o = .paid (l.anew a) (x + a.change + b.change) (l.anew a)
    else l.Crossed a b o

lemma ends_after_adding {s₁ : Tables ℚ} (h : l.Holds userId s₁ (x + a.change)) :
    l.Ends userId
      (if 0 ≤ x + a.change then .done (.ok (x + a.change)) else l.resetting userId a)
      (l.adding userId b) s₁ o ↔ o = l.serial a b x ∨ l.Between a b x o := by
  rcases lt_or_ge (x + a.change) 0 with hx | hx
  · rw [if_neg (not_le.2 hx), ends_resetting_adding h.reckoned]
    simp only [serial, Between, after_of_neg hx, hx, true_and]
  · rw [if_pos hx, ends_done_adding h.reckoned]
    simp only [serial, Between, after_of_nonneg hx, not_lt.2 hx, false_and, or_false]
    rfl

/-- What comes of two settlements of a balance `x` that have both read it. -/
def Overlap (l : Ledger ℚ) (a b : Charge ℚ) (x : ℚ) (o : Ending ℚ) : Prop :=
  (o = l.serial a b x ∨ l.Between a b x o) ∨ (o.swap = l.serial b a x ∨ l.Between b a x o.swap)

lemma overlap_swap : l.Overlap a b x o ↔ l.Overlap b a x o.swap := by
  simp only [Overlap, Ending.swap_swap]
  exact or_comm

lemma ends_adding_adding (h : s.reckoned? l.table userId l.defaultBalance = some x) :
    l.Ends userId (l.adding userId a) (l.adding userId b) s o ↔ l.Overlap a b x o := by
  obtain ⟨s₁, hgoes₁, h₁⟩ := goes_adding a h
  obtain ⟨s₂, hgoes₂, h₂⟩ := goes_adding b h
  rw [ends_iff hgoes₁ hgoes₂]
  refine or_congr (ends_after_adding h₁) ?_
  rw [ends_swap]
  exact ends_after_adding h₂

/-! ### Settlements of which one has to create the balance -/

lemma ends_done_creating {y : Except Failure ℚ} :
    l.Ends userId (.done y) (l.creating userId b) s o ↔
      o = ⟨y, .ok (l.anew b), some (l.anew b)⟩ := by
  obtain ⟨s₁, hgoes, h₁⟩ := goes_creating l userId b s
  rw [ends_swap, ends_done_right hgoes, ends_adding_done h₁.reckoned, after_default,
    Ending.swap_eq_iff]
  rfl

lemma ends_resetting_creating :
    l.Ends userId (l.resetting userId a) (l.creating userId b) s o ↔
      o = .paid (l.anew a) (l.after b (l.anew a)) (l.after b (l.anew a)) ∨ l.Crossed a b o := by
  obtain ⟨s₁, hgoes₁, -⟩ := goes_resetting l userId a s
  obtain ⟨s₂, hgoes₂, h₂⟩ := goes_creating l userId b s
  rw [ends_iff hgoes₁ hgoes₂, ends_done_creating, ends_resetting_adding h₂.reckoned, ← anew_eq]
  constructor
  · rintro (h | h | h)
    · exact Or.inr (Or.inl h)
    · exact Or.inl h
    · split at h
      · exact Or.inr (Or.inr h)
      · exact Or.inr h
  · rintro (h | h)
    · exact Or.inr (Or.inl h)
    · rcases h with h | h
      · exact Or.inl h
      · refine Or.inr (Or.inr ?_)
        split
        · exact h
        · exact Or.inr h

/-- If the settlement that creates the balance comes last, what the other one did is lost. -/
lemma ends_adding_creating
    (h : s.reckoned? l.table userId l.defaultBalance = some l.defaultBalance) :
    l.Ends userId (l.adding userId a) (l.creating userId b) s o ↔
      (o = .paid (l.anew a) (l.anew b) (l.anew b) ∨
        l.defaultBalance + a.change < 0 ∧ l.Crossed a b o) ∨ l.Overlap a b l.defaultBalance o := by
  obtain ⟨s₁, hgoes₁, -⟩ := goes_adding a h
  obtain ⟨s₂, hgoes₂, h₂⟩ := goes_creating l userId b s
  rw [ends_iff hgoes₁ hgoes₂, ends_adding_adding h₂.reckoned]
  rcases lt_or_ge (l.defaultBalance + a.change) 0 with hx | hx
  · have hserial : l.serial a b l.defaultBalance =
        .paid (l.anew a) (l.after b (l.anew a)) (l.after b (l.anew a)) := by
      rw [serial, after_default]
    rw [if_neg (not_le.2 hx), ends_resetting_creating, ← hserial]
    constructor
    · rintro ((h | h) | h)
      · exact Or.inr (Or.inl (Or.inl h))
      · exact Or.inl (Or.inr ⟨hx, h⟩)
      · exact Or.inr h
    · rintro ((h | ⟨-, h⟩) | h)
      · exact Or.inl (Or.inr (Or.inl h))
      · exact Or.inl (Or.inr h)
      · exact Or.inr h
  · rw [if_pos hx, ends_done_creating, ← anew_eq]
    refine or_congr ?_ Iff.rfl
    constructor
    · exact Or.inl
    · rintro (h | ⟨h, -⟩)
      · exact h
      · exact absurd h (not_lt.2 (hx.trans_eq (anew_eq a).symm))

lemma ends_creating_creating :
    l.Ends userId (l.creating userId a) (l.creating userId b) s o ↔
      l.Crossed a b o ∨ l.Overlap a b l.defaultBalance o := by
  obtain ⟨s₁, hgoes₁, h₁⟩ := goes_creating l userId a s
  obtain ⟨s₂, hgoes₂, h₂⟩ := goes_creating l userId b s
  rw [ends_iff hgoes₁ hgoes₂, ends_adding_creating h₁.reckoned, ends_swap,
    ends_adding_creating h₂.reckoned, ← overlap_swap, ← crossed_swap, Ending.swap_eq_iff]
  constructor
  · rintro (((h | ⟨-, h⟩) | h) | ((h | ⟨-, h⟩) | h))
    · exact Or.inl (Or.inl h)
    · exact Or.inl h
    · exact Or.inr h
    · exact Or.inl (Or.inr h)
    · exact Or.inl h
    · exact Or.inr h
  · rintro ((h | h) | h)
    · exact Or.inl (Or.inl (Or.inl h))
    · exact Or.inr (Or.inl (Or.inl h))
    · exact Or.inl (Or.inr h)

lemma ends_creating_settle (h : s (l.table, userId) = none) :
    l.Ends userId (l.creating userId a) (l.settle userId b) s o ↔
      l.Crossed a b o ∨ l.Overlap a b l.defaultBalance o := by
  obtain ⟨s₁, hgoes₁, h₁⟩ := goes_creating l userId a s
  rw [ends_iff hgoes₁ (goes_settle_of_none b h), ends_settle_right h₁.isSome,
    ends_adding_adding h₁.reckoned, ends_creating_creating]
  exact or_iff_right_of_imp Or.inr

/-! ### Settlements that begin at the same time -/

/-- Where there is no balance yet, both settlements may find none and create it. -/
lemma ends_settle_of_none (h : s (l.table, userId) = none) :
    l.Ends userId (l.settle userId a) (l.settle userId b) s o ↔
      l.Crossed a b o ∨ l.Overlap a b l.defaultBalance o := by
  rw [ends_iff (goes_settle_of_none a h) (goes_settle_of_none b h), ends_creating_settle h,
    ends_swap, ends_creating_settle h, ← overlap_swap, ← crossed_swap]
  exact or_self_iff

lemma ends_settle (hs : (s (l.table, userId)).isSome)
    (h : s.reckoned? l.table userId l.defaultBalance = some x) :
    l.Ends userId (l.settle userId a) (l.settle userId b) s o ↔ l.Overlap a b x o := by
  rw [ends_settle_left hs, ends_settle_right hs, ends_adding_adding h]

end Ledger

end Database

end SlotMachine
