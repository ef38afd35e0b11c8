import Mathlib.Tactic.Linarith
import SlotMachine.Proofs.Database.Overlap

/-!
# When overlapping settlements are as good as an order

Two settlements of one user that overlap may end as neither order of them would. The main result
says exactly when they cannot. In particular, the first two settlements of a new user can end wrong
unless they change nothing, or lose more than the user has got.
-/

namespace SlotMachine

namespace Database

namespace Ledger

section

variable {N : Type} [Zero N] [Add N] [Sub N] [LE N] [DecidableLE N] (l : Ledger N)
  (userId : String)

/-- How two settlements end of which the second one begins when the first one is done. -/
def inOrder (a b : Charge N) (s : Tables N) : Ending N :=
  let (x, s₁) := (l.settle userId a).run Tables.answer s
  let (y, s₂) := (l.settle userId b).run Tables.answer s₁
  ⟨x, y, s₂.balance? l.table userId⟩

/-- Two settlements end as one after the other would. -/
def InSomeOrder (a b : Charge N) (s : Tables N) (o : Ending N) : Prop :=
  o = l.inOrder userId a b s ∨ o = (l.inOrder userId b a s).swap

end

variable {l : Ledger ℚ} {userId : String} {a b : Charge ℚ} {s : Tables ℚ} {x : ℚ} {o : Ending ℚ}

/-- The end of settlements of a balance `x` one after the other. -/
def Serial (l : Ledger ℚ) (a b : Charge ℚ) (x : ℚ) (o : Ending ℚ) : Prop :=
  o = l.serial a b x ∨ o = (l.serial b a x).swap

lemma inOrder_eq (h : s.reckoned? l.table userId l.defaultBalance = some x) :
    l.inOrder userId a b s = l.serial a b x := by
  obtain ⟨s₁, hrun₁, h₁⟩ := run_settle a h
  obtain ⟨s₂, hrun₂, h₂⟩ := run_settle b h₁.reckoned
  simp only [inOrder, hrun₁, hrun₂, h₂.balance]
  rfl

lemma inSomeOrder_iff (h : s.reckoned? l.table userId l.defaultBalance = some x) :
    l.InSomeOrder userId a b s o ↔ l.Serial a b x o := by
  simp only [InSomeOrder, Serial, inOrder_eq h]

/-- With the default `d`, it does no harm if a change by `q` gets in between a change of the balance
`x` by `p` and the balance being set anew for that. -/
def Harmless (d x p q : ℚ) : Prop :=
  x + p < 0 →
    -- The change by `q` makes good what is missing, and is lost.
    if 0 ≤ x + p + q then p = 0 ∧ x + q = d
    -- The balance is set anew for both changes, though it could bear that by `q`.
    else if 0 ≤ x + q then x = d
    -- The balance could bear neither change.
    else d + p + q < 0 ∨ p = 0 ∧ q = 0

lemma after_anew_of_nonneg (h : 0 ≤ l.defaultBalance + a.change + b.change) :
    l.after b (l.anew a) = l.defaultBalance + a.change + b.change := by
  rw [anew_eq]
  exact after_of_nonneg h

lemma after_anew_of_neg (h : l.defaultBalance + a.change + b.change < 0) :
    l.after b (l.anew a) = l.anew b := by
  rw [anew_eq a]
  exact after_of_neg h

lemma serial_paid_iff {u v w : ℚ} :
    l.Serial a b x (.paid u v w) ↔
      (u = l.after a x ∧ v = l.after b (l.after a x) ∧ w = l.after b (l.after a x)) ∨
      (u = l.after a (l.after b x) ∧ v = l.after b x ∧ w = l.after a (l.after b x)) := by
  simp only [Serial, serial, Ending.swap_paid, Ending.paid_inj]

/-- Each of the settlements sets the balance anew, or does as much. -/
lemma crossed_serial_iff (ha : l.after a x = l.anew a) (hb : l.after b x = l.anew b) :
    (∀ o, l.Crossed a b o → l.Serial a b x o) ↔
      l.defaultBalance + a.change + b.change < 0 ∨ a.change = 0 ∧ b.change = 0 := by
  simp only [Crossed, forall_eq_or_imp, forall_eq, serial_paid_iff, ha, hb, true_and, and_self]
  have hcomm : l.defaultBalance + b.change + a.change =
      l.defaultBalance + a.change + b.change := add_right_comm _ _ _
  rcases lt_or_ge (l.defaultBalance + a.change + b.change) 0 with hd | hd
  · rw [after_anew_of_neg hd, after_anew_of_neg (hcomm ▸ hd)]
    exact iff_of_true ⟨Or.inl rfl, Or.inr rfl⟩ (Or.inl hd)
  · have ha : l.anew a = l.defaultBalance + a.change + b.change ↔ b.change = 0 := by
      rw [anew_eq, left_eq_add]
    have hb : l.anew b = l.defaultBalance + a.change + b.change ↔ a.change = 0 := by
      rw [anew_eq, ← hcomm, left_eq_add]
    rw [after_anew_of_nonneg hd, after_anew_of_nonneg (hcomm ▸ hd), hcomm, ha, hb]
    constructor
    · rintro ⟨h₁ | ⟨-, h₁⟩, ⟨-, h₂⟩ | h₂⟩
      all_goals exact Or.inr ⟨h₁, h₂⟩
    · rintro (h | ⟨h₁, h₂⟩)
      · exact absurd h (not_lt.2 hd)
      · exact ⟨Or.inl h₁, Or.inl ⟨h₁, h₂⟩⟩

/-- The second settlement overdraws what the first one leaves, but not the balance itself; so it
changes the balance by more. -/
lemma crossed_serial_iff_of_lt (hp : x + a.change < 0) (hq : 0 ≤ x + b.change)
    (h : x + a.change + b.change < 0) :
    (∀ o, l.Crossed a b o → l.Serial a b x o) ↔ x = l.defaultBalance := by
  simp only [Crossed, forall_eq_or_imp, forall_eq, serial_paid_iff, after_of_neg hp,
    after_of_nonneg hq, after_of_neg (add_right_comm x _ _ ▸ h), true_and, and_self, and_true]
  have hb : l.anew b = x + b.change ↔ x = l.defaultBalance := by
    rw [anew_eq, add_left_inj, eq_comm]
  have hne : l.anew a ≠ l.anew b := by
    rw [anew_eq, anew_eq]
    exact fun heq => by linarith
  constructor
  · rintro ⟨-, ⟨h₁, h₂⟩ | h₁⟩
    · exact absurd (h₂.trans h₁.symm) hne
    · exact hb.1 h₁
  · intro hx
    rw [after_anew_of_neg (hx ▸ h)]
    exact ⟨Or.inl rfl, Or.inr (hb.2 hx)⟩

/-- The second settlement makes good what the first one overdraws. -/
lemma paid_serial_iff (hp : x + a.change < 0) (h : 0 ≤ x + a.change + b.change) :
    l.Serial a b x (.paid (l.anew a) (x + a.change + b.change) (l.anew a)) ↔
      a.change = 0 ∧ x + b.change = l.defaultBalance := by
  rw [serial_paid_iff, after_of_neg hp]
  have hcomm : l.defaultBalance + b.change + a.change =
      l.defaultBalance + a.change + b.change := add_right_comm _ _ _
  constructor
  · rintro (⟨-, h₁, h₂⟩ | ⟨h₁, h₂, -⟩)
    · exfalso
      rcases lt_or_ge (l.defaultBalance + a.change + b.change) 0 with hd | hd
      · rw [after_anew_of_neg hd, anew_eq] at h₁ h₂
        rw [anew_eq] at h₂
        linarith
      · rw [after_anew_of_nonneg hd] at h₁ h₂
        rw [anew_eq] at h₂
        linarith
    · rcases lt_or_ge (x + b.change) 0 with hq | hq
      · exfalso
        rw [after_of_neg hq] at h₁ h₂
        rcases lt_or_ge (l.defaultBalance + a.change + b.change) 0 with hd | hd
        · rw [anew_eq] at h₂
          linarith
        · rw [after_anew_of_nonneg (hcomm ▸ hd), anew_eq] at h₁
          linarith
      · rw [after_of_nonneg hq] at h₁ h₂
        rw [after_of_nonneg (by linarith), anew_eq] at h₁
        constructor
        · linarith
        · linarith
  · rintro ⟨ha, hx⟩
    have hq : 0 ≤ x + b.change := by linarith
    rw [after_of_nonneg hq, after_of_nonneg (c := a) (by linarith), anew_eq]
    refine Or.inr ⟨?_, ?_, ?_⟩
    · rw [hx]
    · rw [ha, add_zero]
    · rw [hx]

lemma between_serial_iff :
    (∀ o, l.Between a b x o → l.Serial a b x o) ↔
      Harmless l.defaultBalance x a.change b.change := by
  simp only [Between, and_imp]
  rw [forall_comm]
  refine forall_congr' fun hp => ?_
  by_cases h : 0 ≤ x + a.change + b.change
  · simp only [h, if_true, forall_eq]
    exact paid_serial_iff hp h
  · simp only [h, if_false]
    by_cases hq : 0 ≤ x + b.change
    · rw [if_pos hq]
      exact crossed_serial_iff_of_lt hp hq (not_le.1 h)
    · rw [if_neg hq]
      exact crossed_serial_iff (after_of_neg hp) (after_of_neg (not_le.1 hq))

lemma serial_swap : l.Serial a b x o ↔ l.Serial b a x o.swap := by
  simp only [Serial, Ending.swap_eq_iff, Ending.swap_swap]
  exact or_comm

lemma overlap_serial_iff :
    (∀ o, l.Overlap a b x o → l.Serial a b x o) ↔
      Harmless l.defaultBalance x a.change b.change ∧
      Harmless l.defaultBalance x b.change a.change := by
  rw [← between_serial_iff, ← between_serial_iff]
  constructor
  · intro h
    refine ⟨fun o ho => h o (Or.inl (Or.inr ho)), fun o ho => ?_⟩
    exact serial_swap.2 (h o.swap (Or.inr (Or.inr ho)))
  · rintro ⟨ha, hb⟩ o ((ho | ho) | (ho | ho))
    · exact Or.inl ho
    · exact ha o ho
    · exact Or.inr (Ending.swap_eq_iff.1 ho)
    · exact serial_swap.2 (hb o.swap ho)

lemma harmless_default {d p q : ℚ} (h : d + p + q < 0 ∨ p = 0 ∧ q = 0) : Harmless d d p q := by
  intro hp
  split
  case isTrue hpq =>
    obtain ⟨rfl, rfl⟩ := h.resolve_left (not_lt.2 hpq)
    exact ⟨rfl, add_zero d⟩
  case isFalse =>
    split
    · rfl
    · exact h

/-! ### Settlements that fail -/

/-- Where the balance is no number, both settlements fail and leave it. -/
lemma ends_settle_of_unreadable (hs : (s (l.table, userId)).isSome)
    (h : s.reckoned? l.table userId l.defaultBalance = none)
    (ho : l.Ends userId (l.settle userId a) (l.settle userId b) s o) :
    o = l.inOrder userId a b s := by
  have hrun (c : Charge ℚ) : (l.settle userId c).run Tables.answer s =
      (.error ⟨["failed to update user balance"]⟩, s) := by
    rw [(goes_settle c hs).run_eq, (goes_adding_of_none c h).run_eq]
    rfl
  rw [ends_settle_left hs, ends_settle_right hs,
    ends_iff (goes_adding_of_none a h) (goes_adding_of_none b h),
    ends_done_right (goes_adding_of_none a h), ends_swap,
    ends_done_right (goes_adding_of_none b h), ends_done, ends_done, Ending.swap_eq_iff] at ho
  simp only [inOrder, hrun]
  rcases ho with ho | ho
  · exact ho
  · exact ho

/-! ### The main result -/

/-- Two settlements of one user at the same time always end as one after the other would, exactly if
there is no balance yet and together they take away more than the default or each of them nothing,
or there is one and neither does harm to the other. -/
theorem settle_inSomeOrder_iff (l : Ledger ℚ) (userId : String) (a b : Charge ℚ) (s : Tables ℚ) :
    (∀ o, l.Ends userId (l.settle userId a) (l.settle userId b) s o →
      l.InSomeOrder userId a b s o) ↔
    match s (l.table, userId) with
    | none => l.defaultBalance + a.change + b.change < 0 ∨ a.change = 0 ∧ b.change = 0
    | some item => ∀ x, item.balanceOr? l.defaultBalance = some x →
      Harmless l.defaultBalance x a.change b.change ∧
      Harmless l.defaultBalance x b.change a.change := by
  cases hs : s (l.table, userId) with
  | none =>
    have hx := Tables.reckoned?_of_none hs l.defaultBalance
    simp only [ends_settle_of_none hs, inSomeOrder_iff hx, or_imp, forall_and]
    rw [crossed_serial_iff (after_default a) (after_default b), overlap_serial_iff]
    refine and_iff_left_of_imp fun h => ⟨harmless_default h, harmless_default ?_⟩
    rw [add_right_comm]
    exact h.imp_right And.symm
  | some item =>
    have hsome : (s (l.table, userId)).isSome := hs ▸ rfl
    have hitem := Tables.reckoned?_of_some hs l.defaultBalance
    cases hx : item.balanceOr? l.defaultBalance with
    | none =>
      refine iff_of_true (fun o ho => Or.inl ?_) (fun x h => ?_)
      · exact ends_settle_of_unreadable hsome (hitem.trans hx) ho
      · rw [hx] at h
        cases h
    | some x =>
      simp only [ends_settle hsome (hitem.trans hx), inSomeOrder_iff (hitem.trans hx), hx,
        Option.some.injEq, forall_eq']
      exact overlap_serial_iff

/-- A new user wins 30 for a bet of 10 and loses a bet of 5. Both settlements find no balance, and
the second one creates it when the first one is done, whose win is lost. -/
theorem settle_payout_lost :
    let l : Ledger ℚ := ⟨"user_balances", 1000⟩
    let a : Charge ℚ := ⟨10, 30, ⟨0, 0⟩, ⟨0, 0⟩⟩
    let b : Charge ℚ := ⟨5, 0, ⟨0, 0⟩, ⟨0, 0⟩⟩
    l.Ends "alice" (l.settle "alice" a) (l.settle "alice" b) (fun _ => none)
        (.paid 1020 995 995) ∧
      ¬ l.InSomeOrder "alice" a b (fun _ => none) (.paid 1020 995 995) := by
  intro l a b
  have ha : l.anew a = 1020 := by decide +kernel
  have hb : l.anew b = 995 := by decide +kernel
  constructor
  · rw [← ha, ← hb]
    exact (ends_settle_of_none rfl).2 (Or.inl (Or.inl rfl))
  · rw [inSomeOrder_iff (Tables.reckoned?_of_none rfl _), serial_paid_iff]
    decide +kernel

end Ledger

end Database

end SlotMachine
