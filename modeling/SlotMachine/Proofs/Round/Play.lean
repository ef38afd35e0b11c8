import SlotMachine.Proofs.Draw.Ensures
import SlotMachine.Round

/-!
# Rounds that are played

What a round that has been played is made of: the user and the bet of its request, an outcome that
has been spun for it, and what that pays.
-/

namespace SlotMachine

lemma checkBet_eq_ok {bet bet' : Float} (h : checkBet bet = .ok bet') :
    bet' = bet ∧ bet.isFinite = true ∧ 0.0 ≤ bet := by
  unfold checkBet at h
  split at h
  case isTrue hbet =>
    cases h
    exact ⟨rfl, by simpa using hbet⟩
  case isFalse => cases h

lemma Payout.ofBet_eq_ok {bet : Float} {outcome : Outcome} {payout : Payout}
    (h : ofBet bet outcome = .ok payout) :
    bet.isFinite = true ∧ 0.0 ≤ bet ∧ payout.amount = amountOf bet outcome := by
  unfold ofBet at h
  cases hbet : checkBet bet with
  | ok bet' =>
    rw [hbet] at h
    obtain ⟨rfl, hfin, hle⟩ := checkBet_eq_ok hbet
    cases h
    exact ⟨hfin, hle, rfl⟩
  | error reason =>
    rw [hbet] at h
    cases h

namespace SpinRequest

lemma check_eq_ok {r : SpinRequest} {userId : String} {bet : Float}
    (h : r.check = .ok (userId, bet)) :
    userId = trim r.userId ∧ bet = r.bet ∧ trim r.userId ≠ "" := by
  by_cases huser : (trim r.userId).isEmpty = true
  · simp only [check, huser, if_true] at h
    cases h
  · simp only [check, huser, Bool.false_eq_true, if_false] at h
    cases hbet : checkBet r.bet with
    | ok bet' =>
      rw [hbet] at h
      cases h
      exact ⟨rfl, (checkBet_eq_ok hbet).1, by simpa using huser⟩
    | error reason =>
      rw [hbet] at h
      cases h

end SpinRequest

namespace Engine

variable {e : Engine} {request : SpinRequest} {now : Instant} {chance : Chance} {meter : Meter}

lemma playRound_eq_ok {round : Round} (h : (e.playRound request now chance meter).1 = .ok round) :
    ∃ outcome payout, trim request.userId ≠ "" ∧
      (e.spin request.strategy chance meter).1 = .ok outcome ∧
      Payout.ofBet request.bet outcome = .ok payout ∧
      round = ⟨none, trim request.userId, request.bet, outcome, payout.amount, now⟩ := by
  unfold playRound at h
  obtain ⟨⟨userId, bet⟩, hcheck, h₁⟩ := Draw.except_bind_eq_ok h
  obtain ⟨outcome, hspin, h₂⟩ := Draw.except_bind_eq_ok h₁
  obtain ⟨payout, hpayout, h₃⟩ := Draw.except_bind_eq_ok h₂
  have hcheck := mapError_eq_ok (Draw.except_mk_eq_ok hcheck)
  have hpayout := mapError_eq_ok (Draw.except_mk_eq_ok hpayout)
  have hround := Draw.except_pure_eq_ok h₃
  obtain ⟨rfl, rfl, huser⟩ := SpinRequest.check_eq_ok hcheck
  exact ⟨outcome, payout, huser, Draw.except_adapt_eq_ok hspin, hpayout, hround⟩

end Engine

end SlotMachine
