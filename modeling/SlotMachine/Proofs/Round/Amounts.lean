import SlotMachine.Proofs.Json.Amounts
import SlotMachine.Proofs.Messages.Rounds
import SlotMachine.Proofs.Round.Play
import SlotMachine.Proofs.Spin.Outcome
import SlotMachine.Proofs.Text.Trim

/-!
# Amounts of rounds

A round that is played is as the data model has it, but for one thing: a win may pay more than a
double can hold, since only the bet is checked. Then the payout is infinite, and the text of the
round cannot be read, as it has no number there (`playRound_sound`).
-/

namespace SlotMachine

open Binary64 (magnitude overflow)

/-- What the data model asks of a round, except that nothing is said of how large the payout is. -/
structure Round.Sound (r : Round) : Prop where
  userId_ne : r.userId ≠ ""
  userId : Unpadded r.userId
  bet_isFinite : r.bet.isFinite = true
  zero_le_bet : 0.0 ≤ r.bet
  zero_le_payout : 0.0 ≤ r.payout
  payout_of_loss : r.outcome.win = false → r.payout = 0.0

/-! ### Payouts -/

namespace Payout

variable {bet : Float} {outcome : Outcome}

lemma amountOf_of_loss (h : outcome.win = false) : amountOf bet outcome = 0.0 := by
  simp [amountOf, h]

lemma amountOf_of_win (h : outcome.win = true) :
    amountOf bet outcome = bet * outcome.multiplier.toFloat := by
  simp [amountOf, h]

lemma zero_le_amountOf (hfin : bet.isFinite = true) (hbet : 0.0 ≤ bet) (outcome : Outcome) :
    0.0 ≤ amountOf bet outcome := by
  cases hwin : outcome.win with
  | true =>
    rw [amountOf_of_win hwin]
    exact Binary64.zero_le_mul hfin hbet (Binary64.isFinite_toFloat _) (Binary64.zero_le_toFloat _)
  | false =>
    rw [amountOf_of_loss hwin]
    decide

/-- Only a win can pay too much. -/
lemma isFinite_amountOf_iff (hfin : bet.isFinite = true) :
    (amountOf bet outcome).isFinite = true ↔
      (outcome.win = true →
        (magnitude bet).value * outcome.multiplier.toNat < overflow) := by
  cases hwin : outcome.win with
  | true =>
    rw [amountOf_of_win hwin, Binary64.isFinite_mul_toFloat_iff hfin]
    exact ⟨fun h _ => h, fun h => h rfl⟩
  | false =>
    rw [amountOf_of_loss hwin]
    exact iff_of_true (by decide) nofun

end Payout

/-! ### Reading a round -/

namespace Round

variable {r : Round}

lemma exists_ofSource (hbet : r.bet.isFinite = true) (hpayout : r.payout.isFinite = true)
    (htime : r.time.Plain) :
    ∃ bet payout, decoder.ofSource (.ofString r.toJson.text) = .ok { r with bet, payout } := by
  obtain ⟨bet, hbet⟩ := Json.exists_float_node hbet (125 + 1)
  obtain ⟨payout, hpayout⟩ := Json.exists_float_node hpayout (125 + 1)
  refine ⟨bet, payout, ?_⟩
  rw [Json.Decoder.ofSource_text]
  show decoder (125 + 2) r.toJson.node = _
  rw [decoder_node_eq, hbet, hpayout, Instant.decoder_node htime]
  rfl

lemma ofSource_of_not_isFinite (hbet : r.bet.isFinite = true)
    (hpayout : ¬r.payout.isFinite = true) :
    decoder.ofSource (.ofString r.toJson.text) = .error .mismatched := by
  obtain ⟨bet, hbet⟩ := Json.exists_float_node hbet (125 + 1)
  rw [Json.Decoder.ofSource_text]
  show decoder (125 + 2) r.toJson.node = _
  rw [decoder_node_eq, hbet, Json.float_node_of_not_isFinite hpayout]
  cases Instant.decoder (125 + 1) (Json.string r.time.text).node with
  | ok time => rfl
  | error fault => rfl

end Round

namespace Engine

variable (e : Engine) (request : SpinRequest) (now : Instant) (chance : Chance) (meter : Meter)

/-- Every round that is played is sound, and its payout is finite unless it is a win that overflows.
A round with a finite payout is read back from its text with nothing changed but what the reader's
two roundings make of its amounts; one with an infinite payout is never read. -/
theorem playRound_sound {round : Round}
    (h : (e.playRound request now chance meter).1 = .ok round) :
    round.Sound ∧
    (round.payout.isFinite = true ↔
      (round.outcome.win = true →
        (magnitude round.bet).value * round.outcome.multiplier.toNat < overflow)) ∧
    (round.payout.isFinite = true → now.Plain → ∃ bet payout,
      Round.decoder.ofSource (.ofString round.toJson.text) = .ok { round with bet, payout }) ∧
    (¬round.payout.isFinite = true →
      Round.decoder.ofSource (.ofString round.toJson.text) = .error .mismatched) := by
  obtain ⟨outcome, payout, huser, -, hpayout, rfl⟩ := playRound_eq_ok h
  obtain ⟨hfin, hbet, hamount⟩ := Payout.ofBet_eq_ok hpayout
  dsimp only
  rw [hamount]
  refine ⟨?_, Payout.isFinite_amountOf_iff hfin, ?_, ?_⟩
  · exact {
      userId_ne := huser
      userId := unpadded_trim request.userId
      bet_isFinite := hfin
      zero_le_bet := hbet
      zero_le_payout := Payout.zero_le_amountOf hfin hbet outcome
      payout_of_loss := Payout.amountOf_of_loss }
  · intro hpayout htime
    exact Round.exists_ofSource hfin hpayout htime
  · intro hpayout
    exact Round.ofSource_of_not_isFinite hfin hpayout

/-- A win of ben's, three cherries. -/
def winOfBen (bet : Float) : Round where
  id := none
  userId := "ben"
  bet
  outcome := .winning .cherry .reference
  payout := bet * 2.0
  time := ⟨0, 0⟩

lemma playRound_ofBen :
    (primeless.playRound ⟨" ben ", 12.5, .normal⟩ ⟨0, 0⟩ (.still 0) {}).1 =
      .ok (winOfBen 12.5) := rfl

/-- `10 ^ 308`, which is a little more than half of the largest double. -/
def hugeBet : Float := Float.ofBits 0x7fe1ccf385ebc8a0

/-- Twice the bet is more than a double can hold: the payout is infinite, and the text of the round
cannot be read. -/
theorem playRound_overflow :
    (primeless.playRound ⟨" ben ", hugeBet, .normal⟩ ⟨0, 0⟩ (.still 0) {}).1 =
      .ok (winOfBen hugeBet) ∧
    (winOfBen hugeBet).payout.isFinite = false ∧
    Round.decoder.ofSource (.ofString (winOfBen hugeBet).toJson.text) = .error .mismatched := by
  have hfin : (winOfBen hugeBet).payout.isFinite = false := by decide +kernel
  refine ⟨rfl, hfin, Round.ofSource_of_not_isFinite ?_ ?_⟩
  · decide +kernel
  · rw [hfin]
    exact Bool.false_ne_true

theorem playRound_sound_ofBen :
    (primeless.playRound ⟨" ben ", 12.5, .normal⟩ ⟨0, 0⟩ (.still 0) {}).1 =
      .ok (winOfBen 12.5) ∧
    (winOfBen 12.5).Sound ∧ (winOfBen 12.5).payout.isFinite = true ∧
    ∃ bet payout, Round.decoder.ofSource (.ofString (winOfBen 12.5).toJson.text) =
      .ok { winOfBen 12.5 with bet, payout } := by
  have hpayout : (winOfBen 12.5).payout.isFinite = true := by decide +kernel
  obtain ⟨hsound, -, hread, -⟩ := primeless.playRound_sound _ _ _ _ playRound_ofBen
  exact ⟨playRound_ofBen, hsound, hpayout, hread hpayout ⟨by decide, by decide, by decide⟩⟩

end Engine

end SlotMachine
