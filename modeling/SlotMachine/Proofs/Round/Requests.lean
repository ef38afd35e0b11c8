import SlotMachine.Proofs.Binary64.Sums
import SlotMachine.Proofs.Round.Play
import SlotMachine.Proofs.Spin.Capacity

/-!
# Requests that are refused

A request is refused exactly for a user id of nothing but blanks or for a bet that is no number of
zero or more, and before anything is drawn. Any other request comes to whatever its spin comes to;
that the bet is checked again when the payout is reckoned makes no difference.
-/

namespace SlotMachine

/-! ### Bets -/

namespace Binary64

open Float.Model UnpackedFloat

/-- What is no finite number from zero on. -/
lemma not_isFinite_and_zero_le_iff {x : Float} :
    ¬(x.isFinite = true ∧ 0.0 ≤ x) ↔ x.isNaN = true ∨ x.isInf = true ∨ x < 0.0 := by
  have hinf : x.isInf = (unpacked x).isInf := rfl
  rw [isFinite_eq, isNaN_eq, hinf, zero_le_iff, lt_iff, unpacked_zero]
  cases unpacked x with
  | notANumber => exact iff_of_true (fun h => nomatch h.1) (.inl rfl)
  | infinity s => exact iff_of_true (fun h => nomatch h.1) (.inr (.inl rfl))
  | zero s =>
    apply iff_of_false
    · exact not_not_intro ⟨rfl, trivial⟩
    · rintro (h | h | h) <;> cases h
  | finite s m e hm =>
    cases s with
    | positive =>
      apply iff_of_false
      · exact not_not_intro ⟨rfl, rfl⟩
      · rintro (h | h | h) <;> cases h
    | negative => exact iff_of_true (fun h => nomatch h.2) (.inr (.inr rfl))

end Binary64

/-- A bet that is refused: not a number, infinite, or below zero. -/
def InvalidBet (bet : Float) : Prop := bet.isNaN = true ∨ bet.isInf = true ∨ bet < 0.0

lemma checkBet_of_invalid {bet : Float} (h : InvalidBet bet) :
    checkBet bet = .error (.invalidBet bet) := by
  rw [checkBet, if_neg]
  simpa using Binary64.not_isFinite_and_zero_le_iff.2 h

lemma checkBet_of_valid {bet : Float} (h : ¬InvalidBet bet) : checkBet bet = .ok bet := by
  rw [checkBet, if_pos]
  simpa using not_not.1 (mt Binary64.not_isFinite_and_zero_le_iff.1 h)

/-- A bet that has passed its check passes it again when the payout is reckoned. -/
lemma Payout.ofBet_of_valid {bet : Float} (h : ¬InvalidBet bet) (outcome : Outcome) :
    ofBet bet outcome = .ok ⟨amountOf bet outcome, amountOf bet outcome - bet⟩ := by
  rw [ofBet, checkBet_of_valid h]
  rfl

/-! ### Requests -/

namespace SpinRequest

variable {r : SpinRequest}

/-- The reason for which a request is refused. A missing user comes before the bet. -/
inductive Refused (r : SpinRequest) : RequestError → Prop
  | missingUser (huser : trim r.userId = "") : Refused r .missingUser
  | invalidBet (huser : trim r.userId ≠ "") (hbet : InvalidBet r.bet) :
      Refused r (.invalidBet r.bet)

lemma Refused.unique {reason reason' : RequestError} (h : r.Refused reason)
    (h' : r.Refused reason') : reason = reason' := by
  cases h with
  | missingUser huser =>
    cases h' with
    | missingUser _ => rfl
    | invalidBet hne _ => exact absurd huser hne
  | invalidBet hne _ =>
    cases h' with
    | missingUser huser => exact absurd huser hne
    | invalidBet _ _ => rfl

lemma not_refused (huser : trim r.userId ≠ "") (hfin : r.bet.isFinite = true)
    (hle : 0.0 ≤ r.bet) : ¬∃ reason, r.Refused reason := by
  rintro ⟨reason, h⟩
  cases h with
  | missingUser hempty => exact huser hempty
  | invalidBet _ hbet => exact Binary64.not_isFinite_and_zero_le_iff.2 hbet ⟨hfin, hle⟩

lemma check_of_refused {reason : RequestError} (h : r.Refused reason) :
    r.check = .error reason := by
  cases h with
  | missingUser huser =>
    simp only [check, huser]
    rfl
  | invalidBet huser hbet =>
    simp [check, huser, checkBet_of_invalid hbet]

lemma check_of_not_refused (h : ¬∃ reason, r.Refused reason) :
    ¬InvalidBet r.bet ∧ r.check = .ok (trim r.userId, r.bet) := by
  have huser : trim r.userId ≠ "" := fun huser => h ⟨_, .missingUser huser⟩
  have hbet : ¬InvalidBet r.bet := fun hbet => h ⟨_, .invalidBet huser hbet⟩
  refine ⟨hbet, ?_⟩
  simp [check, huser, checkBet_of_valid hbet]

end SpinRequest

/-! ### Rounds -/

namespace Engine

variable {e : Engine} {request : SpinRequest} {now : Instant} {chance : Chance} {meter : Meter}

lemma spin_eq_oversized_iff {strategy : Strategy} :
    (e.spin strategy chance meter).1 = .error .oversized ↔
      e.resolve strategy = .heavy ∧ (¬e.heavy.PrimesFit ∨ ∃ primes,
        (Primes.upward e.heavy.primeFloor e.heavy.primeCount chance meter).1 = .ok primes ∧
        ¬e.heavy.MatricesFit) := by
  unfold spin
  cases e.resolve strategy with
  | normal => exact iff_of_false (Spin.fitting_liftM e.spinNormal chance meter) nofun
  | heavy => exact e.spinHeavy_eq_oversized_iff.trans (and_iff_right rfl).symm

/-- The round of a request with an outcome. -/
def roundOf (request : SpinRequest) (now : Instant) (outcome : Outcome) : Round where
  id := none
  userId := trim request.userId
  bet := request.bet
  outcome
  payout := if outcome.win then request.bet * outcome.multiplier.toFloat else 0.0
  time := now

lemma playRound_of_refused {reason : RequestError} (h : request.Refused reason) :
    e.playRound request now chance meter = (.error (.refused reason), meter) := by
  rw [playRound, SpinRequest.check_of_refused h]
  rfl

/-- What is not refused is spun for, and nothing else is done. -/
lemma playRound_of_not_refused (h : ¬∃ reason, request.Refused reason) :
    e.playRound request now chance meter =
      ((e.spin request.strategy chance meter).1.map (roundOf request now) |>.mapError .interrupted,
        (e.spin request.strategy chance meter).2) := by
  obtain ⟨hbet, hcheck⟩ := SpinRequest.check_of_not_refused h
  rw [playRound, hcheck]
  simp only [Draw.except_bind_apply, Draw.except_adapt_apply, Draw.except_mk_apply, Except.mapError]
  cases (e.spin request.strategy chance meter).1 with
  | ok outcome =>
    simp only [Payout.ofBet_of_valid hbet]
    rfl
  | error reason => rfl

lemma playRound_eq_refused_iff {reason : RequestError} :
    (e.playRound request now chance meter).1 = .error (.refused reason) ↔
      request.Refused reason := by
  by_cases h : ∃ reason, request.Refused reason
  · obtain ⟨reason', hreason'⟩ := h
    rw [playRound_of_refused hreason']
    constructor
    · intro heq
      obtain rfl : reason' = reason := PlayError.refused.inj (Except.error.inj heq)
      exact hreason'
    · intro hreason
      rw [hreason'.unique hreason]
  · rw [playRound_of_not_refused h]
    apply iff_of_false
    · cases (e.spin request.strategy chance meter).1 with
      | ok outcome => exact nofun
      | error reason => exact nofun
    · exact fun hreason => h ⟨reason, hreason⟩

lemma playRound_eq_interrupted_iff (h : ¬∃ reason, request.Refused reason)
    {reason : Interruption} :
    (e.playRound request now chance meter).1 = .error (.interrupted reason) ↔
      (e.spin request.strategy chance meter).1 = .error reason := by
  rw [playRound_of_not_refused h]
  cases (e.spin request.strategy chance meter).1 with
  | ok outcome => exact iff_of_false nofun nofun
  | error reason' => simp [Except.map, Except.mapError]

lemma playRound_eq_ok_iff (h : ¬∃ reason, request.Refused reason) {round : Round} :
    (e.playRound request now chance meter).1 = .ok round ↔
      ∃ outcome, (e.spin request.strategy chance meter).1 = .ok outcome ∧
        round = roundOf request now outcome := by
  rw [playRound_of_not_refused h]
  cases (e.spin request.strategy chance meter).1 with
  | ok outcome => simp [Except.map, Except.mapError, eq_comm]
  | error reason' => simp [Except.map, Except.mapError]

lemma resolve_of_cancelled {strategy : Strategy}
    (h : (e.spin strategy chance meter).1 = .error .cancelled) : e.resolve strategy = .heavy := by
  cases hresolve : e.resolve strategy with
  | heavy => rfl
  | normal =>
    rw [e.spin_of_normal hresolve] at h
    cases h

/-- What keeps a request from a round, other than being refused or cancelled, is in its spin. -/
lemma playRound_ends_iff (h : ¬∃ reason, request.Refused reason) :
    (∃ round, (e.playRound request now chance meter).1 = .ok round) ∨
        (e.playRound request now chance meter).1 = .error (.interrupted .cancelled) ↔
      (e.spin request.strategy chance meter).1 ≠ .error .oversized := by
  rw [playRound_of_not_refused h]
  rcases (e.spin request.strategy chance meter).1 with (_ | _) | outcome
  · exact iff_of_true (.inr rfl) nofun
  · refine iff_of_false ?_ (fun hne => hne rfl)
    rintro (⟨round, hround⟩ | hcancelled)
    · cases hround
    · cases hcancelled
  · exact iff_of_true (.inl ⟨_, rfl⟩) nofun

/-- A request is refused exactly for a missing user or, if there is one, for an invalid bet, and
then nothing has been drawn or looked at. For any other request the second check of its bet, when
the payout is reckoned, is passed whatever the outcome is; words and looks are those of the spin,
the round is made of the request and the outcome, and only a heavy spin is cancelled. There is a
round, or the spin is cancelled, unless the heavy strategy asks for lists that are too long. -/
theorem playRound_refuses_exactly (e : Engine) (request : SpinRequest) (now : Instant)
    (chance : Chance) (meter : Meter) :
    let played := e.playRound request now chance meter
    let spun := e.spin request.strategy chance meter
    (∀ reason, played.1 = .error (.refused reason) ↔ request.Refused reason) ∧
    ((∃ reason, request.Refused reason) → played.2 = meter) ∧
    ((¬∃ reason, request.Refused reason) →
      (∀ outcome, ∃ payout, Payout.ofBet request.bet outcome = .ok payout) ∧
      played.2 = spun.2 ∧
      (∀ round, played.1 = .ok round ↔
        ∃ outcome, spun.1 = .ok outcome ∧ round = roundOf request now outcome) ∧
      (played.1 = .error (.interrupted .cancelled) ↔
        spun.1 = .error .cancelled ∧ e.resolve request.strategy = .heavy) ∧
      ((∃ round, played.1 = .ok round) ∨ played.1 = .error (.interrupted .cancelled) ↔
        ¬(e.resolve request.strategy = .heavy ∧ (¬e.heavy.PrimesFit ∨ ∃ primes,
          (Primes.upward e.heavy.primeFloor e.heavy.primeCount chance meter).1 = .ok primes ∧
          ¬e.heavy.MatricesFit)))) := by
  intro played spun
  refine ⟨fun reason => playRound_eq_refused_iff, ?_, ?_⟩
  · rintro ⟨reason, hreason⟩
    rw [show played = _ from playRound_of_refused hreason]
  · intro hnone
    obtain ⟨hbet, -⟩ := SpinRequest.check_of_not_refused hnone
    refine ⟨fun outcome => ⟨_, Payout.ofBet_of_valid hbet outcome⟩, ?_,
      fun round => playRound_eq_ok_iff hnone, ?_, ?_⟩
    · rw [show played = _ from playRound_of_not_refused hnone]
    · rw [playRound_eq_interrupted_iff hnone, iff_self_and]
      exact resolve_of_cancelled
    · rw [playRound_ends_iff hnone, ← spin_eq_oversized_iff]

/-- A request of anna's for a heavy spin with more primes than a list can have: it is not refused,
but it is neither cancelled nor does it come to a round. -/
theorem playRound_oversized_ofAnna :
    ∃ e, (ofTable .reference 0.3).bind (·.withHeavy (idleSettings 0x1000000000000000 0)) = .ok e ∧
      (¬∃ reason, SpinRequest.Refused ⟨"anna", 10.0, .heavy⟩ reason) ∧
      ∀ now chance meter, (e.playRound ⟨"anna", 10.0, .heavy⟩ now chance meter).1 =
        .error (.interrupted .oversized) := by
  have hnone : ¬∃ reason, SpinRequest.Refused ⟨"anna", 10.0, .heavy⟩ reason :=
    SpinRequest.not_refused (by decide) (by decide +kernel) (by decide +kernel)
  refine ⟨_, rfl, hnone, fun now chance meter => ?_⟩
  rw [playRound_eq_interrupted_iff hnone]
  apply spin_eq_oversized_iff.2
  refine ⟨rfl, Or.inl ?_⟩
  show ¬(0x1000000000000000 : UInt64).toNat < Spin.maxLength
  decide

/-- A request without a user is refused, though its bet is no number either; ben's request, with
blanks around his name, comes to a round. -/
theorem playRound_refuses_exactly_ofBen :
    InvalidBet (0.0 / 0.0) ∧
    SpinRequest.Refused ⟨" \t", 0.0 / 0.0, .heavy⟩ .missingUser ∧
    (primeless.playRound ⟨" \t", 0.0 / 0.0, .heavy⟩ ⟨0, 0⟩ (.still 0) {}).1 =
      .error (.refused .missingUser) ∧
    (primeless.playRound ⟨" \t", 0.0 / 0.0, .heavy⟩ ⟨0, 0⟩ (.still 0) {}).2 = {} ∧
    (¬∃ reason, SpinRequest.Refused ⟨" ben ", 12.5, .normal⟩ reason) ∧
    (primeless.playRound ⟨" ben ", 12.5, .normal⟩ ⟨0, 0⟩ (.still 0) {}).1 =
      .ok ⟨none, "ben", 12.5, .winning .cherry .reference, 12.5 * 2.0, ⟨0, 0⟩⟩ := by
  have hbet : InvalidBet (0.0 / 0.0) := .inl (by decide +kernel)
  have hnobody : SpinRequest.Refused ⟨" \t", 0.0 / 0.0, .heavy⟩ .missingUser :=
    .missingUser (by decide)
  have hben : ¬∃ reason, SpinRequest.Refused ⟨" ben ", 12.5, .normal⟩ reason :=
    SpinRequest.not_refused (by decide) (by decide +kernel) (by decide +kernel)
  have hspun : (primeless.spin .normal (.still 0) {}).1 = .ok (.winning .cherry .reference) := rfl
  have hmade : roundOf ⟨" ben ", 12.5, .normal⟩ ⟨0, 0⟩ (.winning .cherry .reference) =
      ⟨none, "ben", 12.5, .winning .cherry .reference, 12.5 * 2.0, ⟨0, 0⟩⟩ := rfl
  obtain ⟨hrefused, hmeter, -⟩ :=
    playRound_refuses_exactly primeless ⟨" \t", 0.0 / 0.0, .heavy⟩ ⟨0, 0⟩ (.still 0) {}
  obtain ⟨-, -, hplayed⟩ :=
    playRound_refuses_exactly primeless ⟨" ben ", 12.5, .normal⟩ ⟨0, 0⟩ (.still 0) {}
  obtain ⟨-, -, hround, -, -⟩ := hplayed hben
  have hplay := (hround _).2 ⟨.winning .cherry .reference, hspun, hmade.symm⟩
  exact ⟨hbet, hnobody, (hrefused .missingUser).2 hnobody, hmeter ⟨.missingUser, hnobody⟩, hben,
    hplay⟩

end Engine

end SlotMachine
