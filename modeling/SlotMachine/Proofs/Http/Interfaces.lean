import SlotMachine.Proofs.Http.Bodies
import SlotMachine.Proofs.Service.House

/-!
# Two interfaces to one play

A request for a spin that comes in through the plain interface and the same request through the
Connect interface are served alike: the same words are drawn, the same is said to the collaborators
and recorded, and the responses have the same status and tell the same, each in its own spelling.

What responses tell is read from them member by member, as their receivers do.
-/

namespace SlotMachine

/-! ### Effects -/

/-- From here on, two exchanges say the same, record the same and leave the collaborators in the
same state. -/
structure Exchange.SameEffects {α β σ : Type} (answer : (c : Call) → StateM σ c.Reply)
    (recorder : Recorder) (state : σ) (x : Exchange α) (y : Exchange β) : Prop where
  said : x.said answer recorder state = y.said answer recorder state
  recorded : x.recorded answer recorder state = y.recorded answer recorder state
  left : x.left answer recorder state = y.left answer recorder state

namespace Http

/-! ### What responses tell -/

/-- The member with this name in the object that a response tells. -/
def Response.member? (response : Response) (name : String) : Option Json :=
  match response.body with
  | .json value => value.get? name
  | _ => none

/-- The number that an object has under this name; zero if there is none. -/
def numberUnder (name : String) (value : Json) : Float :=
  match value.get? name with
  | some (.int n) => Json.wholeToFloat n
  | some (.float x) => x
  | _ => 0.0

/-- Whether an object has the value true under this name. -/
def truthUnder (name : String) (value : Json) : Bool :=
  match value.get? name with
  | some (.bool b) => b
  | _ => false

/-- The Connect spelling of the progress that a wager service has told. -/
def progressTold (value : Json) : Json :=
  .object [("progressPercent", .float (numberUnder "progress_percent" value)),
    ("remaining", .float (numberUnder "remaining" value)),
    ("canConvert", .bool (truthUnder "can_convert" value))]

/-- The response is a success and tells what has been settled; the interfaces have different names
for the balance. -/
structure Response.Tells (response : Response) (settlement : Settlement) (balanceName : String) :
    Prop where
  status : response.status = 200
  win : response.member? "win" = some (.bool settlement.round.outcome.win)
  payout : response.member? "payout" = some (.float settlement.round.payout)
  symbols : response.member? "symbols" =
    some (.array (settlement.round.outcome.reels.toList.map Symbol.toJson))
  newBalance : response.member? balanceName = some (.float settlement.newBalance)

/-- The two responses to a play that has been settled. -/
structure SettledAlike (settlement : Settlement) (plain connect : Response) : Prop where
  plainTells : plain.Tells settlement "new_balance"
  connectTells : connect.Tells settlement "newBalance"
  plainProgress : plain.member? "wagering_progress" = settlement.progress
  connectProgress : connect.member? "wageringProgress" =
    (plain.member? "wagering_progress").map progressTold
  noError : plain.member? "error" = none

/-- The two responses to a play that has failed. -/
structure FailedAlike (e : SpinError) (plain connect : Response) : Prop where
  error : plain.member? "error" = some (.string e.message)
  message : connect.member? "message" = plain.member? "error"
  win : plain.member? "win" = some (.bool false)
  payout : plain.member? "payout" = some (.float 0.0)
  symbols : plain.member? "symbols" = some (.array [])
  newBalance : plain.member? "new_balance" = some (.float 0.0)

/-! ### Responses to a play -/

lemma numberUnder_eq (name : String) (value : Json) :
    ((value.get? name).bind Json.number?).getD 0.0 = numberUnder name value := by
  unfold numberUnder
  cases value.get? name with
  | none => rfl
  | some value => cases value <;> rfl

lemma truthUnder_eq (name : String) (value : Json) :
    ((value.get? name).bind Json.bool?).getD false = truthUnder name value := by
  unfold truthUnder
  cases value.get? name with
  | none => rfl
  | some value => cases value <;> rfl

lemma progress_toJson (value : Json) :
    (WageringProgress.ofJson value).toJson = progressTold value := by
  simp only [WageringProgress.toJson, WageringProgress.ofJson, numberUnder_eq, truthUnder_eq,
    progressTold]

/-- The plain response to a play that has come to an end. -/
def plainSettled (result : Except SpinError Settlement) : Response :=
  .json (Service.replyTo result).1 (Service.replyTo result).2.toJson

variable (settlement : Settlement) (e : SpinError)

lemma plainSettled_tells : (plainSettled (.ok settlement)).Tells settlement "new_balance" where
  status := rfl
  win := rfl
  payout := rfl
  symbols := rfl
  newBalance := rfl

lemma connectSettled_tells : (connectSettled (.ok settlement)).Tells settlement "newBalance" where
  status := rfl
  win := rfl
  payout := rfl
  symbols := rfl
  newBalance := rfl

lemma plainProgress_eq :
    (plainSettled (.ok settlement)).member? "wagering_progress" = settlement.progress := by
  obtain ⟨round, newBalance, progress⟩ := settlement
  cases progress with
  | none => rfl
  | some value => rfl

lemma connectProgress_eq : (connectSettled (.ok settlement)).member? "wageringProgress" =
    settlement.progress.map progressTold := by
  obtain ⟨round, newBalance, progress⟩ := settlement
  cases progress with
  | none => rfl
  | some value => exact congrArg some (progress_toJson value)

lemma plainError_eq_none : (plainSettled (.ok settlement)).member? "error" = none := by
  obtain ⟨round, newBalance, progress⟩ := settlement
  cases progress with
  | none => rfl
  | some value => rfl

lemma settledAlike :
    SettledAlike settlement (plainSettled (.ok settlement)) (connectSettled (.ok settlement)) where
  plainTells := plainSettled_tells settlement
  connectTells := connectSettled_tells settlement
  plainProgress := plainProgress_eq settlement
  connectProgress := by rw [plainProgress_eq, connectProgress_eq]
  noError := plainError_eq_none settlement

lemma failedAlike : FailedAlike e (plainSettled (.error e)) (connectSettled (.error e)) where
  error := rfl
  message := rfl
  win := rfl
  payout := rfl
  symbols := rfl
  newBalance := rfl

/-- Only to a play that is cancelled the interfaces give statuses of their own. -/
lemma status_eq {result : Except SpinError Settlement} (h : result ≠ .error .cancelled) :
    (plainSettled result).status = (connectSettled result).status := by
  cases result with
  | ok settlement => rfl
  | error e =>
    cases e with
    | cancelled => exact absurd rfl h
    | refused reason => rfl
    | crashed report => rfl
    | collaborator operation failure => rfl

/-! ### Requests for a spin -/

namespace Server

variable (s : Server) {r r' : Request} {request : PlayRequest}

lemma calculate_apply (h : restBody PlayRequest.decoder r = .ok request) (now : Instant)
    (chance : Chance) (meter : Meter) :
    s.calculate r now chance meter =
      let play := s.service.play request r.trace now chance meter
      ((fun reply => Response.json reply.1 reply.2.toJson) <$> Service.replyTo <$> play.1,
        play.2) := by
  simp only [calculate, h, Service.execute, Draw.bind_apply, Draw.pure_apply]

lemma connectCalculate_apply (h : connectBody PlayRequest.decoder {} r = .ok request)
    (now : Instant) (chance : Chance) (meter : Meter) :
    s.connectCalculate r now chance meter =
      let play := s.service.play request r.trace now chance meter
      (connectSettled <$> play.1, play.2) := by
  simp only [connectCalculate, h, Draw.bind_apply, Draw.pure_apply]

/-- Whatever is drawn, and however the collaborators behave, it makes no difference for a play by
which interface it was asked for. -/
theorem calculate_alike (hplain : restBody PlayRequest.decoder r = .ok request)
    (hconnect : connectBody PlayRequest.decoder {} r' = .ok request) (htrace : r.trace = r'.trace)
    (now : Instant) (chance : Chance) (meter : Meter) {σ : Type}
    (answer : (c : Call) → StateM σ c.Reply) (recorder : Recorder) (state : σ) :
    let play := s.service.play request r.trace now chance meter
    let plain := s.calculate r now chance meter
    let connect := s.connectCalculate r' now chance meter
    let result := play.1.result answer recorder state
    let plainResponse := plain.1.result answer recorder state
    let connectResponse := connect.1.result answer recorder state
    plain.2 = connect.2 ∧
    Exchange.SameEffects answer recorder state plain.1 connect.1 ∧
    (chance.Unraised → plainResponse.status = connectResponse.status) ∧
    (∀ settlement, result = .ok settlement →
      SettledAlike settlement plainResponse connectResponse) ∧
    (∀ e, result = .error e → FailedAlike e plainResponse connectResponse) := by
  have hcancelled := s.service.play_ne_cancelled answer request r.trace now chance meter recorder
    state
  dsimp only
  rw [s.calculate_apply hplain, s.connectCalculate_apply hconnect, ← htrace]
  -- nothing depends on what is drawn, so that the play may be any exchange
  generalize s.service.play request r.trace now chance meter = play at hcancelled ⊢
  rw [Exchange.result_map, Exchange.result_map, Exchange.result_map]
  refine ⟨rfl, ⟨?_, ?_, ?_⟩, ?_, ?_, ?_⟩
  · simp only [Exchange.said_map]
  · simp only [Exchange.recorded_map]
  · simp only [Exchange.left_map]
  · intro hflag
    exact status_eq (hcancelled hflag)
  · intro settlement hresult
    rw [hresult]
    exact settledAlike settlement
  · intro e hresult
    rw [hresult]
    exact failedAlike e

end Server

/-! ### A request that both interfaces take -/

deriving instance DecidableEq for PlayRequest

def asciiBytes (text : String) : Bytes := text.toList.map fun c => c.toNat.toUInt8

def Request.ofAnna : Request where
  method := "POST"
  target := "/calculate"
  headers := [("Content-Type", asciiBytes "application/json")]
  body := asciiBytes "\x7b\"userId\": \" anna \", \"bet\": 10\x7d"

lemma restBody_ofAnna : restBody PlayRequest.decoder .ofAnna = .ok .ofAnna := by
  decide +kernel

lemma connectBody_ofAnna : connectBody PlayRequest.decoder {} .ofAnna = .ok .ofAnna :=
  connectPlay_of_restPlay restBody_ofAnna

/-- Progress that does not tell all it should, and tells some of it in words. -/
def halfway : Json := .object [("progress_percent", .int 50), ("remaining", .string "half")]

/-- Anna has a bonus. -/
def besideBonus : Surroundings where
  now _ := ⟨0, 0⟩
  id n := toString n
  validated _ := .ok (some .null)
  placed _ := .ok (some ⟨none, some halfway⟩)

/-- The round pays, and both responses tell it with the progress of the bonus. -/
theorem calculate_alike_ofAnna :
    let s : Server := { service := .primeless, surfaces := ⟨true, true⟩ }
    let answer := House.answer besideBonus
    let plain := s.calculate .ofAnna ⟨0, 0⟩ (.still 0) {}
    let connect := s.connectCalculate .ofAnna ⟨0, 0⟩ (.still 0) {}
    SettledAlike ⟨Round.ofAnna.withId "0", 1010.0, some halfway⟩
      (plain.1.result answer {} (.fresh 1000.0)) (connect.1.result answer {} (.fresh 1000.0)) := by
  have halike := Server.calculate_alike { service := .primeless, surfaces := ⟨true, true⟩ }
    restBody_ofAnna connectBody_ofAnna rfl ⟨0, 0⟩ (.still 0) {} (House.answer besideBonus) {}
    (.fresh 1000.0)
  obtain ⟨-, -, -, hsettled, -⟩ := halike
  refine hsettled _ ?_
  have hdrawn : (Service.primeless.engine.playRound PlayRequest.ofAnna.toSpinRequest ⟨0, 0⟩
      (.still 0) {}).1 = .ok .ofAnna := playRound_ofAnna
  rw [Service.play_apply, hdrawn]
  rfl

end Http

end SlotMachine
