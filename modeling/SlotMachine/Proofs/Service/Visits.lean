import SlotMachine.Proofs.Service.Runs

/-!
# Plays one after the other

A visit is one request for a play with all that it meets when it is drawn: the time, and the words
that chance has for it. Visits follow each other at one service, whose recorder and collaborators
each visit finds as the last one left them.
-/

namespace SlotMachine

/-- A request for a play, and what it meets. -/
structure Visit where
  request : PlayRequest
  trace : Trace := []
  now : Instant
  chance : Chance
  meter : Meter := {}

/-- The same visit under another user id. -/
def Visit.withUser (v : Visit) (userId : String) : Visit :=
  { v with request := { v.request with userId } }

namespace Service

variable {σ : Type} (s : Service) (answer : (c : Call) → StateM σ c.Reply) (v : Visit)

/-- What is drawn in a visit. -/
def drawn : Except PlayError Round :=
  (s.engine.playRound v.request.toSpinRequest v.now v.chance v.meter).1

/-- The exchange with the collaborators in a visit. -/
def exchange : Exchange (Except SpinError Settlement) :=
  (s.play v.request v.trace v.now v.chance v.meter).1

lemma drawn_userId {s : Service} {v : Visit} {round : Round} (h : s.drawn v = .ok round) :
    round.userId = trim v.request.userId := by
  obtain ⟨_, _, -, -, -, rfl⟩ := Engine.playRound_eq_ok h
  rfl

lemma drawn_time {s : Service} {v : Visit} {round : Round} (h : s.drawn v = .ok round) :
    round.time = v.now := by
  obtain ⟨_, _, -, -, -, rfl⟩ := Engine.playRound_eq_ok h
  rfl

/-- What is said in a visit follows from what is drawn. -/
lemma exchange_eq : s.exchange v = s.settleDrawn (s.drawn v) v.trace :=
  s.play_apply v.request v.trace v.now v.chance v.meter

lemma visit_talk (recorder : Recorder) (state : σ) :
    PlayTalk s.wagers v.trace (s.drawn v) ((s.exchange v).said answer recorder state)
      ((s.exchange v).result answer recorder state) :=
  s.play_talk answer v.request v.trace v.now v.chance v.meter recorder state

/-- The recorder and the collaborators as a visit leaves them. -/
def afterVisit (start : Recorder × σ) : Recorder × σ :=
  ((s.exchange v).recorded answer start.1 start.2, (s.exchange v).left answer start.1 start.2)

/-- The recorder and the collaborators as visits leave them, one after the other. -/
def afterVisits (visits : List Visit) (start : Recorder × σ) : Recorder × σ :=
  visits.foldl (fun state v => s.afterVisit answer v state) start

lemma afterVisits_append (visits : List Visit) (start : Recorder × σ) :
    s.afterVisits answer (visits ++ [v]) start =
      s.afterVisit answer v (s.afterVisits answer visits start) := by
  simp only [afterVisits, List.foldl_append, List.foldl_cons, List.foldl_nil]

end Service

/-! ### User ids -/

lemma SpinRequest.check_congr {r r' : SpinRequest} (huser : trim r.userId = trim r'.userId)
    (hbet : r.bet = r'.bet) : r.check = r'.check := by
  simp only [check, huser, hbet]

lemma Engine.playRound_congr {r r' : SpinRequest} (e : Engine) (now : Instant)
    (huser : trim r.userId = trim r'.userId) (hbet : r.bet = r'.bet)
    (hstrategy : r.strategy = r'.strategy) : e.playRound r now = e.playRound r' now := by
  simp only [playRound, SpinRequest.check_congr huser hbet, hstrategy]

namespace Service

/-- A visit depends on no more of the user id than what is left of it without blanks around it. -/
lemma exchange_withUser (s : Service) {v : Visit} {userId : String}
    (h : trim userId = trim v.request.userId) : s.exchange (v.withUser userId) = s.exchange v := by
  have hround : s.engine.playRound (v.withUser userId).request.toSpinRequest v.now =
      s.engine.playRound v.request.toSpinRequest v.now :=
    s.engine.playRound_congr v.now h rfl rfl
  have hplay : s.play (v.withUser userId).request v.trace v.now =
      s.play v.request v.trace v.now := by
    simp only [play, hround]
  exact congrArg (fun draw => (draw v.chance v.meter).1) hplay

end Service

/-! ### A visit at which Anna wins -/

def Visit.ofAnna : Visit where
  request := .ofAnna
  now := ⟨0, 0⟩
  chance := .still 0

/-- A service that does without primes. -/
def Service.primeless : Service := ⟨.primeless, true⟩

lemma Service.drawn_ofAnna : primeless.drawn .ofAnna = .ok .ofAnna := playRound_ofAnna

end SlotMachine
