import SlotMachine.Collaborators
import SlotMachine.Messages.Play
import SlotMachine.Metrics
import SlotMachine.Store

/-!
# The round service

A play draws a round and settles it: the round is saved, published and measured, the balance is
updated, and the wager, if there is a wager service, is placed. Only a request without a round and a
failed balance update make a play fail; whatever else fails is passed over.
-/

namespace SlotMachine

/-- The id under which wagers know the game. -/
def gameId : String := "slot-machine"

/-- Why a play fails. -/
inductive SpinError
  | refused (reason : RequestError)
  | cancelled
  /-- The spin broke down; a report tells how. -/
  | crashed (report : Option String)
  | collaborator (operation : String) (failure : Failure)

namespace SpinError

def message : SpinError → String
  | refused reason => reason.message
  | cancelled => "spin cancelled before completion"
  | crashed none => "spin task failed"
  | crashed (some report) => s!"spin task failed: {report}"
  | collaborator operation failure => s!"{operation} failed: {failure.message}"

/-- The status of the response that tells the error. -/
def status : SpinError → Nat
  | refused _ => 400
  | cancelled => 503
  | crashed _ => 500
  | collaborator _ _ => 500

def code : SpinError → ConnectCode
  | refused _ => .invalidArgument
  | _ => .internal

def ofPlayError : PlayError → SpinError
  | .refused reason => refused reason
  | .interrupted .cancelled => cancelled
  | .interrupted .oversized => crashed none

end SpinError

/-- A settled round with what is told about it. -/
structure Settlement where
  round : Round
  newBalance : Float
  progress : Option Json

def Settlement.toReply (s : Settlement) : PlayReply := .settled s.round s.newBalance s.progress

/-- A dialogue during which metrics are recorded. -/
abbrev Exchange := StateT Recorder (Dialogue Call.Reply)

namespace Exchange

def ask (c : Call) : Exchange c.Reply := StateT.lift (Dialogue.call c)

def save (round : Round) : Exchange (Except Failure Round) := ask (.save round)

def publish (event : RoundEvent) : Exchange (Except Failure Unit) := ask (.publish event)

def sessionStats (userId : String) : Exchange (Except Failure (Option SessionStats)) :=
  ask (.sessionStats userId sessionHours)

def rollingStats : Exchange (Except Failure (Option RollingStats)) :=
  ask (.rollingStats rollingHours)

def getBalance (userId : String) : Exchange (Except Failure Float) := ask (.getBalance userId)

def updateBalance (userId : String) (bet payout : Float) : Exchange (Except Failure Float) :=
  ask (.updateBalance userId bet payout)

def validateWager (userId : String) (amount : Float) : Exchange (Except Failure (Option Json)) :=
  ask (.validateWager userId amount gameId)

def placeWager (validation : Json) (result : WagerResult) (payout : Float) :
    Exchange (Except Failure (Option PlacedWager)) :=
  ask (.placeWager validation result payout)

/-! ### Steps of a settlement -/

/-- The saved round, or the round as it was if it could not be saved. -/
def persist (round : Round) : Exchange Round := do
  match ← save round with
  | .ok saved => pure saved
  | .error _ => pure round

def recordRound (round : Round) : Exchange Unit :=
  modify fun r =>
    let r := r.recordSpin round.outcome.win round.bet round.payout
    let r := r.track BusinessMetric.betVolume round.bet
    let r := r.track BusinessMetric.payoutVolume round.payout
    r.track BusinessMetric.winRate (if round.outcome.win then 100.0 else 0.0)

/-- The return of the user's session. -/
def recordSession (round : Round) : Exchange Unit := do
  match ← sessionStats round.userId with
  | .ok (some stats) =>
    modify fun r => (r.trackRtp stats.totalBets stats.totalPayouts "session").2
  | _ => pure ()

/-- The return of all users within a day, and whether it is an anomaly. -/
def recordRolling : Exchange Unit := do
  match ← rollingStats with
  | .ok (some stats) =>
    modify fun r =>
      let (rtp, r) := r.trackRtp stats.totalBets stats.totalPayouts "24h"
      (r.trackChecked BusinessMetric.rtpRolling rtp).2
  | _ => pure ()

/-- The balance after the round. It is read before it is updated, but what is read decides nothing.
-/
def applyBalance (round : Round) : Exchange (Except Failure Float) := do
  let _ ← getBalance round.userId
  updateBalance round.userId round.bet round.payout

/-- Places the wager that goes with the round, if there is one; tells its progress. -/
def wager (round : Round) : Exchange (Option Json) := do
  match ← validateWager round.userId round.bet with
  | .ok (some validation) =>
    match ← placeWager validation (.ofWin round.outcome.win) round.payout with
    | .ok (some placed) => pure placed.progress
    | _ => pure none
  | _ => pure none

end Exchange

structure Service where
  engine : Engine
  /-- Whether there is a wager service. -/
  wagers : Bool

namespace Service

variable (s : Service)

open Exchange

/-- Settles a round that has been drawn. -/
def settle (round : Round) (trace : Trace) : Exchange (Except SpinError Settlement) := do
  let round ← persist round
  let _ ← publish (.ofRound round trace)
  recordRound round
  recordSession round
  recordRolling
  match ← applyBalance round with
  | .error failure => pure (.error (.collaborator "balance update" failure))
  | .ok newBalance =>
    let progress ← if s.wagers then wager round else pure none
    pure (.ok { round, newBalance, progress })

/-- Counts a play that failed. -/
def counted {α : Type} (play : Exchange (Except SpinError α)) : Exchange (Except SpinError α) := do
  let result ← play
  match result with
  | .ok _ => pure ()
  | .error _ => modify Recorder.recordFailure
  pure result

/-- The settlement of what has been drawn. -/
def settleDrawn (drawn : Except PlayError Round) (trace : Trace) :
    Exchange (Except SpinError Settlement) :=
  counted <| match drawn with
    | .ok round => s.settle round trace
    | .error e => pure (.error (.ofPlayError e))

/-- Draws a round at the time `now`; the exchange that settles it follows. -/
def play (request : PlayRequest) (trace : Trace) (now : Instant) :
    Draw (Exchange (Except SpinError Settlement)) := do
  let drawn ← (s.engine.playRound request.toSpinRequest now).run
  pure (s.settleDrawn drawn trace)

/-- The status and the plain reply for a play that has come to an end. -/
def replyTo : Except SpinError Settlement → Nat × PlayReply
  | .ok settlement => (200, settlement.toReply)
  | .error e => (e.status, .failed e.message)

/-- Plays and tells the outcome in a plain reply. -/
def execute (request : PlayRequest) (trace : Trace) (now : Instant) :
    Draw (Exchange (Nat × PlayReply)) := do
  let exchange ← s.play request trace now
  pure (replyTo <$> exchange)

/-- Runs the scenario that is asked for. -/
def runScenario (request : ScenarioRequest) : Exchange ScenarioReply := do
  let scenario := Scenario.ofName request.scenario
  modify fun r => scenario.run r
  pure scenario.reply

end Service

end SlotMachine
