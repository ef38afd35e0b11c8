/-!
# Anomalies

Business metrics that have thresholds. The return to the player should stay between 85 and 98
percent, and the win rate should not be above 50 percent. A value that is not a number is no
anomaly.
-/

namespace SlotMachine

namespace BusinessMetric

def betVolume : String := "game.bet_volume"
def payoutVolume : String := "game.payout_volume"
def winRate : String := "game.win_rate"
def rtp : String := "game.rtp"
def rtpRolling : String := "game.rtp.rolling"
def activeSessions : String := "game.active_sessions"

end BusinessMetric

inductive Direction
  | low
  | high
  deriving DecidableEq, Repr

namespace Direction

def key : Direction → String
  | low => "low"
  | high => "high"

end Direction

structure Anomaly where
  metric : String
  value : Float
  threshold : Float
  direction : Direction

namespace Anomaly

def rtpLowest : Float := 85.0
def rtpHighest : Float := 98.0
def winRateHighest : Float := 50.0

/-- The threshold that a value of this metric is beyond. -/
def breach? (metric : String) (value : Float) : Option (Float × Direction) :=
  if metric = BusinessMetric.rtp ∨ metric = BusinessMetric.rtpRolling then
    if value < rtpLowest then some (rtpLowest, .low)
    else if value > rtpHighest then some (rtpHighest, .high)
    else none
  else if metric = BusinessMetric.winRate ∧ value > winRateHighest then
    some (winRateHighest, .high)
  else none

def detect? (metric : String) (value : Float) : Option Anomaly :=
  (breach? metric value).map fun (threshold, direction) => { metric, value, threshold, direction }

end Anomaly

end SlotMachine
