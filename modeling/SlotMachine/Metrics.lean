import SlotMachine.Entries
import SlotMachine.Messages.Scenario
import SlotMachine.Metrics.Anomaly
import SlotMachine.Stats

/-!
# Metrics

A recorder holds what the service has counted and measured. Counters only grow. A gauge holds a
number that is set or added to. A series exists from the first time something is recorded in it.
-/

namespace SlotMachine

inductive Counter
  | spins
  | wins
  | spinFailures
  | anomalies (metric : String) (direction : Direction)
  deriving DecidableEq, Repr

inductive Gauge
  | betVolume
  | payoutVolume
  /-- The last value of the business metric with this name. -/
  | business (name : String)
  deriving DecidableEq, Repr

/-- What a business metric is measured in. It is told in reports and decides nothing. -/
inductive MetricUnit
  | currency
  | percent
  | none
  deriving DecidableEq, Repr

namespace MetricUnit

def key : MetricUnit → String
  | currency => "currency"
  | percent => "percent"
  | none => "none"

def ofKey? (key : String) : Option MetricUnit :=
  [currency, percent, none].find? (·.key == key)

end MetricUnit

structure Recorder where
  /-- Whether the metrics have been described. -/
  described : Bool := false
  counters : List (Counter × Nat) := []
  gauges : List (Gauge × Float) := []

namespace Recorder

variable (r : Recorder)

def count (c : Counter) : Nat := (r.counters.lookup c).getD 0

def gauge? (g : Gauge) : Option Float := r.gauges.lookup g

def increment (c : Counter) : Recorder :=
  { r with counters := adjust c 0 (· + 1) r.counters }

def addTo (g : Gauge) (x : Float) : Recorder :=
  { r with gauges := adjust g 0.0 (· + x) r.gauges }

def set (g : Gauge) (x : Float) : Recorder :=
  { r with gauges := adjust g 0.0 (fun _ => x) r.gauges }

/-! ### What the service records -/

/-- Sets a business metric. -/
def track (name : String) (value : Float) : Recorder := r.set (.business name) value

/-- The business metric of the return to the player within a period. -/
def rtpName (period : String) : String := BusinessMetric.rtp ++ "." ++ period

/-- Sets the return to the player within a period, and gives it. -/
def trackRtp (totalBets totalPayouts : Float) (period : String) : Float × Recorder :=
  let rtp := rtpPercent totalBets totalPayouts
  (rtp, r.track (rtpName period) rtp)

/-- Sets a business metric, counts the anomaly if there is one, and gives it. -/
def trackChecked (name : String) (value : Float) : Option Anomaly × Recorder :=
  let r := r.track name value
  match Anomaly.detect? name value with
  | some anomaly => (some anomaly, r.increment (.anomalies anomaly.metric anomaly.direction))
  | none => (none, r)

/-- Counts a spin and adds up its bet and payout. -/
def recordSpin (win : Bool) (bet payout : Float) : Recorder :=
  let r := r.increment .spins
  let r := if win then r.increment .wins else r
  (r.addTo .betVolume bet).addTo .payoutVolume payout

def recordFailure : Recorder := r.increment .spinFailures

end Recorder

/-! ### Scenarios -/

namespace Scenario

def run (r : Recorder) : Scenario → Recorder
  | rtpAnomaly =>
    ((r.trackChecked BusinessMetric.rtp 75.0).2.trackChecked BusinessMetric.rtp 99.5).2
  | sessionSurge =>
    (r.track BusinessMetric.activeSessions 150.0).track BusinessMetric.activeSessions 850.0
  | winRateManipulation => (r.trackChecked BusinessMetric.winRate 85.0).2
  | normal =>
    ((r.track BusinessMetric.rtp 95.5).track BusinessMetric.winRate 35.0).track
      BusinessMetric.activeSessions 250.0

/-- What is reported about a scenario that has been run. -/
def reply : Scenario → ScenarioReply
  | rtpAnomaly => {
    status := "RTP anomaly triggered"
    data := [("highRtp", .float 99.5), ("lowRtp", .float 75.0)] }
  | sessionSurge => {
    status := "Session surge triggered"
    data := [("normal", .int 150), ("surge", .int 850)] }
  | winRateManipulation => {
    status := "Win rate anomaly triggered"
    data := [("suspiciousRate", .float 85.0)] }
  | normal => { status := "Normal metrics tracked", data := [] }

end Scenario

end SlotMachine
