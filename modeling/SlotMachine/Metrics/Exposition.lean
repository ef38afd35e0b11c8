import SlotMachine.Metrics

/-!
# Exposition of metrics

How series are named for those who collect them: the name of the metric and its labels in braces.
Each metric that has a series has a comment on its type, and one on its meaning if the metrics have
been described.
-/

namespace SlotMachine

/-- Escapes a label. A backslash counts as an escape that is already there if another backslash or a
quote follows, and is otherwise escaped itself. -/
def escapeLabel (pending : Bool) : List Char → List Char
  | [] => if pending then ['\\', '\\'] else []
  | c :: rest =>
    if c = '\n' then '\\' :: 'n' :: escapeLabel pending rest
    else if c = '"' then '\\' :: '"' :: escapeLabel false rest
    else if c = '\\' then
      if pending then '\\' :: '\\' :: escapeLabel false rest else escapeLabel true rest
    else if pending then '\\' :: '\\' :: c :: escapeLabel false rest
    else c :: escapeLabel false rest

/-- A series with its labels. -/
def seriesText (name : String) (labels : List (String × String)) : String :=
  let label (entry : String × String) :=
    entry.1 ++ "=\"" ++ String.ofList (escapeLabel false entry.2.toList) ++ "\""
  if labels.isEmpty then name
  else name ++ "\x7b" ++ String.intercalate "," (labels.map label) ++ "\x7d"

namespace Counter

def metricName : Counter → String
  | spins => "game_engine_spins_total"
  | wins => "game_engine_wins_total"
  | spinFailures => "game_engine_spin_failures_total"
  | anomalies _ _ => "game_engine_anomalies_total"

def help : Counter → String
  | spins => "Settled spins."
  | wins => "Settled winning spins."
  | spinFailures => "Failed spins."
  | anomalies _ _ => "Business metric anomalies detected."

def labels : Counter → List (String × String)
  | anomalies metric direction => [("metric", metric), ("direction", direction.key)]
  | _ => []

end Counter

namespace Gauge

def metricName : Gauge → String
  | betVolume => "game_engine_bet_volume"
  | payoutVolume => "game_engine_payout_volume"
  | business _ => "game_engine_business_metric"

def help : Gauge → String
  | betVolume => "Sum of settled bets."
  | payoutVolume => "Sum of settled payouts."
  | business _ => "Latest business metric value."

def labels : Gauge → List (String × String)
  | business name => [("name", name)]
  | _ => []

end Gauge

namespace Recorder

variable (r : Recorder)

/-- The value of each series under its text. -/
def samples : List (String × Float) :=
  r.counters.map (fun (c, n) => (seriesText c.metricName c.labels, n.toUInt64.toFloat)) ++
    r.gauges.map (fun (g, x) => (seriesText g.metricName g.labels, x))

/-- The comments on the metrics that have a series, each once. -/
def comments : List String :=
  let about (name type help : String) : List String :=
    (if r.described then [s!"# HELP {name} {help}"] else []) ++ [s!"# TYPE {name} {type}"]
  (r.counters.flatMap (fun (c, _) => about c.metricName "counter" c.help) ++
    r.gauges.flatMap (fun (g, _) => about g.metricName "gauge" g.help)).eraseDups

end Recorder

end SlotMachine
