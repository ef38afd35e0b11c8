import SlotMachine.Metrics
import SlotMachine.Proofs.Binary64.Order

/-!
# Series of a recorder

What each operation of a recorder changes: one series, or a few, and no others. All of it rests on
what is looked up after one entry has been adjusted.
-/

namespace SlotMachine

/-! ### Anomalies of the return within a day -/

namespace Anomaly

lemma breach?_rtpRolling (x : Float) : breach? BusinessMetric.rtpRolling x =
    if x < 85.0 then some (85.0, .low) else if 98.0 < x then some (98.0, .high) else none :=
  rfl

/-- No return is both above the highest that is expected and below the lowest. -/
lemma not_low_of_high {x : Float} (h : 98.0 < x) : ¬x < 85.0 := by
  intro hlow
  have hthresholds : ¬(98.0 : Float) < 85.0 := by decide
  exact hthresholds (Binary64.lt_trans h hlow)

/-- Whether a return is beyond the threshold that lies in this direction. -/
def isBeyond (x : Float) : Direction → Bool
  | .low => x < 85.0
  | .high => 98.0 < x

end Anomaly

namespace Recorder

variable (r : Recorder) (c c' : Counter) (g g' : Gauge) (name name' : String) (x : Float)

/-! ### Counters and gauges -/

lemma count_increment : (r.increment c).count c' = r.count c' + if c' = c then 1 else 0 := by
  simp only [count, increment, lookup_adjust]
  split
  case isTrue h => simp [h]
  case isFalse => rfl

@[simp] lemma gauge?_increment : (r.increment c).gauge? g = r.gauge? g := rfl

@[simp] lemma count_addTo : (r.addTo g x).count c = r.count c := rfl

lemma gauge?_addTo : (r.addTo g x).gauge? g' =
    if g' = g then some ((r.gauge? g).getD 0.0 + x) else r.gauge? g' :=
  lookup_adjust g g' 0.0 (· + x) r.gauges

/-! ### Business metrics -/

@[simp] lemma count_track : (r.track name x).count c = r.count c := rfl

lemma gauge?_track : (r.track name x).gauge? g =
    if g = .business name then some x else r.gauge? g :=
  lookup_adjust (Gauge.business name) g 0.0 (fun _ => x) r.gauges

lemma count_trackChecked : (r.trackChecked name x).2.count c = r.count c +
    if c ∈ (Anomaly.breach? name x).map (fun breach => Counter.anomalies name breach.2) then 1
    else 0 := by
  unfold trackChecked Anomaly.detect?
  cases Anomaly.breach? name x with
  | none => rfl
  | some breach =>
    refine (count_increment _ _ c).trans ?_
    simp [eq_comm]

lemma gauges_trackChecked : (r.trackChecked name x).2.gauges = (r.track name x).gauges := by
  unfold trackChecked
  cases Anomaly.detect? name x with
  | none => rfl
  | some a => rfl

lemma gauge?_trackChecked : (r.trackChecked name x).2.gauge? g = (r.track name x).gauge? g :=
  congrArg (List.lookup g) (r.gauges_trackChecked name x)

lemma count_trackChecked_rtpRolling (direction : Direction) :
    (r.trackChecked BusinessMetric.rtpRolling x).2.count
      (.anomalies BusinessMetric.rtpRolling direction) =
    r.count (.anomalies BusinessMetric.rtpRolling direction) +
      if Anomaly.isBeyond x direction then 1 else 0 := by
  rw [count_trackChecked, Anomaly.breach?_rtpRolling]
  by_cases hlow : x < 85.0
  · have hhigh : ¬98.0 < x := fun h => Anomaly.not_low_of_high h hlow
    cases direction <;> simp [Anomaly.isBeyond, hlow, hhigh]
  · by_cases hhigh : 98.0 < x
    · cases direction <;> simp [Anomaly.isBeyond, hlow, hhigh]
    · cases direction <;> simp [Anomaly.isBeyond, hlow, hhigh]

/-! ### Spins -/

variable (win : Bool) (bet payout : Float)

lemma count_recordSpin : (r.recordSpin win bet payout).count c = r.count c +
    if c = .spins ∨ c = .wins ∧ win = true then 1 else 0 := by
  unfold recordSpin
  cases win with
  | false => simp [count_increment]
  | true =>
    simp only [count_addTo, if_true, count_increment, and_true]
    by_cases hspins : c = .spins
    · simp [hspins]
    · simp [hspins]

lemma gauge?_recordSpin : (r.recordSpin win bet payout).gauge? g =
    if g = .payoutVolume then some ((r.gauge? .payoutVolume).getD 0.0 + payout)
    else if g = .betVolume then some ((r.gauge? .betVolume).getD 0.0 + bet)
    else r.gauge? g := by
  unfold recordSpin
  cases win with
  | false => simp [gauge?_addTo]
  | true => simp [gauge?_addTo]

end Recorder

end SlotMachine
