import SlotMachine.Proofs.Metrics.Series

/-!
# What a recorder shows after any operations

Every operation of a recorder, a scenario among them, is a list of steps: business metrics are set,
some of them are checked for anomalies, spins and failures are counted. What the recorder shows in
the end is told by the list of all steps: a business metric has the value that was set last, and a
counter is as large as the number of times it was counted.

Both are proved for one step and then by induction on the steps (`gauge?_afterSteps` and
`count_afterSteps`).
-/

namespace SlotMachine

/-! ### Anomalies -/

/-- Whether a value of a business metric is an anomaly in a direction. -/
def IsAnomaly (metric : String) (x : Float) : Direction → Prop
  | .low => (metric = "game.rtp" ∨ metric = "game.rtp.rolling") ∧ x < 85.0
  | .high => (metric = "game.rtp" ∨ metric = "game.rtp.rolling") ∧ 98.0 < x ∨
      metric = "game.win_rate" ∧ 50.0 < x

instance (metric : String) (x : Float) : (direction : Direction) →
    Decidable (IsAnomaly metric x direction)
  | .low => inferInstanceAs (Decidable (_ ∧ _))
  | .high => inferInstanceAs (Decidable (_ ∨ _))

namespace Anomaly

/-- The counter by which an anomaly is counted. -/
def counter (a : Anomaly) : Counter := .anomalies a.metric a.direction

variable {metric : String} {x : Float} {direction : Direction} {a : Anomaly}

/-- What is not a number is no anomaly. -/
lemma not_isAnomaly_of_isNaN (h : x.isNaN = true) : ¬IsAnomaly metric x direction := by
  have hnan : ¬x.isNaN = false := fun h' => Bool.noConfusion (h.symm.trans h')
  cases direction with
  | low =>
    rintro ⟨-, hlow⟩
    exact hnan (Binary64.isNaN_of_lt hlow).1
  | high =>
    rintro (⟨-, hhigh⟩ | ⟨-, hhigh⟩)
    · exact hnan (Binary64.isNaN_of_lt hhigh).2
    · exact hnan (Binary64.isNaN_of_lt hhigh).2

lemma detect?_of_rtp (h : metric = "game.rtp" ∨ metric = "game.rtp.rolling") :
    detect? metric x = if x < 85.0 then some ⟨metric, x, 85.0, .low⟩
      else if 98.0 < x then some ⟨metric, x, 98.0, .high⟩ else none := by
  have hbreach : breach? metric x =
      if x < 85.0 then some (85.0, .low) else if 98.0 < x then some (98.0, .high) else none :=
    if_pos h
  rw [detect?, hbreach]
  split_ifs <;> rfl

lemma detect?_of_winRate : detect? "game.win_rate" x =
    if 50.0 < x then some ⟨"game.win_rate", x, 50.0, .high⟩ else none := by
  have hrtp : ¬("game.win_rate" = "game.rtp" ∨ "game.win_rate" = "game.rtp.rolling") := by decide
  have hbreach : breach? "game.win_rate" x =
      if "game.win_rate" = "game.win_rate" ∧ 50.0 < x then some (50.0, .high) else none :=
    if_neg hrtp
  rw [detect?, hbreach]
  simp only [true_and]
  split_ifs <;> rfl

lemma detect?_of_other (hrtp : ¬(metric = "game.rtp" ∨ metric = "game.rtp.rolling"))
    (hwin : metric ≠ "game.win_rate") : detect? metric x = none := by
  have hbreach : breach? metric x =
      if metric = "game.win_rate" ∧ 50.0 < x then some (50.0, .high) else none :=
    if_neg hrtp
  rw [detect?, hbreach, if_neg fun h => hwin h.1]
  rfl

lemma map_counter_detect? : (detect? metric x).map counter =
    (breach? metric x).map fun breach => Counter.anomalies metric breach.2 :=
  Option.map_map ..

lemma mem_detect? (h : a ∈ detect? metric x) : a.metric = metric ∧ a.value = x := by
  obtain ⟨⟨threshold, direction⟩, -, rfl⟩ := Option.map_eq_some_iff.1 h
  exact ⟨rfl, rfl⟩

/-- An anomaly is found exactly in the direction in which there is one. -/
lemma exists_detect?_iff :
    (∃ a ∈ detect? metric x, a.direction = direction) ↔ IsAnomaly metric x direction := by
  by_cases hrtp : metric = "game.rtp" ∨ metric = "game.rtp.rolling"
  · have hwin : metric ≠ "game.win_rate" := by rcases hrtp with rfl | rfl <;> decide
    rw [detect?_of_rtp hrtp]
    by_cases hlow : x < 85.0
    · have hhigh : ¬98.0 < x := fun h => not_low_of_high h hlow
      cases direction <;> simp [IsAnomaly, hrtp, hwin, hlow, hhigh]
    · by_cases hhigh : 98.0 < x
      · cases direction <;> simp [IsAnomaly, hrtp, hlow, hhigh]
      · cases direction <;> simp [IsAnomaly, hwin, hlow, hhigh]
  · by_cases hwin : metric = "game.win_rate"
    · subst hwin
      rw [detect?_of_winRate]
      by_cases hhigh : 50.0 < x
      · cases direction <;> simp [IsAnomaly, hhigh]
      · cases direction <;> simp [IsAnomaly, hhigh]
    · rw [detect?_of_other hrtp hwin]
      cases direction <;> simp [IsAnomaly, hrtp, hwin]

/-- The counters by which the anomalies of a value are counted. -/
lemma mem_counter_iff {metric' : String} :
    Counter.anomalies metric' direction ∈ (detect? metric x).map counter ↔
      metric = metric' ∧ IsAnomaly metric' x direction := by
  rw [Option.mem_map]
  constructor
  · rintro ⟨a, ha, hcounter⟩
    obtain ⟨hmetric, hdirection⟩ := Counter.anomalies.inj hcounter
    obtain rfl : metric = metric' := (mem_detect? ha).1.symm.trans hmetric
    exact ⟨rfl, exists_detect?_iff.1 ⟨a, ha, hdirection⟩⟩
  · rintro ⟨rfl, hanomaly⟩
    obtain ⟨a, ha, rfl⟩ := exists_detect?_iff.2 hanomaly
    exact ⟨a, ha, congrArg (Counter.anomalies · a.direction) (mem_detect? ha).1⟩

end Anomaly

namespace Recorder

/-! ### Steps -/

/-- A single thing that is recorded. -/
inductive Step
  | track (name : String) (value : Float)
  | trackChecked (name : String) (value : Float)
  | recordSpin (win : Bool) (bet payout : Float)
  | recordFailure

namespace Step

/-- The business metric that is set, with its value. -/
def tracked? : Step → Option (String × Float)
  | track name value => some (name, value)
  | trackChecked name value => some (name, value)
  | recordSpin _ _ _ => none
  | recordFailure => none

/-- The business metric that is checked for an anomaly, with its value. -/
def checked? : Step → Option (String × Float)
  | trackChecked name value => some (name, value)
  | _ => none

/-- What is counted. -/
def counted : Step → List Counter
  | track _ _ => []
  | trackChecked name value => ((Anomaly.detect? name value).map Anomaly.counter).toList
  | recordSpin win _ _ => if win then [.spins, .wins] else [.spins]
  | recordFailure => [.spinFailures]

end Step

def afterStep (r : Recorder) : Step → Recorder
  | .track name value => r.track name value
  | .trackChecked name value => (r.trackChecked name value).2
  | .recordSpin win bet payout => r.recordSpin win bet payout
  | .recordFailure => r.recordFailure

def afterSteps (r : Recorder) (steps : List Step) : Recorder := steps.foldl afterStep r

/-- What a recorder can be asked to do. -/
inductive Operation
  | track (name : String) (value : Float)
  | trackRtp (totalBets totalPayouts : Float) (period : String)
  | trackChecked (name : String) (value : Float)
  | recordSpin (win : Bool) (bet payout : Float)
  | recordFailure
  | runScenario (scenario : Scenario)

def after (r : Recorder) : Operation → Recorder
  | .track name value => r.track name value
  | .trackRtp totalBets totalPayouts period => (r.trackRtp totalBets totalPayouts period).2
  | .trackChecked name value => (r.trackChecked name value).2
  | .recordSpin win bet payout => r.recordSpin win bet payout
  | .recordFailure => r.recordFailure
  | .runScenario scenario => scenario.run r

def afterAll (r : Recorder) (operations : List Operation) : Recorder := operations.foldl after r

namespace Operation

def steps : Operation → List Step
  | track name value => [.track name value]
  | trackRtp totalBets totalPayouts period =>
    [.track ("game.rtp." ++ period) (rtpPercent totalBets totalPayouts)]
  | trackChecked name value => [.trackChecked name value]
  | recordSpin win bet payout => [.recordSpin win bet payout]
  | recordFailure => [.recordFailure]
  | runScenario .rtpAnomaly => [.trackChecked "game.rtp" 75.0, .trackChecked "game.rtp" 99.5]
  | runScenario .sessionSurge =>
    [.track "game.active_sessions" 150.0, .track "game.active_sessions" 850.0]
  | runScenario .winRateManipulation => [.trackChecked "game.win_rate" 85.0]
  | runScenario .normal =>
    [.track "game.rtp" 95.5, .track "game.win_rate" 35.0, .track "game.active_sessions" 250.0]

/-- The business metrics that are set by operations, in order. -/
def tracked (operations : List Operation) : List (String × Float) :=
  (operations.flatMap steps).filterMap Step.tracked?

/-- The values that operations check for anomalies, in order. -/
def checked (operations : List Operation) : List (String × Float) :=
  (operations.flatMap steps).filterMap Step.checked?

end Operation

variable {r : Recorder} {c : Counter} {name metric : String} {x : Float} {direction : Direction}

lemma after_eq (operation : Operation) : r.after operation = r.afterSteps operation.steps := by
  cases operation with
  | track | trackChecked | recordSpin | recordFailure => rfl
  | trackRtp totalBets totalPayouts period =>
    have hname : rtpName period = "game.rtp." ++ period := by
      simp [rtpName, BusinessMetric.rtp]
    simp only [after, trackRtp, hname]
    rfl
  | runScenario scenario => cases scenario <;> rfl

lemma afterAll_eq (operations : List Operation) :
    r.afterAll operations = r.afterSteps (operations.flatMap Operation.steps) := by
  induction operations generalizing r with
  | nil => rfl
  | cons operation rest ih =>
    rw [List.flatMap_cons, afterSteps, List.foldl_append]
    exact ih.trans (congrArg (afterSteps · _) (after_eq operation))

/-! ### Counters -/

lemma count_toList (o : Option Counter) : o.toList.count c = if c ∈ o then 1 else 0 := by
  cases o with
  | none => rfl
  | some c' =>
    simp only [Option.toList_some, List.count_singleton, beq_iff_eq, Option.mem_some_iff]

lemma trackChecked_fst : (r.trackChecked name x).1 = Anomaly.detect? name x := by
  unfold trackChecked
  cases Anomaly.detect? name x with
  | none => rfl
  | some a => rfl

lemma count_trackChecked_eq : (r.trackChecked name x).2.count c = r.count c +
    if c ∈ (r.trackChecked name x).1.map Anomaly.counter then 1 else 0 := by
  rw [trackChecked_fst, Anomaly.map_counter_detect?]
  exact r.count_trackChecked c name x

lemma count_afterStep (step : Step) :
    (r.afterStep step).count c = r.count c + step.counted.count c := by
  cases step with
  | track name value => rfl
  | trackChecked name value =>
    refine count_trackChecked_eq.trans ?_
    rw [trackChecked_fst, Step.counted, count_toList]
  | recordSpin win bet payout =>
    refine (count_recordSpin r c win bet payout).trans ?_
    cases win <;> cases c <;> rfl
  | recordFailure =>
    refine (count_increment r .spinFailures c).trans ?_
    cases c <;> rfl

/-- A counter is as large as the number of times it was counted. -/
lemma count_afterSteps (steps : List Step) :
    (r.afterSteps steps).count c = r.count c + (steps.flatMap Step.counted).count c := by
  induction steps generalizing r with
  | nil => rfl
  | cons step rest ih =>
    rw [List.flatMap_cons, List.count_append, ← Nat.add_assoc, ← count_afterStep]
    exact ih

lemma count_anomalies_counted (steps : List Step) :
    (steps.flatMap Step.counted).count (.anomalies metric direction) =
      (steps.filterMap Step.checked?).countP
        fun (name, x) => name = metric ∧ IsAnomaly metric x direction := by
  induction steps with
  | nil => rfl
  | cons step rest ih =>
    rw [List.flatMap_cons, List.count_append, ih]
    cases step with
    | track | recordFailure => exact Nat.zero_add _
    | recordSpin win bet payout => cases win <;> exact Nat.zero_add _
    | trackChecked name x =>
      have hhead : (Step.trackChecked name x).counted.count (.anomalies metric direction) =
          if name = metric ∧ IsAnomaly metric x direction then 1 else 0 := by
        rw [Step.counted, count_toList]
        simp only [Anomaly.mem_counter_iff]
      have hchecked : (Step.trackChecked name x :: rest).filterMap Step.checked? =
          (name, x) :: rest.filterMap Step.checked? := rfl
      rw [hhead, hchecked, List.countP_cons, Nat.add_comm]
      simp only [decide_eq_true_iff]

lemma count_wins_counted_le (steps : List Step) :
    (steps.flatMap Step.counted).count .wins ≤ (steps.flatMap Step.counted).count .spins := by
  induction steps with
  | nil => exact Nat.le_refl _
  | cons step rest ih =>
    simp only [List.flatMap_cons, List.count_append]
    refine Nat.add_le_add ?_ ih
    cases step with
    | track | recordFailure => exact Nat.le_refl _
    | recordSpin win bet payout => cases win <;> exact Nat.le_of_ble_eq_true rfl
    | trackChecked name x =>
      have hwins : (Step.trackChecked name x).counted.count .wins = 0 := by
        rw [Step.counted, count_toList]
        refine if_neg fun h => ?_
        obtain ⟨a, -, ha⟩ := Option.mem_map.1 h
        cases ha
      rw [hwins]
      exact Nat.zero_le _

/-! ### Business metrics -/

lemma gauge?_afterStep (step : Step) : (r.afterStep step).gauge? (.business name) =
    (step.tracked?.toList.lookup name).or (r.gauge? (.business name)) := by
  cases step with
  | track other x =>
    refine (gauge?_track r (.business name) other x).trans ?_
    by_cases h : name = other
    · simp [Step.tracked?, h]
    · simp [Step.tracked?, List.lookup_cons, beq_false_of_ne h, h]
  | trackChecked other x =>
    refine (gauge?_trackChecked r (.business name) other x).trans ?_
    refine (gauge?_track r (.business name) other x).trans ?_
    by_cases h : name = other
    · simp [Step.tracked?, h]
    · simp [Step.tracked?, List.lookup_cons, beq_false_of_ne h, h]
  | recordSpin win bet payout => exact gauge?_recordSpin r (.business name) win bet payout
  | recordFailure => rfl

/-- A business metric has the value that was set last. -/
lemma gauge?_afterSteps (steps : List Step) : (r.afterSteps steps).gauge? (.business name) =
    ((steps.filterMap Step.tracked?).reverse.lookup name).or (r.gauge? (.business name)) := by
  induction steps generalizing r with
  | nil => rfl
  | cons step rest ih =>
    refine (ih (r := r.afterStep step)).trans ?_
    rw [gauge?_afterStep, ← Option.or_assoc, ← List.lookup_append]
    cases h : step.tracked? with
    | none => simp [List.filterMap_cons_none h]
    | some entry => simp [List.filterMap_cons_some h]

/-- Each gauge has one series at most. -/
def HasGaugesOnce (r : Recorder) : Prop := (r.gauges.map (·.1)).Nodup

lemma map_fst_adjust {α β : Type} [DecidableEq α] (key : α) (absent : β) (f : β → β)
    (entries : List (α × β)) : (adjust key absent f entries).map (·.1) =
      if key ∈ entries.map (·.1) then entries.map (·.1) else entries.map (·.1) ++ [key] := by
  induction entries with
  | nil => rfl
  | cons entry rest ih =>
    obtain ⟨k, v⟩ := entry
    by_cases h : k = key
    · simp [adjust, h]
    · simp only [adjust, h, if_false, List.map_cons, ih, List.mem_cons, Ne.symm h, false_or]
      split_ifs <;> rfl

lemma HasGaugesOnce.adjust (h : r.HasGaugesOnce) (g : Gauge) (f : Float → Float) :
    HasGaugesOnce { r with gauges := SlotMachine.adjust g 0.0 f r.gauges } := by
  unfold HasGaugesOnce
  rw [map_fst_adjust]
  split_ifs with hmem
  · exact h
  · exact List.nodup_append.2 ⟨h, List.nodup_singleton g, fun a ha b hb hab =>
      hmem (List.mem_singleton.1 hb ▸ hab ▸ ha)⟩

lemma HasGaugesOnce.afterStep (h : r.HasGaugesOnce) (step : Step) :
    (r.afterStep step).HasGaugesOnce := by
  cases step with
  | track name x => exact h.adjust _ _
  | trackChecked name x =>
    have htrack : (r.track name x).HasGaugesOnce := h.adjust _ _
    unfold HasGaugesOnce at htrack
    rwa [← gauges_trackChecked] at htrack
  | recordSpin win bet payout =>
    unfold Recorder.afterStep recordSpin
    cases win with
    | false => exact (HasGaugesOnce.adjust h _ _).adjust _ _
    | true => exact (HasGaugesOnce.adjust h _ _).adjust _ _
  | recordFailure => exact h

lemma HasGaugesOnce.afterSteps (h : r.HasGaugesOnce) (steps : List Step) :
    (r.afterSteps steps).HasGaugesOnce := by
  induction steps generalizing r with
  | nil => exact h
  | cons step rest ih => exact ih (h.afterStep step)

lemma HasGaugesOnce.mem_iff (h : r.HasGaugesOnce) (g : Gauge) :
    (g, x) ∈ r.gauges ↔ r.gauge? g = some x := by
  rw [gauge?, List.lookup_eq_some_iff]
  constructor
  · intro hmem
    obtain ⟨before, after, hgauges⟩ := List.append_of_mem hmem
    refine ⟨before, after, hgauges, fun entry hentry => ?_⟩
    unfold HasGaugesOnce at h
    rw [hgauges, List.map_append, List.nodup_append] at h
    exact bne_iff_ne.2 (h.2.2 _ (List.mem_map_of_mem hentry) _ List.mem_cons_self).symm
  · rintro ⟨before, after, hgauges, -⟩
    rw [hgauges]
    exact List.mem_append_right before List.mem_cons_self

/-- The value of a business metric is the last of those that it was set to. -/
def IsLast (name : String) (x : Float) (tracked : List (String × Float)) : Prop :=
  ∃ before after, tracked = before ++ (name, x) :: after ∧ ∀ entry ∈ after, entry.1 ≠ name

lemma lookup_reverse_eq_some_iff {tracked : List (String × Float)} :
    tracked.reverse.lookup name = some x ↔ IsLast name x tracked := by
  rw [List.lookup_eq_some_iff]
  constructor
  · rintro ⟨after, before, hreverse, hafter⟩
    refine ⟨before.reverse, after.reverse, ?_, fun entry hentry => ?_⟩
    · rw [← List.reverse_reverse tracked, hreverse]
      simp
    · exact (bne_iff_ne.1 (hafter entry (List.mem_reverse.1 hentry))).symm
  · rintro ⟨before, after, rfl, hafter⟩
    refine ⟨after.reverse, before.reverse, by simp, fun entry hentry => ?_⟩
    exact bne_iff_ne.2 (hafter entry (List.mem_reverse.1 hentry)).symm

/-! ### The main result -/

/-- After any operations on a recorder that had nothing recorded: there is one series for each
business metric that has been set and for no other, with the value to which exactly this one was set
last. The counter of the anomalies of a metric in a direction is the number of values that were
checked under this name and are anomalies in this direction, which nothing is that is not a number.
A check tells an anomaly exactly if there is one, and counts what it tells and nothing else.
Counters do not decrease, and there are not more wins than spins. -/
theorem shows_afterAll (described : Bool) (operations : List Operation) :
    let r := afterAll { described } operations
    (r.gauges.map (·.1)).Nodup ∧
    (∀ name x, (Gauge.business name, x) ∈ r.gauges ↔
      IsLast name x (Operation.tracked operations)) ∧
    (∀ metric direction, r.count (.anomalies metric direction) =
      (Operation.checked operations).countP
        fun (name, x) => name = metric ∧ IsAnomaly metric x direction) ∧
    (∀ metric x direction, x.isNaN = true → ¬IsAnomaly metric x direction) ∧
    (∀ name x, let told := (r.trackChecked name x).1
      (∀ a ∈ told, a.metric = name ∧ a.value = x) ∧
      (∀ direction, (∃ a ∈ told, a.direction = direction) ↔ IsAnomaly name x direction) ∧
      ∀ c, (r.trackChecked name x).2.count c =
        r.count c + if c ∈ told.map Anomaly.counter then 1 else 0) ∧
    (∀ more c, r.count c ≤ (r.afterAll more).count c) ∧
    r.count .wins ≤ r.count .spins := by
  intro r
  have hr : r = afterSteps { described } (operations.flatMap Operation.steps) :=
    afterAll_eq operations
  have hcount (c : Counter) :
      r.count c = ((operations.flatMap Operation.steps).flatMap Step.counted).count c := by
    rw [hr, count_afterSteps]
    exact Nat.zero_add _
  have honce : r.HasGaugesOnce := by
    rw [hr]
    exact HasGaugesOnce.afterSteps (r := { described }) List.nodup_nil _
  refine ⟨honce, fun name x => ?_, fun metric direction => ?_, fun metric x direction =>
    Anomaly.not_isAnomaly_of_isNaN, fun name x => ?_, fun more c => ?_, ?_⟩
  · rw [honce.mem_iff, hr, gauge?_afterSteps, ← lookup_reverse_eq_some_iff]
    exact iff_of_eq (congrArg (· = some x) Option.or_none)
  · rw [hcount, count_anomalies_counted]
    rfl
  · intro told
    have htold : told = Anomaly.detect? name x := trackChecked_fst
    refine ⟨fun a ha => ?_, fun direction => ?_, fun c => count_trackChecked_eq⟩
    · rw [htold] at ha
      exact Anomaly.mem_detect? ha
    · rw [htold]
      exact Anomaly.exists_detect?_iff
  · rw [afterAll_eq, count_afterSteps]
    exact Nat.le_add_right _ _
  · rw [hcount, hcount]
    exact count_wins_counted_le _

/-- A return within a period that goes by the name of the rolling one, which is not checked, values
at the thresholds and not a number, and a scenario. -/
def mixedOperations : List Operation :=
  [.trackChecked "game.rtp.rolling" 84.0, .trackRtp 200.0 100.0 "rolling",
    .trackChecked "game.rtp" 85.0, .trackChecked "game.win_rate" (0.0 / 0.0),
    .runScenario .rtpAnomaly, .recordSpin true 10.0 20.0, .recordSpin false 10.0 0.0]

theorem shows_afterAll_mixedOperations :
    let r := afterAll { } mixedOperations
    (Gauge.business "game.rtp.rolling", 50.0) ∈ r.gauges ∧
    (∀ x, (Gauge.business "game.rtp.session", x) ∉ r.gauges) ∧
    r.count (.anomalies "game.rtp.rolling" .low) = 1 ∧ r.count (.anomalies "game.rtp" .low) = 1 ∧
    r.count (.anomalies "game.rtp" .high) = 1 ∧
    (0.0 / 0.0 : Float).isNaN = true ∧ ¬IsAnomaly "game.win_rate" (0.0 / 0.0) .high ∧
    r.count .wins ≤ r.count .spins := by
  intro r
  obtain ⟨-, hgauges, hanomalies, hnan, -, -, hwins⟩ := shows_afterAll false mixedOperations
  refine ⟨(hgauges _ _).2 ⟨[_], _, rfl, by decide⟩, fun x h => ?_,
    (hanomalies _ _).trans (by decide), (hanomalies _ _).trans (by decide),
    (hanomalies _ _).trans (by decide), rfl, hnan _ _ _ rfl, hwins⟩
  obtain ⟨before, after, htracked, -⟩ := (hgauges _ _).1 h
  have hmem : ("game.rtp.session", x) ∈ Operation.tracked mixedOperations := by
    rw [htracked]
    exact List.mem_append_right before List.mem_cons_self
  have hname : "game.rtp.session" ∉ (Operation.tracked mixedOperations).map (·.1) := by decide
  exact hname (List.mem_map_of_mem hmem)

end Recorder

end SlotMachine
