import Mathlib.Data.List.TakeWhile
import SlotMachine.Proofs.Store.Retention

/-!
# Expired rounds that are kept

A save drops expired rounds from the front of the store alone, up to the first round that has not
expired. What it keeps is told exactly (`rounds_afterSaves`): of the rounds that had not expired
when they were saved, all from the first one on that has not expired yet. So no round of the window
is missing, but a round that expires behind one that does not is kept.

The invariant is `Lags`: what has been dropped already would be dropped by every later save as well.
-/

namespace SlotMachine

namespace Store

/-! ### Dropping from the front -/

section

variable {α : Type} {p q : α → Bool}

/-- What is dropped first may as well be dropped later, with more. -/
lemma dropWhile_dropWhile_append (h : ∀ a, p a = true → q a = true) (l more : List α) :
    (l.dropWhile p ++ more).dropWhile q = (l ++ more).dropWhile q := by
  induction l with
  | nil => rfl
  | cons a l ih =>
    cases ha : p a with
    | true => simp [ha, h a ha, ih]
    | false => simp [ha]

/-- Everything with the property is dropped, unless it stands behind something without it. -/
lemma forall_mem_dropWhile_iff (l : List α) :
    (∀ a ∈ l.dropWhile p, p a = false) ↔
      ∀ before a after, l = before ++ a :: after → p a = true → ∀ b ∈ before, p b = true := by
  constructor
  · rintro h before a after rfl ha b hb
    by_contra hb'
    have hne : before.dropWhile p ≠ [] := fun hnil => hb' (List.dropWhile_eq_nil_iff.1 hnil b hb)
    have hmem : a ∈ (before ++ a :: after).dropWhile p := by
      simp [List.dropWhile_append, hne]
    simp [h a hmem] at ha
  · intro h a ha
    by_contra ha'
    obtain ⟨x, y, hxy⟩ := List.append_of_mem ha
    have hl : l = (l.takeWhile p ++ x) ++ a :: y := by
      rw [List.append_assoc, ← hxy, List.takeWhile_append_dropWhile]
    have hx := h _ a y hl (by simpa using ha')
    -- the first entry that is not dropped is `a` itself, or stands before it
    have hhead := List.head_dropWhile_not p (l := l) (List.ne_nil_of_mem ha)
    cases x with
    | nil => simp [hxy] at hhead; exact ha' hhead
    | cons b x => simp [hxy, hx b (by simp)] at hhead

end

/-! ### Saves -/

/-- The round as it is saved, unless it has expired already. -/
def SaveCall.admitted? (c : SaveCall) : Option Round :=
  match windowStart c.now rollingHours with
  | .ok cutoff => if c.round.time < cutoff then none else some (c.round.withId c.id)
  | .error _ => none

/-- The rounds that had not expired when they were saved, in the order of the saves. -/
def admitted (calls : List SaveCall) : List Round := calls.filterMap SaveCall.admitted?

variable {s : Store} {c : SaveCall} {cutoff : Instant}

lemma admitted_append (calls : List SaveCall) (c : SaveCall) :
    admitted (calls ++ [c]) = admitted calls ++ c.admitted?.toList := by
  cases hc : c.admitted? <;> simp [admitted, hc]

lemma rounds_afterSave (h : windowStart c.now rollingHours = .ok cutoff) :
    (s.afterSave c).rounds = (s.rounds ++ c.admitted?.toList).dropWhile (·.time < cutoff) := by
  unfold afterSave SaveCall.admitted?
  rw [save_of_ok h, h]
  simp only [keep, Instant.isBefore_eq, decide_eq_true_iff]
  by_cases hround : c.round.time < cutoff
  · simp [hround, Round.withId]
  · simp only [hround, Round.withId, if_false, Option.toList_some, List.dropWhile_append]
    split
    case isTrue hnil => simp [List.isEmpty_iff.1 hnil, hround]
    case isFalse => rfl

/-- From `now` on, a save finds the same rounds to drop as if none had been dropped before. -/
def Lags (s : Store) (rounds : List Round) (now : Instant) : Prop :=
  ∀ later cutoff more, now ≤ later → windowStart later rollingHours = .ok cutoff →
    (s.rounds ++ more).dropWhile (·.time < cutoff) = (rounds ++ more).dropWhile (·.time < cutoff)

lemma Lags.mono {rounds : List Round} {now later : Instant} (h : s.Lags rounds now)
    (hle : now ≤ later) : s.Lags rounds later :=
  fun later' cutoff more hle' => h later' cutoff more (hle.trans hle')

lemma Lags.afterSave {rounds : List Round} (h : s.Lags rounds c.now) :
    (s.afterSave c).Lags (rounds ++ c.admitted?.toList) c.now := by
  intro later cutoff more hle hcutoff
  cases hc : windowStart c.now rollingHours with
  | error e =>
    have hround : c.admitted? = none := by simp [SaveCall.admitted?, hc]
    rw [Store.afterSave, save_of_error hc, hround]
    simpa using h later cutoff more hle hcutoff
  | ok cutoff' =>
    have hmono : cutoff' ≤ cutoff :=
      Instant.hoursBefore?_mono hle le_rfl (windowStart_eq_ok.1 hc) (windowStart_eq_ok.1 hcutoff)
    rw [rounds_afterSave hc, dropWhile_dropWhile_append, List.append_assoc, List.append_assoc]
    · exact h later cutoff _ hle hcutoff
    · intro round hround
      simp only [decide_eq_true_iff] at hround ⊢
      exact hround.trans_le hmono

/-- Saves in the order of the clock, from an empty store on; the induction is on the last save. -/
lemma lags_afterSaves (hs : s.rounds = []) {calls : List SaveCall}
    (hclock : calls.Pairwise (·.now ≤ ·.now)) {now : Instant} (hnow : ∀ c ∈ calls, c.now ≤ now) :
    (s.afterSaves calls).Lags (admitted calls) now := by
  induction calls using List.reverseRecOn generalizing now with
  | nil =>
    intro later cutoff more _ _
    simp [afterSaves, admitted, hs]
  | append_singleton calls c ih =>
    obtain ⟨hcalls, -, hlast⟩ := List.pairwise_append.1 hclock
    have hlags := ih hcalls fun c' hc' => hlast c' hc' c (List.mem_singleton_self c)
    rw [admitted_append, afterSaves, List.foldl_append]
    exact hlags.afterSave.mono (hnow c (by simp))

/-- What is left after the last save. -/
lemma rounds_afterSaves (hs : s.rounds = []) {calls : List SaveCall}
    (hclock : (calls ++ [c]).Pairwise (·.now ≤ ·.now))
    (hcutoff : windowStart c.now rollingHours = .ok cutoff) :
    (s.afterSaves (calls ++ [c])).rounds =
      (admitted (calls ++ [c])).dropWhile (·.time < cutoff) := by
  obtain ⟨hcalls, -, hlast⟩ := List.pairwise_append.1 hclock
  have hlags : (s.afterSaves calls).Lags (admitted calls) c.now :=
    lags_afterSaves hs hcalls fun c' hc' => hlast c' hc' c (List.mem_singleton_self c)
  have hafter : s.afterSaves (calls ++ [c]) = (s.afterSaves calls).afterSave c := by
    simp [afterSaves]
  rw [hafter, rounds_afterSave hcutoff, hlags c.now cutoff _ le_rfl hcutoff, admitted_append]

/-! ### The main result -/

/-- After every save the store has all rounds of the window that have ever been saved, in the order
in which they were. It has no other rounds exactly if no round that has expired since it was saved
was saved after one that has not. -/
theorem expired_kept_iff (defaultBalance : Float) {calls : List SaveCall} {c : SaveCall}
    {cutoff : Instant} (hclock : (calls ++ [c]).Pairwise (·.now ≤ ·.now))
    (hcutoff : windowStart c.now rollingHours = .ok cutoff) :
    let s := afterSaves { defaultBalance } (calls ++ [c])
    s.rounds.filter (cutoff ≤ ·.time) = (history (calls ++ [c])).filter (cutoff ≤ ·.time) ∧
    ((∃ round ∈ s.rounds, round.time < cutoff) ↔
      ∃ before round after, admitted (calls ++ [c]) = before ++ round :: after ∧
        round.time < cutoff ∧ ∃ kept ∈ before, cutoff ≤ kept.time) := by
  intro s
  have hnow : ∀ c' ∈ calls ++ [c], c'.now ≤ c.now := by
    obtain ⟨-, -, hlast⟩ := List.pairwise_append.1 hclock
    intro c' hc'
    rcases List.mem_append.1 hc' with hc' | hc'
    · exact hlast c' hc' c (List.mem_singleton_self c)
    · rw [List.mem_singleton.1 hc']
  constructor
  · have hshows := shows_afterSaves (s := { defaultBalance }) rfl hclock hnow
    rw [← roundsSince_eq]
    exact hshows c.now rollingHours cutoff le_rfl le_rfl hcutoff
  · have hkept := forall_mem_dropWhile_iff (p := fun round : Round => decide (round.time < cutoff))
      (admitted (calls ++ [c]))
    rw [← rounds_afterSaves (s := { defaultBalance }) rfl hclock hcutoff] at hkept
    have hiff := not_congr hkept
    push Not at hiff
    simpa using hiff

/-- When the clock has gone on for two hours, the last save keeps a round that has expired. -/
theorem expired_kept_lateSaves :
    lateSaves.Pairwise (·.now ≤ ·.now) ∧
    lateSaves.getLast?.map (·.now) = some ⟨7200, 0⟩ ∧
    windowStart ⟨7200, 0⟩ rollingHours = .ok ⟨-79200, 0⟩ ∧
    ∃ round ∈ (afterSaves { defaultBalance := 0.0 } lateSaves).rounds,
      round.time < ⟨-79200, 0⟩ := by
  have hexpired : (⟨-82800, 0⟩ : Instant) < ⟨-79200, 0⟩ := by decide
  exact ⟨by decide, rfl, rfl, _, List.mem_cons_of_mem _ List.mem_cons_self, hexpired⟩

theorem expired_kept_iff_lateSaves :
    let calls := lateSaves.take 3
    let c : SaveCall := lateSaves[3]
    let s := afterSaves { defaultBalance := 0.0 } (calls ++ [c])
    (calls ++ [c]).Pairwise (·.now ≤ ·.now) ∧
    windowStart c.now rollingHours = .ok ⟨-79200, 0⟩ ∧
    (s.rounds.filter ((⟨-79200, 0⟩ : Instant) ≤ ·.time)).map (·.id) = [some "a", some "d"] ∧
    ∃ round ∈ s.rounds, round.time < ⟨-79200, 0⟩ := by
  intro calls c s
  have hclock : (calls ++ [c]).Pairwise (·.now ≤ ·.now) := by decide
  have hcutoff : windowStart c.now rollingHours = .ok ⟨-79200, 0⟩ := rfl
  obtain ⟨hwindow, hkept⟩ := expired_kept_iff 0.0 hclock hcutoff
  have hids : ((history (calls ++ [c])).filter ((⟨-79200, 0⟩ : Instant) ≤ ·.time)).map (·.id) =
      [some "a", some "d"] := rfl
  refine ⟨hclock, hcutoff, by rw [hwindow, hids], hkept.2 ?_⟩
  -- the round of ben's that had expired was not admitted, and the second of anna's expires behind
  -- her first
  refine ⟨_, _, _, show admitted (calls ++ [c]) = [_] ++ _ :: [_] from rfl, ?_, _,
    List.mem_singleton_self _, ?_⟩
  · decide
  · decide

end Store

end SlotMachine
