import SlotMachine.Proofs.Json.Values
import SlotMachine.Proofs.Text.Trim
import SlotMachine.Wager.Gateway

/-!
# What wager services are asked and what they reply

Requests go to a path below the base address, with one slash between the two. A reply says a value
where it has the status of a success and its body is JSON (`Says`). A progress that is told stands in
such a value as a member of an object, so that it is nested less deep than what can be read at all
(`Told.readWith`).
-/

namespace SlotMachine

namespace Wager

/-- However many slashes the base ends in, one slash stands before the path. -/
lemma Gateway.endpoint_append {stem slashes : String} (hstem : '/' ∉ stem.toList.getLast?)
    (hslashes : ∀ c ∈ slashes.toList, c = '/') (path : String) :
    (Gateway.mk (stem ++ slashes)).endpoint path = stem ++ "/" ++ path := by
  have hlast : ∀ c ∈ stem.toList.getLast?, decide (c = '/') = false := by
    rintro c hc
    exact decide_eq_false fun hslash => hstem (hslash ▸ hc)
  have hdropped : ∀ c ∈ slashes.toList, decide (c = '/') = true := by simpa using hslashes
  rw [endpoint, String.toList_append, dropWhileEnd_append hdropped, dropWhileEnd_eq_self hlast,
    String.ofList_toList]

example : (Gateway.mk "http://wager:8085/").endpoint "wager/place" =
    "http://wager:8085/wager/place" := by decide

/-- The reply has the status of a success, and its body is a JSON value. -/
def Says (reply : Option Reply) (value : Json) : Prop :=
  ∃ r, reply = some r ∧ 200 ≤ r.status ∧ r.status < 300 ∧
    Json.Decoder.ofSource Json.value r.body = .ok value

lemma Says.unique {reply : Option Reply} {v w : Json} (hv : Says reply v) (hw : Says reply w) :
    v = w := by
  obtain ⟨r, rfl, -, -, hread⟩ := hv
  obtain ⟨_, hr, -, -, hread'⟩ := hw
  cases hr
  exact Except.ok.inj (hread.symm.trans hread')

lemma readReply_eq_ok_some (path : String) (reply : Option Reply) (value : Json) :
    readReply path reply = .ok (some value) ↔ Says reply value := by
  unfold readReply Says
  cases reply with
  | none => simp
  | some r =>
    dsimp only
    split
    case isTrue hstatus =>
      have hsuccess : 200 ≤ r.status ∧ r.status < 300 := by simpa using hstatus
      cases hread : Json.Decoder.ofSource Json.value r.body <;> simp [hread, hsuccess]
    case isFalse hstatus =>
      simp only [Except.ok.injEq, reduceCtorEq, false_iff]
      rintro ⟨_, hr, hlow, hhigh, -⟩
      cases hr
      exact hstatus (by simp [hlow, hhigh])

lemma isNull_eq_false (value : Json) : value.isNull = false ↔ value ≠ .null := by
  cases value <;> simp [Json.isNull]

/-- The progress of a wager is a member of an object and not `null`. -/
lemma progress_placedOfJson (value p : Json) :
    (placedOfJson value).progress = some p ↔ ∃ members, value = .object members ∧
      members.lookup "wagering_progress" = some p ∧ p ≠ .null := by
  rw [placedOfJson, Option.filter_eq_some_iff, Bool.not_eq_true', isNull_eq_false]
  cases value <;> simp [Json.get?]

/-- The progress of a wager that has been placed is the member of an object that the reply says. -/
lemma readPlaced_progress (reply : Option Reply) (p : Json) :
    (∃ placed, readPlaced reply = .ok (some placed) ∧ placed.progress = some p) ↔
      ∃ members, Says reply (.object members) ∧
        members.lookup "wagering_progress" = some p ∧ p ≠ .null := by
  have hreads := readReply_eq_ok_some placePath reply
  unfold readPlaced
  cases hread : readReply placePath reply with
  | error failure => simp [Except.map, ← hreads, hread]
  | ok body =>
    cases body with
    | none => simp [Except.map, ← hreads, hread]
    | some body => simp [Except.map, ← hreads, hread, progress_placedOfJson]

/-- A wager service has told this progress in its reply to a wager that was placed. -/
def Told (p : Json) : Prop :=
  ∃ reply placed, readPlaced reply = .ok (some placed) ∧ placed.progress = some p

lemma told_iff (p : Json) :
    Told p ↔ ∃ reply members, Says reply (.object members) ∧
      members.lookup "wagering_progress" = some p ∧ p ≠ .null :=
  exists_congr fun reply => readPlaced_progress reply p

/-- A progress that is told is not `null`, and as it stood in an object when it was read, it can
stand in another one. -/
lemma Told.readWith {p : Json} (h : Told p) : p ≠ .null ∧ Json.ReadWith 126 p := by
  obtain ⟨reply, members, ⟨r, -, -, -, hread⟩, hprogress, hnull⟩ := (told_iff p).1 h
  exact ⟨hnull, (Json.readWith_of_source hread).of_lookup hprogress⟩

/-- A value that is written with the status of a success is said. -/
lemma says_text {j : Json} (h : Json.ReadWith Json.maxDepth j) (hlegible : j.All Json.IsLegible)
    {status : Nat} (hlow : 200 ≤ status) (hhigh : status < 300) :
    Says (some ⟨status, .ofString j.text⟩) j := by
  refine ⟨_, rfl, hlow, hhigh, ?_⟩
  rw [Json.Decoder.ofSource_text]
  exact h.value_node hlegible

/-- Any other value that could be read as a member can be told. -/
lemma told_of_readWith {p : Json} (h : Json.ReadWith 126 p) (hlegible : p.All Json.IsLegible)
    (hnull : p ≠ .null) : Told p := by
  have hmember : ∀ m ∈ [("wagering_progress", p)], m.2.depth ≤ 126 := by simpa using h.depth_le
  have hobject : Json.ReadWith Json.maxDepth (.object [("wagering_progress", p)]) := {
    depth_le := Nat.succ_le_succ (Json.depthOfMembers_le_iff.2 hmember)
    keepable := ⟨List.pairwise_singleton _ _, h.keepable, trivial⟩ }
  have hsaid := says_text hobject ⟨trivial, hlegible, trivial⟩ (le_refl 200)
    (Nat.lt_of_sub_eq_succ rfl)
  exact (told_iff p).2 ⟨_, _, hsaid, rfl, hnull⟩

end Wager

end SlotMachine
