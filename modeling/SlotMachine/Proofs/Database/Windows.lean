import SlotMachine.Database.Request
import SlotMachine.Proofs.Instant.TextOrder

/-!
# The window of a scan

A scan asks for the rounds since an instant by comparing texts: the time of a round as its item
tells it with the start of the window as the request tells it. So no round of the window is missed,
and what else is found is older by less than a microsecond.
-/

namespace SlotMachine

namespace Instant

/-- How many nanoseconds an instant is later than another one. -/
def nanosSince (a b : Instant) : Int := (a.seconds - b.seconds) * 1000000000 + (a.nanos - b.nanos)

variable {a b : Instant}

lemma wholeMicros_mono (h : a ≤ b) : a.wholeMicros ≤ b.wholeMicros := by
  rw [le_iff] at h ⊢
  unfold wholeMicros
  dsimp only
  omega

/-- What is less than a microsecond does not tell more than a microsecond. -/
lemma nanosSince_lt (ha : a.nanos < 1000000000) (h : a.wholeMicros ≤ b.wholeMicros) :
    a.nanosSince b < 1000 := by
  rw [le_iff] at h
  unfold wholeMicros at h
  unfold nanosSince
  dsimp only at h
  omega

end Instant

namespace Database

/-- The string among these attributes that has this name. -/
def stringUnder (name : String) (attributes : Json) : Option String :=
  match (attributes.get? name).bind (·.get? "S") with
  | some (.string text) => some text
  | _ => none

/-- The attributes that a request gives to its expressions. -/
def givenAttributes (body : Json) : Json := (body.get? "ExpressionAttributeValues").getD .null

/-- The condition `#ts >= :since`: the attribute that `#ts` names is not less than the given one. -/
def IsRecent (body item : Json) : Prop :=
  ∃ name since time,
    (body.get? "ExpressionAttributeNames").bind (·.get? "#ts") = some (.string name) ∧
    stringUnder ":since" (givenAttributes body) = some since ∧
    stringUnder name item = some time ∧ (compareBytes since time).isLE = true

/-- The condition `user_id = :user_id`. -/
def IsOfUser (body item : Json) : Prop :=
  ∃ userId, stringUnder ":user_id" (givenAttributes body) = some userId ∧
    stringUnder "user_id" item = some userId

/-- Whether an item passes the filter of a request, which is one of two expressions. -/
def Passes (body item : Json) : Prop :=
  body.get? "FilterExpression" = some (.string "#ts >= :since") ∧ IsRecent body item ∨
  body.get? "FilterExpression" = some (.string "user_id = :user_id AND #ts >= :since") ∧
    IsOfUser body item ∧ IsRecent body item

section

variable (table id : String) (user : Option String) (start : PageKey) (since : Instant)
  (round : Round)

lemma isRecent_iff :
    IsRecent (Request.scan table ⟨user, since⟩ start).body (Item.ofRound round id).toJson ↔
      (compareBytes since.microText round.time.microText).isLE = true := by
  have hsince : stringUnder ":since" (givenAttributes
      (Request.scan table ⟨user, since⟩ start).body) = some since.microText := by
    cases user <;> rfl
  have htime : stringUnder "timestamp" (Item.ofRound round id).toJson =
      some round.time.microText := rfl
  constructor
  · rintro ⟨name, given, time, hname, hgiven, htold, hle⟩
    obtain rfl : "timestamp" = name := Json.string.inj (Option.some.inj hname)
    obtain rfl : since.microText = given := Option.some.inj (hsince.symm.trans hgiven)
    obtain rfl : round.time.microText = time := Option.some.inj (htime.symm.trans htold)
    exact hle
  · intro hle
    exact ⟨_, _, _, rfl, hsince, htime, hle⟩

lemma isOfUser_iff (userId : String) :
    IsOfUser (Request.scan table ⟨some userId, since⟩ start).body (Item.ofRound round id).toJson ↔
      userId = round.userId := by
  constructor
  · rintro ⟨given, hgiven, htold⟩
    obtain rfl : userId = given := Option.some.inj hgiven
    exact (Option.some.inj htold).symm
  · rintro rfl
    exact ⟨_, rfl, rfl⟩

lemma passes_iff :
    Passes (Request.scan table ⟨user, since⟩ start).body (Item.ofRound round id).toJson ↔
      (∀ userId ∈ user, userId = round.userId) ∧
        (compareBytes since.microText round.time.microText).isLE = true := by
  rw [← isRecent_iff table id user start]
  cases user with
  | none =>
    have hfilter : (Request.scan table ⟨none, since⟩ start).body.get? "FilterExpression" =
        some (.string "#ts >= :since") := rfl
    simp [Passes, hfilter]
  | some userId =>
    have hfilter : (Request.scan table ⟨some userId, since⟩ start).body.get? "FilterExpression" =
        some (.string "user_id = :user_id AND #ts >= :since") := rfl
    simp [Passes, hfilter, isOfUser_iff]

end

/-- The times of rounds and the starts of windows are written so that, byte by byte, they compare
like the instants without what is less than a microsecond. So a scan finds every round of its
window, and any other round that it finds is older than the window by less than a microsecond. -/
theorem window_passes {since : Instant} {round : Round} (hsince : since.Plain)
    (hround : round.time.Plain) :
    compareBytes since.microText round.time.microText =
      compare since.wholeMicros round.time.wholeMicros ∧
    ∀ table id user start, (∀ userId ∈ user, userId = round.userId) →
      let passes := Passes (Request.scan table ⟨user, since⟩ start).body
        (Item.ofRound round id).toJson
      (since ≤ round.time → passes) ∧
      (passes → since ≤ round.time ∨ round.time < since ∧ since.nanosSince round.time < 1000) := by
  have hcompare := Instant.compareBytes_microText hsince hround
  refine ⟨hcompare, fun table id user start huser => ?_⟩
  have hpasses : Passes (Request.scan table ⟨user, since⟩ start).body
      (Item.ofRound round id).toJson ↔ since.wholeMicros ≤ round.time.wholeMicros := by
    rw [passes_iff, hcompare, Ordering.isLE_iff_ne_gt, compare_gt_iff_gt, not_lt]
    exact and_iff_right huser
  intro passes
  constructor
  · intro hle
    exact hpasses.2 (Instant.wholeMicros_mono hle)
  · intro hpass
    rcases le_or_gt since round.time with hle | hlt
    · exact .inl hle
    · exact .inr ⟨hlt, Instant.nanosSince_lt hsince.nanos_lt (hpasses.1 hpass)⟩

/-- A round of the last second of a leap day. -/
def leapDayRound : Round where
  id := none
  userId := "anna"
  bet := 10.0
  outcome := .losing ⟨.cherry, .lemon, .cherry⟩
  payout := 0.0
  time := ⟨951868799, 500⟩

/-- It is found in a window that starts in the same microsecond, 499 nanoseconds later. -/
theorem window_passes_leapDay :
    let since : Instant := ⟨951868799, 999⟩
    let body := (Request.scan "game_rounds" ⟨some "anna", since⟩ []).body
    since.Plain ∧ leapDayRound.time.Plain ∧
    since.microText = "2000-02-29T23:59:59.000000Z" ∧
    compareBytes since.microText leapDayRound.time.microText = .eq ∧
    (∀ userId ∈ some "anna", userId = leapDayRound.userId) ∧
    Passes body (Item.ofRound leapDayRound "a").toJson ∧
    leapDayRound.time < since ∧ since.nanosSince leapDayRound.time < 1000 := by
  intro since body
  have hsince : since.Plain := ⟨by decide, by decide, by decide⟩
  have hround : leapDayRound.time.Plain := ⟨by decide, by decide, by decide⟩
  have huser : ∀ userId ∈ some "anna", userId = leapDayRound.userId := by
    rintro _ ⟨⟩
    rfl
  obtain ⟨hcompare, hfinds⟩ := window_passes hsince hround
  have hwhole : since.wholeMicros = leapDayRound.time.wholeMicros := by decide
  have heq : compareBytes since.microText leapDayRound.time.microText = .eq :=
    hcompare.trans (compare_eq_iff_eq.2 hwhole)
  have hpasses : Passes body (Item.ofRound leapDayRound "a").toJson :=
    (passes_iff _ _ _ _ _ _).2 ⟨huser, by rw [heq]; rfl⟩
  have hlt : leapDayRound.time < since := Instant.lt_iff.2 (.inr ⟨rfl, by decide⟩)
  obtain hle | hlate := (hfinds "game_rounds" "a" (some "anna") [] huser).2 hpasses
  · exact absurd hle (not_le.2 hlt)
  · exact ⟨hsince, hround, by decide, heq, huser, hpasses, hlate⟩

end Database

end SlotMachine
