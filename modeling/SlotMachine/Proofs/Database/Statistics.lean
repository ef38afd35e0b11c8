import SlotMachine.Proofs.Database.Pages
import SlotMachine.Proofs.Store.Retention

/-!
# Statistics from a database

A round counts for the same in statistics after it has been written as an item and read again. So
the statistics that are told from a database are those of the store in memory, if the database finds
the rounds of the window, in whatever pages it delivers them.
-/

namespace SlotMachine

namespace Database

/-- A double that is read as it was written. -/
def ReadsBack (x : Float) : Prop := Number.float (messageText x) = .ok x

/-! ### Reading an item -/

namespace Attribute

lemma ofJson_string (text : String) : ofJson (toJson (string text)) = string text := rfl

lemma ofJson_number {x : Float} (h : ReadsBack x) : ofJson (toJson (number x)) = number x := by
  unfold ReadsBack at h
  simp only [toJson, ofJson, h]

end Attribute

/-- A round counts for the same when its item has been read. -/
lemma toPlay_ofRound {round : Round} (hbet : ReadsBack round.bet)
    (hpayout : ReadsBack round.payout) (id : String) :
    (Item.ofJson? (Item.ofRound round id).toJson).map Item.toPlay = some (Play.ofRound round) := by
  have huser := Attribute.ofJson_string round.userId
  have hbet := Attribute.ofJson_number hbet
  have hpayout := Attribute.ofJson_number hpayout
  simp [Item.ofJson?, Item.toJson, Item.ofRound, Item.toPlay, Item.string?, Item.number?,
    Play.ofRound, List.lookup_cons, huser, hbet, hpayout]

/-! ### Stored rounds -/

/-- A round with the id under which it is stored. -/
structure StoredRound where
  round : Round
  id : String

namespace StoredRound

def item (s : StoredRound) : Json := (Item.ofRound s.round s.id).toJson

/-- Whether the amounts of the round, from which statistics are made, are read as they were written.
-/
def ReadsBack (s : StoredRound) : Prop :=
  Database.ReadsBack s.round.bet ∧ Database.ReadsBack s.round.payout

end StoredRound

lemma toPlay_items {stored : List StoredRound} (h : ∀ s ∈ stored, s.ReadsBack) :
    ((stored.map (·.item)).filterMap Item.ofJson?).map Item.toPlay =
      (stored.map (·.round)).map Play.ofRound := by
  induction stored with
  | nil => rfl
  | cons s stored ih =>
    obtain ⟨hbet, hpayout⟩ := h s List.mem_cons_self
    obtain ⟨item, hitem, hplay⟩ := Option.map_eq_some_iff.1 (toPlay_ofRound hbet hpayout s.id)
    have hrest := ih fun s hs => h s (List.mem_cons_of_mem _ hs)
    simp only [List.map_cons, List.filterMap_cons, StoredRound.item, hitem, hplay]
    exact congrArg (Play.ofRound s.round :: ·) hrest

/-! ### Rounds of a window -/

/-- Whether a database with this filter finds a round. -/
def RoundFilter.passes (filter : RoundFilter) (s : StoredRound) : Bool :=
  filter.since ≤ s.round.time ∧ filter.userId.all (· == s.round.userId)

variable {stored : List StoredRound} {since : Instant}

lemma map_filter_all : (stored.filter (RoundFilter.passes ⟨none, since⟩)).map (·.round) =
    (stored.map (·.round)).filter (since ≤ ·.time) := by
  have hpasses : RoundFilter.passes ⟨none, since⟩ =
      (fun round : Round => decide (since ≤ round.time)) ∘ (·.round) := by
    funext s
    simp [RoundFilter.passes]
  rw [hpasses, List.filter_map]

lemma map_filter_user {userId : String} :
    (stored.filter (RoundFilter.passes ⟨some userId, since⟩)).map (·.round) =
      ((stored.map (·.round)).filter (since ≤ ·.time)).filter (·.userId == userId) := by
  have hpasses : RoundFilter.passes ⟨some userId, since⟩ =
      (fun round : Round => round.userId == userId && decide (since ≤ round.time)) ∘
        (·.round) := by
    funext s
    simp only [RoundFilter.passes, Option.all_some, Function.comp_apply, Bool.decide_and,
      Bool.decide_eq_true, Bool.beq_comm (a := userId)]
    exact Bool.and_comm _ _
  rw [hpasses, List.filter_filter, List.filter_map]

/-! ### The main result -/

/-- In whatever pages a database delivers the rounds of a window, it tells the statistics that the
store in memory tells if it has the same rounds in the same order, be it of one user or of all. -/
theorem stats_eq_of_delivers (r : Repository) (s : Store) (stored : List StoredRound)
    (hrounds : s.rounds = stored.map (·.round)) (hread : ∀ x ∈ stored, x.ReadsBack)
    {now since : Instant} {hours : Nat} (hsince : windowStart now hours = .ok since) :
    let rounds := s.rounds.filter (since ≤ ·.time)
    (∀ userId replies pages, replies.length ≤ pages →
      Delivers replies ((stored.filter (RoundFilter.passes ⟨some userId, since⟩)).map (·.item)) →
      let stats := SessionStats.ofRounds? (rounds.filter (·.userId == userId))
      s.sessionStats now userId hours = .ok stats ∧
      (r.sessionStats userId since pages).run.run Request.takeReply replies =
        (.ok (some stats), [])) ∧
    ∀ replies pages, replies.length ≤ pages →
      Delivers replies ((stored.filter (RoundFilter.passes ⟨none, since⟩)).map (·.item)) →
      let stats := RollingStats.ofRounds? rounds
      s.rollingStats now hours = .ok stats ∧
      (r.rollingStats since pages).run.run Request.takeReply replies = (.ok (some stats), []) := by
  intro rounds
  have hplays (p : StoredRound → Bool) :
      ((((stored.filter p).map (·.item)).filterMap Item.ofJson?).map Item.toPlay) =
        ((stored.filter p).map (·.round)).map Play.ofRound :=
    toPlay_items fun x hx => hread x (List.mem_filter.1 hx).1
  constructor
  · intro userId replies pages hpages hdelivers stats
    constructor
    · exact Store.sessionStats_of_ok hsince userId
    · refine (r.scan_map_run hdelivers hpages _).trans ?_
      rw [hplays, map_filter_user, SessionStats.ofPlays?_map, ← hrounds]
  · intro replies pages hpages hdelivers stats
    constructor
    · exact Store.rollingStats_of_ok hsince
    · refine (r.scan_map_run hdelivers hpages _).trans ?_
      rw [hplays, map_filter_all, RollingStats.ofPlays?_map, ← hrounds]

/-- Two rounds of the hour before two o'clock, and one that is a second too old. -/
def lastRounds : List StoredRound :=
  let round (userId : String) (bet payout : Float) (seconds : Int) : Round := {
    id := none, userId, bet, outcome := .losing ⟨.cherry, .lemon, .cherry⟩, payout
    time := ⟨seconds, 0⟩ }
  [⟨round "anna" 10.0 25.5 3600, "a"⟩, ⟨round "ben" 4.0 2.0 3599, "b"⟩,
    ⟨round "ben" 2.5 0.0 7200, "c"⟩]

/-- The items of that hour. -/
def lastItems : List Json :=
  (lastRounds.filter (RoundFilter.passes ⟨none, ⟨3600, 0⟩⟩)).map (·.item)

/-- A page with an item, an empty one, and one with the other item. -/
def lastPages : List WireReply :=
  let key : Json := .object [("id", .object [("S", .string "a")])]
  [⟨200, .object [("Items", .array (lastItems.take 1)), ("LastEvaluatedKey", key)]⟩,
    ⟨200, .object [("LastEvaluatedKey", key)]⟩,
    ⟨200, .object [("Items", .array (lastItems.drop 1))]⟩]

lemma delivers_lastPages : Delivers lastPages lastItems := by
  have hkey : ([("id", .object [("S", .string "a")])] : PageKey) ≠ [] := List.cons_ne_nil _ _
  have hlast : Delivers (lastPages.drop 2) (lastItems.drop 1) :=
    .last ⟨rfl, .inl rfl⟩ fun key h => by cases h
  have hempty : Delivers (lastPages.drop 1) ([] ++ lastItems.drop 1) :=
    .more ⟨rfl, .inr ⟨rfl, rfl⟩⟩ rfl hkey hlast
  have hitems : lastItems = lastItems.take 1 ++ lastItems.drop 1 := by
    rw [List.take_append_drop]
  rw [hitems]
  exact .more ⟨rfl, .inl rfl⟩ rfl hkey hempty

lemma readsBack_lastRounds : ∀ x ∈ lastRounds, x.ReadsBack := by
  simp only [lastRounds, List.forall_mem_cons]
  exact ⟨⟨rfl, rfl⟩, ⟨rfl, rfl⟩, ⟨rfl, rfl⟩, fun _ h => nomatch h⟩

theorem stats_eq_of_delivers_lastPages :
    let s : Store := { defaultBalance := 0.0, rounds := lastRounds.map (·.round) }
    let r : Repository := ⟨"game_rounds", "user_balances", 0.0⟩
    let stats : RollingStats := ⟨12.5, 25.5, 2, 2⟩
    windowStart ⟨7200, 0⟩ 1 = .ok ⟨3600, 0⟩ ∧ Delivers lastPages lastItems ∧
    s.rollingStats ⟨7200, 0⟩ 1 = .ok (some stats) ∧
    (r.rollingStats ⟨3600, 0⟩ 3).run.run Request.takeReply lastPages =
      (.ok (some (some stats)), []) := by
  intro s r stats
  have hsince : windowStart ⟨7200, 0⟩ 1 = .ok ⟨3600, 0⟩ := rfl
  have hstats := (stats_eq_of_delivers r s lastRounds rfl readsBack_lastRounds hsince).2
    lastPages 3 le_rfl delivers_lastPages
  exact ⟨hsince, delivers_lastPages, hstats⟩

end Database

end SlotMachine
