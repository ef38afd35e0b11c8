import Mathlib.Data.List.Range
import Mathlib.Data.Nat.Find
import SlotMachine.Proofs.Database.Pages

/-!
# Scans request by request

A scan is asked for page by page. Which requests it takes is told by their outcomes alone: it goes
on with the key of a page that names one, and it ends with the first page that names none or with
the first request that fails (`EndsAt`). A scan that ends has asked for each page once and tells the
items of all pages, or it has failed as a whole.
-/

namespace SlotMachine

namespace Database

/-- The outcomes of the requests of a scan, one after the other: a page, or nothing where the
request fails. -/
abbrev PageReplies := Nat → Option (Page Float)

/-- A database whose scans have these outcomes. Its state is the count of scans. -/
def Request.replyFrom (replies : PageReplies) :
    (request : Request Float) → StateM Nat request.Reply
  | .scan _ _ _ => fun count => (replies count, count + 1)
  | .put _ _ => pure none
  | .getBalance _ _ => pure none
  | .addToBalance _ _ _ _ _ => pure none
  | .setBalance _ _ _ _ => pure none

namespace PageReplies

variable (replies : PageReplies)

/-- The scan goes on after a page that names a key. -/
def GoesOn (i : Nat) : Prop := ∃ page, replies i = some page ∧ page.lastKey ≠ []

/-- The last request of the scan is number `n`, counted from zero. -/
structure EndsAt (n : Nat) : Prop where
  goesOn : ∀ i < n, replies.GoesOn i
  ends : ¬replies.GoesOn n

/-- The key with which a page is asked for: none for the first one, and then the key of the page
before. -/
def startKey : Nat → PageKey
  | 0 => []
  | i + 1 => (replies i).elim [] (·.lastKey)

/-- The items of the first pages. -/
def items (count : Nat) : List (Item Float) :=
  (List.range count).flatMap fun i => (replies i).elim [] (·.items)

variable {replies} {n : Nat}

lemma items_succ (count : Nat) :
    replies.items (count + 1) = replies.items count ++ (replies count).elim [] (·.items) := by
  simp [items, List.range_succ]

/-- There is a last request where there is one at all after which the scan does not go on. -/
lemma exists_endsAt (h : ∃ n, ¬replies.GoesOn n) : ∃ n, replies.EndsAt n := by
  classical
  exact ⟨Nat.find h, fun i hi => not_not.1 (Nat.find_min h hi), Nat.find_spec h⟩

lemma not_goesOn {page : Page Float} (h : replies n = some page) (hkey : page.lastKey = []) :
    ¬replies.GoesOn n := by
  rintro ⟨other, hother, hne⟩
  cases h.symm.trans hother
  exact hne hkey

end PageReplies

open PageReplies (EndsAt)

/-! ### The requests -/

/-- Only a page that follows another is asked for with a key. -/
lemma get?_startKey (table : String) (filter : RoundFilter) (start : PageKey) :
    (Request.scan table filter start).body.get? "ExclusiveStartKey" =
      if start = [] then none else some (.object start) := by
  cases start <;> rfl

/-- All that a request says besides the key does not depend on the key. -/
lemma get?_of_ne_startKey (table : String) (filter : RoundFilter) (start : PageKey) {name : String}
    (hname : name ≠ "ExclusiveStartKey") :
    (Request.scan table filter start).body.get? name =
      (Request.scan table filter []).body.get? name := by
  have hbeq : (name == "ExclusiveStartKey") = false := beq_eq_false_iff_ne.2 hname
  cases start with
  | nil => rfl
  | cons entry start =>
    simp only [Request.body, Json.get?, List.isEmpty_cons, List.isEmpty_nil, List.lookup_append]
    simp [List.lookup_cons, hbeq]

namespace Repository

variable {r : Repository} {replies : PageReplies} {filter : RoundFilter} {n pages : Nat}

/-- A request of a scan, with its outcome. -/
def asked (r : Repository) (filter : RoundFilter) (replies : PageReplies) (i : Nat) :
    (request : Request Float) × request.Reply :=
  ⟨.scan r.roundsTable filter (replies.startKey i), replies i⟩

/-- What a scan tells whose last request is number `n`. -/
def told (replies : PageReplies) (n : Nat) : Except Failure (List (Item Float)) :=
  if (replies n).isSome then .ok (replies.items (n + 1))
  else .error ⟨["failed to scan game_rounds table"]⟩

/-! ### Runs -/

/-- The rest of a scan from request `i` on. -/
def scanRest (r : Repository) (filter : RoundFilter) (replies : PageReplies) (i pages : Nat) :
    Conversation Float (Except Failure (Option (List (Item Float)))) :=
  (r.scanFrom filter (replies.items i) (replies.startKey i) pages).run

/-- After a page that names a key, the scan goes on with the next request. -/
lemma scanRest_of_goesOn (r : Repository) (filter : RoundFilter) (pages : Nat) {i : Nat}
    (h : replies.GoesOn i) :
    (r.scanRest filter replies i (pages + 1)).transcript (Request.replyFrom replies) i =
      r.asked filter replies i ::
        (r.scanRest filter replies (i + 1) pages).transcript (Request.replyFrom replies) (i + 1) ∧
    (r.scanRest filter replies i (pages + 1)).run (Request.replyFrom replies) i =
      (r.scanRest filter replies (i + 1) pages).run (Request.replyFrom replies) (i + 1) := by
  obtain ⟨page, hpage, hne⟩ := h
  have hkey : replies.startKey (i + 1) = page.lastKey := by simp [PageReplies.startKey, hpage]
  have hitems : replies.items (i + 1) = replies.items i ++ page.items := by
    simp [PageReplies.items_succ, hpage]
  unfold scanRest
  rw [scanFrom_succ, hkey, hitems]
  simp [Dialogue.transcript, Dialogue.run_ask, Request.replyFrom, asked, hpage, hne]

/-- A page that names no key ends the scan, and so does a request that fails. -/
lemma scanRest_of_not_goesOn (r : Repository) (filter : RoundFilter) (pages : Nat)
    (h : ¬replies.GoesOn n) :
    (r.scanRest filter replies n (pages + 1)).transcript (Request.replyFrom replies) n =
      [r.asked filter replies n] ∧
    (r.scanRest filter replies n (pages + 1)).run (Request.replyFrom replies) n =
      ((told replies n).map some, n + 1) := by
  unfold scanRest
  rw [scanFrom_succ]
  cases hreply : replies n with
  | none =>
    simp [Dialogue.transcript, Dialogue.run_ask, Dialogue.run_done, Request.replyFrom, asked, told,
      hreply, Except.map]
  | some page =>
    have hkey : page.lastKey = [] := by
      by_contra hne
      exact h ⟨page, hreply, hne⟩
    have hitems : replies.items (n + 1) = replies.items n ++ page.items := by
      simp [PageReplies.items_succ, hreply]
    simp [Dialogue.transcript, Dialogue.run_ask, Dialogue.run_done, Request.replyFrom, asked, told,
      hreply, hkey, hitems, Except.map]

/-- From any request on, a scan takes all requests up to its last one. -/
lemma scanRest_of_endsAt (r : Repository) (filter : RoundFilter) (h : replies.EndsAt n) {i : Nat}
    (hi : i ≤ n) (hpages : n - i < pages) :
    (r.scanRest filter replies i pages).transcript (Request.replyFrom replies) i =
      (List.range' i (n + 1 - i)).map (r.asked filter replies) ∧
    (r.scanRest filter replies i pages).run (Request.replyFrom replies) i =
      ((told replies n).map some, n + 1) := by
  induction pages generalizing i with
  | zero => omega
  | succ pages ih =>
    rcases Nat.eq_or_lt_of_le hi with rfl | hlt
    · obtain ⟨hlog, hrun⟩ := scanRest_of_not_goesOn r filter pages h.ends
      rw [hlog, hrun, Nat.add_sub_cancel_left]
      exact ⟨rfl, rfl⟩
    · obtain ⟨hlog, hrun⟩ := scanRest_of_goesOn r filter pages (h.goesOn i hlt)
      obtain ⟨ihlog, ihrun⟩ := ih (i := i + 1) (by omega) (by omega)
      have hcount : n + 1 - i = (n + 1 - (i + 1)) + 1 := by omega
      rw [hlog, hrun, ihlog, ihrun, hcount, List.range'_succ]
      exact ⟨rfl, rfl⟩

/-- What is made of the items of a scan is told after the last request. -/
lemma scan_map {σ β : Type} (r : Repository) (filter : RoundFilter) (pages : Nat)
    (answer : (c : Request Float) → StateM σ c.Reply) (s : σ) (f : List (Item Float) → β) :
    let x : Attempt (Option β) := do
      let items ← r.scan filter pages
      pure (items.map f)
    x.run.transcript answer s = (r.scan filter pages).run.transcript answer s ∧
    x.run.run answer s = (((r.scan filter pages).run.run answer s).1.map (·.map f),
      ((r.scan filter pages).run.run answer s).2) := by
  intro x
  have hlog : x.run.transcript answer s = _ :=
    Dialogue.transcript_bind (r.scan filter pages).run _ s
  have hrun : x.run.run answer s = _ := Dialogue.run_bind (r.scan filter pages).run _ s
  rw [hlog, hrun]
  generalize (r.scan filter pages).run.run answer s = told
  obtain ⟨told | told, s'⟩ := told
  · exact ⟨List.append_nil _, rfl⟩
  · exact ⟨List.append_nil _, rfl⟩

/-! ### The main result -/

/-- The inquiry takes the requests of a scan up to number `n`, one after the other and all with the
same filter, and tells what `f` makes of the items of all pages. Where the last request fails, so
does the inquiry. -/
structure Scans {β : Type} (r : Repository) (filter : RoundFilter) (replies : PageReplies) (n : Nat)
    (f : List (Item Float) → β) (x : Attempt (Option β)) : Prop where
  said : x.run.transcript (Request.replyFrom replies) 0 =
    (List.range (n + 1)).map (r.asked filter replies)
  comes : x.run.run (Request.replyFrom replies) 0 =
    ((told replies n).map fun items => some (f items), n + 1)

lemma scan_scans (h : replies.EndsAt n) (hpages : n < pages) :
    r.Scans filter replies n id (r.scan filter pages) := by
  obtain ⟨hlog, hrun⟩ := scanRest_of_endsAt r filter h (Nat.zero_le n) hpages
  rw [Nat.sub_zero, ← List.range_eq_range'] at hlog
  exact ⟨hlog, hrun⟩

lemma Scans.map {β : Type} (h : r.Scans filter replies n id (r.scan filter pages))
    (f : List (Item Float) → β) :
    r.Scans filter replies n f (do
      let items ← r.scan filter pages
      pure (items.map f)) := by
  obtain ⟨hlog, hrun⟩ := r.scan_map filter pages (Request.replyFrom replies) 0 f
  constructor
  · exact hlog.trans h.said
  · rw [hrun, h.comes]
    cases told replies n <;> rfl

/-- A scan asks for the first page without a key and for each next one with the key of the page
before, and for all with the same filter. It ends with the first page that names no key, or an empty
one, if there is one, and tells the items of all pages in their order. If a request fails, the scan
fails, and no statistics are told.

A limit to a number of `pages` plays no part in this: what is said and told is the same for every
limit that is large enough. -/
theorem scan_reads (r : Repository) (replies : PageReplies) :
    ((∃ n page, replies n = some page ∧ page.lastKey = []) → ∃ n, replies.EndsAt n) ∧
    (∀ n, replies.EndsAt n → ∀ pages, n < pages →
      (∀ filter, r.Scans filter replies n id (r.scan filter pages)) ∧
      (∀ userId since, r.Scans ⟨some userId, since⟩ replies n
        (fun items => SessionStats.ofPlays? (items.map Item.toPlay))
        (r.sessionStats userId since pages)) ∧
      ∀ since, r.Scans ⟨none, since⟩ replies n
        (fun items => RollingStats.ofPlays? (items.map Item.toPlay)) (r.rollingStats since pages)) ∧
    (∀ filter,
      let body (i : Nat) := (r.asked filter replies i).1.body
      (body 0).get? "ExclusiveStartKey" = none ∧
      (∀ i page, replies i = some page → page.lastKey ≠ [] →
        (body (i + 1)).get? "ExclusiveStartKey" = some (.object page.lastKey)) ∧
      ∀ i name, name ≠ "ExclusiveStartKey" → (body i).get? name = (body 0).get? name) ∧
    ∀ body : Json,
      ((body.get? "LastEvaluatedKey" = none ∨ body.get? "LastEvaluatedKey" = some (.object [])) →
        (Page.ofJson body).lastKey = []) ∧
      (∀ key, body.get? "LastEvaluatedKey" = some (.object key) →
        (Page.ofJson body).lastKey = key) ∧
      (body.get? "Items" = none → (Page.ofJson body).items = []) := by
  refine ⟨?ends, ?runs, ?bodies, ?pages⟩
  case ends =>
    rintro ⟨n, page, hpage, hkey⟩
    exact PageReplies.exists_endsAt ⟨n, PageReplies.not_goesOn hpage hkey⟩
  case runs =>
    intro n hn pages hpages
    have hscan (filter : RoundFilter) : r.Scans filter replies n id (r.scan filter pages) :=
      scan_scans hn hpages
    exact ⟨hscan, fun userId since => (hscan ⟨some userId, since⟩).map _,
      fun since => (hscan ⟨none, since⟩).map _⟩
  case bodies =>
    intro filter body
    refine ⟨get?_startKey _ _ _, ?_, fun i name => get?_of_ne_startKey _ _ _⟩
    intro i page hpage hne
    have hkey : replies.startKey (i + 1) = page.lastKey := by simp [PageReplies.startKey, hpage]
    have hbody : (body (i + 1)).get? "ExclusiveStartKey" = _ := get?_startKey _ _ _
    rwa [hkey, if_neg hne] at hbody
  case pages =>
    intro body
    refine ⟨?_, fun key => Page.lastKey_eq, ?_⟩
    · rintro (hnone | hempty)
      · exact Page.lastKey_eq_nil fun key hkey => by cases hnone.symm.trans hkey
      · exact Page.lastKey_eq hempty
    · intro hnone
      simp only [Page.ofJson, hnone]

/-- Two items on three pages, of which the second one is empty; then the database fails. -/
def threePages : PageReplies
  | 0 => some ⟨[[("user_id", .string "anna"), ("bet", .number 10.0), ("payout", .number 25.5)]],
      [("id", .object [("S", .string "a")])]⟩
  | 1 => some ⟨[], [("id", .object [("S", .string "b")])]⟩
  | 2 => some ⟨[[("user_id", .string "ben"), ("bet", .number 2.5), ("payout", .number 0.0)]], []⟩
  | _ => none

lemma endsAt_threePages : EndsAt threePages 2 where
  goesOn i hi := by
    obtain rfl | rfl : i = 0 ∨ i = 1 := by omega
    · exact ⟨_, rfl, List.cons_ne_nil _ _⟩
    · exact ⟨_, rfl, List.cons_ne_nil _ _⟩
  ends := PageReplies.not_goesOn rfl rfl

theorem scan_reads_threePages :
    let r : Repository := ⟨"game_rounds", "user_balances", 0.0⟩
    let key : PageKey := [("id", .object [("S", .string "b")])]
    let body : Json := .object [("Items", .array []), ("LastEvaluatedKey", .object [])]
    EndsAt threePages 2 ∧ 2 < 3 ∧
    (r.rollingStats ⟨3600, 0⟩ 3).run.run (Request.replyFrom threePages) 0 =
      (.ok (some (some ⟨12.5, 25.5, 2, 2⟩)), 3) ∧
    (Request.scan "game_rounds" ⟨none, ⟨3600, 0⟩⟩ key).body.get? "ExclusiveStartKey" =
      some (.object key) ∧
    (Page.ofJson body).lastKey = [] := by
  intro r key body
  obtain ⟨-, hruns, hbodies, hpages⟩ := scan_reads r threePages
  obtain ⟨-, -, hrolling⟩ := hruns 2 endsAt_threePages 3 (by decide)
  obtain ⟨-, hkey, -⟩ := hbodies ⟨none, ⟨3600, 0⟩⟩
  refine ⟨endsAt_threePages, by decide, (hrolling ⟨3600, 0⟩).comes.trans rfl, ?_, ?_⟩
  · exact hkey 1 ⟨[], key⟩ rfl (List.cons_ne_nil _ _)
  · exact (hpages body).1 (.inr rfl)

end Repository

end Database

end SlotMachine
