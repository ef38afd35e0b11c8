import SlotMachine.Database.Reply
import SlotMachine.Database.Repository
import SlotMachine.Proofs.Dialogue.Answered

/-!
# Scans over pages

A scan is told in replies, each with a page of items, and goes on while a reply names a key. However
the items are divided into pages, and however many pages are empty, the scan finds all of them in
their order.
-/

namespace SlotMachine

namespace Database

/-- A database that has its replies ready, whatever it is asked. -/
def Request.takeReply (request : Request Float) : StateM (List WireReply) request.Reply :=
  fun replies => (request.readReply replies.head?, replies.tail)

/-- A reply with a page of items; one without items need not mention them. -/
structure WireReply.Carries (reply : WireReply) (items : List Json) : Prop where
  succeeded : reply.succeeded = true
  items_eq : reply.body.get? "Items" = some (.array items) ∨
    reply.body.get? "Items" = none ∧ items = []

/-- The replies carry the items, page by page. Each but the last one names a key to go on with. -/
inductive Delivers : List WireReply → List Json → Prop
  | last {reply : WireReply} {items : List Json} (hitems : reply.Carries items)
      (hkey : ∀ key, reply.body.get? "LastEvaluatedKey" = some (.object key) → key = []) :
      Delivers [reply] items
  | more {reply : WireReply} {items rest : List Json} {replies : List WireReply} {key : PageKey}
      (hitems : reply.Carries items)
      (hkey : reply.body.get? "LastEvaluatedKey" = some (.object key)) (hne : key ≠ [])
      (hrest : Delivers replies rest) : Delivers (reply :: replies) (items ++ rest)

/-! ### Reading a page -/

section

variable {reply : WireReply} {items : List Json}

lemma WireReply.Carries.items_ofJson (h : reply.Carries items) :
    (Page.ofJson reply.body).items = items.filterMap Item.ofJson? := by
  rcases h.items_eq with hitems | ⟨hnone, rfl⟩
  · simp only [Page.ofJson, hitems]
  · simp only [Page.ofJson, hnone]
    rfl

lemma Page.lastKey_eq {body : Json} {key : PageKey}
    (h : body.get? "LastEvaluatedKey" = some (.object key)) : (ofJson body).lastKey = key := by
  simp only [ofJson, h]

lemma Page.lastKey_eq_nil {body : Json}
    (h : ∀ key, body.get? "LastEvaluatedKey" = some (.object key) → key = []) :
    (ofJson body).lastKey = [] := by
  simp only [ofJson]
  split
  next key hkey => exact h key hkey
  next => rfl

lemma readReply_scan {table : String} {filter : RoundFilter} {start : PageKey}
    (h : reply.succeeded = true) :
    (Request.scan table filter start).readReply (some reply) = some (Page.ofJson reply.body) := by
  simp [Request.readReply, Option.filter, h]

end

/-! ### Reading all pages -/

namespace Repository

variable {r : Repository} {filter : RoundFilter} {found : List (Item Float)} {start : PageKey}
  {pages : Nat}

lemma scanFrom_succ : (r.scanFrom filter found start (pages + 1)).run =
    .ask (.scan r.roundsTable filter start) fun
      | none => .done (.error ⟨["failed to scan game_rounds table"]⟩)
      | some page =>
        if page.lastKey.isEmpty then .done (.ok (some (found ++ page.items)))
        else (r.scanFrom filter (found ++ page.items) page.lastKey pages).run := by
  refine congrArg (Dialogue.ask _) (funext fun reply => ?_)
  cases reply with
  | none => rfl
  | some page =>
    change ExceptT.run (if page.lastKey.isEmpty then _ else _) = ite _ _ _
    by_cases h : page.lastKey.isEmpty
    · simp only [h, if_true]
      rfl
    · simp only [h]
      rfl

/-- One page of a scan, and where the scan goes from there. -/
lemma scanFrom_succ_run {reply : WireReply} {replies : List WireReply} {items : List Json}
    (h : reply.Carries items) :
    (r.scanFrom filter found start (pages + 1)).run.run Request.takeReply (reply :: replies) =
      (if (Page.ofJson reply.body).lastKey.isEmpty then
        .done (.ok (some (found ++ items.filterMap Item.ofJson?)))
      else (r.scanFrom filter (found ++ items.filterMap Item.ofJson?)
        (Page.ofJson reply.body).lastKey pages).run).run Request.takeReply replies := by
  have hreply : Request.takeReply (.scan r.roundsTable filter start) (reply :: replies) =
      (some (Page.ofJson reply.body), replies) :=
    congrArg (fun page => (page, replies)) (readReply_scan h.succeeded)
  rw [scanFrom_succ]
  simp only [Dialogue.run, bind, StateT.bind, hreply, h.items_ofJson]

/-- Whatever has been found before, the scan adds the items of all pages. -/
lemma scanFrom_run {replies : List WireReply} {items : List Json} (h : Delivers replies items)
    (hpages : replies.length ≤ pages) :
    (r.scanFrom filter found start pages).run.run Request.takeReply replies =
      (.ok (some (found ++ items.filterMap Item.ofJson?)), []) := by
  induction h generalizing found start pages with
  | last hitems hkey =>
    obtain ⟨pages, rfl⟩ := Nat.exists_eq_add_one.2 hpages
    rw [scanFrom_succ_run hitems, Page.lastKey_eq_nil hkey, if_pos List.isEmpty_nil]
    rfl
  | more hitems hkey hne hrest ih =>
    obtain ⟨pages, rfl⟩ := Nat.exists_eq_add_one.2 (Nat.zero_lt_of_lt hpages)
    rw [scanFrom_succ_run hitems, Page.lastKey_eq hkey, if_neg (List.isEmpty_iff.not.2 hne),
      ih (Nat.le_of_succ_le_succ hpages), List.filterMap_append, List.append_assoc]

/-- What is told of a scan is told of the items of all pages. -/
lemma scan_map_run {β : Type} {replies : List WireReply} {items : List Json}
    (h : Delivers replies items) (hpages : replies.length ≤ pages) (f : List (Item Float) → β) :
    (do
      let items ← r.scan filter pages
      pure (items.map f) : Attempt (Option β)).run.run Request.takeReply replies =
      (.ok (some (f (items.filterMap Item.ofJson?))), []) := by
  refine (Dialogue.run_bind (r.scanFrom filter [] [] pages).run _ replies).trans ?_
  rw [scanFrom_run h hpages]
  rfl

end Repository

end Database

end SlotMachine
