import SlotMachine.Messages.Record
import SlotMachine.Proofs.Http.Interfaces
import SlotMachine.Proofs.Json.Members
import SlotMachine.Proofs.Text.Order
import SlotMachine.Proofs.Text.Trim

/-!
# Traces

Some headers of a request go with the event of its round: into the payload, and once more into the
headers of its record. `Request.Tells` says of the list of headers alone which value goes with a
name. Whatever request the server answers, the event that is published has just these values.
-/

namespace SlotMachine

open Dialogue (Transcript)

/-! ### Events -/

namespace Exchange

/-- The events that are handed in to be published. -/
def events (log : Transcript Call.Reply) : List RoundEvent :=
  log.filterMap fun
    | ⟨.publish event, _⟩ => some event
    | _ => none

end Exchange

open Exchange (events)

/-- A play says nothing at all, or it publishes one event, with its trace. -/
lemma PlayTalk.events_eq {wagers : Bool} {trace : Trace} {drawn : Except PlayError Round}
    {log : Transcript Call.Reply} {result : Except SpinError Settlement}
    (h : PlayTalk wagers trace drawn log result) :
    log = [] ∨ ∃ event, events log = [event] ∧ event.trace = trace := by
  cases h with
  | undrawn _ => exact .inl rfl
  | @drawn round _ _ talk =>
    obtain ⟨o, rest, rfl, hclosing⟩ := talk
    have hrest : events rest = [] :=
      hclosing.filterMap_eq_nil (fun _ _ _ _ => rfl) (fun _ _ _ _ => rfl)
    have hlog : events (o.log round trace ++ rest) =
        [.ofRound (round.kept o.saved) trace] ++ events rest := List.filterMap_append
    rw [hrest] at hlog
    exact .inr ⟨_, hlog, rfl⟩

/-- The payload of a record is an object, and what stands in it under `trace` are these entries, in
this order. -/
def EventRecord.PayloadTells (record : EventRecord) (trace : Trace) : Prop :=
  ∃ members, Json.IsObject (.ofString record.payload) members ∧
    Json.under ["trace"] members =
      [.object (trace.map fun (name, value) => (some name, .string (some value))) true]

lemma Trace.node_toJson (trace : Trace) :
    trace.toJson.node =
      .object (trace.map fun (name, value) => (some name, .string (some value))) true := by
  rw [toJson, Json.node, Json.memberNodes_eq_map, List.map_map]
  rfl

lemma RoundEvent.record_payloadTells (e : RoundEvent) (topic : String) :
    (e.record topic).PayloadTells e.trace := by
  refine ⟨_, Json.isObject_text (j := e.toJson) rfl, ?_⟩
  rw [← e.trace.node_toJson]
  rfl

namespace Http

/-! ### What the headers of a request tell -/

/-- The text of bytes that are ASCII. -/
def asciiText (value : Bytes) : String :=
  String.ofList (value.map fun b => Char.ofNat b.toNat)

namespace Request

/-- The value that goes with a name: the first header of this name, in whatever case, has nothing
but tabs and the characters of ASCII from the blank on and is not blank, and this is its text without
blanks around it. -/
def Tells (r : Request) (name value : String) : Prop :=
  ∃ before header after, r.headers = before ++ header :: after ∧
    (∀ h ∈ before, asciiLower h.1 ≠ name) ∧ asciiLower header.1 = name ∧
    (∀ b ∈ header.2, b = 9 ∨ 32 ≤ b ∧ b ≤ 126) ∧ (∃ b ∈ header.2, b ≠ 9 ∧ b ≠ 32) ∧
    value = trim (asciiText header.2)

/-- The values of the headers with this name, in their order. -/
def values (r : Request) (name : String) : List Bytes :=
  (r.headers.filter fun header => asciiLower header.1 == name).map (·.2)

variable {r r' : Request} {name value : String}

lemma header?_eq_head? (r : Request) (name : String) : r.header? name = (r.values name).head? := by
  rw [header?, values, List.head?_map, List.head?_filter]

lemma header?_eq_some_iff {bytes : Bytes} : r.header? name = some bytes ↔
    ∃ before header after, r.headers = before ++ header :: after ∧
      (∀ h ∈ before, asciiLower h.1 ≠ name) ∧ asciiLower header.1 = name ∧ header.2 = bytes := by
  rw [header?, Option.map_eq_some_iff]
  simp only [List.find?_eq_some_iff_append, Bool.not_eq_true', beq_iff_eq, beq_eq_false_iff_ne]
  constructor
  · rintro ⟨header, ⟨hname, before, after, hheaders, hbefore⟩, hbytes⟩
    exact ⟨before, header, after, hheaders, hbefore, hname, hbytes⟩
  · rintro ⟨before, header, after, hheaders, hbefore, hname, hbytes⟩
    exact ⟨header, ⟨hname, before, after, hheaders, hbefore⟩, hbytes⟩

end Request

/-! ### Texts of headers -/

section

variable {value : Bytes}

lemma headerText?_eq_some_iff {text : String} :
    headerText? value = some text ↔
      (∀ b ∈ value, b = 9 ∨ 32 ≤ b ∧ b ≤ 126) ∧ text = asciiText value := by
  have hall : (value.all fun b => b == 9 || (32 ≤ b && b < 127)) = true ↔
      ∀ b ∈ value, b = 9 ∨ 32 ≤ b ∧ b ≤ 126 := by
    have hlt (b : UInt8) : b < 127 ↔ b ≤ 126 := by
      rw [UInt8.lt_iff_toNat_lt, UInt8.le_iff_toNat_le]
      exact Nat.lt_succ_iff
    simp [hlt]
  rw [headerText?, ← hall, Option.ite_none_right_eq_some, Option.some.injEq, asciiText,
    @eq_comm _ text]

lemma isBlank_asciiChar {b : UInt8} (h : b = 9 ∨ 32 ≤ b ∧ b ≤ 126) :
    isBlank (Char.ofNat b.toNat) = true ↔ b = 9 ∨ b = 32 := by
  have hchars : ∀ n < 127, n = 9 ∨ 32 ≤ n →
      (isBlank (Char.ofNat n) = true ↔ n = 9 ∨ n = 32) := by decide
  have hn : b.toNat < 127 ∧ (b.toNat = 9 ∨ 32 ≤ b.toNat) := by
    simp only [← UInt8.toNat_inj, UInt8.le_iff_toNat_le] at h
    simp at h
    omega
  rw [hchars b.toNat hn.1 hn.2, ← UInt8.toNat_inj, ← UInt8.toNat_inj]
  rfl

lemma trim_asciiText_eq_empty (h : ∀ b ∈ value, b = 9 ∨ 32 ≤ b ∧ b ≤ 126) :
    trim (asciiText value) = "" ↔ ∀ b ∈ value, b = 9 ∨ b = 32 := by
  rw [trim_eq_empty_iff, asciiText, String.toList_ofList, List.forall_mem_map]
  exact forall₂_congr fun b hb => isBlank_asciiChar (h b hb)

end

namespace Request

variable {r r' : Request} {name value : String}

lemma tells_iff :
    ((r.headerText? name).map trim).filter (!·.isEmpty) = some value ↔ r.Tells name value := by
  simp only [Option.filter_eq_some_iff, Option.map_eq_some_iff, headerText?,
    Option.bind_eq_some_iff, header?_eq_some_iff, headerText?_eq_some_iff, Bool.not_eq_true',
    String.isEmpty_eq_false_iff]
  constructor
  · rintro ⟨⟨_, ⟨_, ⟨before, header, after, hheaders, hbefore, hname, rfl⟩, htext, rfl⟩, rfl⟩, hne⟩
    rw [ne_eq, trim_asciiText_eq_empty htext] at hne
    exact ⟨before, header, after, hheaders, hbefore, hname, htext, by simpa using hne, rfl⟩
  · rintro ⟨before, header, after, hheaders, hbefore, hname, htext, hblank, rfl⟩
    refine ⟨⟨_, ⟨_, ⟨before, header, after, hheaders, hbefore, hname, rfl⟩, htext, rfl⟩, rfl⟩, ?_⟩
    rw [ne_eq, trim_asciiText_eq_empty htext]
    simpa using hblank

lemma mem_trace : (name, value) ∈ r.trace ↔ name ∈ traceNames ∧ r.Tells name value := by
  simp only [trace, List.mem_filterMap, Option.map_eq_some_iff, tells_iff, Prod.mk.injEq]
  constructor
  · rintro ⟨_, hmem, _, htells, rfl, rfl⟩
    exact ⟨hmem, htells⟩
  · rintro ⟨hmem, htells⟩
    exact ⟨name, hmem, value, htells, rfl, rfl⟩

/-- The names are sorted, and so is what goes with them. -/
lemma pairwise_trace (r : Request) : r.trace.Pairwise fun a b => compareBytes a.1 b.1 = .lt := by
  have hnames : traceNames.Pairwise fun a b => compareBytes a b = .lt := by decide +kernel
  refine hnames.filterMap _ fun a b hab entry hentry entry' hentry' => ?_
  obtain ⟨_, -, rfl⟩ := Option.map_eq_some_iff.1 hentry
  obtain ⟨_, -, rfl⟩ := Option.map_eq_some_iff.1 hentry'
  exact hab

lemma trace_congr (h : ∀ name ∈ traceNames, r.values name = r'.values name) :
    r.trace = r'.trace := by
  refine List.filterMap_congr fun name hname => ?_
  rw [headerText?, headerText?, header?_eq_head?, header?_eq_head?, h name hname]

end Request

/-! ### Served requests -/

namespace Server

/-- Whatever is drawn and however the collaborators answer: nothing at all is said to them, or one
event is published, whose record has this trace for its headers and tells it in its payload. -/
def Publishes {α : Type} (trace : Trace) (serving : Draw (Exchange α)) : Prop :=
  ∀ (chance : Chance) (meter : Meter) {σ : Type} (answer : (c : Call) → StateM σ c.Reply)
    (recorder : Recorder) (state : σ),
    let said := (serving chance meter).1.said answer recorder state
    said = [] ∨ ∃ event, events said = [event] ∧
      ∀ topic, (event.record topic).headers = trace ∧ (event.record topic).PayloadTells trace

section

variable {α β : Type} {trace : Trace} {serving : Draw (Exchange α)}

lemma publishes_of_said_eq_nil (h : ∀ (chance : Chance) (meter : Meter) {σ : Type}
      (answer : (c : Call) → StateM σ c.Reply) (recorder : Recorder) (state : σ),
      (serving chance meter).1.said answer recorder state = []) : Publishes trace serving :=
  fun chance meter _ answer recorder state => .inl (h chance meter answer recorder state)

lemma Publishes.map (h : Publishes trace serving) (f : α → β) :
    Publishes trace (do let exchange ← serving; pure (f <$> exchange)) := by
  intro chance meter σ answer recorder state
  rw [Draw.bind_apply]
  simp only [Draw.pure_apply, Exchange.said_map]
  exact h chance meter answer recorder state

lemma publishes_respond (response : Response) : Publishes trace (respond response) :=
  publishes_of_said_eq_nil fun _ _ _ _ _ _ => rfl

end

lemma publishes_play (s : Service) (request : PlayRequest) (trace : Trace) (now : Instant) :
    Publishes trace (s.play request trace now) := by
  intro chance meter σ answer recorder state
  have htalk := s.play_talk answer request trace now chance meter recorder state
  obtain hnone | ⟨event, hevent, rfl⟩ := htalk.events_eq
  · exact .inl hnone
  · exact .inr ⟨event, hevent, fun topic => ⟨rfl, event.record_payloadTells topic⟩⟩

variable (s : Server) (r : Request) (now : Instant) (pieces : Nat)

lemma publishes_calculate : Publishes r.trace (s.calculate r now) := by
  unfold calculate
  split
  · exact publishes_respond _
  · exact ((publishes_play s.service _ r.trace now).map _).map _

lemma publishes_connectCalculate : Publishes r.trace (s.connectCalculate r now) := by
  unfold connectCalculate
  split
  · exact publishes_respond _
  · exact (publishes_play s.service _ r.trace now).map _

lemma publishes_businessMetrics (trace : Trace) : Publishes trace (businessMetrics r) := by
  unfold businessMetrics
  split
  · exact publishes_respond _
  · exact publishes_of_said_eq_nil fun _ _ _ _ _ _ => rfl

lemma publishes_connectBusinessMetrics (trace : Trace) :
    Publishes trace (connectBusinessMetrics r) := by
  unfold connectBusinessMetrics
  split
  · exact publishes_respond _
  · exact publishes_of_said_eq_nil fun _ _ _ _ _ _ => rfl

lemma publishes_serve (e : Endpoint) : Publishes r.trace (s.serve r now pieces e) := by
  cases e with
  | calculate => exact s.publishes_calculate r now
  | businessMetrics => exact publishes_businessMetrics r r.trace
  | connectCalculate => exact s.publishes_connectCalculate r now
  | connectBusinessMetrics => exact publishes_connectBusinessMetrics r r.trace
  | metrics => exact publishes_of_said_eq_nil fun _ _ _ _ _ _ => rfl
  | _ => exact publishes_respond _

lemma publishes_handle (route : Route) : Publishes r.trace (s.handle r now pieces route) := by
  cases route with
  | endpoint e => exact s.publishes_serve r now pieces e
  | head e => exact (s.publishes_serve r now pieces e).map (headOnly e)
  | _ => exact publishes_respond _

/-- Whatever request is answered, a published event has an entry for a name just where the headers
tell a value for it, in its payload and in the headers of its record alike, and the entries are
sorted by name. All requests with the same values under each of the names have the same entries. -/
theorem answer_publishes (s : Server) (r : Request) (now : Instant) (pieces : Nat) :
    let names := ["traceparent", "tracestate", "sentry-trace", "baggage", "x-request-id"]
    Publishes r.trace (s.answer r now pieces).1 ∧
    (∀ name value, (name, value) ∈ r.trace ↔ name ∈ names ∧ r.Tells name value) ∧
    (r.trace.Pairwise fun a b => compareBytes a.1 b.1 = .lt) ∧
    ∀ r' : Request, (∀ name ∈ names, r'.values name = r.values name) → r'.trace = r.trace := by
  intro names
  have hnames : ∀ name, name ∈ names ↔ name ∈ Request.traceNames := fun name =>
    List.Perm.mem_iff (by decide)
  refine ⟨s.publishes_handle r now pieces _, fun name value => ?_, r.pairwise_trace, fun r' h => ?_⟩
  · rw [hnames]
    exact Request.mem_trace
  · exact Request.trace_congr fun name hname => h name ((hnames name).2 hname)

end Server

/-! ### A request with a trace -/

/-- Anna's request comes with headers of which some are told twice, some are blank and some are no
text. -/
def Request.traced : Request := { Request.ofAnna with
  headers := Request.ofAnna.headers ++ [("TraceParent", asciiBytes " 00-a\t"),
    ("traceparent", asciiBytes "01"), ("baggage", [255]), ("Baggage", asciiBytes "b"),
    ("tracestate", asciiBytes " \t"), ("X-Request-Id", asciiBytes "7")] }

/-- The same headers in another order, and one more. -/
def Request.shuffled : Request := { Request.ofAnna with
  headers := [("X-REQUEST-ID", asciiBytes "7"), ("baggage", [255]),
    ("traceparent", asciiBytes " 00-a\t"), ("Cookie", asciiBytes "c"), ("baggage", asciiBytes "b"),
    ("Tracestate", asciiBytes " \t"), ("traceparent", asciiBytes "01")] }

lemma trace_traced : Request.traced.trace = [("traceparent", "00-a"), ("x-request-id", "7")] := by
  decide +kernel

lemma restBody_traced : restBody PlayRequest.decoder .traced = .ok .ofAnna := by
  decide +kernel

lemma said_traced :
    let s : Server := { service := .primeless, surfaces := ⟨true, true⟩ }
    (((s.answer .traced ⟨0, 0⟩ 0).1 (.still 0) {}).1.said (House.answer .ordinary) {}
      (.fresh 1000.0)) ≠ [] := by
  intro s
  have hroute : Route.ofRequest ⟨true, true⟩ .traced = .endpoint .calculate := by decide +kernel
  have hdrawn : (Service.primeless.engine.playRound PlayRequest.ofAnna.toSpinRequest ⟨0, 0⟩
      (.still 0) {}).1 = .ok .ofAnna := playRound_ofAnna
  rw [Server.answer, hroute]
  dsimp only [Server.handle, Server.serve]
  rw [Server.calculate_apply _ restBody_traced, Exchange.said_map, Exchange.said_map,
    Service.play_apply, hdrawn]
  exact List.cons_ne_nil _ _

theorem answer_publishes_traced :
    let s : Server := { service := .primeless, surfaces := ⟨true, true⟩ }
    let said := ((s.answer .traced ⟨0, 0⟩ 0).1 (.still 0) {}).1.said (House.answer .ordinary) {}
      (.fresh 1000.0)
    Request.shuffled.trace = [("traceparent", "00-a"), ("x-request-id", "7")] ∧
    ∃ event, events said = [event] ∧
      (event.record "rounds").headers = [("traceparent", "00-a"), ("x-request-id", "7")] := by
  obtain ⟨hpublishes, -, -, halike⟩ :=
    Server.answer_publishes { service := .primeless, surfaces := ⟨true, true⟩ } .traced ⟨0, 0⟩ 0
  have hevents := hpublishes (.still 0) {} (House.answer .ordinary) {} (.fresh 1000.0)
  obtain ⟨event, hevent, hrecord⟩ := hevents.resolve_left said_traced
  rw [← trace_traced]
  exact ⟨halike .shuffled (by decide +kernel), event, hevent, (hrecord "rounds").1⟩

end Http

end SlotMachine
