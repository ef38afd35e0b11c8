import SlotMachine.Messages.Round
import SlotMachine.Proofs.Instant.Text
import SlotMachine.Proofs.Json.Decoding

/-!
# Rounds and events in messages

A round is written as one object with its outcome among its other members, and read back from it.
Only the two amounts and the time can be lost on the way (`decoder_node_eq`), and are not lost where
the amounts are legible and the time is plain. Then the event of a round is read back as well.
-/

namespace SlotMachine

open Json (Decoder Legible Placed Record)
open NumberLiteral (scale? scale?_of_neg)

namespace Symbol

lemma decoder_node (payload : Decoder Unit) (s : Symbol) (room : Nat) :
    Symbol.decoder payload room s.toJson.node = .ok s := by
  cases s <;> rfl

end Symbol

namespace Reels

lemma decoder_node (payload : Decoder Unit) (r : Reels) (room : Nat) :
    Reels.decoder payload (room + 1) r.toJson.node = .ok r := by
  simp [decoder, toJson, toList, Json.node, Json.itemNodes, Decoder.list, Symbol.decoder_node,
    ofList?, bind, Except.bind, pure, Except.pure]

end Reels

namespace Instant

lemma decoder_node {i : Instant} (h : i.Plain) (room : Nat) :
    Instant.decoder room (Json.string i.text).node = .ok i := by
  simp [decoder, Json.string_node, ofText?_text h, bind, Except.bind]

end Instant

namespace Outcome

variable (o : Outcome) (room : Nat)

/-- The members of an outcome are JSON, whatever the rest of the record makes of them. -/
lemma value_members : ∀ member ∈ Json.memberNodes o.members,
    (Json.value (room + 1) member.2).map (fun _ => ()) = .ok () := by
  have hm : (NumberLiteral.ofInt o.multiplier.toNat).value? = some (.int o.multiplier.toNat) := by
    have hlt := o.multiplier.toNat_lt_size
    have hword : UInt32.size < UInt64.size := by decide
    exact NumberLiteral.value?_ofInt (by omega) (by omega)
  simp [members, Json.memberNodes, Reels.toJson, Reels.toList, Json.node, Json.itemNodes,
    Symbol.toJson, Json.value, Json.values, hm, Except.map, bind, Except.bind, pure, Except.pure]

/-- An outcome is read back from its own members. -/
lemma decoder_memberNodes (payload : Decoder Unit) :
    Decoder.record fields (Outcome.read payload) (room + 2)
      (.object (Json.memberNodes o.members) true) = .ok o := by
  let record : Record := ⟨Json.memberNodes o.members, room + 1⟩
  have hreels : record.get (reelsField payload) = .value o.reels :=
    Record.get_eq_value 0 rfl (o.reels.decoder_node payload room)
  have hwin : record.get winField = .value o.win :=
    Record.get_eq_value 1 rfl (Json.bool_node o.win (room + 1))
  have hmultiplier : record.get multiplierField = .value o.multiplier :=
    Record.get_eq_value 2 rfl (Json.word32_node o.multiplier (room + 1))
  rw [Decoder.record]
  rw [read, hreels, hwin, hmultiplier]
  rfl

end Outcome

namespace Round

/-- The members of a round as they are read. -/
def nodes (r : Round) : Json.Members :=
  [(some "id", ((r.id.map Json.string).getD .null).node),
    (some "user_id", (Json.string r.userId).node), (some "bet", (Json.float r.bet).node)] ++
    Json.memberNodes r.outcome.members ++
    [(some "payout", (Json.float r.payout).node),
      (some "timestamp", (Json.string r.time.text).node)]

lemma node_toJson (r : Round) : r.toJson.node = .object r.nodes true := rfl

lemma outline_nodes (r : Round) (room : Nat) :
    Record.outline fields (fun node => (Json.value (room + 1) node).map fun _ => ()) true [] 0
      r.nodes = .value () := by
  have hmembers := r.outcome.value_members room
  simp only [Outcome.members, Json.memberNodes, List.forall_mem_cons] at hmembers
  obtain ⟨hsymbols, hwin, hmultiplier, -⟩ := hmembers
  simp [nodes, Outcome.members, Json.memberNodes, Record.outline, fields, idField, userField,
    betField, payoutField, timeField, hsymbols, hwin, hmultiplier]

lemma within_nodes (r : Round) (room : Nat) :
    Outcome.within fields ⟨r.nodes, room + 1⟩ = .value r.outcome := by
  -- the members that belong to no field of the round are just those of the outcome
  have hown := r.outcome.decoder_memberNodes room Outcome.emptyPayload
  unfold Outcome.within
  dsimp only
  split
  case h_1 h =>
    cases h.symm.trans hown
    rfl
  case h_2 h => cases h.symm.trans hown

/-- A round is read from its text member by member. -/
lemma decoder_node_eq (r : Round) (room : Nat) :
    Round.decoder (room + 2) r.toJson.node =
      (mk <$> pure r.id <*> pure r.userId <*>
        Placed.ofExcept 2 (Decoder.float (room + 1) (Json.float r.bet).node) <*> pure r.outcome <*>
        Placed.ofExcept 6 (Decoder.float (room + 1) (Json.float r.payout).node) <*>
        Placed.ofExcept 7 (Instant.decoder (room + 1) (Json.string r.time.text).node)).result := by
  let record : Record := ⟨r.nodes, room + 1⟩
  have hid : record.get idField = .value r.id :=
    Record.get_eq_value 0 rfl (Json.option_string_node r.id (room + 1))
  have huser : record.get userField = .value r.userId :=
    Record.get_eq_value 1 rfl (Json.string_node r.userId (room + 1))
  have hbet : record.get betField = _ := Record.get_eq 2 rfl
  have hpayout : record.get payoutField = _ := Record.get_eq 6 rfl
  have htime : record.get timeField = _ := Record.get_eq 7 rfl
  rw [node_toJson, decoder, Decoder.openRecord]
  rw [outline_nodes, Placed.value_seqRight, hid, huser, hbet, within_nodes, hpayout, htime]
  rfl

/-- What a round can be read back from: amounts that are legible and a time that is plain. -/
structure Tellable (r : Round) : Prop where
  bet : Legible r.bet
  payout : Legible r.payout
  time : r.time.Plain

variable {r : Round}

lemma Tellable.decoder_node (h : r.Tellable) (room : Nat) :
    Round.decoder (room + 2) r.toJson.node = .ok r := by
  rw [decoder_node_eq, h.bet.float_node, h.payout.float_node, Instant.decoder_node h.time]
  rfl

end Round

namespace RoundEvent

/-- The round and the trace of an event are read from its text. -/
lemma decoder_node {e : RoundEvent} (hround : e.round.Tellable) (htime : e.time.Plain)
    (htrace : e.trace.Pairwise (·.1 < ·.1)) (room : Nat) :
    RoundEvent.decoder (room + 3) e.toJson.node = .ok e := by
  let record : Record := ⟨[(some "data", e.round.toJson.node), (some "trace", e.trace.toJson.node),
    (some "timestamp", (Json.string e.time.text).node)], room + 2⟩
  have hdata : record.get roundField = .value e.round :=
    Record.get_eq_value 0 rfl (hround.decoder_node room)
  have hheaders : record.get traceField = .value e.trace :=
    Record.get_eq_value 1 rfl (Json.dictionary_node htrace (room + 1))
  have hstamp : record.get timeField = .value e.time :=
    Record.get_eq_value 2 rfl (Instant.decoder_node htime (room + 2))
  have hnode : e.toJson.node = .object record.members true := rfl
  rw [hnode, decoder, Decoder.record, hdata, hheaders, hstamp]
  rfl

/-- A round is read back from its text, and so is any event of the round, with nothing lost:
whatever the user id and the trace hold, with an id or without, and down to the nanosecond. -/
theorem ofSource_toJson (r : Round) (hround : r.Tellable) :
    Round.decoder.ofSource (.ofString r.toJson.text) = .ok r ∧
    ∀ (trace : Trace) (time : Instant), trace.Pairwise (·.1 < ·.1) → time.Plain →
      let e : RoundEvent := ⟨r, trace, time⟩
      decoder.ofSource (.ofString e.toJson.text) = .ok e := by
  constructor
  · rw [Decoder.ofSource_text]
    exact hround.decoder_node 125
  · intro trace time htrace htime e
    rw [Decoder.ofSource_text]
    exact decoder_node hround htime htrace 124

/-- An event of anna's: a win that has no id yet. -/
def ofAnna : RoundEvent where
  round :=
    { id := none
      userId := "anna \"\\\x01"
      bet := 12.5
      outcome := ⟨⟨.lemon, .lemon, .lemon⟩, true, 3⟩
      payout := 37.5
      time := ⟨1700000000, 123456789⟩ }
  trace := [("baggage", "a=1"), ("traceparent", "00-⭐")]
  time := ⟨1700000000, 120000000⟩

lemma tellable_ofAnna : ofAnna.round.Tellable where
  bet := by
    apply Json.legible_of_literal rfl (n := ⟨false, ['1', '2'], some ['5'], none⟩) rfl
    show (((scale? (125 : UInt64).toFloat (-1)).map _).map _).bind _ = _
    rw [scale?_of_neg (by decide) (by decide)]
    rfl
  payout := by
    apply Json.legible_of_literal rfl (n := ⟨false, ['3', '7'], some ['5'], none⟩) rfl
    show (((scale? (375 : UInt64).toFloat (-1)).map _).map _).bind _ = _
    rw [scale?_of_neg (by decide) (by decide)]
    rfl
  time := ⟨by decide, by decide, by decide⟩

theorem ofSource_toJson_ofAnna :
    ofAnna.round.Tellable ∧ ofAnna.trace.Pairwise (·.1 < ·.1) ∧ ofAnna.time.Plain ∧
    Round.decoder.ofSource (.ofString ofAnna.round.toJson.text) = .ok ofAnna.round ∧
    decoder.ofSource (.ofString ofAnna.toJson.text) = .ok ofAnna := by
  have htrace : ofAnna.trace.Pairwise (·.1 < ·.1) := by decide
  have htime : ofAnna.time.Plain := ⟨by decide, by decide, by decide⟩
  obtain ⟨hread, hevents⟩ := ofSource_toJson ofAnna.round tellable_ofAnna
  exact ⟨tellable_ofAnna, htrace, htime, hread, hevents ofAnna.trace ofAnna.time htrace htime⟩

end RoundEvent

end SlotMachine
