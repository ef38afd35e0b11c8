import SlotMachine.Messages.Scenario
import SlotMachine.Proofs.Json.Members
import SlotMachine.Proofs.Json.Values
import SlotMachine.Proofs.Messages.Rounds
import SlotMachine.Proofs.Wager.Gateway

/-!
# Replies in messages

The plain reply, the Connect reply and the report of a scenario are read back from their texts. What
may be missing and is leaves no member in the text, so that the reader finds it missing too. A
progress that a wager service told stood within another object when it was read, so that a reply has
room for it. The data of a report come from nowhere in particular. They are read back just where no
value of them is nested too deep for a member (`ScenarioReply.decoder_node_iff`).
-/

namespace SlotMachine

open Json (Decoder Legible Placed Record RecordField IsObject Keepable IsLegible ReadWith under
  memberNodes)

/-! ### Optional members -/

lemma under_optionalMember {names : List String} {key : String} (h : key ∈ names)
    (value : Option Json) :
    under names (memberNodes (optionalMember key value)) = (value.map Json.node).toList := by
  cases value with
  | none => rfl
  | some j => exact Json.under_cons_of_mem h

lemma under_optionalMember_of_not_mem {names : List String} {key : String} (h : key ∉ names)
    (value : Option Json) : under names (memberNodes (optionalMember key value)) = [] := by
  cases value with
  | none => rfl
  | some j => exact Json.under_cons_of_not_mem h

/-! ### The plain reply -/

namespace PlayReply

/-- What a plain reply is read back from: legible amounts, and a progress that a wager service told,
if there is one. -/
structure Tellable (r : PlayReply) : Prop where
  payout : Legible r.payout
  newBalance : Legible r.newBalance
  progress : ∀ p ∈ r.progress, Wager.Told p ∧ p.All IsLegible

/-- The members of a reply as they are read. -/
def nodes (r : PlayReply) : Json.Members :=
  [(some "win", (Json.bool r.win).node), (some "payout", (Json.float r.payout).node),
    (some "symbols", (Json.array (r.symbols.map Symbol.toJson)).node),
    (some "new_balance", (Json.float r.newBalance).node)] ++
    memberNodes (optionalMember "wagering_progress" r.progress ++
      optionalMember "error" (r.error.map .string))

lemma node_toJson (r : PlayReply) : r.toJson.node = .object r.nodes true := by
  rw [toJson, List.append_assoc]
  rfl

lemma under_progress (r : PlayReply) :
    under progressField.names r.nodes = (r.progress.map Json.node).toList := by
  obtain ⟨win, payout, symbols, newBalance, progress, error⟩ := r
  cases progress <;> cases error <;> rfl

lemma under_error (r : PlayReply) :
    under errorField.names r.nodes = (r.error.map fun e => (Json.string e).node).toList := by
  obtain ⟨win, payout, symbols, newBalance, progress, error⟩ := r
  cases progress <;> cases error <;> rfl

lemma outline_nodes (r : PlayReply) :
    Record.outline [winField.names, payoutField.names, symbolsField.names, balanceField.names,
      progressField.names, errorField.names] Record.skip true [] 0 r.nodes = .value () := by
  obtain ⟨win, payout, symbols, newBalance, progress, error⟩ := r
  cases progress <;> cases error <;> rfl

variable {r : PlayReply}

lemma Tellable.decoder_node (h : r.Tellable) : decoder 127 r.toJson.node = .ok r := by
  let record : Record := ⟨r.nodes, 126⟩
  have hwin : record.get winField = .value r.win :=
    Record.get_eq_value 0 rfl (Json.bool_node r.win 126)
  have hpayout : record.get payoutField = .value r.payout :=
    Record.get_eq_value 1 rfl (h.payout.float_node 126)
  have hsymbols : record.get symbolsField = .value r.symbols :=
    Record.get_eq_value 2 rfl (Json.list_node (fun s => s.decoder_node _ 125) r.symbols)
  have hbalance : record.get balanceField = .value r.newBalance :=
    Record.get_eq_value 3 rfl (h.newBalance.float_node 126)
  have hprogress : record.get progressField = .value r.progress := by
    apply Record.get_eq_value_of_read?
    rw [under_progress]
    refine @Json.read?_toList Json Json.value id r.progress 126 _ fun p hp => ?_
    obtain ⟨htold, hlegible⟩ := h.progress p hp
    obtain ⟨hnull, hread⟩ := htold.readWith
    exact ⟨hread.node_ne_null hlegible hnull, hread.value_node hlegible⟩
  have herror : record.get errorField = .value r.error := by
    apply Record.get_eq_value_of_read?
    rw [under_error]
    exact Json.read?_toList _ fun e _ => ⟨by rintro ⟨⟩, Json.string_node e 126⟩
  rw [node_toJson, decoder, Decoder.record, outline_nodes]
  rw [Placed.value_seqRight, hwin, hpayout, hsymbols, hbalance, hprogress, herror]
  rfl

end PlayReply

/-! ### The Connect reply -/

namespace WageringProgress

lemma decoder_node {p : WageringProgress} (hpercent : Legible p.percent)
    (hremaining : Legible p.remaining) (room : Nat) : decoder (room + 1) p.toJson.node = .ok p := by
  let record : Record := ⟨[(some "progressPercent", (Json.float p.percent).node),
    (some "remaining", (Json.float p.remaining).node),
    (some "canConvert", (Json.bool p.canConvert).node)], room⟩
  have hfirst : record.get percentField = .value p.percent :=
    Record.get_eq_value 0 rfl (hpercent.float_node room)
  have hsecond : record.get remainingField = .value p.remaining :=
    Record.get_eq_value 1 rfl (hremaining.float_node room)
  have hthird : record.get convertField = .value p.canConvert :=
    Record.get_eq_value 2 rfl (Json.bool_node p.canConvert room)
  have hnode : p.toJson.node = .object record.members true := rfl
  rw [hnode, decoder, Decoder.record, hfirst, hsecond, hthird]
  rfl

end WageringProgress

namespace ConnectReply

/-- What a Connect reply is read back from: all its numbers are legible. -/
structure Tellable (r : ConnectReply) : Prop where
  payout : Legible r.payout
  newBalance : Legible r.newBalance
  progress : ∀ p ∈ r.progress, Legible p.percent ∧ Legible p.remaining

/-- The members of a reply as they are read. -/
def nodes (r : ConnectReply) : Json.Members :=
  [(some "win", (Json.bool r.win).node), (some "payout", (Json.float r.payout).node),
    (some "symbols", (Json.array (r.symbols.map Symbol.toJson)).node),
    (some "newBalance", (Json.float r.newBalance).node)] ++
    memberNodes (optionalMember "wageringProgress" (r.progress.map WageringProgress.toJson))

lemma node_toJson (r : ConnectReply) : r.toJson.node = .object r.nodes true := rfl

lemma under_progress (r : ConnectReply) :
    under progressField.names r.nodes = (r.progress.map fun p => p.toJson.node).toList := by
  obtain ⟨win, payout, symbols, newBalance, progress⟩ := r
  cases progress <;> rfl

lemma outline_nodes (r : ConnectReply) :
    Record.outline [PlayReply.winField.names, PlayReply.payoutField.names,
      PlayReply.symbolsField.names, balanceField.names, progressField.names] Record.skip true [] 0
      r.nodes = .value () := by
  obtain ⟨win, payout, symbols, newBalance, progress⟩ := r
  cases progress <;> rfl

variable {r : ConnectReply}

lemma Tellable.decoder_node (h : r.Tellable) : decoder 127 r.toJson.node = .ok r := by
  let record : Record := ⟨r.nodes, 126⟩
  have hwin : record.get PlayReply.winField = .value r.win :=
    Record.get_eq_value 0 rfl (Json.bool_node r.win 126)
  have hpayout : record.get PlayReply.payoutField = .value r.payout :=
    Record.get_eq_value 1 rfl (h.payout.float_node 126)
  have hsymbols : record.get PlayReply.symbolsField = .value r.symbols :=
    Record.get_eq_value 2 rfl (Json.list_node (fun s => s.decoder_node _ 125) r.symbols)
  have hbalance : record.get balanceField = .value r.newBalance :=
    Record.get_eq_value 3 rfl (h.newBalance.float_node 126)
  have hprogress : record.get progressField = .value r.progress := by
    apply Record.get_eq_value_of_read?
    rw [under_progress]
    refine Json.read?_toList _ fun p hp => ⟨by rintro ⟨⟩, ?_⟩
    obtain ⟨hpercent, hremaining⟩ := h.progress p hp
    exact WageringProgress.decoder_node hpercent hremaining 125
  rw [node_toJson, decoder, Decoder.record, outline_nodes]
  rw [Placed.value_seqRight, hwin, hpayout, hsymbols, hbalance, hprogress]
  rfl

end ConnectReply

/-! ### The report of a scenario -/

namespace ScenarioReply

/-- What the report of a scenario is read back from, if it is not nested too deep: data sorted by
key, with no member that is taken for the status or the error, and with values that can be kept and
are legible. -/
structure Tellable (r : ScenarioReply) : Prop where
  sorted : r.data.Pairwise (·.1 < ·.1)
  apart : ∀ m ∈ r.data, m.1 ≠ "status" ∧ m.1 ≠ "error"
  values : ∀ m ∈ r.data, m.2.All Keepable ∧ m.2.All IsLegible

/-- The members of a report as they are read. -/
def nodes (r : ScenarioReply) : Json.Members :=
  (some "status", (Json.string r.status).node) ::
    (memberNodes r.data ++ memberNodes (optionalMember "error" (r.error.map .string)))

lemma node_toJson (r : ScenarioReply) : r.toJson.node = .object r.nodes true := by
  rw [toJson, List.append_assoc, Json.node, Json.memberNodes_append, Json.memberNodes_append]
  rfl

lemma under_error {r : ScenarioReply} (h : ∀ m ∈ r.data, m.1 ≠ "error") :
    under errorField.names r.nodes = (r.error.map fun e => (Json.string e).node).toList := by
  have hdata : under errorField.names (memberNodes r.data) = [] :=
    Json.under_memberNodes_of_forall_not_mem fun m hm => by simpa [errorField] using h m hm
  rw [nodes, Json.under_cons_of_not_mem (by simp [errorField]), Json.under_append, hdata,
    under_optionalMember (by simp [errorField]), Option.map_map]
  rfl

variable {r : ScenarioReply} {room : Nat}

namespace Tellable

lemma under_status (h : r.Tellable) :
    under statusField.names r.nodes = [(Json.string r.status).node] := by
  have hdata : under statusField.names (memberNodes r.data) = [] :=
    Json.under_memberNodes_of_forall_not_mem fun m hm => by
      simpa [statusField] using (h.apart m hm).1
  rw [nodes, Json.under_cons_of_mem (by simp [statusField]), Json.under_append, hdata,
    under_optionalMember_of_not_mem (by simp [statusField])]
  rfl

/-- The members that belong to no field are the data. -/
lemma others_nodes (h : r.Tellable) (room : Nat) :
    Record.others fields ⟨r.nodes, room⟩ = r.data.map fun m => (m.1, m.2.node) := by
  have hdata : Record.others fields ⟨memberNodes r.data, room⟩ = _ :=
    Record.others_memberNodes (fun m hm => by
      simpa [fields, statusField, errorField] using h.apart m hm) room
  have herror : Record.others fields
      ⟨memberNodes (optionalMember "error" (r.error.map .string)), room⟩ = [] := by
    cases r.error <;> rfl
  have hstatus : statusField.names ∈ fields := List.mem_cons_self
  rw [nodes, Record.others_cons_of_mem hstatus List.mem_cons_self, Record.others_append, hdata,
    herror, List.append_nil]

lemma outline_nodes_iff (h : r.Tellable) :
    Record.outline fields (fun node => (Json.value room node).map fun _ => ()) true [] 0 r.nodes =
      .value () ↔ ∀ m ∈ r.data, m.2.depth ≤ room := by
  have hfields : fields.Pairwise List.Disjoint := by simp [fields, statusField, errorField]
  have hnames : ∀ m ∈ r.nodes, m.1.isSome = true := by
    rw [nodes, ← Json.memberNodes_append]
    exact List.forall_mem_cons.2 ⟨rfl, Json.isSome_memberNodes _⟩
  have hcount : ∀ names ∈ fields, (under names r.nodes).length ≤ 1 := by
    rintro names hnames
    rcases List.mem_pair.1 hnames with rfl | rfl
    · exact (congrArg List.length h.under_status).le
    · rw [under_error fun m hm => (h.apart m hm).2]
      cases r.error <;> exact Nat.le_of_ble_eq_true rfl
  have hother : ∀ m ∈ r.data,
      (Json.value room m.2.node).map (fun _ => ()) = .ok () ↔ m.2.depth ≤ room := fun m hm => by
    obtain ⟨hkeep, hlegible⟩ := h.values m hm
    rw [Json.value_node m.2 hkeep hlegible]
    split <;> simp_all [Except.map]
  rw [Record.outline_eq_value_iff hfields _ [] 0 room, h.others_nodes]
  simp only [List.not_mem_nil, if_false, Nat.add_zero, List.forall_mem_map]
  exact ⟨fun ⟨_, _, hall⟩ m hm => (hother m hm).1 (hall m hm),
    fun hdepth => ⟨hnames, hcount, fun m hm => (hother m hm).2 (hdepth m hm)⟩⟩

lemma readData_nodes (h : r.Tellable) (hdepth : ∀ m ∈ r.data, m.2.depth ≤ room) :
    readData ⟨r.nodes, room⟩ = .value r.data := by
  have hread : ∀ m ∈ r.data, Json.value room (id m.2).node = .ok m.2 := fun m hm => by
    obtain ⟨hkeep, hlegible⟩ := h.values m hm
    exact (ReadWith.mk (hdepth m hm) hkeep).value_node hlegible
  have hdictionary := @Json.dictionary_memberNodes Json Json.value id room r.data h.sorted hread
  simp only [Json.memberNodes_eq_map, List.map_map, Function.comp_def, id_eq] at hdictionary
  simp only [readData, h.others_nodes, List.map_map, Function.comp_def, hdictionary]

/-- A report is read back where its values are not nested too deep for members, and only there. -/
lemma decoder_node_iff (h : r.Tellable) :
    decoder (room + 1) r.toJson.node = .ok r ↔ ∀ m ∈ r.data, m.2.depth ≤ room := by
  constructor
  · intro hread
    rw [node_toJson, decoder, Decoder.openRecord] at hread
    exact h.outline_nodes_iff.1 (Placed.eq_value_of_seqRight hread)
  · intro hdepth
    have hstatus : Record.get ⟨r.nodes, room⟩ statusField = .value r.status := by
      apply Record.get_eq_value_of_read?
      rw [h.under_status]
      rfl
    have herror : Record.get ⟨r.nodes, room⟩ errorField = .value r.error := by
      apply Record.get_eq_value_of_read?
      rw [under_error fun m hm => (h.apart m hm).2]
      exact Json.read?_toList _ fun e _ => ⟨by rintro ⟨⟩, Json.string_node e room⟩
    rw [node_toJson, decoder, Decoder.openRecord]
    rw [h.outline_nodes_iff.2 hdepth, Placed.value_seqRight, hstatus, h.readData_nodes hdepth,
      herror]
    rfl

end Tellable

/-! #### A report that is nested too deep -/

/-- So many lists, each in the one before. -/
def nested : Nat → Json
  | 0 => .null
  | n + 1 => .array [nested n]

lemma depth_nested (n : Nat) : (nested n).depth = n := by
  induction n with
  | zero => rfl
  | succ n ih => simp [nested, Json.depth, Json.depthOfItems, ih]

lemma all_nested {p : Json → Prop} (hnull : p .null) (hlist : ∀ items, p (.array items)) (n : Nat) :
    (nested n).All p := by
  induction n with
  | zero => exact hnull
  | succ n ih => exact ⟨hlist _, ih, trivial⟩

/-- A report with a value that could be read alone, but not as a member. -/
def deep : ScenarioReply where
  status := "deep"
  data := [("nested", nested 127)]

/-- Nothing is wrong with such a report but that it cannot be read back. -/
theorem ofSource_text_deep :
    deep.Tellable ∧ decoder.ofSource (.ofString deep.toJson.text) ≠ .ok deep := by
  have htellable : deep.Tellable := {
    sorted := List.pairwise_singleton _ _
    apart := by simp [deep]
    values := by
      simp only [deep, List.forall_mem_singleton]
      exact ⟨all_nested trivial (fun _ => trivial) 127, all_nested trivial (fun _ => trivial) 127⟩ }
  refine ⟨htellable, fun hread => ?_⟩
  rw [Decoder.ofSource_text] at hread
  have hdepth := htellable.decoder_node_iff.1 hread ("nested", nested 127) List.mem_cons_self
  rw [depth_nested] at hdepth
  exact absurd hdepth (by decide)

end ScenarioReply

/-! ### The main result -/

/-- What is written for a reply is read back. A plain reply and a Connect reply are read back
always. The report of a scenario is read back just where its data are nested no deeper than what can
be read as a member. And a progress or an error that is missing has no member in the text. -/
theorem replies_ofSource_text :
    (∀ r : PlayReply, r.Tellable →
      PlayReply.decoder.ofSource (.ofString r.toJson.text) = .ok r) ∧
    (∀ r : ConnectReply, r.Tellable →
      ConnectReply.decoder.ofSource (.ofString r.toJson.text) = .ok r) ∧
    (∀ r : ScenarioReply, r.Tellable →
      (ScenarioReply.decoder.ofSource (.ofString r.toJson.text) = .ok r ↔
        ∀ m ∈ r.data, m.2.depth ≤ 126)) ∧
    (∀ r : PlayReply, ∃ members, IsObject (.ofString r.toJson.text) members ∧
      (r.progress = none ↔ ∀ m ∈ members, m.1 ≠ some "wagering_progress") ∧
      (r.error = none ↔ ∀ m ∈ members, m.1 ≠ some "error")) ∧
    (∀ r : ConnectReply, ∃ members, IsObject (.ofString r.toJson.text) members ∧
      (r.progress = none ↔ ∀ m ∈ members, m.1 ≠ some "wageringProgress")) ∧
    ∀ r : ScenarioReply, (∀ m ∈ r.data, m.1 ≠ "error") →
      ∃ members, IsObject (.ofString r.toJson.text) members ∧
        (r.error = none ↔ ∀ m ∈ members, m.1 ≠ some "error") := by
  refine ⟨?plain, ?connect, ?report, ?plainMissing, ?connectMissing, ?reportMissing⟩
  case plain =>
    intro r h
    rw [Decoder.ofSource_text]
    exact h.decoder_node
  case connect =>
    intro r h
    rw [Decoder.ofSource_text]
    exact h.decoder_node
  case report =>
    intro r h
    rw [Decoder.ofSource_text]
    exact h.decoder_node_iff
  case plainMissing =>
    intro r
    refine ⟨r.nodes, Json.isObject_text r.node_toJson, ?_, ?_⟩
    · exact Json.eq_none_iff_of_under r.under_progress
    · exact Json.eq_none_iff_of_under r.under_error
  case connectMissing =>
    intro r
    exact ⟨r.nodes, Json.isObject_text r.node_toJson, Json.eq_none_iff_of_under r.under_progress⟩
  case reportMissing =>
    intro r h
    have herror := Json.eq_none_iff_of_under (ScenarioReply.under_error h)
    exact ⟨r.nodes, Json.isObject_text r.node_toJson, herror⟩

/-- A reply about anna's win with the progress that was told, the same for Connect, and a report
with an error beside its data. -/
theorem replies_ofSource_text_ofAnna :
    let progress := Json.object [("progress_percent", .float 12.5)]
    let plain : PlayReply := ⟨true, 37.5, [.lemon, .lemon, .lemon], 12.5, some progress, none⟩
    let connect : ConnectReply := ⟨true, 37.5, [.lemon], 12.5, some ⟨12.5, 37.5, false⟩⟩
    let report : ScenarioReply :=
      ⟨"ok", [("lowRtp", .float 37.5), ("spins", .array [.int 3, .null])], some "late"⟩
    plain.Tellable ∧ connect.Tellable ∧ report.Tellable ∧ (∀ m ∈ report.data, m.2.depth ≤ 126) ∧
    PlayReply.decoder.ofSource (.ofString plain.toJson.text) = .ok plain ∧
    ConnectReply.decoder.ofSource (.ofString connect.toJson.text) = .ok connect ∧
    ScenarioReply.decoder.ofSource (.ofString report.toJson.text) = .ok report ∧
    (∀ m ∈ report.data, m.1 ≠ "error") ∧
    ∃ members, IsObject (.ofString report.toJson.text) members ∧
      (report.error = none ↔ ∀ m ∈ members, m.1 ≠ some "error") := by
  intro progress plain connect report
  have hbet : Legible 12.5 := RoundEvent.tellable_ofAnna.bet
  have hpayout : Legible 37.5 := RoundEvent.tellable_ofAnna.payout
  have hlegible : progress.All IsLegible := ⟨trivial, hbet, trivial⟩
  have hprogress : ReadWith 126 progress := {
    depth_le := by simp [progress, Json.depth, Json.depthOfMembers]
    keepable := ⟨List.pairwise_singleton _ _, trivial, trivial⟩ }
  have hplain : plain.Tellable := {
    payout := hpayout
    newBalance := hbet
    progress := by
      rintro p ⟨⟩
      exact ⟨Wager.told_of_readWith hprogress hlegible nofun, hlegible⟩ }
  have hconnect : connect.Tellable := {
    payout := hpayout
    newBalance := hbet
    progress := by
      rintro p ⟨⟩
      exact ⟨hbet, hpayout⟩ }
  have hapart : ∀ m ∈ report.data, m.1 ≠ "status" ∧ m.1 ≠ "error" := by simp [report]
  have hreport : report.Tellable := {
    sorted := by
      show [_, _].Pairwise _
      decide
    apart := hapart
    values := by
      have hthree : Keepable (.int 3) := ⟨by decide, by decide⟩
      simp only [report, List.forall_mem_cons]
      exact ⟨⟨trivial, hpayout⟩, ⟨⟨trivial, hthree, trivial, trivial⟩,
        ⟨trivial, trivial, trivial, trivial⟩⟩, List.forall_mem_nil _⟩ }
  have hdepth : ∀ m ∈ report.data, m.2.depth ≤ 126 := by
    simp [report, Json.depth, Json.depthOfItems]
  have herror : ∀ m ∈ report.data, m.1 ≠ "error" := fun m hm => (hapart m hm).2
  obtain ⟨hplains, hconnects, hreports, -, -, hmissing⟩ := replies_ofSource_text
  exact ⟨hplain, hconnect, hreport, hdepth, hplains plain hplain, hconnects connect hconnect,
    (hreports report hreport).2 hdepth, herror, hmissing report herror⟩

end SlotMachine
