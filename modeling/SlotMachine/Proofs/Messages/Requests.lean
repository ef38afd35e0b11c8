import SlotMachine.Messages.Play
import SlotMachine.Proofs.Json.Members
import SlotMachine.Proofs.Messages.Rounds

/-!
# Requests for a spin as they are read

A request is read from the members that it knows, and it makes no difference in which order and in
which spelling they are written and what else is written with them (`decoder_reads`).
-/

namespace SlotMachine

open Json (Node Members IsObject RecordField under Legible)

namespace PlayRequest

/-- The spelling of a name in which requests are written. -/
def usualName : String → String
  | "userId" => "user_id"
  | "cpuIntensive" => "cpu_intensive"
  | name => name

/-- The names of all fields in all spellings. -/
def knownNames : List String := ["user_id", "userId", "bet", "cpu_intensive", "cpuIntensive"]

/-- The members with each name in the usual spelling. -/
def spelled (members : Members) : Members := members.map fun m => (m.1.map usualName, m.2)

/-- The members that a request knows, in the usual spelling. A name that is no text cannot be passed
over, so that such a member stays as well. -/
def known (members : Members) : Members :=
  spelled (members.filter fun m => m.1.all (knownNames.contains ·))

/-- The fields of a request. -/
def fields : List (List String) := [userField.names, betField.names, intensiveField.names]

lemma apart_fields : fields.Pairwise List.Disjoint := by
  simp [fields, userField, betField, intensiveField]

/-- What is read from an object, field by field. -/
lemma toOption_decoder {members : Members} (hwell : Node.membersWellFormed members = true)
    (room : Nat) :
    (decoder (room + 1) (.object members true)).toOption =
      if ∀ m ∈ members, m.1.isSome = true then do
        let userId ← userField.read? room (under userField.names members)
        let bet ← betField.read? room (under betField.names members)
        let cpuIntensive ← intensiveField.read? room (under intensiveField.names members)
        some { userId, bet, cpuIntensive }
      else none := by
  refine (Json.Decoder.toOption_record apart_fields _ hwell room).trans ?_
  simp only [Json.Placed.value?_seq, Json.Placed.value?_map]
  by_cases hcount : ∀ names ∈ fields, (under names members).length ≤ 1
  · obtain ⟨huser, hbet, hintensive⟩ : (under userField.names members).length ≤ 1 ∧
        (under betField.names members).length ≤ 1 ∧
        (under intensiveField.names members).length ≤ 1 := by
      simpa [fields] using hcount
    simp only [and_iff_left hcount, Json.value?_get room huser, Json.value?_get room hbet,
      Json.value?_get room hintensive]
    generalize userField.read? room (under userField.names members) = userId
    generalize betField.read? room (under betField.names members) = bet
    generalize intensiveField.read? room (under intensiveField.names members) = cpuIntensive
    cases userId <;> cases bet <;> cases cpuIntensive <;> rfl
  · -- a field is there twice
    rw [if_neg fun h => hcount h.2]
    obtain ⟨names, hnames, hlt⟩ : ∃ names ∈ fields, 1 < (under names members).length := by
      simpa using hcount
    have hcases : names = userField.names ∨ names = betField.names ∨
        names = intensiveField.names := by
      simpa [fields] using hnames
    rcases hcases with rfl | rfl | rfl
    · simp [RecordField.read?_of_one_lt hlt]
    · simp [RecordField.read?_of_one_lt hlt]
    · simp [RecordField.read?_of_one_lt hlt]

lemma toOption_decoder_of_twice {members : Members} (hwell : Node.membersWellFormed members = true)
    {names : List String} (hnames : names ∈ fields) (hlt : 1 < (under names members).length)
    (room : Nat) : (decoder (room + 1) (.object members true)).toOption = none := by
  refine (Json.Decoder.toOption_record apart_fields _ hwell room).trans (if_neg ?_)
  rintro ⟨-, hcount⟩
  exact absurd (hcount names hnames) (not_le.2 hlt)

/-- Each part of a request comes from its own field. -/
lemma read?_of_decoder {members : Members} (hwell : Node.membersWellFormed members = true)
    {room : Nat} {q : PlayRequest} (h : decoder (room + 1) (.object members true) = .ok q) :
    userField.read? room (under userField.names members) = some q.userId ∧
    betField.read? room (under betField.names members) = some q.bet ∧
    intensiveField.read? room (under intensiveField.names members) = some q.cpuIntensive := by
  have hread := toOption_decoder hwell room
  rw [h] at hread
  split at hread
  · obtain ⟨userId, huser, hread⟩ := Option.bind_eq_some_iff.1 hread.symm
    obtain ⟨bet, hbet, hread⟩ := Option.bind_eq_some_iff.1 hread
    obtain ⟨cpuIntensive, hintensive, hread⟩ := Option.bind_eq_some_iff.1 hread
    cases hread
    exact ⟨huser, hbet, hintensive⟩
  · cases hread

/-! ### Known members -/

variable {names : List String} {members members' : Members}

/-- A name stands for the same field in every spelling. -/
lemma contains_usualName (hnames : names ∈ fields) (key : String) :
    names.contains (usualName key) = names.contains key := by
  have hcases : names = userField.names ∨ names = betField.names ∨
      names = intensiveField.names := by
    simpa [fields] using hnames
  unfold usualName
  split
  · rcases hcases with rfl | rfl | rfl <;> rfl
  · rcases hcases with rfl | rfl | rfl <;> rfl
  · rfl

lemma contains_knownNames (hnames : names ∈ fields) {key : String}
    (hkey : names.contains key = true) : knownNames.contains key = true := by
  have hsubset : ∀ names ∈ fields, names ⊆ knownNames := by
    simp [fields, userField, betField, intensiveField, knownNames]
  simpa using hsubset names hnames (by simpa using hkey)

/-- Every field has its values among the known members. -/
lemma under_known (hnames : names ∈ fields) (members : Members) :
    under names (known members) = under names members := by
  induction members with
  | nil => rfl
  | cons member members ih =>
    obtain ⟨key?, node⟩ := member
    rw [Json.under_cons]
    cases key? with
    | none => exact ih
    | some key =>
      by_cases hknown : knownNames.contains key = true
      · have hcons : known ((some key, node) :: members) =
            (some (usualName key), node) :: known members := by
          simp only [known, List.filter_cons, Option.all_some, hknown, if_true]
          rfl
        rw [hcons, Json.under_cons, ih]
        simp only [Option.any_some, contains_usualName hnames]
      · have hcons : known ((some key, node) :: members) = known members := by
          simp only [known, List.filter_cons, Option.all_some, hknown]
          rfl
        have hkey : ¬names.contains key = true := fun h => hknown (contains_knownNames hnames h)
        rw [hcons, ih, Option.any_some, if_neg hkey]

/-- A member whose name is no text is among the known members as well. -/
lemma isSome_known (members : Members) :
    (∀ m ∈ known members, m.1.isSome = true) ↔ ∀ m ∈ members, m.1.isSome = true := by
  simp only [known, spelled, List.forall_mem_map, List.mem_filter, Option.isSome_map]
  constructor
  · intro h m hm
    by_contra hnone
    have hname : m.1 = none := by simpa using hnone
    exact hnone (h m ⟨hm, by rw [hname]; rfl⟩)
  · rintro h m ⟨hm, -⟩
    exact h m hm

lemma contains_usualName_knownNames (key : String) :
    knownNames.contains (usualName key) = knownNames.contains key := by
  unfold usualName
  split
  · rfl
  · rfl
  · rfl

/-- Members in another order and in another spelling are known all the same. -/
lemma known_perm_of_spelled_perm (h : (spelled members).Perm (spelled members')) :
    (known members).Perm (known members') := by
  have hknown (members : Members) :
      known members = (spelled members).filter fun m => m.1.all (knownNames.contains ·) := by
    simp only [known, spelled, List.filter_map, Function.comp_def, Option.all_map,
      contains_usualName_knownNames]
  rw [hknown, hknown]
  exact h.filter _

/-- What is read from an object depends on the known members alone, and not on their order. -/
lemma toOption_decoder_of_known_perm (hwell : Node.membersWellFormed members = true)
    (hwell' : Node.membersWellFormed members' = true) (h : (known members).Perm (known members'))
    (room : Nat) :
    (decoder (room + 1) (.object members true)).toOption =
      (decoder (room + 1) (.object members' true)).toOption := by
  have hunder (names : List String) (hnames : names ∈ fields) :
      (under names members).Perm (under names members') := by
    rw [← under_known hnames members, ← under_known hnames members']
    exact h.filterMap _
  have hnames : (∀ m ∈ members, m.1.isSome = true) ↔ ∀ m ∈ members', m.1.isSome = true := by
    rw [← isSome_known members, ← isSome_known members']
    exact ⟨fun hsome m hm => hsome m (h.mem_iff.2 hm), fun hsome m hm => hsome m (h.mem_iff.1 hm)⟩
  have huser := userField.read?_perm room (hunder userField.names (by simp [fields]))
  have hbet := betField.read?_perm room (hunder betField.names (by simp [fields]))
  have hintensive := intensiveField.read?_perm room
    (hunder intensiveField.names (by simp [fields]))
  rw [toOption_decoder hwell, toOption_decoder hwell', huser, hbet, hintensive]
  simp only [hnames]

/-! ### Requests that are written -/

lemma decoder_node {q : PlayRequest} (h : Legible q.bet) (room : Nat) :
    decoder (room + 1) q.toJson.node = .ok q := by
  let record : Json.Record := ⟨[(some "user_id", (Json.string q.userId).node),
    (some "bet", (Json.float q.bet).node), (some "cpu_intensive", (Json.bool q.cpuIntensive).node)],
    room⟩
  have huser : record.get userField = .value q.userId :=
    Json.Record.get_eq_value 0 rfl (Json.string_node q.userId room)
  have hbet : record.get betField = .value q.bet :=
    Json.Record.get_eq_value 1 rfl (h.float_node room)
  have hintensive : record.get intensiveField = .value q.cpuIntensive :=
    Json.Record.get_eq_value 2 rfl (Json.bool_node q.cpuIntensive room)
  have hnode : q.toJson.node = .object record.members true := rfl
  rw [hnode, decoder, Json.Decoder.record, huser, hbet, hintensive]
  rfl

/-! ### The main result -/

/-- Of two texts that are objects the same is read, or nothing from either, where their members have
the same names up to their order and the spelling, and even where only the known members do. A field
that is there twice, in whatever spelling, makes a text be refused. Else the request has of each
field what the value under its names is read as, and where there is none, it has the empty id, no
bet and the normal strategy. A request that is written is read back. -/
theorem ofSource_known :
    (∀ source source' members members', IsObject source members → IsObject source' members' →
      (spelled members).Perm (spelled members') ∨ (known members).Perm (known members') →
      (decoder.ofSource source).toOption = (decoder.ofSource source').toOption) ∧
    (∀ source members, IsObject source members →
      ∀ names ∈ fields, 1 < (under names members).length →
      (decoder.ofSource source).toOption = none) ∧
    (∀ source members, IsObject source members →
      (decoder.ofSource source).toOption =
        if ∀ m ∈ members, m.1.isSome = true then do
          let userId ← userField.read? 126 (under userField.names members)
          let bet ← betField.read? 126 (under betField.names members)
          let cpuIntensive ← intensiveField.read? 126 (under intensiveField.names members)
          some { userId, bet, cpuIntensive }
        else none) ∧
    (∀ source members q, IsObject source members → decoder.ofSource source = .ok q →
      (under userField.names members = [] → q.userId = "") ∧
      (under betField.names members = [] → q.bet = 0.0) ∧
      (under intensiveField.names members = [] → q.toSpinRequest.strategy = .normal)) ∧
    ∀ q : PlayRequest, Legible q.bet →
      decoder.ofSource (.ofString q.toJson.text) = .ok q := by
  refine ⟨?alike, ?twice, ?fieldwise, ?missing, ?written⟩
  case alike =>
    rintro source source' members members' h h' hperm
    rw [h.ofSource_eq, h'.ofSource_eq]
    refine toOption_decoder_of_known_perm h.isWellFormed h'.isWellFormed ?_ 126
    exact hperm.elim known_perm_of_spelled_perm id
  case twice =>
    intro source members h names hnames hlt
    rw [h.ofSource_eq]
    exact toOption_decoder_of_twice h.isWellFormed hnames hlt 126
  case fieldwise =>
    intro source members h
    rw [h.ofSource_eq]
    exact toOption_decoder h.isWellFormed 126
  case missing =>
    intro source members q h hq
    rw [h.ofSource_eq] at hq
    obtain ⟨huser, hbet, hintensive⟩ := read?_of_decoder h.isWellFormed hq
    refine ⟨fun hnone => ?_, fun hnone => ?_, fun hnone => ?_⟩
    · rw [hnone] at huser
      exact (Option.some.inj huser).symm
    · rw [hnone] at hbet
      exact (Option.some.inj hbet).symm
    · rw [hnone] at hintensive
      rw [toSpinRequest, ← Option.some.inj hintensive]
      rfl
  case written =>
    intro q hbet
    rw [Json.Decoder.ofSource_text]
    exact decoder_node hbet 126

/-- Three members of which the last one is none of a request, and a request of two members. -/
theorem ofSource_known_ofBen :
    let camel := [("cpuIntensive", Json.bool true), ("userId", .string "ben"),
      ("note", .array [.null])]
    let snake := [("user_id", Json.string "ben"), ("cpu_intensive", .bool true)]
    let twice := [("user_id", Json.string "ben"), ("userId", .string "ben")]
    let read (members : List (String × Json)) :=
      (decoder.ofSource (.ofString (Json.object members).text)).toOption
    (known (Json.memberNodes camel)).Perm (known (Json.memberNodes snake)) ∧
    read camel = read snake ∧ read snake = some ⟨"ben", 0.0, true⟩ ∧ read twice = none ∧
    Legible 12.5 ∧
    decoder.ofSource (.ofString (PlayRequest.toJson ⟨"ben", 12.5, true⟩).text) =
      .ok ⟨"ben", 12.5, true⟩ := by
  intro camel snake twice read
  have hobject (members : List (String × Json)) :
      IsObject (.ofString (Json.object members).text) (Json.memberNodes members) :=
    Json.isObject_text rfl
  have hperm : (known (Json.memberNodes camel)).Perm (known (Json.memberNodes snake)) :=
    .swap _ _ []
  have hlegible : Legible 12.5 := RoundEvent.tellable_ofAnna.bet
  obtain ⟨halike, htwice, hfieldwise, -, hwritten⟩ := ofSource_known
  refine ⟨hperm, ?_, ?_, ?_, hlegible, hwritten ⟨"ben", 12.5, true⟩ hlegible⟩
  · exact halike _ _ _ _ (hobject camel) (hobject snake) (.inr hperm)
  · exact (hfieldwise _ _ (hobject snake)).trans rfl
  · exact htwice _ _ (hobject twice) userField.names (by simp [fields])
      (Nat.lt_of_sub_eq_succ rfl)

end PlayRequest

end SlotMachine
