import Mathlib.Data.List.Pairwise
import SlotMachine.Json.Decode

/-!
# Reading records

A record is read from the members of an object. What matters of them are the values that stand under
the names of each field (`under`): a record is read just where every member has a name that is a
text, no field is there twice, and each field can be read from the one value under its names, or may
be missing and is (`RecordField.read?`).
-/

namespace SlotMachine

namespace Json

/-! ### Placed values -/

namespace Placed

variable {α β : Type}

/-- The value, if there is no fault. -/
def value? : Placed α → Option α
  | value a => some a
  | fault _ _ => none

@[simp] lemma toOption_result (x : Placed α) : x.result.toOption = x.value? := by
  cases x <;> rfl

@[simp] lemma value?_map (f : α → β) (x : Placed α) : (f <$> x).value? = x.value?.map f := by
  cases x <;> rfl

@[simp] lemma value?_seq (f : Placed (α → β)) (x : Placed α) :
    (f <*> x).value? = f.value?.bind fun g => x.value?.map g := by
  cases f with
  | value g => cases x <;> rfl
  | fault place e =>
    cases x with
    | value a => rfl
    | fault q d =>
      change (if q < place then fault q d else fault place e).value? = none
      split <;> rfl

@[simp] lemma value?_seqRight (x : Placed α) (y : Placed β) :
    (x *> y).value? = x.value?.bind fun _ => y.value? := by
  change ((Function.const α id <$> x) <*> y).value? = _
  rw [value?_seq, value?_map]
  cases x <;> simp [value?]

end Placed

/-! ### The values under the names of a field -/

/-- The values of the members that have one of these names, in their order. -/
def under (names : List String) (members : Members) : List Node :=
  members.filterMap fun (key, node) => if key.any (names.contains ·) then some node else none

/-- What a field is read as if these are the values under its names. -/
def RecordField.read? {α : Type} (field : RecordField α) (room : Nat) : List Node → Option α
  | [] => field.absent
  | [node] => (field.decoder room node).toOption
  | _ => none

lemma RecordField.read?_of_one_lt {α : Type} {field : RecordField α} {room : Nat}
    {nodes : List Node} (h : 1 < nodes.length) : field.read? room nodes = none := by
  match nodes with
  | [] => cases h
  | [_] => cases Nat.lt_irrefl 1 h
  | _ :: _ :: _ => rfl

/-- The order of the values makes no difference, as there can be one at most. -/
lemma RecordField.read?_perm {α : Type} (field : RecordField α) (room : Nat)
    {nodes nodes' : List Node} (h : nodes.Perm nodes') :
    field.read? room nodes = field.read? room nodes' := by
  match nodes with
  | [] => rw [List.nil_perm.1 h]
  | [node] => rw [List.singleton_perm.1 h]
  | _ :: _ :: _ =>
    have hlength := h.length_eq
    rw [read?_of_one_lt (by simp), read?_of_one_lt (by simp [← hlength])]

section

variable {names : List String} {key : String} {node : Node} {members : Members}

@[simp] lemma under_nil : under names [] = [] := rfl

lemma under_cons (key? : Option String) :
    under names ((key?, node) :: members) =
      if key?.any (names.contains ·) then node :: under names members else under names members := by
  by_cases h : key?.any (names.contains ·) = true
  · simp only [under, List.filterMap_cons, h, if_true]
  · simp only [under, List.filterMap_cons, h, if_false, Bool.false_eq_true]

lemma under_cons_of_mem (h : key ∈ names) :
    under names ((some key, node) :: members) = node :: under names members := by
  simp [under_cons, h]

lemma under_cons_of_not_mem (h : key ∉ names) :
    under names ((some key, node) :: members) = under names members := by
  simp [under_cons, h]

/-- The member that is found for a field is the first one under its names. -/
lemma map_find? (names : List String) (place : Nat) (members : Members) :
    (Record.find? names place members).map (·.2) = (under names members).head? := by
  induction members generalizing place with
  | nil => rfl
  | cons member members ih =>
    obtain ⟨key, node⟩ := member
    rw [under_cons]
    unfold Record.find?
    split
    · rfl
    · exact ih (place + 1)

/-- A field that is not there twice is read from its value, or it is missing. -/
lemma value?_get {α : Type} {field : RecordField α} (room : Nat)
    (h : (under field.names members).length ≤ 1) :
    (Record.get ⟨members, room⟩ field).value? = field.read? room (under field.names members) := by
  have hfind := map_find? field.names 0 members
  unfold Record.get
  cases hunder : under field.names members with
  | nil =>
    rw [hunder, List.head?_nil, Option.map_eq_none_iff] at hfind
    rw [hfind]
    dsimp only [RecordField.read?]
    cases field.absent <;> rfl
  | cons node rest =>
    have hrest : rest = [] := by
      rw [hunder, List.length_cons] at h
      exact List.length_eq_zero_iff.1 (by omega)
    rw [hunder, List.head?_cons, Option.map_eq_some_iff] at hfind
    obtain ⟨⟨place, _⟩, hfound, rfl⟩ := hfind
    rw [hfound, hrest]
    dsimp only [RecordField.read?]
    cases field.decoder room _ <;> rfl

end

/-! ### Outlines -/

namespace Record

variable {fields : List (List String)} {names : List String} {key : String} {node : Node}
  {members : Members} {room : Nat}

/-- Where no name belongs to two fields, it is clear to which field a name belongs. -/
lemma eq_of_mem_of_mem {names' : List String} (hfields : fields.Pairwise List.Disjoint)
    (hnames : names ∈ fields) (hnames' : names' ∈ fields) (hkey : key ∈ names)
    (hkey' : key ∈ names') : names = names' := by
  have hsymm : Std.Symm (List.Disjoint : List String → List String → Prop) :=
    ⟨fun _ _ h => List.disjoint_symm h⟩
  by_contra hne
  exact hfields.forall hnames hnames' hne hkey hkey'

lemma find?_contains_iff (hfields : fields.Pairwise List.Disjoint) :
    fields.find? (·.contains key) = some names ↔ names ∈ fields ∧ key ∈ names := by
  constructor
  · intro h
    exact ⟨List.mem_of_find?_eq_some h, by simpa using List.find?_some h⟩
  · rintro ⟨hnames, hkey⟩
    have hsome : (fields.find? (·.contains key)).isSome = true := by
      rw [List.find?_isSome]
      exact ⟨names, hnames, by simpa using hkey⟩
    obtain ⟨names', h⟩ := Option.isSome_iff_exists.1 hsome
    have hkey' : key ∈ names' := by simpa using List.find?_some h
    rw [h, eq_of_mem_of_mem hfields (List.mem_of_find?_eq_some h) hnames hkey' hkey]

lemma others_cons_of_mem (hnames : names ∈ fields) (hkey : key ∈ names) :
    others fields ⟨(some key, node) :: members, room⟩ = others fields ⟨members, room⟩ := by
  have hany : fields.any (·.contains key) = true :=
    List.any_eq_true.2 ⟨names, hnames, by simpa using hkey⟩
  simp only [others, List.filterMap_cons, Option.bind_some, hany, if_true]

lemma others_cons_of_forall_not_mem (h : ∀ names ∈ fields, key ∉ names) :
    others fields ⟨(some key, node) :: members, room⟩ =
      (key, node) :: others fields ⟨members, room⟩ := by
  have hany : fields.any (·.contains key) = false := by simpa using h
  simp only [others, List.filterMap_cons, Option.bind_some, hany, Bool.false_eq_true, if_false]

/-- A record has an outline where all names are texts, no field is there twice, not even with those
that have been `seen` before, and all other members pass. -/
lemma outline_eq_value_iff (hfields : fields.Pairwise List.Disjoint)
    (other : Node → Except Fault Unit) (seen : List (List String)) (place room : Nat)
    (members : Members) :
    outline fields other true seen place members = .value () ↔
      (∀ m ∈ members, m.1.isSome = true) ∧
      (∀ names ∈ fields, (under names members).length + (if names ∈ seen then 1 else 0) ≤ 1) ∧
      ∀ m ∈ others fields ⟨members, room⟩, other m.2 = .ok () := by
  induction members generalizing seen place with
  | nil =>
    have hseen (names : List String) : (if names ∈ seen then 1 else 0) ≤ 1 := by
      split <;> omega
    simp [outline, others, hseen]
  | cons member members ih =>
    obtain ⟨key?, node⟩ := member
    cases key? with
    | none => simp [outline]
    | some key =>
      unfold outline
      cases hfind : fields.find? (·.contains key) with
      | some names =>
        obtain ⟨hnames, hkey⟩ := (find?_contains_iff hfields).1 hfind
        rw [others_cons_of_mem hnames hkey, List.forall_mem_cons]
        dsimp only
        split
        case isTrue hseen =>
          -- the field is there for a second time
          have hmem : names ∈ seen := by simpa using hseen
          constructor
          · intro h
            cases h
          · rintro ⟨-, hcount, -⟩
            have hle := hcount names hnames
            rw [under_cons_of_mem hkey, if_pos hmem, List.length_cons] at hle
            omega
        case isFalse hseen =>
          have hmem : names ∉ seen := by simpa using hseen
          have hcount (names' : List String) (hnames' : names' ∈ fields) :
              (under names' ((some key, node) :: members)).length +
                  (if names' ∈ seen then 1 else 0) =
                (under names' members).length + (if names' ∈ names :: seen then 1 else 0) := by
            by_cases heq : names' = names
            · subst heq
              simp [under_cons_of_mem hkey, hmem]
            · have hkey' : key ∉ names' := fun hkey' =>
                heq (eq_of_mem_of_mem hfields hnames' hnames hkey' hkey)
              simp [under_cons_of_not_mem hkey', heq]
          rw [ih]
          simp only [Option.isSome_some, true_and]
          refine and_congr_right fun _ => and_congr_left fun _ => forall₂_congr fun names' h => ?_
          rw [hcount names' h]
      | none =>
        have hkey : ∀ names ∈ fields, key ∉ names := by simpa using hfind
        have hunder : ∀ names ∈ fields,
            under names ((some key, node) :: members) = under names members := fun names hnames =>
          under_cons_of_not_mem (hkey names hnames)
        rw [others_cons_of_forall_not_mem hkey, List.forall_mem_cons, List.forall_mem_cons]
        dsimp only
        cases other node with
        | ok _ =>
          rw [ih]
          simp only [Option.isSome_some, true_and]
          refine and_congr_right fun _ => and_congr_left fun _ => forall₂_congr fun names h => ?_
          rw [hunder names h]
        | error e => simp

/-- Members that nobody reads pass if they are well-formed. -/
lemma skip_of_mem_others (hwell : Node.membersWellFormed members = true) :
    ∀ m ∈ others fields ⟨members, room⟩, skip m.2 = .ok () := by
  induction members with
  | nil => simp [others]
  | cons member members ih =>
    obtain ⟨key?, node⟩ := member
    obtain ⟨hnode, hrest⟩ : node.isWellFormed = true ∧ Node.membersWellFormed members = true := by
      simpa [Node.membersWellFormed] using hwell
    intro m hm
    simp only [others, List.filterMap_cons] at hm
    split at hm
    · exact ih hrest m hm
    · next m' hm' =>
      rcases List.mem_cons.1 hm with rfl | hm
      · obtain ⟨key, -, hkey⟩ := Option.bind_eq_some_iff.1 hm'
        split at hkey
        · cases hkey
        · cases hkey
          simp [skip, hnode]
      · exact ih hrest m hm

end Record

/-! ### The main statement about records -/

/-- An object of well-formed members is read as a record if all names are texts, no field is there
twice, and each field can be read. -/
lemma Decoder.toOption_record {α : Type} {fields : List (List String)}
    (hfields : fields.Pairwise List.Disjoint) (build : Record → Placed α) {members : Members}
    (hwell : Node.membersWellFormed members = true) (room : Nat) :
    (Decoder.record fields build (room + 1) (.object members true)).toOption =
      if (∀ m ∈ members, m.1.isSome = true) ∧
          ∀ names ∈ fields, (under names members).length ≤ 1 then
        (build ⟨members, room⟩).value?
      else none := by
  have houtline := Record.outline_eq_value_iff hfields Record.skip [] 0 room members
  simp only [List.not_mem_nil, if_false, Nat.add_zero] at houtline
  rw [Decoder.record, Placed.toOption_result, Placed.value?_seqRight]
  split
  case isTrue h =>
    rw [houtline.2 ⟨h.1, h.2, Record.skip_of_mem_others hwell⟩]
    rfl
  case isFalse h =>
    cases hresult : Record.outline fields Record.skip true [] 0 members with
    | value u =>
      obtain ⟨hnames, hcount, -⟩ := houtline.1 hresult
      exact absurd ⟨hnames, hcount⟩ h
    | fault place e => rfl

end Json

end SlotMachine
