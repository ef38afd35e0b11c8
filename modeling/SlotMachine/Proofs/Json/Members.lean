import SlotMachine.Proofs.Json.Decoding
import SlotMachine.Proofs.Json.Objects
import SlotMachine.Proofs.Json.Records

/-!
# Members that were written

An object that is written has the members that were put together for it, each under its name
(`memberNodes_eq_map`). So its records are read from parts that are known one by one: which values
stand under a name, which members are left over, and whether something that may be missing is there.
-/

namespace SlotMachine

namespace Json

/-! ### The members of a text -/

/-- The text of an object is an object. -/
lemma isObject_text {j : Json} {members : Members} (h : j.node = .object members true) :
    IsObject (.ofString j.text) members :=
  (ofSource_text j).trans (congrArg (·, true) h)

lemma memberNodes_append (members members' : List (String × Json)) :
    memberNodes (members ++ members') = memberNodes members ++ memberNodes members' := by
  simp only [memberNodes_eq_map, List.map_append]

lemma isSome_memberNodes (members : List (String × Json)) :
    ∀ m ∈ memberNodes members, m.1.isSome = true := by
  rw [memberNodes_eq_map, List.forall_mem_map]
  exact fun _ _ => rfl

/-! ### Values under a name -/

lemma under_append (names : List String) (members members' : Members) :
    under names (members ++ members') = under names members ++ under names members' :=
  List.filterMap_append

lemma under_memberNodes_of_forall_not_mem {names : List String} {members : List (String × Json)}
    (h : ∀ m ∈ members, m.1 ∉ names) : under names (memberNodes members) = [] := by
  induction members with
  | nil => rfl
  | cons member members ih =>
    obtain ⟨hmember, hmembers⟩ := List.forall_mem_cons.1 h
    exact (under_cons_of_not_mem hmember).trans (ih hmembers)

lemma under_singleton_eq_nil {name : String} {members : Members} :
    under [name] members = [] ↔ ∀ m ∈ members, m.1 ≠ some name := by
  induction members with
  | nil => simp
  | cons member members ih =>
    obtain ⟨key?, node⟩ := member
    rw [List.forall_mem_cons, ← ih, under_cons]
    cases key? with
    | none => simp
    | some key => by_cases h : key = name <;> simp [h]

/-- What is missing has no member, and only that. -/
lemma eq_none_iff_of_under {α : Type} {value : Option α} {toNode : α → Node} {name : String}
    {members : Members} (h : under [name] members = (value.map toNode).toList) :
    value = none ↔ ∀ m ∈ members, m.1 ≠ some name := by
  rw [← under_singleton_eq_nil, h]
  cases value <;> simp

/-! ### Records of written members -/

lemma Placed.eq_value_of_seqRight {α : Type} {x : Placed Unit} {y : Placed α} {a : α}
    (h : (x *> y).result = .ok a) : x = .value () := by
  cases x with
  | value _ => rfl
  | fault place e =>
    have hvalue := congrArg Except.toOption h
    rw [toOption_result, value?_seqRight] at hvalue
    cases hvalue

namespace Record

lemma others_append (fields : List (List String)) (members members' : Members) (room : Nat) :
    others fields ⟨members ++ members', room⟩ =
      others fields ⟨members, room⟩ ++ others fields ⟨members', room⟩ :=
  List.filterMap_append

lemma others_memberNodes {fields : List (List String)} {members : List (String × Json)}
    (h : ∀ m ∈ members, ∀ names ∈ fields, m.1 ∉ names) (room : Nat) :
    others fields ⟨memberNodes members, room⟩ = members.map fun m => (m.1, m.2.node) := by
  induction members with
  | nil => rfl
  | cons member members ih =>
    obtain ⟨hmember, hmembers⟩ := List.forall_mem_cons.1 h
    exact (others_cons_of_forall_not_mem hmember).trans (congrArg (_ :: ·) (ih hmembers))

/-- A field that can be read from the values under its names is there once at most. -/
lemma get_eq_value_of_read? {α : Type} {field : RecordField α} {members : Members} {room : Nat}
    {a : α} (h : field.read? room (under field.names members) = some a) :
    get ⟨members, room⟩ field = .value a := by
  have hcount : (under field.names members).length ≤ 1 := by
    by_contra hlt
    rw [RecordField.read?_of_one_lt (not_le.1 hlt)] at h
    cases h
  rw [← value?_get room hcount] at h
  cases hget : get ⟨members, room⟩ field with
  | value b =>
    rw [hget] at h
    exact congrArg Placed.value (Option.some.inj h)
  | fault place e =>
    rw [hget] at h
    cases h

end Record

/-! ### Values of fields -/

lemma Decoder.option_of_ne_null {α : Type} {decoder : Decoder α} {room : Nat} {node : Node}
    (h : node ≠ .null) : Decoder.option decoder room node = (decoder room node).map some := by
  cases node with
  | null => cases h rfl
  | _ => rfl

/-- What may be missing is read back whether it is there or not, unless it is written as `null`. -/
lemma read?_toList {α : Type} {decoder : Decoder α} {toJson : α → Json} {value : Option α}
    {room : Nat} (names : List String)
    (h : ∀ a ∈ value, (toJson a).node ≠ .null ∧ decoder room (toJson a).node = .ok a) :
    RecordField.read? ⟨names, Decoder.option decoder, some none⟩ room
      (value.map fun a => (toJson a).node).toList = some value := by
  cases value with
  | none => rfl
  | some a =>
    obtain ⟨hnull, hread⟩ := h a rfl
    show (Decoder.option decoder room (toJson a).node).toOption = _
    rw [Decoder.option_of_ne_null hnull, hread]
    rfl

lemma itemNodes_eq_map (items : List Json) : itemNodes items = items.map node := by
  induction items with
  | nil => rfl
  | cons item items ih => exact congrArg (_ :: ·) ih

lemma list_node {α : Type} {decoder : Decoder α} {toJson : α → Json} {room : Nat}
    (h : ∀ a, decoder room (toJson a).node = .ok a) (values : List α) :
    Decoder.list decoder (room + 1) (array (values.map toJson)).node = .ok values := by
  have hread : (values.map fun a => (toJson a).node).mapM (decoder room) = .ok values :=
    mapM_map_eq_ok fun a _ => h a
  rw [node, Decoder.list, itemNodes_eq_map, List.map_map, Function.comp_def, hread]
  rfl

end Json

end SlotMachine
