import Mathlib.Data.String.Basic
import SlotMachine.Proofs.Json.Trees

/-!
# Reading what was written

What decoders make of the tree of a value. A decoder that finds its field gives what it makes of
that field alone (`Record.get_eq`). A dictionary whose keys are sorted is read as it was written. Of
a double it has to be known that its decimal reads back (`Legible`): the reader rounds twice.
-/

namespace SlotMachine

namespace Json

open Source (ofString)

/-! ### Single values -/

/-- The number that is written for a double is read as that double. -/
def Legible (x : Float) : Prop := Decoder.float.ofSource (ofString (numberText x)) = .ok x

lemma Decoder.float_room (room room' : Nat) (node : Node) :
    Decoder.float room node = Decoder.float room' node := by
  cases node <;> rfl

lemma Legible.float_node {x : Float} (h : Legible x) (room : Nat) :
    Decoder.float room (float x).node = .ok x := by
  rw [Decoder.float_room room maxDepth, ← Decoder.ofSource_text Decoder.float]
  exact h

/-- A double that is not finite is written as `null`, which is no number. -/
lemma float_node_of_not_isFinite {x : Float} (h : ¬x.isFinite = true) (room : Nat) :
    Decoder.float room (float x).node = .error .mismatched := by
  rw [node, if_neg h]
  rfl

lemma Legible.isFinite {x : Float} (h : Legible x) : x.isFinite = true := by
  by_contra hx
  have hnode := h.float_node 0
  rw [float_node_of_not_isFinite hx] at hnode
  cases hnode

/-- Whether a number reads back is a matter of its literal. -/
lemma legible_of_literal {x : Float} (hx : x.isFinite = true) {n : NumberLiteral}
    (hn : NumberLiteral.ofFloat x = n) (hvalue : n.value?.bind number? = some x) : Legible x := by
  unfold Legible
  rw [show numberText x = (float x).text from rfl, Decoder.ofSource_text Decoder.float, node,
    if_pos hx, hn]
  simp only [Decoder.float, hvalue]

lemma string_node (text : String) (room : Nat) :
    Decoder.string room (string text).node = .ok text := rfl

lemma option_string_node (text : Option String) (room : Nat) :
    Decoder.option Decoder.string room ((text.map string).getD null).node = .ok text := by
  cases text <;> rfl

lemma bool_node (value : Bool) (room : Nat) : Decoder.bool room (bool value).node = .ok value := rfl

lemma word32_node (n : UInt32) (room : Nat) :
    Decoder.word32 room (int n.toNat).node = .ok n := by
  have hn : n.toNat < UInt32.size := n.toNat_lt_size
  have hword : UInt32.size < UInt64.size := by decide
  have hvalue : (NumberLiteral.ofInt n.toNat).value? = some (int n.toNat) :=
    NumberLiteral.value?_ofInt (by omega) (by omega)
  simp [Decoder.word32, Decoder.below, node, hvalue, hn, Except.map]

/-! ### Dictionaries -/

/-- A key that comes after all others is put at the end. -/
lemma insertMember_of_lt {α : Type} {key : String} (value : α) {members : List (String × α)}
    (h : ∀ m ∈ members, m.1 < key) :
    insertMember key value members = members ++ [(key, value)] := by
  induction members with
  | nil => rfl
  | cons m members ih =>
    have hm : m.1 < key := h m List.mem_cons_self
    simp [insertMember, hm.not_gt, hm.ne', ih fun m' hm' => h m' (List.mem_cons_of_mem m hm')]

/-- Members that are sorted stay as they are. -/
lemma foldl_insertMember {α : Type} (before members : List (String × α))
    (h : (before ++ members).Pairwise (·.1 < ·.1)) :
    members.foldl (fun sorted (key, value) => insertMember key value sorted) before =
      before ++ members := by
  induction members generalizing before with
  | nil => simp
  | cons m members ih =>
    have hm : ∀ m' ∈ before, m'.1 < m.1 := fun m' hm' =>
      (List.pairwise_append.1 h).2.2 m' hm' m List.mem_cons_self
    obtain ⟨key, value⟩ := m
    rw [List.foldl_cons]
    dsimp only
    rw [insertMember_of_lt value hm, ih _ (by simpa using h)]
    simp

lemma memberNodes_eq_map (members : List (String × Json)) :
    memberNodes members = members.map fun m => (some m.1, m.2.node) := by
  induction members with
  | nil => rfl
  | cons member members ih => exact congrArg (_ :: ·) ih

/-- What is read back one by one is read back as a list. -/
lemma mapM_map_eq_ok {α β : Type} {read : β → Except Fault α} {write : α → β} {as : List α}
    (h : ∀ a ∈ as, read (write a) = .ok a) : (as.map write).mapM read = .ok as := by
  induction as with
  | nil => rfl
  | cons a as ih =>
    obtain ⟨ha, has⟩ := List.forall_mem_cons.1 h
    rw [List.map_cons, List.mapM_cons, ha, ih has]
    rfl

/-- A dictionary that is sorted by key is read back if its values are. -/
lemma dictionary_memberNodes {α : Type} {decoder : Decoder α} {toJson : α → Json} {room : Nat}
    {entries : List (String × α)} (hsorted : entries.Pairwise (·.1 < ·.1))
    (hread : ∀ e ∈ entries, decoder room (toJson e.2).node = .ok e.2) :
    Decoder.dictionary decoder (room + 1)
      (.object (memberNodes (entries.map fun e => (e.1, toJson e.2))) true) = .ok entries := by
  rw [Decoder.dictionary, memberNodes_eq_map, List.map_map, mapM_map_eq_ok fun e he => ?_]
  · exact congrArg Except.ok (foldl_insertMember [] entries hsorted)
  · exact congrArg (Except.map (e.1, ·)) (hread e he)

/-- A dictionary of strings that is sorted by key is read back. -/
lemma dictionary_node {entries : List (String × String)} (h : entries.Pairwise (·.1 < ·.1))
    (room : Nat) :
    Decoder.dictionary Decoder.string (room + 1)
      (object (entries.map fun (key, value) => (key, string value))).node = .ok entries :=
  @dictionary_memberNodes _ Decoder.string string room entries h fun e _ => string_node e.2 room

/-! ### Records -/

/-- A result as what stands at a place. -/
def Placed.ofExcept {α : Type} (place : Nat) : Except Fault α → Placed α
  | .ok a => .value a
  | .error e => .fault place e

@[simp] lemma Placed.value_seqRight {α : Type} (x : Placed α) : (value () *> x) = x := by
  cases x <;> rfl

namespace Record

variable {α : Type} {r : Record} {field : RecordField α} {node : Node}

/-- A field that is there is read from its own member. -/
lemma get_eq (place : Nat) (h : find? field.names 0 r.members = some (place, node)) :
    r.get field = Placed.ofExcept place (field.decoder r.room node) := by
  unfold get
  rw [h]
  dsimp only
  cases field.decoder r.room node <;> rfl

lemma get_eq_value (place : Nat) {a : α}
    (h : find? field.names 0 r.members = some (place, node))
    (ha : field.decoder r.room node = .ok a) : r.get field = .value a := by
  rw [get_eq place h, ha]
  rfl

end Record

end Json

end SlotMachine
