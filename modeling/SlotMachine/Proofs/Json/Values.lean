import SlotMachine.Proofs.Checks
import SlotMachine.Proofs.Json.Amounts
import SlotMachine.Proofs.Json.Decoding

/-!
# Values that are read back

Any value that can be kept is read back from its text, if its doubles are legible and no more lists
and objects are nested in it than the reader has room for (`value_node`). A value that has been read
is such a value (`readWith_of_value`). So it can be written and read once more where there is as
much room.
-/

namespace SlotMachine

namespace Json

mutual

/-- How many lists and objects are nested in a value. -/
def depth : Json → Nat
  | array items => depthOfItems items + 1
  | object members => depthOfMembers members + 1
  | _ => 0

def depthOfItems : List Json → Nat
  | [] => 0
  | item :: rest => max (depth item) (depthOfItems rest)

def depthOfMembers : List (String × Json) → Nat
  | [] => 0
  | (_, value) :: rest => max (depth value) (depthOfMembers rest)

end

mutual

/-- The value and all values in it have the property. -/
def All (p : Json → Prop) : Json → Prop
  | array items => p (array items) ∧ AllItems p items
  | object members => p (object members) ∧ AllMembers p members
  | value => p value

def AllItems (p : Json → Prop) : List Json → Prop
  | [] => True
  | item :: rest => All p item ∧ AllItems p rest

def AllMembers (p : Json → Prop) : List (String × Json) → Prop
  | [] => True
  | (_, value) :: rest => All p value ∧ AllMembers p rest

end

/-- What can be kept: whole numbers fit a word, with or without a sign, and objects have their
members sorted by key. -/
def Keepable : Json → Prop
  | int value => -(UInt64.size / 2 : Nat) ≤ value ∧ value < UInt64.size
  | object members => members.Pairwise (·.1 < ·.1)
  | _ => True

/-- A double is read as it is written. -/
def IsLegible : Json → Prop
  | float x => Legible x
  | _ => True

variable {p : Json → Prop} {room : Nat}

/-! ### All values in a value -/

lemma depthOfItems_le_iff {items : List Json} :
    depthOfItems items ≤ room ↔ ∀ item ∈ items, item.depth ≤ room := by
  induction items with
  | nil => simp [depthOfItems]
  | cons item items ih => simp [depthOfItems, ih]

lemma depthOfMembers_le_iff {members : List (String × Json)} :
    depthOfMembers members ≤ room ↔ ∀ m ∈ members, m.2.depth ≤ room := by
  induction members with
  | nil => simp [depthOfMembers]
  | cons member members ih => simp [depthOfMembers, ih]

lemma allItems_iff {items : List Json} : AllItems p items ↔ ∀ item ∈ items, item.All p := by
  induction items with
  | nil => simp [AllItems]
  | cons item items ih => simp [AllItems, ih]

lemma allMembers_iff {members : List (String × Json)} :
    AllMembers p members ↔ ∀ m ∈ members, m.2.All p := by
  induction members with
  | nil => simp [AllMembers]
  | cons member members ih => simp [AllMembers, ih]

/-! ### Written values -/

/-- A legible double is read as a double and not as a whole number. -/
lemma Legible.value?_ofFloat {x : Float} (h : Legible x) :
    (NumberLiteral.ofFloat x).value? = some (float x) := by
  have hnode := h.float_node 0
  rw [node, if_pos h.isFinite] at hnode
  simp only [Decoder.float, NumberLiteral.value?_ofFloat] at hnode
  rw [NumberLiteral.value?_ofFloat]
  cases hread : (NumberLiteral.ofFloat x).toFloat? with
  | none =>
    rw [hread] at hnode
    cases hnode
  | some y =>
    rw [hread] at hnode
    cases hnode
    rfl

mutual

/-- A value is read back from its text if it is not nested too deep, and else it is refused. -/
lemma value_node (j : Json) (hkeep : j.All Keepable) (hlegible : j.All IsLegible) (room : Nat) :
    value room j.node = if j.depth ≤ room then .ok j else .error .malformed := by
  match j with
  | null => rfl
  | bool b => rfl
  | int n =>
    have hvalue := NumberLiteral.value?_ofInt hkeep.1 hkeep.2
    simp [node, value, hvalue, depth]
  | float x =>
    have hx : Legible x := hlegible
    simp [node, hx.isFinite, value, hx.value?_ofFloat, depth]
  | string s => rfl
  | array items =>
    cases room with
    | zero => rfl
    | succ room =>
      have hitems := values_itemNodes items hkeep.2 hlegible.2 room
      rw [node, value, hitems]
      simp only [depth, Nat.add_le_add_iff_right]
      split <;> rfl
  | object members =>
    cases room with
    | zero => rfl
    | succ room =>
      have hmembers := memberValues_memberNodes members hkeep.2 hlegible.2 room
      have hsorted : ofMembers members = object members :=
        congrArg object (foldl_insertMember [] members hkeep.1)
      rw [node, value, hmembers]
      simp only [depth, Nat.add_le_add_iff_right]
      split
      · exact congrArg Except.ok hsorted
      · rfl

lemma values_itemNodes (items : List Json) (hkeep : AllItems Keepable items)
    (hlegible : AllItems IsLegible items) (room : Nat) :
    values room (itemNodes items) =
      if depthOfItems items ≤ room then .ok items else .error .malformed := by
  match items with
  | [] => simp [itemNodes, values, depthOfItems]
  | item :: rest =>
    rw [itemNodes, values, value_node item hkeep.1 hlegible.1,
      values_itemNodes rest hkeep.2 hlegible.2]
    simp only [depthOfItems, Nat.max_le]
    by_cases hitem : item.depth ≤ room
    · by_cases hrest : depthOfItems rest ≤ room
      · simp only [hitem, hrest, and_self, if_true]
        rfl
      · simp only [hitem, hrest, and_false, if_true, if_false]
        rfl
    · simp only [hitem, false_and, if_false]
      rfl

lemma memberValues_memberNodes (members : List (String × Json))
    (hkeep : AllMembers Keepable members) (hlegible : AllMembers IsLegible members) (room : Nat) :
    memberValues room (memberNodes members) =
      if depthOfMembers members ≤ room then .ok members else .error .malformed := by
  match members with
  | [] => simp [memberNodes, memberValues, depthOfMembers]
  | (key, j) :: rest =>
    rw [memberNodes, memberValues, value_node j hkeep.1 hlegible.1,
      memberValues_memberNodes rest hkeep.2 hlegible.2]
    simp only [depthOfMembers, Nat.max_le]
    by_cases hj : j.depth ≤ room
    · by_cases hrest : depthOfMembers rest ≤ room
      · simp only [hj, hrest, and_self, if_true]
        rfl
      · simp only [hj, hrest, and_false, if_true, if_false]
        rfl
    · simp only [hj, false_and, if_false]
      rfl

end

/-! ### Values that have been read -/

section

variable {α : Type} {key : String} {a : α} {members : List (String × α)}

lemma mem_insertMember {m : String × α} (h : m ∈ insertMember key a members) :
    m = (key, a) ∨ m ∈ members := by
  fun_induction insertMember key a members with
  | case1 => simpa using h
  | case2 k v rest _ => simpa using h
  | case3 v rest _ =>
    rcases List.mem_cons.1 h with rfl | h
    · exact .inl rfl
    · exact .inr (List.mem_cons_of_mem _ h)
  | case4 k v rest _ _ ih =>
    rcases List.mem_cons.1 h with rfl | h
    · exact .inr List.mem_cons_self
    · exact (ih h).imp_right (List.mem_cons_of_mem _)

lemma pairwise_insertMember (h : members.Pairwise (·.1 < ·.1)) :
    (insertMember key a members).Pairwise (·.1 < ·.1) := by
  fun_induction insertMember key a members with
  | case1 => exact List.pairwise_singleton _ _
  | case2 k v rest hlt =>
    refine List.pairwise_cons.2 ⟨fun m hm => ?_, h⟩
    rcases List.mem_cons.1 hm with rfl | hm
    · exact hlt
    · exact hlt.trans ((List.pairwise_cons.1 h).1 m hm)
  | case3 v rest _ => exact List.pairwise_cons.2 (List.pairwise_cons.1 h)
  | case4 k v rest hlt hne ih =>
    obtain ⟨hrest, hpairwise⟩ := List.pairwise_cons.1 h
    refine List.pairwise_cons.2 ⟨fun m hm => ?_, ih hpairwise⟩
    rcases mem_insertMember hm with rfl | hm
    · exact lt_of_le_of_ne (not_lt.1 hlt) (Ne.symm hne)
    · exact hrest m hm

end

/-- Members that are put into sorted ones, one after the other, keep them sorted. -/
lemma foldl_insertMember_sorted {before : List (String × Json)} (members : List (String × Json))
    (h : before.Pairwise (·.1 < ·.1)) :
    let sorted := members.foldl (fun sorted (key, value) => insertMember key value sorted) before
    sorted.Pairwise (·.1 < ·.1) ∧ ∀ m ∈ sorted, m ∈ before ∨ m ∈ members := by
  induction members generalizing before with
  | nil => exact ⟨h, fun m hm => .inl hm⟩
  | cons member members ih =>
    obtain ⟨key, j⟩ := member
    obtain ⟨hsorted, hmem⟩ := ih (pairwise_insertMember h)
    refine ⟨hsorted, fun m hm => ?_⟩
    rcases hmem m hm with hm | hm
    · rcases mem_insertMember hm with rfl | hm
      · exact .inr List.mem_cons_self
      · exact .inl hm
    · exact .inr (List.mem_cons_of_mem _ hm)

/-- A number that has been read can be kept. -/
lemma of_value? {n : NumberLiteral} {j : Json} (h : n.value? = some j) :
    j.depth = 0 ∧ j.All Keepable := by
  have hfloat (h : n.toFloat?.map float = some j) : j.depth = 0 ∧ j.All Keepable := by
    obtain ⟨x, -, rfl⟩ := Option.map_eq_some_iff.1 h
    exact ⟨rfl, trivial⟩
  unfold NumberLiteral.value? at h
  split at h
  case h_2 => exact hfloat h
  case h_1 =>
    dsimp only at h
    -- a whole number that fits a word, with a sign and without, or else a double
    split at h <;> split at h
    · cases h
      exact ⟨rfl, by omega, by omega⟩
    · exact hfloat h
    · cases h
      exact ⟨rfl, by omega, by omega⟩
    · exact hfloat h

/-- The value can be kept, and is not nested deeper than there was room for. -/
structure ReadWith (room : Nat) (j : Json) : Prop where
  depth_le : j.depth ≤ room
  keepable : j.All Keepable

lemma readWith_array {items : List Json} (h : ∀ item ∈ items, ReadWith room item) :
    ReadWith (room + 1) (array items) where
  depth_le := Nat.succ_le_succ (depthOfItems_le_iff.2 fun item hitem => (h item hitem).depth_le)
  keepable := ⟨trivial, allItems_iff.2 fun item hitem => (h item hitem).keepable⟩

lemma readWith_ofMembers {members : List (String × Json)}
    (h : ∀ m ∈ members, ReadWith room m.2) : ReadWith (room + 1) (ofMembers members) := by
  have hnil : ([] : List (String × Json)).Pairwise (·.1 < ·.1) := .nil
  obtain ⟨hsorted, hmem⟩ := foldl_insertMember_sorted members hnil
  have hread := fun m hm => h m ((hmem m hm).resolve_left List.not_mem_nil)
  exact {
    depth_le := Nat.succ_le_succ (depthOfMembers_le_iff.2 fun m hm => (hread m hm).depth_le)
    keepable := ⟨hsorted, allMembers_iff.2 fun m hm => (hread m hm).keepable⟩ }

/-- A member of an object is nested less deep than the object. -/
lemma ReadWith.of_lookup {members : List (String × Json)} {key : String} {j : Json}
    (h : ReadWith (room + 1) (object members)) (hj : members.lookup key = some j) :
    ReadWith room j := by
  obtain ⟨before, after, rfl, -⟩ := List.lookup_eq_some_iff.1 hj
  have hmem : (key, j) ∈ before ++ (key, j) :: after := by simp
  exact {
    depth_le := depthOfMembers_le_iff.1 (Nat.le_of_succ_le_succ h.depth_le) (key, j) hmem
    keepable := allMembers_iff.1 h.keepable.2 (key, j) hmem }

/-- It can be written and read once more where there is as much room. -/
lemma ReadWith.value_node {j : Json} (h : ReadWith room j) (hlegible : j.All IsLegible) :
    value room j.node = .ok j :=
  (Json.value_node j h.keepable hlegible room).trans (if_pos h.depth_le)

/-- Only `null` is written as `null`. -/
lemma ReadWith.node_ne_null {j : Json} (h : ReadWith room j) (hlegible : j.All IsLegible)
    (hj : j ≠ .null) : j.node ≠ .null := by
  intro hnode
  have hread := h.value_node hlegible
  rw [hnode] at hread
  cases hread
  exact hj rfl

mutual

/-- What is read as a value can be kept, and is not nested deeper than there was room for. -/
lemma readWith_of_value {room : Nat} {node : Node} {j : Json} (h : value room node = .ok j) :
    ReadWith room j := by
  match room, node with
  | _, .null | _, .bool _ | _, .string (some _) =>
    cases h
    exact ⟨Nat.zero_le _, trivial⟩
  | _, .number literal =>
    rw [value] at h
    split at h
    · next hvalue =>
      cases h
      obtain ⟨hdepth, hkeep⟩ := of_value? hvalue
      exact ⟨hdepth.trans_le (Nat.zero_le _), hkeep⟩
    · cases h
  | room + 1, .array items closed =>
    obtain ⟨js, hjs, h⟩ := of_bind_eq_ok h
    cases closed with
    | false => cases h
    | true =>
      cases h
      exact readWith_array (readWith_of_values hjs)
  | room + 1, .object members closed =>
    obtain ⟨ms, hms, h⟩ := of_bind_eq_ok h
    cases closed with
    | false => cases h
    | true =>
      cases h
      exact readWith_ofMembers (readWith_of_memberValues hms)
  | _, .string none | _, .broken | 0, .array _ _ | 0, .object _ _ => cases h

lemma readWith_of_values {room : Nat} {nodes : List Node} {items : List Json}
    (h : values room nodes = .ok items) : ∀ item ∈ items, ReadWith room item := by
  match nodes with
  | [] =>
    cases h
    exact List.forall_mem_nil _
  | node :: nodes =>
    obtain ⟨j, hj, h⟩ := of_bind_eq_ok h
    obtain ⟨rest, hrest, h⟩ := of_bind_eq_ok h
    cases h
    exact List.forall_mem_cons.2 ⟨readWith_of_value hj, readWith_of_values hrest⟩

lemma readWith_of_memberValues {room : Nat} {nodes : Members}
    {members : List (String × Json)} (h : memberValues room nodes = .ok members) :
    ∀ m ∈ members, ReadWith room m.2 := by
  match nodes with
  | [] =>
    cases h
    exact List.forall_mem_nil _
  | (none, _) :: _ => cases h
  | (some key, node) :: nodes =>
    obtain ⟨j, hj, h⟩ := of_bind_eq_ok h
    obtain ⟨rest, hrest, h⟩ := of_bind_eq_ok h
    cases h
    exact List.forall_mem_cons.2 ⟨readWith_of_value hj, readWith_of_memberValues hrest⟩

end

lemma readWith_of_source {source : Source} {j : Json} (h : Decoder.ofSource value source = .ok j) :
    ReadWith maxDepth j := by
  unfold Decoder.ofSource at h
  rcases hsource : Node.ofSource source with ⟨node, ended⟩
  rw [hsource] at h
  obtain ⟨j', hread, h⟩ := of_bind_eq_ok h
  cases ended with
  | true =>
    cases h
    exact readWith_of_value hread
  | false => cases h

end Json

end SlotMachine
