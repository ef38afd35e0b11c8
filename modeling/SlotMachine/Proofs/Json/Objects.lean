import Mathlib.Tactic.Common
import SlotMachine.Json.Decode

/-!
# Texts that are objects

Where the text of an object has come to its end, all that stands in it is well-formed
(`IsObject.isWellFormed`): the reader gives up the rest of a text at the first place that is not
JSON, so that nothing can follow what is broken.
-/

namespace SlotMachine

namespace Json

/-- The text is a JSON object with these members, perhaps with blanks around it. -/
def IsObject (source : Source) (members : Members) : Prop :=
  Node.ofSource source = (.object members true, true)

lemma IsObject.ofSource_eq {α : Type} {source : Source} {members : Members}
    (h : IsObject source members) (decoder : Decoder α) :
    decoder.ofSource source = decoder maxDepth (.object members true) := by
  unfold Decoder.ofSource
  rw [h]
  dsimp only
  cases decoder maxDepth (.object members true) <;> rfl

/-- The value breaks off. -/
def Node.breaksOff : Node → Bool
  | broken => true
  | array _ closed => !closed
  | object _ closed => !closed
  | _ => false

/-- What has been read is well-formed, or else it breaks off and nothing follows. -/
def WellRead (read : Node × Source) : Prop :=
  read.1.isWellFormed = true ∨ read.1.breaksOff = true ∧ read.2 = []

/-- Parts that have been read to their end are well-formed, and else nothing follows them. -/
def WellClosed {β : Type} (areWellFormed : List β → Bool) (read : List β × Bool × Source) : Prop :=
  if read.2.1 then areWellFormed read.1 = true else read.2.2 = []

lemma WellClosed.object {read : Members × Bool × Source}
    (h : WellClosed Node.membersWellFormed read) :
    WellRead (.object read.1 read.2.1, read.2.2) := by
  obtain ⟨members, closed, rest⟩ := read
  cases closed with
  | false => exact .inr ⟨rfl, h⟩
  | true =>
    have hwell : Node.membersWellFormed members = true := h
    exact .inl (by simp [Node.isWellFormed, hwell])

lemma WellClosed.array {read : List Node × Bool × Source}
    (h : WellClosed Node.areWellFormed read) : WellRead (.array read.1 read.2.1, read.2.2) := by
  obtain ⟨items, closed, rest⟩ := read
  cases closed with
  | false => exact .inr ⟨rfl, h⟩
  | true =>
    have hwell : Node.areWellFormed items = true := h
    exact .inl (by simp [Node.isWellFormed, hwell])

/-- One more item is read to its end where the others are. -/
lemma WellClosed.cons_item {item : Node} {read : List Node × Bool × Source}
    (h : WellClosed Node.areWellFormed read) (hitem : item.isWellFormed = true) :
    WellClosed Node.areWellFormed (item :: read.1, read.2.1, read.2.2) := by
  obtain ⟨items, closed, rest⟩ := read
  cases closed with
  | false => exact h
  | true =>
    have hwell : Node.areWellFormed items = true := h
    change Node.areWellFormed (item :: items) = true
    simp [Node.areWellFormed, hitem, hwell]

lemma WellClosed.cons_member {key : Option String} {value : Node} {read : Members × Bool × Source}
    (h : WellClosed Node.membersWellFormed read) (hvalue : value.isWellFormed = true) :
    WellClosed Node.membersWellFormed ((key, value) :: read.1, read.2.1, read.2.2) := by
  obtain ⟨members, closed, rest⟩ := read
  cases closed with
  | false => exact h
  | true =>
    have hwell : Node.membersWellFormed members = true := h
    change Node.membersWellFormed ((key, value) :: members) = true
    simp [Node.membersWellFormed, hvalue, hwell]

/-- What something follows is well-formed. -/
lemma WellRead.isWellFormed {read : Node × Source} (h : WellRead read) {c : Option Char}
    {more : Source} (hmore : skipBlank read.2 = c :: more) : read.1.isWellFormed = true := by
  rcases h with h | ⟨-, hrest⟩
  · exact h
  · rw [hrest] at hmore
    cases hmore

/-- What the reader makes of any text the reader makes of any text with this fuel. -/
structure ReadsWell (fuel : Nat) : Prop where
  value : ∀ source, WellRead (Node.read fuel source)
  items : ∀ source, WellClosed Node.areWellFormed (Node.readItems fuel source)
  members : ∀ source, WellClosed Node.membersWellFormed (Node.readMembers fuel source)

namespace ReadsWell

variable {fuel : Nat}

lemma value_succ (h : ReadsWell fuel) (source : Source) :
    WellRead (Node.read (fuel + 1) source) := by
  unfold Node.read
  split
  · split
    · exact .inl rfl
    · exact (h.members _).object
  · split
    · exact .inl rfl
    · exact (h.items _).array
  · split
    · exact .inl rfl
    · exact .inr ⟨rfl, rfl⟩
  · split
    · exact .inl rfl
    split
    · exact .inl rfl
    split
    · exact .inl rfl
    split
    · exact .inl rfl
    · exact .inr ⟨rfl, rfl⟩

lemma items_succ (h : ReadsWell fuel) (source : Source) :
    WellClosed Node.areWellFormed (Node.readItems (fuel + 1) source) := by
  have hitem := h.value source
  unfold Node.readItems
  dsimp only
  split
  · next hmore =>
    split
    · rfl
    · exact (h.items _).cons_item (hitem.isWellFormed hmore)
  · next hmore =>
    have hwell := hitem.isWellFormed hmore
    change Node.areWellFormed [_] = true
    simp [Node.areWellFormed, hwell]
  · rfl

lemma members_succ (h : ReadsWell fuel) (source : Source) :
    WellClosed Node.membersWellFormed (Node.readMembers (fuel + 1) source) := by
  unfold Node.readMembers
  dsimp only
  split
  · split
    · rfl
    split
    · next rest _ =>
      have hvalue := h.value rest
      split
      · next hmore =>
        split
        · rfl
        · exact (h.members _).cons_member (hvalue.isWellFormed hmore)
      · next hmore =>
        have hwell := hvalue.isWellFormed hmore
        change Node.membersWellFormed [_] = true
        simp [Node.membersWellFormed, hwell]
      · rfl
    · rfl
  · rfl

end ReadsWell

lemma readsWell (fuel : Nat) : ReadsWell fuel := by
  induction fuel with
  | zero => exact ⟨fun _ => .inr ⟨rfl, rfl⟩, fun _ => rfl, fun _ => rfl⟩
  | succ fuel ih => exact ⟨ih.value_succ, ih.items_succ, ih.members_succ⟩

/-- The values of a text that is an object are well-formed, whether anyone reads them or not. -/
lemma IsObject.isWellFormed {source : Source} {members : Members} (h : IsObject source members) :
    Node.membersWellFormed members = true := by
  have hread := (readsWell (2 * source.length + 2)).value source
  have hnode : (Node.read (2 * source.length + 2) source).1 = .object members true :=
    congrArg Prod.fst h
  unfold WellRead at hread
  rw [hnode] at hread
  simpa [Node.isWellFormed, Node.breaksOff] using hread

end Json

end SlotMachine
