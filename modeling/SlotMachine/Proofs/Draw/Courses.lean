import Mathlib.Tactic.Ring
import SlotMachine.Proofs.Draw.Avoids
import SlotMachine.Proofs.Draw.Ensures

/-!
# Courses of spins

What a spin does besides reckoning is to take words and to look at the flag. A spin `Follows` a
course, which is a list of such acts, if it always does just that until a look sees the flag up,
which ends it. The courses of steps that follow each other are put together, and so all the looks of
a spin are known from the courses of its steps.

A draw that is `Blind` never looks at the flag, so that only the words make a difference to it. A
spin that `OnlyLooks` takes no words, and comes to the same result whatever they are.
-/

namespace SlotMachine

variable {α β : Type}

/-! ### Flags -/

namespace Chance

variable (chance : Chance)

/-- The same words with a flag that is never raised. -/
def lowered : Chance := { chance with raised := fun _ _ => false }

/-- The same words with a flag that goes up with the last of the first `words` of them. -/
def raisedWith (words : Nat) : Chance := { chance with raised := fun drawn _ => words ≤ drawn }

/-- Whether a look at this point sees the flag up. -/
def isUpAt (meter : Meter) : Bool := chance.raised meter.drawn meter.looks

lemma lowered_unraised : chance.lowered.Unraised := fun _ _ => rfl

lemma isUpAt_raisedWith {words : Nat} {meter : Meter} :
    (chance.raisedWith words).isUpAt meter = true ↔ words ≤ meter.drawn := by
  simp [isUpAt, raisedWith]

end Chance

/-! ### Draws -/

namespace Draw

/-- Whatever is drawn, it takes so many words. -/
def Takes (d : Draw α) (words : Nat) : Prop :=
  ∀ chance meter, (d chance meter).2.drawn = meter.drawn + words

lemma unit_takes : unit.Takes 1 := fun _ _ => rfl

lemma takes_graded : Graded (m := Draw) fun n {_} d => Takes d n where
  pure _ := fun _ _ => rfl
  bind := by
    intro α β k n d f hd hf chance meter
    rw [bind_apply, hf, hd, Nat.add_assoc]

/-- A draw that is told by the words and by how many have been taken, and only takes words. -/
def Blind (d : Draw α) : Prop :=
  ∃ f : (Nat → UInt64) → Nat → α × Nat, ∀ chance meter, d chance meter =
    ((f chance.word meter.drawn).1, { meter with drawn := (f chance.word meter.drawn).2 })

lemma blind_pure (a : α) : Blind (pure a) := ⟨fun _ drawn => (a, drawn), fun _ _ => rfl⟩

lemma Blind.bind {d : Draw α} {f : α → Draw β} (hd : d.Blind) (hf : ∀ a, (f a).Blind) :
    (d >>= f).Blind := by
  obtain ⟨g, hg⟩ := hd
  choose h hh using hf
  refine ⟨fun word drawn => h (g word drawn).1 word (g word drawn).2, fun chance meter => ?_⟩
  rw [bind_apply, hg, hh]

lemma word_blind : word.Blind := ⟨fun word drawn => (word drawn, drawn + 1), fun _ _ => rfl⟩

lemma Blind.map {d : Draw α} (hd : d.Blind) (f : α → β) : (f <$> d).Blind :=
  hd.bind fun a => blind_pure (f a)

lemma unit_blind : unit.Blind := word_blind.map _

lemma chance_blind (p : Float) : (chance p).Blind := by
  unfold chance
  split
  case isTrue => exact blind_pure true
  case isFalse => exact word_blind.bind fun _ => blind_pure _

lemma below_blind (n : Nat) (hn : 0 < n) : (below n hn).Blind := by
  apply (word_blind.map _).bind
  intro a
  split
  case isTrue => exact (word_blind.map _).bind fun _ => blind_pure _
  case isFalse => exact blind_pure _

/-- Nothing is counted. -/
lemma blind_graded : Graded (m := Draw) fun _ {_} d => Blind d where
  pure := blind_pure
  bind := Blind.bind

/-- Another flag, and other looks before, make no difference. -/
lemma Blind.congr {d : Draw α} (hd : d.Blind) {chance chance' : Chance} {meter meter' : Meter}
    (hword : chance'.word = chance.word) (hdrawn : meter'.drawn = meter.drawn) :
    d chance' meter' =
      ((d chance meter).1, { meter' with drawn := (d chance meter).2.drawn }) := by
  obtain ⟨f, hf⟩ := hd
  rw [hf, hf, hword, hdrawn]

lemma Blind.eq_of_word {d : Draw α} (hd : d.Blind) {chance chance' : Chance} (meter : Meter)
    (hword : chance'.word = chance.word) : d chance' meter = d chance meter := by
  obtain ⟨f, hf⟩ := hd
  rw [hf, hf, hword]

lemma Blind.result_congr {d : Draw α} (hd : d.Blind) {chance chance' : Chance}
    {meter meter' : Meter} (hword : chance'.word = chance.word)
    (hdrawn : meter'.drawn = meter.drawn) : (d chance' meter').1 = (d chance meter).1 := by
  rw [hd.congr hword hdrawn]

lemma Blind.looks_eq {d : Draw α} (hd : d.Blind) (chance : Chance) (meter : Meter) :
    (d chance meter).2.looks = meter.looks := by
  obtain ⟨f, hf⟩ := hd
  rw [hf]

end Draw

/-! ### Courses -/

/-- What a spin does besides reckoning. -/
inductive Act
  | word
  | look

/-- The meter after one more look. -/
def Meter.looked (meter : Meter) : Meter := { meter with looks := meter.looks + 1 }

namespace Act

/-- The meter at the end of a course. -/
def after : List Act → Meter → Meter
  | [], meter => meter
  | word :: rest, meter => after rest { meter with drawn := meter.drawn + 1 }
  | look :: rest, meter => after rest meter.looked

/-- The meter at each of the looks of a course. -/
def looks : List Act → Meter → List Meter
  | [], _ => []
  | word :: rest, meter => looks rest { meter with drawn := meter.drawn + 1 }
  | look :: rest, meter => meter :: looks rest meter.looked

variable {course course' : List Act} {meter point : Meter} {n : Nat}

lemma after_append : after (course ++ course') meter = after course' (after course meter) := by
  induction course generalizing meter with
  | nil => rfl
  | cons act rest ih => cases act <;> exact ih

lemma looks_append :
    looks (course ++ course') meter = looks course meter ++ looks course' (after course meter) := by
  induction course generalizing meter with
  | nil => rfl
  | cons act rest ih =>
    cases act with
    | word => exact ih
    | look => exact congrArg (meter :: ·) ih

lemma looks_after : (after course meter).looks = meter.looks + (looks course meter).length := by
  induction course generalizing meter with
  | nil => rfl
  | cons act rest ih =>
    cases act with
    | word => exact ih
    | look =>
      rw [after, ih, looks, List.length_cons, Meter.looked, Nat.add_right_comm, Nat.add_assoc]

lemma after_words :
    after (.replicate n word) meter = { meter with drawn := meter.drawn + n } := by
  induction n generalizing meter with
  | zero => rfl
  | succ n ih =>
    rw [List.replicate_succ, after, ih]
    simp only [Nat.add_right_comm, Nat.add_assoc]

lemma looks_words : looks (.replicate n word) meter = [] := by
  induction n generalizing meter with
  | zero => rfl
  | succ n ih => exact ih

lemma drawn_after_looks : (after (.replicate n look) meter).drawn = meter.drawn := by
  induction n generalizing meter with
  | zero => rfl
  | succ n ih => exact ih

lemma drawn_of_mem_looks (h : point ∈ looks (.replicate n look) meter) :
    point.drawn = meter.drawn := by
  induction n generalizing meter with
  | zero => cases h
  | succ n ih =>
    rw [List.replicate_succ, looks] at h
    cases h with
    | head => rfl
    | tail _ h => exact (ih h : point.drawn = meter.looked.drawn)

lemma mem_looks (hn : n ≠ 0) : meter ∈ looks (.replicate n look) meter := by
  cases n with
  | zero => exact absurd rfl hn
  | succ n => exact List.mem_cons_self

end Act

namespace Spin

variable {x : Spin α} {f : α → Spin β} {course course' : List Act} {P : α → Prop} {Q : β → Prop}

/-- Whatever the words and the flag are, the spin is cancelled at the first look of the course that
sees the flag up. If there is none, it does all that is on the course and comes to a result with the
property. -/
def Follows (x : Spin α) (course : List Act) (P : α → Prop) : Prop :=
  ∀ chance meter,
    match (Act.looks course meter).find? chance.isUpAt with
    | some point => x chance meter = (.error .cancelled, point.looked)
    | none => ∃ a, x chance meter = (.ok a, Act.after course meter) ∧ P a

lemma Follows.of_find?_eq_some (h : x.Follows course P) {chance : Chance} {meter point : Meter}
    (hpoint : (Act.looks course meter).find? chance.isUpAt = some point) :
    x chance meter = (.error .cancelled, point.looked) := by
  have hrun := h chance meter
  rwa [hpoint] at hrun

lemma Follows.of_find?_eq_none (h : x.Follows course P) {chance : Chance} {meter : Meter}
    (hpoint : (Act.looks course meter).find? chance.isUpAt = none) :
    ∃ a, x chance meter = (.ok a, Act.after course meter) ∧ P a := by
  have hrun := h chance meter
  rwa [hpoint] at hrun

/-- As long as the flag stays down, the course is followed to its end. -/
lemma Follows.of_unraised (h : x.Follows course P) {chance : Chance} (hflag : chance.Unraised)
    (meter : Meter) : ∃ a, x chance meter = (.ok a, Act.after course meter) ∧ P a := by
  apply h.of_find?_eq_none
  rw [List.find?_eq_none]
  intro point _
  rw [Chance.isUpAt, hflag]
  exact Bool.false_ne_true

/-- A flag that goes up after the last look is as good as down. -/
lemma Follows.of_raisedWith (h : x.Follows course P) (chance : Chance) {meter : Meter} {words : Nat}
    (hwords : ∀ point ∈ Act.looks course meter, point.drawn < words) :
    ∃ a, x (chance.raisedWith words) meter = (.ok a, Act.after course meter) ∧ P a := by
  apply h.of_find?_eq_none
  rw [List.find?_eq_none]
  intro point hpoint
  rw [Chance.isUpAt_raisedWith, not_le]
  exact hwords point hpoint

/-- With a flag that is up from the start, nothing is done but to look at it. -/
lemma Follows.of_isUpAt (h : x.Follows (.look :: course) P) {chance : Chance} {meter : Meter}
    (hflag : chance.isUpAt meter = true) : x chance meter = (.error .cancelled, meter.looked) :=
  h.of_find?_eq_some (List.find?_cons_of_pos hflag)

lemma follows_pure {a : α} (h : P a) : Follows (pure a) [] P := fun _ _ => ⟨a, rfl, h⟩

lemma checkpoint_follows : Follows checkpoint [.look] (· = ()) := by
  intro chance meter
  unfold checkpoint
  cases hup : chance.isUpAt meter with
  | true =>
    rw [Act.looks, List.find?_cons_of_pos hup]
    rw [Chance.isUpAt] at hup
    simp [hup, Meter.looked]
  | false =>
    rw [Act.looks, List.find?_cons_of_neg (by simp [hup])]
    rw [Chance.isUpAt] at hup
    exact ⟨(), by simp [hup, Act.after, Meter.looked], rfl⟩

lemma reserve_follows {length : Nat} (h : length < maxLength) :
    Follows (reserve length) [] fun _ => True := by
  rw [reserve, if_pos h]
  exact follows_pure trivial

lemma follows_liftM {d : Draw α} {n : Nat} (hblind : d.Blind) (hwords : d.Takes n) :
    Follows (liftM d) (.replicate n .word) fun _ => True := by
  intro chance meter
  rw [Act.looks_words, Act.after_words, ← hwords chance meter, ← hblind.looks_eq chance meter]
  exact ⟨(d chance meter).1, rfl, trivial⟩

lemma Follows.bind (hx : x.Follows course P) (hf : ∀ a, P a → (f a).Follows course' Q) :
    (x >>= f).Follows (course ++ course') Q := by
  intro chance meter
  rw [Act.looks_append, List.find?_append, Draw.except_bind_apply]
  cases hpoint : (Act.looks course meter).find? chance.isUpAt with
  | some point =>
    rw [hx.of_find?_eq_some hpoint]
    rfl
  | none =>
    obtain ⟨a, hrun, ha⟩ := hx.of_find?_eq_none hpoint
    rw [hrun, Act.after_append]
    exact hf a ha chance (Act.after course meter)

/-- A step that comes to an end without any act leaves the course to what follows. -/
lemma Follows.bind_nil (hx : x.Follows [] P) (hf : ∀ a, P a → (f a).Follows course Q) :
    (x >>= f).Follows course Q :=
  hx.bind hf

lemma Follows.bind_last (hx : x.Follows course P) (hf : ∀ a, P a → (f a).Follows [] Q) :
    (x >>= f).Follows course Q := by
  have h := hx.bind hf
  rwa [List.append_nil] at h

/-- As long as the flag stays down, the spin takes so many words and comes to a result with the
property. -/
def EndsIn (x : Spin α) (words : Nat) (P : α → Prop) : Prop :=
  ∀ chance meter, chance.Unraised → ∃ a, (x chance meter).1 = .ok a ∧ P a ∧
    (x chance meter).2.drawn = meter.drawn + words

lemma Follows.endsIn {words : Nat} (h : x.Follows course P)
    (hwords : ∀ meter, (Act.after course meter).drawn = meter.drawn + words) :
    x.EndsIn words P := by
  intro chance meter hflag
  obtain ⟨a, hrun, ha⟩ := h.of_unraised hflag meter
  rw [hrun]
  exact ⟨a, rfl, ha, hwords meter⟩

/-! ### Steps that take no words -/

/-- The spin takes no words, looks at the flag so many times, and always comes to the same result.
-/
def OnlyLooks (x : Spin α) (n : Nat) : Prop := ∃ a, x.Follows (.replicate n .look) (· = a)

lemma checkpoint_onlyLooks : OnlyLooks checkpoint 1 := ⟨(), checkpoint_follows⟩

lemma onlyLooks_graded : Graded (m := Spin) fun n {_} x => OnlyLooks x n where
  pure a := ⟨a, follows_pure rfl⟩
  bind := by
    rintro α β k n x f ⟨a, ha⟩ hf
    obtain ⟨b, hb⟩ := hf a
    refine ⟨b, ?_⟩
    rw [← List.replicate_append_replicate]
    apply ha.bind
    rintro _ rfl
    exact hb

end Spin

end SlotMachine
