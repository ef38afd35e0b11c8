import Mathlib.Algebra.Ring.Nat
import Mathlib.Tactic.Common
import SlotMachine.Table

/-!
# Which tables are accepted

There are seven faults that a list of entries can have, and several can be there at once. The error
names the first of them, in an order that does not depend on where in the list they are; a list
without a fault makes a table. The checks are independent of each other: that the sum of the weights
is too large is found for any list, also where a sum in words would have started again from zero.
-/

namespace SlotMachine

namespace SymbolSpec

variable {specs : List SymbolSpec}

/-! ### Repeated symbols -/

lemma firstRepeat?_eq_some_iff {seen symbols : List Symbol} {s : Symbol} :
    firstRepeat? seen symbols = some s ↔ ∃ before after, symbols = before ++ s :: after ∧
      firstRepeat? seen before = none ∧ (s ∈ seen ∨ s ∈ before) := by
  induction symbols generalizing seen with
  | nil => simp [firstRepeat?]
  | cons x rest ih =>
    by_cases hx : x ∈ seen
    · rw [firstRepeat?, if_pos hx]
      constructor
      · rintro ⟨⟩
        exact ⟨[], rest, rfl, rfl, .inl hx⟩
      · rintro ⟨before, after, hsymbols, hnone, -⟩
        cases before with
        | nil =>
          cases hsymbols
          rfl
        | cons y before =>
          cases hsymbols
          rw [firstRepeat?, if_pos hx] at hnone
          cases hnone
    · rw [firstRepeat?, if_neg hx, ih]
      constructor
      · rintro ⟨before, after, rfl, hnone, hmem⟩
        refine ⟨x :: before, after, rfl, by rwa [firstRepeat?, if_neg hx], ?_⟩
        rwa [List.mem_cons, or_assoc, or_left_comm, ← List.mem_cons] at hmem
      · rintro ⟨before, after, hsymbols, hnone, hmem⟩
        cases before with
        | nil =>
          cases hsymbols
          simp [hx] at hmem
        | cons y before =>
          cases hsymbols
          rw [firstRepeat?, if_neg hx] at hnone
          exact ⟨before, after, rfl, hnone, by simpa [or_assoc, or_left_comm] using hmem⟩

/-- A symbol is the first that is repeated if it stands after a part without repetitions that it is
already in. -/
lemma firstRepeat?_nil_eq_some_iff {symbols : List Symbol} {s : Symbol} :
    firstRepeat? [] symbols = some s ↔
      ∃ before after, symbols = before ++ s :: after ∧ before.Nodup ∧ s ∈ before := by
  simp [firstRepeat?_eq_some_iff, firstRepeat?_eq_none]

/-! ### Sums of weights -/

lemma foldlM_addWord?_eq_some_iff {a c : UInt32} :
    specs.foldlM (fun total spec => addWord? total spec.weight) a = some c ↔
      c.toNat = a.toNat + totalWeight specs := by
  refine ⟨foldlM_addWord?_eq_some, fun h => ?_⟩
  induction specs generalizing a with
  | nil => exact congrArg some (UInt32.toNat_inj.1 h).symm
  | cons spec rest ih =>
    rw [totalWeight] at h
    have hlt : a.toNat + spec.weight.toNat < UInt32.size := by
      have hc : c.toNat < UInt32.size := c.toNat_lt
      omega
    obtain ⟨b, hb⟩ : ∃ b, addWord? a spec.weight = some b := ⟨_, if_pos hlt⟩
    rw [List.foldlM_cons, hb]
    apply ih
    rw [(addWord?_eq_some.1 hb).2, h, Nat.add_assoc]

/-- The sum in words is there as soon as a word can have the value of the sum. -/
lemma wordWeight?_eq_some_iff {total : UInt32} :
    wordWeight? specs = some total ↔ total.toNat = totalWeight specs := by
  rw [wordWeight?, foldlM_addWord?_eq_some_iff, UInt32.toNat_zero, Nat.zero_add]

lemma wordWeight?_filter_eq_none_iff :
    (wordWeight? specs).filter (·.toNat ≤ maxTotalWeight) = none ↔
      maxTotalWeight < totalWeight specs := by
  rw [Option.filter_eq_none_iff]
  constructor
  · intro h
    by_contra hle
    have hword : (UInt32.ofNat (totalWeight specs)).toNat = totalWeight specs :=
      UInt32.toNat_ofNat_of_lt' (Nat.lt_of_le_of_lt (Nat.not_lt.1 hle) (by decide))
    have hbeyond := h _ (wordWeight?_eq_some_iff.2 hword)
    rw [hword] at hbeyond
    simp [hle] at hbeyond
  · intro hlt total htotal
    rw [wordWeight?_eq_some_iff.1 htotal]
    simpa using hlt

lemma totalWeight_eq_sum : totalWeight specs = (specs.map (·.weight.toNat)).sum := by
  induction specs with
  | nil => rfl
  | cons spec rest ih => rw [totalWeight, ih, List.map_cons, List.sum_cons]

/-! ### Entries with a zero -/

/-- The first entry for which `f` is zero. -/
def FirstZero (f : SymbolSpec → UInt32) (specs : List SymbolSpec) (spec : SymbolSpec) : Prop :=
  ∃ before after, specs = before ++ spec :: after ∧ f spec = 0 ∧ ∀ earlier ∈ before, f earlier ≠ 0

lemma find?_eq_some_iff_firstZero {f : SymbolSpec → UInt32} {spec : SymbolSpec} :
    specs.find? (f · == 0) = some spec ↔ FirstZero f specs spec := by
  rw [List.find?_eq_some_iff_append]
  constructor
  · rintro ⟨hzero, before, after, hspecs, hbefore⟩
    exact ⟨before, after, hspecs, by simpa using hzero, by simpa using hbefore⟩
  · rintro ⟨before, after, hspecs, hzero, hbefore⟩
    exact ⟨by simpa using hzero, before, after, hspecs, by simpa using hbefore⟩

end SymbolSpec

/-! ### Faults -/

/-- The place of an error among the faults of a list of entries. -/
def SetupError.rank : SetupError → Nat
  | .emptyTable => 0
  | .duplicateSymbol _ => 1
  | .totalWeightTooLarge _ => 2
  | .zeroTotalWeight => 3
  | .zeroWeight _ => 4
  | .zeroMultiplier _ => 5
  | .tooFewSymbols _ => 6
  | _ => 7

namespace SymbolTable

open SymbolSpec

variable {specs : List SymbolSpec} {error error' : SetupError}

/-- A fault of a list of entries, whether or not another one comes before it. -/
inductive Fault (specs : List SymbolSpec) : SetupError → Prop
  | empty (hempty : specs = []) : Fault specs .emptyTable
  | repeated {before after : List Symbol} {symbol : Symbol}
      (hsymbols : specs.map (·.symbol) = before ++ symbol :: after) (hnodup : before.Nodup)
      (hmem : symbol ∈ before) : Fault specs (.duplicateSymbol symbol)
  | overweight (hlt : maxTotalWeight < (specs.map (·.weight.toNat)).sum) :
      Fault specs (.totalWeightTooLarge maxTotalWeight)
  | weightless (hzero : (specs.map (·.weight.toNat)).sum = 0) : Fault specs .zeroTotalWeight
  | zeroWeight {spec : SymbolSpec} (hspec : FirstZero (·.weight) specs spec) :
      Fault specs (.zeroWeight spec.symbol)
  | zeroMultiplier {spec : SymbolSpec} (hspec : FirstZero (·.multiplier) specs spec) :
      Fault specs (.zeroMultiplier spec.symbol)
  | tooFew (hlt : specs.length < 2) : Fault specs (.tooFewSymbols specs.length)

/-- What is found by the check at a place. -/
def found? (specs : List SymbolSpec) : Nat → Option SetupError
  | 0 => if specs = [] then some .emptyTable else none
  | 1 => (firstRepeat? [] (specs.map (·.symbol))).map .duplicateSymbol
  | 2 => if maxTotalWeight < SymbolSpec.totalWeight specs then
      some (.totalWeightTooLarge maxTotalWeight)
    else none
  | 3 => if SymbolSpec.totalWeight specs = 0 then some .zeroTotalWeight else none
  | 4 => (specs.find? (·.weight == 0)).map fun spec => .zeroWeight spec.symbol
  | 5 => (specs.find? (·.multiplier == 0)).map fun spec => .zeroMultiplier spec.symbol
  | 6 => if specs.length < 2 then some (.tooFewSymbols specs.length) else none
  | _ => none

/-- A fault is what the check at its place finds. -/
lemma Fault.found?_rank (h : Fault specs error) : found? specs error.rank = some error := by
  cases h with
  | empty hempty => exact if_pos hempty
  | repeated hsymbols hnodup hmem =>
    have hfirst := firstRepeat?_nil_eq_some_iff.2 ⟨_, _, hsymbols, hnodup, hmem⟩
    exact congrArg (Option.map _) hfirst
  | overweight hlt => exact if_pos (totalWeight_eq_sum ▸ hlt)
  | weightless hzero => exact if_pos (totalWeight_eq_sum ▸ hzero)
  | zeroWeight hspec => exact congrArg (Option.map _) (find?_eq_some_iff_firstZero.2 hspec)
  | zeroMultiplier hspec => exact congrArg (Option.map _) (find?_eq_some_iff_firstZero.2 hspec)
  | tooFew hlt => exact if_pos hlt

lemma Fault.eq_of_rank_eq (h : Fault specs error) (h' : Fault specs error')
    (hrank : error.rank = error'.rank) : error = error' := by
  have hfound := h.found?_rank
  rw [hrank, h'.found?_rank] at hfound
  exact (Option.some.inj hfound).symm

/-- The list has passed the checks before a place. -/
def Passes (specs : List SymbolSpec) (n : Nat) : Prop :=
  ∀ error, Fault specs error → n ≤ error.rank

lemma Passes.zero : Passes specs 0 := fun _ _ => Nat.zero_le _

lemma Passes.succ {n : Nat} (h : Passes specs n) (hnone : found? specs n = none) :
    Passes specs (n + 1) := by
  intro error herror
  refine Nat.lt_of_le_of_ne (h error herror) ?_
  rintro rfl
  rw [herror.found?_rank] at hnone
  cases hnone

lemma Fault.rank_lt (h : Fault specs error) : error.rank < 7 := by
  cases h <;> simp [SetupError.rank]

/-- What the result of `ofSpecs` says about the faults. -/
inductive Checked (specs : List SymbolSpec) : Except SetupError SymbolTable → Prop
  | accepted {table : SymbolTable} (hspecs : table.specs = specs)
      (hnone : ∀ error, ¬Fault specs error) : Checked specs (.ok table)
  | rejected {error : SetupError} (herror : Fault specs error) (hfirst : Passes specs error.rank) :
      Checked specs (.error error)

lemma checked_ofSpecs (specs : List SymbolSpec) : Checked specs (ofSpecs specs) := by
  have passes₀ : Passes specs 0 := .zero
  unfold ofSpecs
  split
  case isTrue hempty => exact .rejected (.empty (List.isEmpty_iff.1 hempty)) passes₀
  case isFalse hempty =>
  have passes₁ := passes₀.succ (if_neg (by simpa using hempty))
  split
  case h_1 symbol hrepeat =>
    obtain ⟨before, after, hsymbols, hnodup, hmem⟩ := firstRepeat?_nil_eq_some_iff.1 hrepeat
    exact .rejected (.repeated hsymbols hnodup hmem) passes₁
  case h_2 hnodup =>
  have passes₂ := passes₁.succ (congrArg (Option.map _) hnodup)
  split
  case h_1 hover =>
    have hlt := wordWeight?_filter_eq_none_iff.1 hover
    exact .rejected (.overweight (totalWeight_eq_sum ▸ hlt)) passes₂
  case h_2 total htotal =>
  have hover : (wordWeight? specs).filter (·.toNat ≤ maxTotalWeight) ≠ none := by
    rw [htotal]
    exact nofun
  have hsum : total.toNat = SymbolSpec.totalWeight specs :=
    wordWeight?_eq_some_iff.1 (Option.filter_eq_some_iff.1 htotal).1
  have passes₃ := passes₂.succ (if_neg (mt wordWeight?_filter_eq_none_iff.2 hover))
  split
  case isTrue hzero =>
    refine .rejected (.weightless ?_) passes₃
    rw [← totalWeight_eq_sum, ← hsum, hzero]
    rfl
  case isFalse hzero =>
  have hpos : SymbolSpec.totalWeight specs ≠ 0 := fun h => hzero (UInt32.toNat_inj.1 (hsum.trans h))
  have passes₄ := passes₃.succ (if_neg hpos)
  split
  case h_1 spec hweight =>
    exact .rejected (.zeroWeight (find?_eq_some_iff_firstZero.1 hweight)) passes₄
  case h_2 hweight =>
  have passes₅ := passes₄.succ (congrArg (Option.map _) hweight)
  split
  case h_1 spec hmultiplier =>
    exact .rejected (.zeroMultiplier (find?_eq_some_iff_firstZero.1 hmultiplier)) passes₅
  case h_2 hmultiplier =>
  have passes₆ := passes₅.succ (congrArg (Option.map _) hmultiplier)
  split
  case isFalse hlength => exact .rejected (.tooFew (Nat.not_le.1 hlength)) passes₆
  case isTrue hlength =>
  have passes₇ := passes₆.succ (if_neg (Nat.not_lt.2 hlength))
  exact .accepted rfl fun error herror => Nat.not_le.2 herror.rank_lt (passes₇ error herror)

/-! ### Acceptance -/

/-- A list of entries that can be drawn from. -/
structure Acceptable (specs : List SymbolSpec) : Prop where
  two_le_length : 2 ≤ specs.length
  nodup : (specs.map (·.symbol)).Nodup
  weight_ne_zero : ∀ spec ∈ specs, spec.weight ≠ 0
  multiplier_ne_zero : ∀ spec ∈ specs, spec.multiplier ≠ 0
  sum_le : (specs.map (·.weight.toNat)).sum ≤ maxTotalWeight

lemma acceptable_specs (table : SymbolTable) : Acceptable table.specs where
  two_le_length := table.two_le_length
  nodup := table.nodup
  weight_ne_zero := table.weight_ne_zero
  multiplier_ne_zero := table.multiplier_ne_zero
  sum_le := totalWeight_eq_sum ▸ table.totalWeight_le

lemma Acceptable.not_firstZero (f : SymbolSpec → UInt32) (hf : ∀ spec ∈ specs, f spec ≠ 0)
    {spec : SymbolSpec} : ¬FirstZero f specs spec := by
  rintro ⟨before, after, rfl, hzero, -⟩
  exact hf spec (List.mem_append_right before List.mem_cons_self) hzero

lemma Acceptable.not_fault (h : Acceptable specs) : ¬Fault specs error := by
  intro herror
  cases herror with
  | empty hempty =>
    subst hempty
    exact absurd h.two_le_length (by decide)
  | repeated hsymbols _ hmem =>
    have hnodup := h.nodup
    rw [hsymbols, List.nodup_append] at hnodup
    exact hnodup.2.2 _ hmem _ List.mem_cons_self rfl
  | overweight hlt => exact Nat.not_le.2 hlt h.sum_le
  | weightless hzero =>
    obtain ⟨spec, hspec⟩ := List.exists_mem_of_length_pos (Nat.zero_lt_of_lt h.two_le_length)
    have hweight := List.sum_eq_zero_iff_forall_eq_nat.1 hzero _ (List.mem_map_of_mem hspec)
    exact h.weight_ne_zero spec hspec (UInt32.toNat_inj.1 hweight)
  | zeroWeight hspec => exact not_firstZero _ h.weight_ne_zero hspec
  | zeroMultiplier hspec => exact not_firstZero _ h.multiplier_ne_zero hspec
  | tooFew hlt => exact Nat.not_le.2 hlt h.two_le_length

lemma ofSpecs_eq_ok {table : SymbolTable} (h : ofSpecs specs = .ok table) :
    table.specs = specs ∧ ∀ error, ¬Fault specs error := by
  have hchecked := checked_ofSpecs specs
  rw [h] at hchecked
  cases hchecked with
  | accepted hspecs hnone => exact ⟨hspecs, hnone⟩

lemma ofSpecs_eq_error_iff :
    ofSpecs specs = .error error ↔
      Fault specs error ∧ ∀ error', Fault specs error' → error.rank ≤ error'.rank := by
  constructor
  · intro h
    have hchecked := checked_ofSpecs specs
    rw [h] at hchecked
    cases hchecked with
    | rejected herror hfirst => exact ⟨herror, hfirst⟩
  · rintro ⟨herror, hfirst⟩
    generalize hresult : ofSpecs specs = result
    cases hresult ▸ checked_ofSpecs specs with
    | accepted _ hnone => exact absurd herror (hnone error)
    | rejected herror' hfirst' =>
      have hrank := Nat.le_antisymm (hfirst' _ herror) (hfirst _ herror')
      rw [herror'.eq_of_rank_eq herror hrank]

/-- A list of entries makes a table exactly if it has two or more of them, for different symbols and
without zeros, with weights whose sum is within the limit. The table holds the list as it is; its
total weight is the sum of the weights, and that is what adding them up in words gave. Any other
list has a fault, and the error names the first: no entries; a symbol for the second time; too large
a sum; a sum of zero; the first weight of zero; the first multiplier of zero; too few entries. -/
theorem ofSpecs_accepts_exactly (specs : List SymbolSpec) :
    ((∃ table, ofSpecs specs = .ok table) ↔ Acceptable specs) ∧
    (∀ table, ofSpecs specs = .ok table → table.specs = specs ∧
      table.totalWeight = (specs.map (·.weight.toNat)).sum ∧
      (wordWeight? specs).map (·.toNat) = some table.totalWeight) ∧
    ∀ error, ofSpecs specs = .error error ↔
      Fault specs error ∧ ∀ error', Fault specs error' → error.rank ≤ error'.rank := by
  refine ⟨⟨?_, fun h => ?_⟩, ?_, fun error => ofSpecs_eq_error_iff⟩
  · rintro ⟨table, htable⟩
    rw [← (ofSpecs_eq_ok htable).1]
    exact acceptable_specs table
  · generalize hresult : ofSpecs specs = result
    cases hresult ▸ checked_ofSpecs specs with
    | accepted _ _ => exact ⟨_, rfl⟩
    | rejected herror _ => exact absurd herror h.not_fault
  · intro table htable
    obtain ⟨rfl, -⟩ := ofSpecs_eq_ok htable
    refine ⟨rfl, totalWeight_eq_sum, ?_⟩
    have hword : (UInt32.ofNat table.totalWeight).toNat = table.totalWeight :=
      UInt32.toNat_ofNat_of_lt' (Nat.lt_of_le_of_lt table.totalWeight_le (by decide))
    rw [wordWeight?_eq_some_iff.2 hword, Option.map_some, hword]

/-- A table at the limit is accepted; beyond it the weights are found too large though their sum in
words would be one and an entry has no multiplier. -/
theorem ofSpecs_accepts_exactly_atLimit :
    (∃ table, ofSpecs [⟨.cherry, 999999, 2⟩, ⟨.lemon, 1, 3⟩] = .ok table ∧
      table.totalWeight = 1000000) ∧
    ofSpecs [⟨.cherry, 0xFFFFFFFF, 2⟩, ⟨.lemon, 2, 0⟩] =
      .error (.totalWeightTooLarge maxTotalWeight) := by
  constructor
  · obtain ⟨haccepted, htable, -⟩ := ofSpecs_accepts_exactly [⟨.cherry, 999999, 2⟩, ⟨.lemon, 1, 3⟩]
    obtain ⟨table, hok⟩ := haccepted.2
      ⟨by decide, by decide, by decide, by decide, by decide⟩
    exact ⟨table, hok, (htable table hok).2.1⟩
  · obtain ⟨-, -, herror⟩ := ofSpecs_accepts_exactly [⟨.cherry, 0xFFFFFFFF, 2⟩, ⟨.lemon, 2, 0⟩]
    refine (herror _).2 ⟨.overweight (by decide), ?_⟩
    have hpasses : Passes [⟨.cherry, 0xFFFFFFFF, 2⟩, ⟨.lemon, 2, 0⟩] 2 :=
      (Passes.zero.succ rfl).succ rfl
    exact hpasses

end SymbolTable

end SlotMachine
