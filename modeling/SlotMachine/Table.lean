import SlotMachine.SetupError

/-!
# Symbol tables

A symbol table says which symbols there are, how often each is drawn (its weight) and what it pays
(its multiplier). A value of type `SymbolTable` can be drawn from: it has at least two symbols, all
different, with weights and multipliers that are not zero and a total weight within the limit.
`SymbolTable.ofSpecs` builds one or gives the first reason why not.
-/

namespace SlotMachine

structure SymbolSpec where
  symbol : Symbol
  weight : UInt32
  multiplier : UInt32
  deriving DecidableEq, Repr

/-- The sum of two words if it is a word. -/
def addWord? (a b : UInt32) : Option UInt32 :=
  if a.toNat + b.toNat < UInt32.size then some (a + b) else none

namespace SymbolSpec

/-- The sum of the weights. -/
def totalWeight : List SymbolSpec → Nat
  | [] => 0
  | spec :: rest => spec.weight.toNat + totalWeight rest

/-- The sum of the multipliers, each as often as its weight says. -/
def weightedMultiplier : List SymbolSpec → Nat
  | [] => 0
  | spec :: rest => spec.weight.toNat * spec.multiplier.toNat + weightedMultiplier rest

/-- The sum of the weights, added up in words, unless that leaves the range of words. -/
def wordWeight? (specs : List SymbolSpec) : Option UInt32 :=
  specs.foldlM (fun total spec => addWord? total spec.weight) 0

/-- The first symbol that stands in `seen` or that an earlier one equals. -/
def firstRepeat? (seen : List Symbol) : List Symbol → Option Symbol
  | [] => none
  | s :: rest => if s ∈ seen then some s else firstRepeat? (s :: seen) rest

theorem firstRepeat?_eq_none {seen symbols : List Symbol} :
    firstRepeat? seen symbols = none ↔ symbols.Nodup ∧ ∀ s ∈ symbols, s ∉ seen := by
  induction symbols generalizing seen with
  | nil => simp [firstRepeat?]
  | cons s rest ih =>
    by_cases h : s ∈ seen
    · simp [firstRepeat?, h]
    · simp only [firstRepeat?, h, if_false, ih, List.nodup_cons, List.mem_cons]
      constructor
      · rintro ⟨hn, hs⟩
        refine ⟨⟨fun hm => hs s hm (Or.inl rfl), hn⟩, ?_⟩
        rintro x (rfl | hx) hm
        · exact h hm
        · exact hs x hx (Or.inr hm)
      · rintro ⟨⟨hm, hn⟩, hs⟩
        refine ⟨hn, fun x hx => ?_⟩
        rintro (rfl | hx')
        · exact hm hx
        · exact hs x (Or.inr hx) hx'

theorem addWord?_eq_some {a b c : UInt32} :
    addWord? a b = some c ↔ a.toNat + b.toNat < UInt32.size ∧ c.toNat = a.toNat + b.toNat := by
  unfold addWord?
  split
  case isTrue h =>
    rw [Option.some.injEq]
    constructor
    · rintro rfl
      exact ⟨h, by rw [UInt32.toNat_add, Nat.mod_eq_of_lt h]⟩
    · rintro ⟨_, hc⟩
      apply UInt32.toNat_inj.1
      rw [UInt32.toNat_add, Nat.mod_eq_of_lt h, hc]
  case isFalse h => exact iff_of_false nofun fun hc => h hc.1

theorem foldlM_addWord?_eq_some {specs : List SymbolSpec} {a c : UInt32} :
    specs.foldlM (fun total spec => addWord? total spec.weight) a = some c →
      c.toNat = a.toNat + totalWeight specs := by
  induction specs generalizing a with
  | nil =>
    intro h
    cases h
    simp [totalWeight]
  | cons spec rest ih =>
    intro h
    rw [List.foldlM_cons] at h
    obtain ⟨b, hb, h⟩ := Option.bind_eq_some_iff.1 h
    rw [ih h, (addWord?_eq_some.1 hb).2]
    simp only [totalWeight]
    omega

theorem toNat_of_wordWeight? {specs : List SymbolSpec} {total : UInt32}
    (h : wordWeight? specs = some total) : total.toNat = totalWeight specs := by
  simpa using foldlM_addWord?_eq_some h

end SymbolSpec

/-- The largest total weight of a table; a pool holds one entry for each unit of weight. -/
def maxTotalWeight : Nat := 1000000

structure SymbolTable where
  specs : List SymbolSpec
  nodup : (specs.map (·.symbol)).Nodup
  two_le_length : 2 ≤ specs.length
  weight_ne_zero : ∀ spec ∈ specs, spec.weight ≠ 0
  multiplier_ne_zero : ∀ spec ∈ specs, spec.multiplier ≠ 0
  totalWeight_le : SymbolSpec.totalWeight specs ≤ maxTotalWeight

namespace SymbolTable

theorem ne_zero_of_find?_eq_none {specs : List SymbolSpec} {f : SymbolSpec → UInt32}
    (h : specs.find? (f · == 0) = none) : ∀ spec ∈ specs, f spec ≠ 0 := by
  intro spec hs h0
  have := List.find?_eq_none.1 h spec hs
  simp [h0] at this

/-- The table with these entries, or the first of the reasons against it. -/
def ofSpecs (specs : List SymbolSpec) : Except SetupError SymbolTable :=
  if specs.isEmpty then .error .emptyTable else
  match hr : SymbolSpec.firstRepeat? [] (specs.map (·.symbol)) with
  | some symbol => .error (.duplicateSymbol symbol)
  | none =>
  match ht : (SymbolSpec.wordWeight? specs).filter (·.toNat ≤ maxTotalWeight) with
  | none => .error (.totalWeightTooLarge maxTotalWeight)
  | some total =>
  if total = 0 then .error .zeroTotalWeight else
  match hw : specs.find? (·.weight == 0) with
  | some spec => .error (.zeroWeight spec.symbol)
  | none =>
  match hm : specs.find? (·.multiplier == 0) with
  | some spec => .error (.zeroMultiplier spec.symbol)
  | none =>
  if hl : 2 ≤ specs.length then
    .ok {
      specs
      nodup := (SymbolSpec.firstRepeat?_eq_none.1 hr).1
      two_le_length := hl
      weight_ne_zero := ne_zero_of_find?_eq_none hw
      multiplier_ne_zero := ne_zero_of_find?_eq_none hm
      totalWeight_le := by
        obtain ⟨h, hle⟩ := Option.filter_eq_some_iff.1 ht
        rw [← SymbolSpec.toNat_of_wordWeight? h]
        simpa using hle }
  else .error (.tooFewSymbols specs.length)

/-- The built-in table. -/
def reference : SymbolTable where
  specs := [
    ⟨.cherry, 30, 2⟩, ⟨.lemon, 25, 3⟩, ⟨.orange, 20, 4⟩, ⟨.grape, 15, 5⟩, ⟨.star, 8, 10⟩,
    ⟨.diamond, 2, 20⟩]
  nodup := by decide
  two_le_length := by decide
  weight_ne_zero := by decide
  multiplier_ne_zero := by decide
  totalWeight_le := by decide

variable (t : SymbolTable)

def totalWeight : Nat := SymbolSpec.totalWeight t.specs

def symbols : List Symbol := t.specs.map (·.symbol)

def spec? (s : Symbol) : Option SymbolSpec := t.specs.find? (·.symbol == s)

def weight (s : Symbol) : Except SetupError UInt32 :=
  match t.spec? s with
  | some spec => .ok spec.weight
  | none => .error (.unknownSymbol s)

/-- What a symbol pays; a symbol that is not in the table pays the bet back. -/
def multiplier (s : Symbol) : UInt32 :=
  match t.spec? s with
  | some spec => spec.multiplier
  | none => 1

/-- The long-run return of the normal strategy as a share of the bets: the win probability times the
mean multiplier. -/
def expectedReturn (winProbability : Float) : Float :=
  let weighted := SymbolSpec.weightedMultiplier t.specs
  winProbability * weighted.toUInt64.toFloat / t.totalWeight.toUInt64.toFloat

/-- The symbols of the table other than `s`. -/
def others (s : Symbol) : List Symbol := t.symbols.filter (· != s)

theorem others_ne_nil (s : Symbol) : t.others s ≠ [] := by
  have hn := t.nodup
  have hl := t.two_le_length
  match hs : t.specs, hl with
  | a :: b :: rest, _ =>
    intro h
    rw [hs] at hn
    simp only [List.map_cons, List.nodup_cons, List.mem_cons, not_or] at hn
    simp only [others, symbols, hs, List.map_cons, List.filter_eq_nil_iff, List.mem_cons,
      forall_eq_or_imp, bne_iff_ne, Decidable.not_not] at h
    exact hn.1.1 (h.1.trans h.2.1.symm)

end SymbolTable

end SlotMachine
