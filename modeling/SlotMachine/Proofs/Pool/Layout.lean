import Mathlib.Data.List.Nodup
import Mathlib.Data.List.SplitBy
import SlotMachine.Proofs.Pool.Runs

/-!
# The layout of a pool

Which entry stands where. The entries of a pool fall into runs of equal neighbours, one for each
entry of the table and in the order of the table. So the place of an entry tells the symbol by the
weights before it, and the table can be read off its pool, but for what the symbols pay.
-/

namespace SlotMachine

namespace SymbolTable

variable (t : SymbolTable)

/-- The weight of the first `k` entries of a table. -/
def weightBefore (k : Nat) : Nat := SymbolSpec.totalWeight (t.specs.take k)

/-- Whether a place of the pool is within the run of the entry `k` of the table. -/
def InRun (k place : Nat) : Prop := t.weightBefore k ≤ place ∧ place < t.weightBefore (k + 1)

variable {t}

lemma specs_eq_append (k : Fin t.specs.length) :
    t.specs = t.specs.take k ++ t.specs[k] :: t.specs.drop (k + 1) := by
  rw [Fin.getElem_fin, List.getElem_cons_drop, List.take_append_drop]

lemma weightBefore_succ (k : Fin t.specs.length) :
    t.weightBefore (k + 1) = t.weightBefore k + t.specs[k].weight.toNat := by
  rw [weightBefore, List.take_succ_eq_append_getElem k.isLt, SymbolSpec.totalWeight_append]
  rfl

lemma symbol_injective {j k : Fin t.specs.length} (h : t.specs[j].symbol = t.specs[k].symbol) :
    j = k := by
  have hspec : t.specs[j] = t.specs[k] :=
    List.inj_on_of_nodup_map t.nodup (List.getElem_mem _) (List.getElem_mem _) h
  exact Fin.ext ((List.Nodup.getElem_inj_iff (List.Nodup.of_map _ t.nodup)).1 hspec)

/-- The entries of a symbol are those of its run. -/
lemma getElem?_pool (k : Fin t.specs.length) (place : Nat) :
    t.pool.entries[place]? = some t.specs[k].symbol ↔ t.InRun k place := by
  have hnodup := t.nodup
  rw [specs_eq_append k] at hnodup
  rw [InRun, weightBefore_succ, weightBefore, ← getElem?_poolEntries hnodup, ← specs_eq_append,
    pool, List.getElem?_toArray]

lemma toList_pool : t.pool.entries.toList = poolEntries t.specs := rfl

lemma count_pool (k : Fin t.specs.length) :
    t.pool.entries.toList.count t.specs[k].symbol = t.specs[k].weight.toNat := by
  have hnodup := t.nodup
  rw [specs_eq_append k] at hnodup
  rw [toList_pool, ← count_poolEntries hnodup, ← specs_eq_append]

/-- Every place belongs to one run, and has its symbol. -/
lemma exists_inRun (i : Nat) : ∃ k : Fin t.specs.length,
    (∀ j : Fin t.specs.length, t.InRun j (i % t.totalWeight) ↔ j = k) ∧
      t.pool.entryAt i = t.specs[k].symbol := by
  have hentry : t.pool.entries[i % t.totalWeight]? = some (t.pool.entryAt i) := by
    rw [← t.size_pool]
    exact Array.getElem?_eq_getElem _
  have hmem : t.pool.entryAt i ∈ t.specs.map (·.symbol) :=
    mem_symbols_of_mem_pool (t.pool.entryAt_mem i)
  obtain ⟨spec, hspec, hsymbol⟩ := List.mem_map.1 hmem
  obtain ⟨k, hk, rfl⟩ := List.getElem_of_mem hspec
  refine ⟨⟨k, hk⟩, fun j => ?_, hsymbol.symm⟩
  rw [← getElem?_pool, hentry, Option.some.injEq, ← hsymbol]
  constructor
  · intro h
    exact symbol_injective h.symm
  · rintro rfl
    rfl

/-! ### Reading a table off its pool -/

/-- The runs of equal neighbours are the symbols of the table, each as often as its weight says. -/
lemma splitBy_pool : t.pool.entries.toList.splitBy (· == ·) =
    t.specs.map fun spec => List.replicate spec.weight.toNat spec.symbol := by
  rw [toList_pool, poolEntries, List.flatMap_def]
  apply List.splitBy_flatten
  · intro hnil
    obtain ⟨spec, hspec, hrun⟩ := List.mem_map.1 hnil
    have hweight := t.weight_pos hspec
    rw [(List.replicate_eq_nil_iff _).1 hrun] at hweight
    exact absurd hweight (Nat.lt_irrefl 0)
  · intro run hrun
    obtain ⟨spec, -, rfl⟩ := List.mem_map.1 hrun
    exact List.isChain_replicate_of_rel _ (beq_self_eq_true _)
  · have hsymbols : t.specs.Pairwise fun a b => a.symbol ≠ b.symbol :=
      List.pairwise_map.1 t.nodup
    refine (List.isChain_map _).2 (hsymbols.imp_of_mem fun {a b} ha hb hne => ?_).isChain
    have hnonempty {spec : SymbolSpec} (h : spec ∈ t.specs) :
        List.replicate spec.weight.toNat spec.symbol ≠ [] :=
      mt (List.replicate_eq_nil_iff _).1 (t.weight_pos h).ne'
    refine ⟨hnonempty ha, hnonempty hb, ?_⟩
    rw [List.getLast_replicate, List.head_replicate]
    exact beq_false_of_ne hne

/-- What a pool tells about an entry of its table. -/
def share (spec : SymbolSpec) : Symbol × Nat := (spec.symbol, spec.weight.toNat)

/-- A run that is not empty tells its symbol and its weight. -/
lemma shares_eq : (t.pool.entries.toList.splitBy (· == ·)).filterMap
      (fun run => run.head?.map (·, run.length)) = t.specs.map share := by
  rw [splitBy_pool, List.filterMap_map]
  refine List.filterMap_eq_map_iff_forall_eq_some.2 fun spec hspec => ?_
  simp [share, List.head?_replicate, (t.weight_pos hspec).ne']

lemma poolEntries_eq (specs : List SymbolSpec) :
    poolEntries specs = (specs.map share).flatMap fun share => List.replicate share.2 share.1 := by
  rw [List.flatMap_map]
  rfl

/-- Two tables have the same pool if they differ in nothing but what their symbols pay. -/
lemma pool_eq_iff {t' : SymbolTable} :
    t'.pool = t.pool ↔ t'.specs.map share = t.specs.map share := by
  constructor
  · intro h
    rw [← shares_eq, h, shares_eq]
  · intro h
    simp only [pool, poolEntries_eq, h]

/-! ### The main result -/

/-- A pool has as many entries as its table has weight. Its runs of equal neighbours are the symbols
of the table in their order, each as often as its weight says, and no symbol occurs anywhere else.
Whatever the index is, counted round and round it falls into the run of exactly one entry of the
table, and its symbol is the one that is found there. So tables with the same pool have the same
symbols with the same weights in the same order. -/
theorem pool_laidOut (t : SymbolTable) :
    t.pool.size = t.totalWeight ∧
    t.pool.entries.toList.splitBy (· == ·) =
      t.specs.map (fun spec => List.replicate spec.weight.toNat spec.symbol) ∧
    (∀ k : Fin t.specs.length,
      t.pool.entries.toList.count t.specs[k].symbol = t.specs[k].weight.toNat ∧
      ∀ place, t.pool.entries[place]? = some t.specs[k].symbol ↔ t.InRun k place) ∧
    (∀ i, ∃ k : Fin t.specs.length,
      (∀ j : Fin t.specs.length, t.InRun j (i % t.totalWeight) ↔ j = k) ∧
        t.pool.entryAt i = t.specs[k].symbol) ∧
    ∀ t' : SymbolTable, t'.pool = t.pool ↔
      t'.specs.map (fun spec => (spec.symbol, spec.weight.toNat)) =
        t.specs.map (fun spec => (spec.symbol, spec.weight.toNat)) :=
  ⟨t.size_pool, splitBy_pool, fun k => ⟨count_pool k, getElem?_pool k⟩, exists_inRun,
    fun _ => pool_eq_iff⟩

/-- The first run of the built-in table is thirty cherries long, and its pool starts again after a
hundred entries. -/
example : [0, 29, 30, 99, 100].map reference.pool.entryAt =
    [.cherry, .cherry, .lemon, .diamond, .cherry] := by
  decide

end SymbolTable

end SlotMachine
