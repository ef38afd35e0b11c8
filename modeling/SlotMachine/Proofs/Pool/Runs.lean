import Mathlib.Tactic.Common
import SlotMachine.Proofs.Spin.Outcome

/-!
# The runs of a pool

In the pool of a table the entries of a symbol stand next to each other: its run begins after the
weights of the symbols before it, and is as long as its own weight.
-/

namespace SlotMachine

lemma SymbolSpec.totalWeight_append (specs specs' : List SymbolSpec) :
    totalWeight (specs ++ specs') = totalWeight specs + totalWeight specs' := by
  induction specs with
  | nil => rw [totalWeight, List.nil_append, Nat.zero_add]
  | cons spec specs ih => rw [List.cons_append, totalWeight, totalWeight, ih, Nat.add_assoc]

namespace SymbolTable

lemma poolEntries_append (specs specs' : List SymbolSpec) :
    poolEntries (specs ++ specs') = poolEntries specs ++ poolEntries specs' :=
  List.flatMap_append

section

variable {before after : List SymbolSpec} {spec : SymbolSpec}

lemma poolEntries_append_cons : poolEntries (before ++ spec :: after) = poolEntries before ++
    (List.replicate spec.weight.toNat spec.symbol ++ poolEntries after) :=
  poolEntries_append before (spec :: after)

/-- A symbol is not among the entries of others. -/
lemma notMem_poolEntries (hnodup : ((before ++ spec :: after).map (·.symbol)).Nodup) :
    spec.symbol ∉ poolEntries before ∧ spec.symbol ∉ poolEntries after := by
  rw [List.map_append, List.map_cons, List.nodup_append] at hnodup
  obtain ⟨-, hafter, hbefore⟩ := hnodup
  exact ⟨fun h => hbefore _ (mem_poolEntries h) _ List.mem_cons_self rfl,
    fun h => (List.nodup_cons.1 hafter).1 (mem_poolEntries h)⟩

/-- The entries of a symbol that stands between others are between theirs. -/
lemma getElem?_poolEntries (hnodup : ((before ++ spec :: after).map (·.symbol)).Nodup) (i : Nat) :
    (poolEntries (before ++ spec :: after))[i]? = some spec.symbol ↔
      SymbolSpec.totalWeight before ≤ i ∧
        i < SymbolSpec.totalWeight before + spec.weight.toNat := by
  obtain ⟨hbefore, hafter⟩ := notMem_poolEntries hnodup
  rw [poolEntries_append_cons, ← length_poolEntries]
  by_cases hlow : i < (poolEntries before).length
  · rw [List.getElem?_append_left hlow]
    exact iff_of_false (fun h => hbefore (List.mem_of_getElem? h)) (by omega)
  · rw [List.getElem?_append_right (Nat.le_of_not_lt hlow)]
    by_cases hrun : i - (poolEntries before).length < spec.weight.toNat
    · rw [List.getElem?_append_left (by rwa [List.length_replicate]),
        List.getElem?_replicate_of_lt hrun]
      exact iff_of_true rfl (by omega)
    · rw [List.getElem?_append_right (by rw [List.length_replicate]; omega)]
      exact iff_of_false (fun h => hafter (List.mem_of_getElem? h)) (by omega)

/-- A symbol occurs as often as its weight says. -/
lemma count_poolEntries (hnodup : ((before ++ spec :: after).map (·.symbol)).Nodup) :
    (poolEntries (before ++ spec :: after)).count spec.symbol = spec.weight.toNat := by
  obtain ⟨hbefore, hafter⟩ := notMem_poolEntries hnodup
  rw [poolEntries_append_cons, List.count_append, List.count_append, List.count_replicate_self,
    List.count_eq_zero.2 hbefore, List.count_eq_zero.2 hafter, Nat.zero_add, Nat.add_zero]

end

variable (t : SymbolTable)

lemma weight_pos {spec : SymbolSpec} (h : spec ∈ t.specs) : 0 < spec.weight.toNat :=
  Nat.pos_of_ne_zero fun h0 => t.weight_ne_zero spec h (UInt32.toNat_inj.1 h0)

lemma size_pool : t.pool.entries.size = t.totalWeight := by
  rw [pool, List.size_toArray, length_poolEntries, totalWeight]

/-- The run of a symbol in the pool. -/
lemma exists_run {spec : SymbolSpec} (h : spec ∈ t.specs) :
    ∃ start, start + spec.weight.toNat ≤ t.totalWeight ∧
      ∀ i, t.pool.entries[i]? = some spec.symbol ↔
        start ≤ i ∧ i < start + spec.weight.toNat := by
  obtain ⟨before, after, hspecs⟩ := List.append_of_mem h
  have hnodup := t.nodup
  rw [hspecs] at hnodup
  refine ⟨SymbolSpec.totalWeight before, ?_, fun i => ?_⟩
  · rw [totalWeight, hspecs, SymbolSpec.totalWeight_append, SymbolSpec.totalWeight]
    omega
  · simp only [pool, hspecs, List.getElem?_toArray, getElem?_poolEntries hnodup]

end SymbolTable

end SlotMachine
