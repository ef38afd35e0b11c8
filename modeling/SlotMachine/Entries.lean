/-!
# Entries by key

A list of keys with their values, in the order in which the keys came. Looking a key up after one
entry has been changed gives the changed value for that key and nothing new for any other.
-/

namespace SlotMachine

/-- Changes the entry of a key, which is added with `absent` if there is none. -/
def adjust {α β : Type} [DecidableEq α] (key : α) (absent : β) (f : β → β) :
    List (α × β) → List (α × β)
  | [] => [(key, f absent)]
  | (k, v) :: rest => if k = key then (k, f v) :: rest else (k, v) :: adjust key absent f rest

theorem lookup_adjust {α β : Type} [DecidableEq α] (key k : α) (absent : β) (f : β → β)
    (entries : List (α × β)) :
    (adjust key absent f entries).lookup k =
      if k = key then some (f ((entries.lookup key).getD absent)) else entries.lookup k := by
  induction entries with
  | nil =>
    by_cases h : k = key
    · simp [adjust, h]
    · have hk : (k == key) = false := by simpa using h
      simp [adjust, h, List.lookup_cons, hk]
  | cons e rest ih =>
    obtain ⟨k', v⟩ := e
    by_cases h' : k' = key
    · subst h'
      by_cases h : k = k'
      · simp [adjust, h]
      · have hk : (k == k') = false := by simpa using h
        simp [adjust, h, List.lookup_cons, hk]
    · by_cases h : k = key
      · subst h
        have hk : (k == k') = false := by simpa using fun hc : k = k' => h' hc.symm
        simp [adjust, h', List.lookup_cons, hk, ih]
      · simp only [adjust, h', if_false, List.lookup_cons, ih, h]

end SlotMachine
