import Mathlib.Data.List.Nodup

/-! Lists of entries that have a value under a key. A key that is given once is looked up wherever it
stands.
-/

namespace FoldTree.Entries

variable {α β γ : Type} [DecidableEq α] {entries : List (α × β)} {key : α}

/-- An entry is looked up by its key where no other entry has it, by induction on the entries. -/
theorem lookup_of_mem (once : (entries.map Prod.fst).Nodup) {entry : α × β}
    (member : entry ∈ entries)
    : entries.lookup entry.1 = some entry.2 := by
  induction entries with
  | nil => exact absurd member List.not_mem_nil
  | cons first rest ih =>
      obtain ⟨fresh, once⟩ := List.nodup_cons.mp once
      rcases List.mem_cons.mp member with rfl | member
      · exact List.lookup_cons_self
      · have other : entry.1 ≠ first.1 := fun same =>
          fresh (same ▸ List.mem_map_of_mem member)
        rw [List.lookup_cons, beq_false_of_ne other]
        exact ih once member

/-- What is looked up stands in the list. -/
theorem mem_of_lookup {value : β} (found : entries.lookup key = some value)
    : (key, value) ∈ entries := by
  obtain ⟨before, after, rfl, -⟩ := List.lookup_eq_some_iff.mp found
  simp

/-- Where no key is given twice, what is looked up is what stands in the list. -/
theorem lookup_eq_some_iff (once : (entries.map Prod.fst).Nodup) {value : β}
    : entries.lookup key = some value ↔ (key, value) ∈ entries :=
  ⟨mem_of_lookup, fun member => lookup_of_mem once member⟩

/-- The order of entries does not matter where no key is given twice. -/
theorem lookup_reverse (once : (entries.map Prod.fst).Nodup)
    : entries.reverse.lookup key = entries.lookup key := by
  have turned : (entries.reverse.map Prod.fst).Nodup := by
    rw [List.map_reverse]
    exact List.nodup_reverse.mpr once
  refine Option.ext fun value => ?_
  rw [lookup_eq_some_iff turned, lookup_eq_some_iff once, List.mem_reverse]

/-- Looking up a value that is changed, by induction on the entries. -/
theorem lookup_map (change : β → γ)
    : (entries.map fun entry => (entry.1, change entry.2)).lookup key
      = (entries.lookup key).map change := by
  induction entries with
  | nil => rfl
  | cons first rest ih =>
      rw [List.map_cons, List.lookup_cons, List.lookup_cons, ih]
      split <;> rfl

end FoldTree.Entries
