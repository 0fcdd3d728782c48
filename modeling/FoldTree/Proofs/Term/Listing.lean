import FoldTree.Proofs.Term.Occurrences
import Mathlib.Data.List.Induction

/-! Multisets that are collected from lists. Each term is listed where it came in first, with the
number of its occurrences.
-/

namespace FoldTree.Terms

/-- Adding occurrences to entries with given counts raises one of the counts, or adds an entry at the
end, by induction on the terms.
-/
theorem addTo_map (term : String) (n : Nat) {terms : List String} (once : terms.Nodup)
    (count : String → Nat)
    : addTo term n (terms.map fun other => (other, count other))
      = (terms.map fun other => (other, count other + if other = term then n else 0))
        ++ if term ∈ terms then [] else [(term, n)] := by
  induction terms with
  | nil => rfl
  | cons first rest ih =>
      obtain ⟨fresh, once⟩ := List.nodup_cons.mp once
      by_cases here : first = term
      · subst here
        have others : (rest.map fun other => (other, count other + if other = first then n else 0))
            = rest.map fun other => (other, count other) :=
          List.map_congr_left fun other member => by
            have differ : other ≠ first := fun same => fresh (same ▸ member)
            rw [if_neg differ, Nat.add_zero]
        simp [addTo, others]
      · have later := ih once
        simp only [List.map_cons, addTo, if_neg here, later, List.mem_cons, Ne.symm here, false_or,
          Nat.add_zero, List.cons_append]

section

variable {α : Type} [BEq α] [LawfulBEq α]

/-- A last item stays among those without repetition unless it came before. -/
theorem eraseDups_concat (items : List α) (item : α) [Decidable (item ∈ items)]
    : (items ++ [item]).eraseDups = items.eraseDups ++ if item ∈ items then [] else [item] := by
  rw [List.eraseDups_append]
  by_cases known : item ∈ items <;> simp [List.removeAll, known, List.eraseDups_cons]

/-- Without repetition no item is there twice, by induction on the list from its end. -/
theorem nodup_eraseDups (items : List α) : items.eraseDups.Nodup := by
  classical
  induction items using List.reverseRecOn with
  | nil => exact .nil
  | append_singleton items item ih =>
      rw [eraseDups_concat]
      by_cases known : item ∈ items
      · rwa [if_pos known, List.append_nil]
      · rw [if_neg known]
        refine ih.append (List.nodup_singleton item) fun other member same => ?_
        rw [List.mem_singleton.mp same, List.mem_eraseDups] at member
        exact known member

/-- There are as many items without repetition as with it just if none is there twice, by induction
on the list from its end.
-/
theorem length_eraseDups (items : List α)
    : items.eraseDups.length ≤ items.length
      ∧ (items.eraseDups.length = items.length ↔ items.Nodup) := by
  classical
  induction items using List.reverseRecOn with
  | nil => simp
  | append_singleton items item ih =>
      rw [eraseDups_concat, List.length_append, List.length_append, List.nodup_append]
      by_cases known : item ∈ items
      · simp only [if_pos known, List.length_nil, List.length_singleton, Nat.add_zero]
        refine ⟨by omega, iff_of_false (by omega) fun apart => ?_⟩
        exact apart.2.2 item known item List.mem_cons_self rfl
      · simp only [if_neg known, List.length_singleton, Nat.add_left_inj, ih.2]
        refine ⟨by omega, fun once => ⟨once, List.nodup_singleton item, ?_⟩, And.left⟩
        rintro other member _ (_ | ⟨_, ⟨⟩⟩) rfl
        exact known member

end

/-- The terms of a list are collected in the order in which they come first, each with the number of
its occurrences. Witness: induction on the list from its end.
-/
theorem entries_addAll (terms : List String)
    : (empty.addAll terms).entries = terms.eraseDups.map fun term => (term, terms.count term) := by
  induction terms using List.reverseRecOn with
  | nil => rfl
  | append_singleton terms term ih =>
      have step : (empty.addAll (terms ++ [term])).entries
          = addTo term 1 (empty.addAll terms).entries := by
        simp only [addAll, List.foldl_append, List.foldl_cons, List.foldl_nil, add]
      have counts (other : String)
          : (terms ++ [term]).count other = terms.count other + if other = term then 1 else 0 := by
        rw [List.count_append, List.count_singleton]
        by_cases same : other = term
        · simp [same]
        · simp [same, Ne.symm same]
      -- the last term raises its count, or is listed behind all others
      rw [step, ih, addTo_map term 1 (nodup_eraseDups terms), eraseDups_concat, List.map_append]
      simp only [counts, List.mem_eraseDups]
      refine congrArg _ ?_
      by_cases known : term ∈ terms
      · simp [known]
      · simp [known, List.count_eq_zero_of_not_mem known]

/-- A term that comes in is one occurrence more. -/
theorem toMultiset_add (terms : Terms) (term : String)
    : (terms.add term).toMultiset = term ::ₘ terms.toMultiset := by
  ext other
  rw [Multiset.count_cons, count_toMultiset, count_toMultiset]
  exact countIn_addTo term other 1 terms.entries

/-- Collecting the terms of a list adds its occurrences, by induction on the list. -/
theorem toMultiset_addAll (terms : Terms) (more : List String)
    : (terms.addAll more).toMultiset = terms.toMultiset + more := by
  induction more generalizing terms with
  | nil => simp [addAll]
  | cons term rest ih =>
      have later : (terms.addAll (term :: rest)).toMultiset = ((terms.add term).addAll rest).toMultiset :=
        rfl
      rw [later, ih, toMultiset_add, ← Multiset.cons_coe, Multiset.cons_add, Multiset.add_cons]

/-- What is collected from several lists has the occurrences of all of them, by induction. -/
theorem sum_addAll {α : Type} (f : α → List String) (items : List α)
    : (items.map fun item => (empty.addAll (f item)).toMultiset).sum
      = (items.flatMap f : Multiset String) := by
  induction items with
  | nil => rfl
  | cons item rest ih =>
      rw [List.map_cons, List.sum_cons, ih, toMultiset_addAll, toMultiset_empty, zero_add,
        List.flatMap_cons, Multiset.coe_add]

end FoldTree.Terms
