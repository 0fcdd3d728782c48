import FoldTree.Term.Bag
import Mathlib.Algebra.BigOperators.Group.Multiset.Basic
import Mathlib.Data.Multiset.Filter
import Mathlib.Data.Multiset.Replicate

/-! Terms as multisets. Sums count as sums of multisets do, and taking away what was added last
gives back the very entries from before, in their order.
-/

namespace FoldTree.Terms

/-- A term occurs as often as its entry says, and not at all without one, by induction. -/
theorem countIn_eq_zero {term : String} {entries : List (String × Nat)}
    (absent : term ∉ entries.map Prod.fst)
    : countIn term entries = 0 := by
  induction entries with
  | nil => rfl
  | cons entry rest ih =>
      simp only [List.map_cons, List.mem_cons, not_or] at absent
      simp only [countIn, Ne.symm absent.1, if_false, ih absent.2]

/-- Adding occurrences of a term raises its count and no other, by induction on the entries. -/
theorem countIn_addTo (term other : String) (n : Nat) (entries : List (String × Nat))
    : countIn other (addTo term n entries)
      = countIn other entries + if other = term then n else 0 := by
  induction entries with
  | nil =>
      by_cases same : term = other
      · simp [addTo, countIn, same]
      · simp [addTo, countIn, same, Ne.symm same]
  | cons entry rest ih =>
      by_cases here : entry.1 = term
      · by_cases same : entry.1 = other
        · simp [addTo, countIn, here, ← same]
        · have differ : ¬other = term := fun h => same (here.trans h.symm)
          simp [addTo, countIn, here, differ, Ne.symm differ]
      · by_cases same : entry.1 = other
        · have differ : ¬other = term := fun h => here (same.trans h)
          simp [addTo, countIn, same, differ]
        · simp only [addTo, here, if_false, countIn, same, ih]

/-- Adding entries adds their counts, where they list each term once. -/
theorem countIn_addEntries (term : String) {more : List (String × Nat)} (listed : Listed more)
    (entries : List (String × Nat))
    : countIn term (addEntries more entries) = countIn term entries + countIn term more := by
  induction more generalizing entries with
  | nil => rfl
  | cons entry rest ih =>
      obtain ⟨fresh, nodup⟩ := List.nodup_cons.mp listed.nodup
      have later := ih
        ⟨nodup, fun other member => listed.positive other (List.mem_cons_of_mem _ member)⟩
        (addTo entry.1 entry.2 entries)
      have unfolded : addEntries (entry :: rest) entries
          = addEntries rest (addTo entry.1 entry.2 entries) := rfl
      rw [unfolded, later, countIn_addTo]
      by_cases same : term = entry.1
      · subst same
        simp [countIn, countIn_eq_zero fresh]
      · simp [countIn, same, Ne.symm same]

/-- Adding occurrences of a term and removing them again changes nothing where every entry
counts something, by induction on the entries.
-/
theorem removeFrom_addTo (term : String) (n : Nat) {entries : List (String × Nat)}
    (positive : ∀ entry ∈ entries, 0 < entry.2)
    : removeFrom term n (addTo term n entries) = entries := by
  induction entries with
  | nil => simp [addTo, removeFrom]
  | cons entry rest ih =>
      have head := positive entry List.mem_cons_self
      by_cases here : entry.1 = term
      · subst here
        simp [addTo, removeFrom, head]
      · simp only [addTo, here, if_false, removeFrom]
        rw [ih fun other member => positive other (List.mem_cons_of_mem _ member)]

/-- Changes to the counts of two different terms may change places. A term that comes in new goes
to the end, and the other's entry never stands there for it.
-/
theorem removeFrom_addTo_comm {term other : String} (differ : term ≠ other) (n m : Nat)
    (entries : List (String × Nat))
    : removeFrom term n (addTo other m entries) = addTo other m (removeFrom term n entries) := by
  induction entries with
  | nil => simp [addTo, removeFrom, Ne.symm differ]
  | cons entry rest ih =>
      by_cases here : entry.1 = term
      · have apart : ¬entry.1 = other := fun h => differ (here.symm.trans h)
        by_cases more : n < entry.2
        · simp [addTo, removeFrom, here, differ, more]
        · simp [addTo, removeFrom, here, differ, more]
      · by_cases there : entry.1 = other
        · simp [addTo, removeFrom, there, Ne.symm differ]
        · simp only [addTo, removeFrom, here, there, if_false, ih]

/-- The same for a term and entries that do not list it, by induction on those. -/
theorem removeFrom_addEntries_comm {term : String} {more : List (String × Nat)}
    (fresh : term ∉ more.map Prod.fst) (n : Nat) (entries : List (String × Nat))
    : removeFrom term n (addEntries more entries)
      = addEntries more (removeFrom term n entries) := by
  induction more generalizing entries with
  | nil => rfl
  | cons entry rest ih =>
      simp only [List.map_cons, List.mem_cons, not_or] at fresh
      have later := ih fresh.2 (addTo entry.1 entry.2 entries)
      rw [removeFrom_addTo_comm fresh.1] at later
      exact later

/-- Entries that were added are taken out again without a trace. Witness: the first entry added
is the first removed, and it passes all that were added after it.
-/
theorem removeEntries_addEntries {more entries : List (String × Nat)}
    (nodup : (more.map Prod.fst).Nodup) (positive : ∀ entry ∈ entries, 0 < entry.2)
    : removeEntries more (addEntries more entries) = entries := by
  induction more generalizing entries with
  | nil => rfl
  | cons entry rest ih =>
      obtain ⟨fresh, nodup⟩ := List.nodup_cons.mp nodup
      calc removeEntries (entry :: rest) (addEntries (entry :: rest) entries)
          = removeEntries rest (removeFrom entry.1 entry.2
              (addEntries rest (addTo entry.1 entry.2 entries))) := rfl
        _ = removeEntries rest (addEntries rest entries) := by
              rw [removeFrom_addEntries_comm fresh, removeFrom_addTo _ _ positive]
        _ = entries := ih nodup positive

/-- A sum counts what both multisets count. -/
@[simp]
theorem count_plus (terms more : Terms) (term : String)
    : (terms.plus more).count term = terms.count term + more.count term :=
  countIn_addEntries term more.listed terms.entries

/-- Taking away what was added last restores a multiset with the order of its terms. -/
@[simp]
theorem minus_plus (terms more : Terms) : (terms.plus more).minus more = terms :=
  ext (removeEntries_addEntries more.listed.nodup terms.listed.positive)

/-- The occurrences of the terms that some entries list, without their order. -/
def occurrences (entries : List (String × Nat)) : Multiset String :=
  (entries.map fun entry => Multiset.replicate entry.2 entry.1).sum

/-- All occurrences of a multiset's terms, without the order of the terms. -/
def toMultiset (terms : Terms) : Multiset String :=
  occurrences terms.entries

/-- Occurrences are counted by the entries that list their terms, by induction. -/
theorem count_occurrences (term : String) {entries : List (String × Nat)}
    (nodup : (entries.map Prod.fst).Nodup)
    : (occurrences entries).count term = countIn term entries := by
  induction entries with
  | nil => rfl
  | cons entry rest ih =>
      obtain ⟨fresh, nodup⟩ := List.nodup_cons.mp nodup
      have later := ih nodup
      simp only [occurrences, List.map_cons, List.sum_cons, Multiset.count_add,
        Multiset.count_replicate] at later ⊢
      by_cases same : entry.1 = term
      · rw [later, countIn_eq_zero (same ▸ fresh)]
        simp [countIn, same]
      · simp [countIn, same, later]

/-- A multiset's count of a term is the number of its occurrences. -/
theorem count_toMultiset (terms : Terms) (term : String)
    : terms.toMultiset.count term = terms.count term :=
  count_occurrences term terms.listed.nodup

/-- The terms that entries list occur, where every entry counts something, by induction. -/
theorem mem_occurrences (term : String) {entries : List (String × Nat)}
    (positive : ∀ entry ∈ entries, 0 < entry.2)
    : term ∈ occurrences entries ↔ term ∈ entries.map Prod.fst := by
  induction entries with
  | nil => simp [occurrences]
  | cons entry rest ih =>
      have later := ih fun other member => positive other (List.mem_cons_of_mem _ member)
      have head := Nat.ne_of_gt (positive entry List.mem_cons_self)
      simp only [occurrences, List.map_cons, List.sum_cons, Multiset.mem_add,
        Multiset.mem_replicate, List.mem_cons] at later ⊢
      rw [later]
      simp [head]

/-- A multiset lists the terms that occur in it. -/
theorem contains_iff_mem (terms : Terms) (term : String)
    : terms.contains term = true ↔ term ∈ terms.toMultiset := by
  rw [toMultiset, mem_occurrences term terms.listed.positive]
  simp [contains]

/-- No terms have no occurrences. -/
@[simp]
theorem toMultiset_empty : empty.toMultiset = 0 := rfl

/-- The occurrences of a sum are the sum of the occurrences. -/
@[simp]
theorem toMultiset_plus (terms more : Terms)
    : (terms.plus more).toMultiset = terms.toMultiset + more.toMultiset := by
  ext term
  simp only [Multiset.count_add, count_toMultiset, count_plus]

/-! ### Terms that are left over -/

/-- Entries of terms that pass a test count these terms as before and no others, by induction on the
entries.
-/
theorem countIn_filter (test : String → Bool) (term : String) (entries : List (String × Nat))
    : countIn term (entries.filter fun entry => test entry.1)
      = if test term then countIn term entries else 0 := by
  induction entries with
  | nil => simp [countIn]
  | cons entry rest ih =>
      by_cases same : entry.1 = term
      · cases passes : test term <;> simp [countIn, same, passes, ih]
      · cases kept : test entry.1 <;> simp [countIn, same, kept, ih]

/-- What is left without other terms are the terms that these are not. -/
theorem contains_without (terms other : Terms) (term : String)
    : (terms.without other).contains term = (terms.contains term && !other.contains term) := by
  rw [Bool.eq_iff_iff, Bool.and_eq_true]
  simp only [contains, without, List.any_filter, List.any_eq_true, Bool.and_eq_true, beq_iff_eq]
  constructor
  · rintro ⟨entry, member, absent, rfl⟩
    exact ⟨⟨entry, member, rfl⟩, absent⟩
  · rintro ⟨⟨entry, member, rfl⟩, absent⟩
    exact ⟨entry, member, absent, rfl⟩

/-- What is left without other terms counts as before, and these terms count nothing. -/
theorem count_without (terms other : Terms) (term : String)
    : (terms.without other).count term
      = if other.contains term then 0 else terms.count term := by
  rw [count, without, countIn_filter fun term => !other.contains term]
  cases other.contains term <;> rfl

/-- What is left without other terms are all occurrences of the terms that these are not. -/
theorem toMultiset_without (terms other : Terms)
    : (terms.without other).toMultiset
      = terms.toMultiset.filter fun term => term ∉ other.toMultiset := by
  ext term
  rw [count_toMultiset, count_without, Multiset.count_filter, count_toMultiset]
  simp only [← contains_iff_mem, ite_not]

end FoldTree.Terms
