/-! Multisets of terms that remember the order in which their terms came in. A term is listed once,
with how often it occurs; a term that is removed and added again goes to the end.
-/

namespace FoldTree

namespace Terms

/-- How often a term occurs in a list of entries. -/
def countIn (term : String) : List (String × Nat) → Nat
  | [] => 0
  | (other, n) :: rest => if other = term then n else countIn term rest

/-- Adds occurrences of a term to a list of entries, at its place or else at the end. -/
def addTo (term : String) (n : Nat) : List (String × Nat) → List (String × Nat)
  | [] => [(term, n)]
  | (other, m) :: rest =>
    if other = term then (other, m + n) :: rest else (other, m) :: addTo term n rest

/-- Takes occurrences of a term out of a list of entries; with the last of them goes the entry. -/
def removeFrom (term : String) (n : Nat) : List (String × Nat) → List (String × Nat)
  | [] => []
  | (other, m) :: rest =>
    if other = term then if n < m then (other, m - n) :: rest else rest
    else (other, m) :: removeFrom term n rest

/-- Adds the occurrences that a list of entries counts to another list, entry by entry. -/
def addEntries (more entries : List (String × Nat)) : List (String × Nat) :=
  more.foldl (fun entries entry => addTo entry.1 entry.2 entries) entries

/-- Takes the occurrences that a list of entries counts out of another list, entry by entry. -/
def removeEntries (fewer entries : List (String × Nat)) : List (String × Nat) :=
  fewer.foldl (fun entries entry => removeFrom entry.1 entry.2 entries) entries

/-- The entries list each term once, and no term that does not occur. -/
structure Listed (entries : List (String × Nat)) : Prop where
  nodup : (entries.map Prod.fst).Nodup
  positive : ∀ entry ∈ entries, 0 < entry.2

/-- Adding occurrences brings in no other term, by induction on the entries. -/
theorem fst_mem_addTo {term : String} {n : Nat} {entries : List (String × Nat)} {other : String}
    (member : other ∈ (addTo term n entries).map Prod.fst)
    : other = term ∨ other ∈ entries.map Prod.fst := by
  induction entries with
  | nil => exact Or.inl (by simpa [addTo] using member)
  | cons entry rest ih =>
      by_cases same : entry.1 = term
      · exact Or.inr (by simpa [addTo, same] using member)
      · simp only [addTo, same, if_false, List.map_cons, List.mem_cons] at member ⊢
        rcases member with head | tail
        · exact Or.inr (Or.inl head)
        · exact (ih tail).imp_right Or.inr

/-- Removing occurrences leaves a sublist of the terms, by induction on the entries. -/
theorem removeFrom_fst_sublist (term : String) (n : Nat) (entries : List (String × Nat))
    : ((removeFrom term n entries).map Prod.fst).Sublist (entries.map Prod.fst) := by
  induction entries with
  | nil => exact .slnil
  | cons entry rest ih =>
      simp only [removeFrom]
      split
      · split
        · exact .refl _
        · exact .cons _ (.refl _)
      · exact ih.cons_cons _

namespace Listed

/-- Entries stay listed when occurrences are added, by induction on the entries. -/
theorem addTo {entries : List (String × Nat)} (h : Listed entries) (term : String) {n : Nat}
    (positive : 0 < n)
    : Listed (addTo term n entries) := by
  induction entries with
  | nil =>
      exact ⟨by simp [Terms.addTo], by simpa [Terms.addTo] using positive⟩
  | cons entry rest ih =>
      obtain ⟨fresh, nodup⟩ := List.nodup_cons.mp h.nodup
      have below := ih ⟨nodup, fun other member => h.positive other (List.mem_cons_of_mem _ member)⟩
      have head := h.positive entry List.mem_cons_self
      by_cases same : entry.1 = term
      · constructor
        · simpa [Terms.addTo, same] using h.nodup
        · intro other member
          simp only [Terms.addTo, same, if_true, List.mem_cons] at member
          rcases member with rfl | member
          · exact Nat.add_pos_left head n
          · exact h.positive other (List.mem_cons_of_mem _ member)
      · constructor
        · simp only [Terms.addTo, same, if_false, List.map_cons, List.nodup_cons]
          exact ⟨fun member => (fst_mem_addTo member).elim same fresh, below.nodup⟩
        · intro other member
          simp only [Terms.addTo, same, if_false, List.mem_cons] at member
          rcases member with rfl | member
          · exact head
          · exact below.positive other member

/-- Entries stay listed when occurrences are removed, by induction on the entries. -/
theorem removeFrom {entries : List (String × Nat)} (h : Listed entries) (term : String) (n : Nat)
    : Listed (removeFrom term n entries) := by
  refine ⟨(removeFrom_fst_sublist term n entries).nodup h.nodup, ?_⟩
  induction entries with
  | nil => simp [Terms.removeFrom]
  | cons entry rest ih =>
      have below := ih
        ⟨(List.nodup_cons.mp h.nodup).2,
          fun other member => h.positive other (List.mem_cons_of_mem _ member)⟩
      have head := h.positive entry List.mem_cons_self
      intro other member
      simp only [Terms.removeFrom] at member
      split at member
      · split at member
        · rcases List.mem_cons.mp member with rfl | member
          · simp only; omega
          · exact h.positive other (List.mem_cons_of_mem _ member)
        · exact h.positive other (List.mem_cons_of_mem _ member)
      · rcases List.mem_cons.mp member with rfl | member
        · exact head
        · exact below other member

/-- Entries stay listed when other entries are added, by induction on those. -/
theorem addEntries {entries more : List (String × Nat)} (h : Listed entries)
    (positive : ∀ entry ∈ more, 0 < entry.2)
    : Listed (addEntries more entries) := by
  induction more generalizing entries with
  | nil => exact h
  | cons entry rest ih =>
      exact ih (h.addTo entry.1 (positive entry List.mem_cons_self))
        (fun other member => positive other (List.mem_cons_of_mem _ member))

/-- Entries stay listed when other entries are removed, by induction on those. -/
theorem removeEntries {entries : List (String × Nat)} (h : Listed entries)
    (fewer : List (String × Nat))
    : Listed (removeEntries fewer entries) := by
  induction fewer generalizing entries with
  | nil => exact h
  | cons entry rest ih => exact ih (h.removeFrom entry.1 entry.2)

/-- Any part of some listed entries is listed. -/
theorem filter {entries : List (String × Nat)} (h : Listed entries) (p : String × Nat → Bool)
    : Listed (entries.filter p) :=
  ⟨(List.filter_sublist.map Prod.fst).nodup h.nodup,
    fun entry member => h.positive entry (List.mem_filter.mp member).1⟩

end Listed

end Terms

/-- Terms with their counts, in the order in which each was last introduced. -/
structure Terms where
  entries : List (String × Nat)
  listed : Terms.Listed entries
deriving Repr

namespace Terms

/-- No term at all. -/
def empty : Terms := ⟨[], ⟨.nil, by simp⟩⟩

/-- Whether no term is listed. -/
def isEmpty (terms : Terms) : Bool :=
  terms.entries.isEmpty

/-- How often a term occurs. -/
def count (terms : Terms) (term : String) : Nat :=
  countIn term terms.entries

/-- Whether a term is listed. -/
def contains (terms : Terms) (term : String) : Bool :=
  terms.entries.any fun entry => entry.1 == term

/-- One more occurrence of a term. -/
def add (terms : Terms) (term : String) : Terms :=
  ⟨addTo term 1 terms.entries, terms.listed.addTo term Nat.one_pos⟩

/-- One more occurrence of each listed term. -/
def addAll (terms : Terms) (listed : List String) : Terms :=
  listed.foldl add terms

/-- One occurrence fewer of a term; nothing happens to a term that is absent. -/
def remove (terms : Terms) (term : String) : Terms :=
  ⟨removeFrom term 1 terms.entries, terms.listed.removeFrom term 1⟩

/-- One occurrence fewer of each listed term. -/
def removeAll (terms : Terms) (listed : List String) : Terms :=
  listed.foldl remove terms

/-- The sum of two multisets. -/
def plus (terms more : Terms) : Terms :=
  ⟨addEntries more.entries terms.entries, terms.listed.addEntries more.listed.positive⟩

/-- What is left of a multiset when another is taken away. -/
def minus (terms fewer : Terms) : Terms :=
  ⟨removeEntries fewer.entries terms.entries, terms.listed.removeEntries fewer.entries⟩

/-- The terms that another multiset does not list, with their counts. -/
def without (terms other : Terms) : Terms :=
  ⟨terms.entries.filter fun entry => !other.contains entry.1, terms.listed.filter _⟩

/-- The number of all occurrences. -/
def total (terms : Terms) : Nat :=
  terms.entries.foldl (fun count entry => count + entry.2) 0

/-- The number of different terms. -/
def distinct (terms : Terms) : Nat :=
  terms.entries.length

/-- The entries by falling count; equal counts keep their order. -/
def mostCommon (terms : Terms) : List (String × Nat) :=
  terms.entries.mergeSort fun a b => decide (b.2 ≤ a.2)

/-- The entries in the order of their terms' code points. -/
def sorted (terms : Terms) : List (String × Nat) :=
  terms.entries.mergeSort fun a b => decide (a.1 ≤ b.1)

/-- Multisets with the same entries are the same. -/
@[ext]
theorem ext {terms more : Terms} (same : terms.entries = more.entries) : terms = more := by
  cases terms; cases more; cases same; rfl

end Terms

end FoldTree
