import FoldTree.Proofs.Term.Listing
import FoldTree.Tree.Basic
import Mathlib.Data.List.Dedup

/-! The terms of a node under the calls that change them. Each call brings occurrences in or takes them
out, one by one, and the terms of the node follow these as a multiset does. Each term that is there is
listed where it was last introduced after it had been absent. What a call has brought in, the same list
takes out again without a trace.
-/

namespace FoldTree

namespace Terms

/-- One occurrence of a term that comes in, or one that goes out where there is one. -/
inductive Change where
  | incoming (term : String)
  | outgoing (term : String)

/-- The terms after a change. -/
def Change.apply (terms : Terms) : Change → Terms
  | .incoming term => terms.add term
  | .outgoing term => terms.remove term

/-- The occurrences after a change. -/
def Change.occurrences (among : Multiset String) : Change → Multiset String
  | .incoming term => term ::ₘ among
  | .outgoing term => among.erase term

/-- The terms that changes introduce: those that come in while they are absent, as often as they do. -/
def introduced (among : Multiset String) : List Change → List String
  | [] => []
  | .incoming term :: rest =>
    (if term ∈ among then [] else [term]) ++ introduced (term ::ₘ among) rest
  | .outgoing term :: rest => introduced (among.erase term) rest

/-- The terms that are listed, in their order. -/
def order (terms : Terms) : List String :=
  terms.entries.map Prod.fst

/-! ### Removal -/

/-- Removing occurrences of a term lowers its count and no other, by induction on the entries. -/
theorem countIn_removeFrom (term other : String) (n : Nat) {entries : List (String × Nat)}
    (once : (entries.map Prod.fst).Nodup)
    : countIn other (removeFrom term n entries)
      = countIn other entries - if other = term then n else 0 := by
  induction entries with
  | nil => simp [removeFrom, countIn]
  | cons entry rest ih =>
      obtain ⟨fresh, once⟩ := List.nodup_cons.mp once
      by_cases here : entry.1 = term
      · subst here
        by_cases same : other = entry.1
        · subst same
          by_cases more : n < entry.2
          · simp [removeFrom, countIn, more]
          · have gone : entry.2 - n = 0 := by omega
            simp [removeFrom, countIn, more, countIn_eq_zero fresh, gone]
        · by_cases more : n < entry.2 <;> simp [removeFrom, countIn, more, same, Ne.symm same]
      · by_cases same : entry.1 = other
        · have differ : ¬other = term := fun h => here (same.trans h)
          simp [removeFrom, countIn, same, differ]
        · simp only [removeFrom, here, if_false, countIn, same, ih once]

/-- Removals of two terms may change places, by induction on the entries. -/
theorem removeFrom_comm {term other : String} (differ : term ≠ other) (n m : Nat)
    (entries : List (String × Nat))
    : removeFrom term n (removeFrom other m entries)
      = removeFrom other m (removeFrom term n entries) := by
  induction entries with
  | nil => rfl
  | cons entry rest ih =>
      by_cases here : entry.1 = term
      · have apart : ¬entry.1 = other := fun h => differ (here.symm.trans h)
        by_cases more : n < entry.2 <;> simp [removeFrom, here, differ, more]
      · by_cases there : entry.1 = other
        · by_cases more : m < entry.2 <;> simp [removeFrom, there, Ne.symm differ, more]
        · simp only [removeFrom, here, there, if_false, ih]

/-- A removed occurrence is erased from the multiset, where there is one. -/
theorem toMultiset_remove (terms : Terms) (term : String)
    : (terms.remove term).toMultiset = terms.toMultiset.erase term := by
  ext other
  have counts := countIn_removeFrom term other 1 terms.listed.nodup
  rw [count_toMultiset, count, remove, counts]
  by_cases same : other = term
  · subst same
    rw [if_pos rfl, Multiset.count_erase_self, count_toMultiset, count]
  · rw [if_neg same, Nat.sub_zero, Multiset.count_erase_of_ne same, count_toMultiset, count]

/-- Single occurrences are removed in any order. -/
theorem remove_comm (terms : Terms) (term other : String)
    : (terms.remove term).remove other = (terms.remove other).remove term := by
  by_cases same : term = other
  · rw [same]
  · exact ext (removeFrom_comm (Ne.symm same) 1 1 terms.entries)

/-- Listed occurrences are removed in any order. -/
theorem removeAll_perm (terms : Terms) {listed other : List String} (perm : listed.Perm other)
    : terms.removeAll listed = terms.removeAll other :=
  perm.foldl_eq' (fun first _ second _ terms => remove_comm terms first second) terms

/-- What a list brings in, the same list takes out again, and the terms keep their order. Witness: the
list can be removed from its end, where its first removal undoes its last addition.
-/
theorem removeAll_addAll (terms : Terms) (listed : List String)
    : (terms.addAll listed).removeAll listed = terms := by
  rw [removeAll_perm _ (List.reverse_perm listed).symm]
  induction listed using List.reverseRecOn with
  | nil => rfl
  | append_singleton earlier last ih =>
      have undone : ((terms.addAll earlier).add last).remove last = terms.addAll earlier :=
        ext (removeFrom_addTo last 1 (terms.addAll earlier).listed.positive)
      have added : terms.addAll (earlier ++ [last]) = (terms.addAll earlier).add last :=
        List.foldl_append
      rw [List.reverse_concat, added]
      calc ((terms.addAll earlier).add last).removeAll (last :: earlier.reverse)
          = (((terms.addAll earlier).add last).remove last).removeAll earlier.reverse := rfl
        _ = (terms.addAll earlier).removeAll earlier.reverse := by rw [undone]
        _ = terms := ih

/-! ### Order -/

/-- The listed terms are those that occur. -/
theorem mem_order {terms : Terms} {term : String}
    : term ∈ terms.order ↔ term ∈ terms.toMultiset :=
  (mem_occurrences term terms.listed.positive).symm

/-- The entries are the listed terms with their counts, by induction. -/
theorem map_countIn {entries : List (String × Nat)} (once : (entries.map Prod.fst).Nodup)
    : (entries.map Prod.fst).map (fun term => (term, countIn term entries)) = entries := by
  induction entries with
  | nil => rfl
  | cons entry rest ih =>
      obtain ⟨fresh, once⟩ := List.nodup_cons.mp once
      have others : (rest.map Prod.fst).map (fun term => (term, countIn term (entry :: rest)))
          = (rest.map Prod.fst).map fun term => (term, countIn term rest) := by
        refine List.map_congr_left fun term member => ?_
        have differ : ¬entry.1 = term := fun same => fresh (same ▸ member)
        simp only [countIn, differ, if_false]
      rw [List.map_cons, List.map_cons, others, ih once]
      simp [countIn]

/-- Entries get a new term at their end, and keep the places of all that they list, by induction. -/
theorem map_fst_addTo (term : String) (n : Nat) (entries : List (String × Nat))
    : (addTo term n entries).map Prod.fst
      = entries.map Prod.fst ++ if term ∈ entries.map Prod.fst then [] else [term] := by
  induction entries with
  | nil => rfl
  | cons entry rest ih =>
      by_cases here : entry.1 = term
      · simp [addTo, here]
      · simp only [addTo, here, if_false, List.map_cons, ih, List.mem_cons, Ne.symm here, false_or,
          List.cons_append]

/-- A term that comes in is listed behind all others, unless it is listed already. -/
theorem order_add (terms : Terms) (term : String)
    : (terms.add term).order
      = terms.order ++ if term ∈ terms.toMultiset then [] else [term] := by
  simp only [← mem_order]
  exact map_fst_addTo term 1 terms.entries

/-- Entries lose a term with its last occurrence, and keep the others in their order, by induction. -/
theorem map_fst_removeFrom (term : String) (n : Nat) {entries : List (String × Nat)}
    (once : (entries.map Prod.fst).Nodup)
    : (removeFrom term n entries).map Prod.fst
      = if n < countIn term entries then entries.map Prod.fst
        else (entries.map Prod.fst).filter (· ≠ term) := by
  induction entries with
  | nil => simp [removeFrom]
  | cons entry rest ih =>
      obtain ⟨fresh, once⟩ := List.nodup_cons.mp once
      by_cases here : entry.1 = term
      · subst here
        have others : (rest.map Prod.fst).filter (· ≠ entry.1) = rest.map Prod.fst := by
          refine List.filter_eq_self.mpr fun other member => ?_
          exact decide_eq_true fun same => fresh (same ▸ member)
        by_cases more : n < entry.2
        · simp [removeFrom, countIn, more]
        · simp only [removeFrom, countIn, more, if_true, if_false, List.map_cons]
          rw [List.filter_cons_of_neg (by simp), others]
      · simp only [removeFrom, countIn, here, if_false, List.map_cons, ih once]
        rw [List.filter_cons_of_pos (by simpa using here)]
        split <;> rfl

/-- A term that goes out is listed no more when it is absent then. -/
theorem order_remove (terms : Terms) (term : String)
    : (terms.remove term).order
      = if term ∈ (terms.remove term).toMultiset then terms.order
        else terms.order.filter (· ≠ term) := by
  have left : term ∈ (terms.remove term).toMultiset ↔ 1 < countIn term terms.entries := by
    rw [toMultiset_remove, ← Multiset.count_pos, Multiset.count_erase_self, count_toMultiset, count]
    omega
  simp only [left]
  exact map_fst_removeFrom term 1 terms.listed.nodup

/-! ### Changes in a row -/

/-- The terms after a change have the occurrences after it. -/
theorem Change.toMultiset_apply (change : Change) (terms : Terms)
    : (change.apply terms).toMultiset = change.occurrences terms.toMultiset := by
  cases change with
  | incoming term => exact toMultiset_add terms term
  | outgoing term => exact toMultiset_remove terms term

/-- The terms after changes have the occurrences after them, by induction on the changes. -/
theorem toMultiset_changes (changes : List Change) (terms : Terms)
    : (changes.foldl Change.apply terms).toMultiset
      = changes.foldl Change.occurrences terms.toMultiset := by
  induction changes generalizing terms with
  | nil => rfl
  | cons change rest ih =>
      rw [List.foldl_cons, List.foldl_cons, ih, change.toMultiset_apply]

/-- A term that occurs after changes has occurred before or was introduced, by induction. -/
theorem mem_introduced {changes : List Change} {among : Multiset String} {term : String}
    (present : term ∈ changes.foldl Change.occurrences among) (absent : term ∉ among)
    : term ∈ introduced among changes := by
  induction changes generalizing among with
  | nil => exact absurd present absent
  | cons change rest ih =>
      cases change with
      | incoming other =>
          by_cases same : term = other
          · subst same
            simp [introduced, absent]
          · refine List.mem_append_right _ (ih present fun member => ?_)
            exact (Multiset.mem_cons.mp member).elim same absent
      | outgoing other =>
          exact ih present fun member => absent (Multiset.mem_of_mem_erase member)

/-- Where a list keeps only the last place of each term, a term may be dropped from its front if it
either comes again or is not asked for. By induction on the front.
-/
theorem filter_dedup_append {p : String → Bool} {term : String} {later : List String}
    (again : p term = true → term ∈ later) (front : List String)
    : ((front.filter (· ≠ term)) ++ later).dedup.filter p = (front ++ later).dedup.filter p := by
  induction front with
  | nil => rfl
  | cons first rest ih =>
      by_cases same : first = term
      · subst same
        rw [List.filter_cons_of_neg (by simp), ih, List.cons_append]
        by_cases known : first ∈ rest ++ later
        · rw [List.dedup_cons_of_mem known]
        · have dropped : ¬p first = true := fun asked =>
            known (List.mem_append_right _ (again asked))
          rw [List.dedup_cons_of_notMem known, List.filter_cons_of_neg dropped]
      · have members : first ∈ rest.filter (· ≠ term) ++ later ↔ first ∈ rest ++ later := by
          simp [same]
        rw [List.filter_cons_of_pos (by simpa using same), List.cons_append, List.cons_append]
        by_cases known : first ∈ rest ++ later
        · rw [List.dedup_cons_of_mem known, List.dedup_cons_of_mem (members.mpr known), ih]
        · rw [List.dedup_cons_of_notMem known, List.dedup_cons_of_notMem (mt members.mp known),
            List.filter_cons, List.filter_cons, ih]

/-- After changes the terms that occur are listed in the order in which they were last introduced, behind
those that have been there all along. Witness: induction on the changes. A term that goes out for good
is not listed any more, and one that comes back is introduced again.
-/
theorem order_changes (changes : List Change) (terms : Terms)
    : (changes.foldl Change.apply terms).order
      = (terms.order ++ introduced terms.toMultiset changes).dedup.filter
          (· ∈ changes.foldl Change.occurrences terms.toMultiset) := by
  induction changes generalizing terms with
  | nil =>
      have once : terms.order.Nodup := terms.listed.nodup
      rw [introduced, List.append_nil, once.dedup]
      exact (List.filter_eq_self.mpr fun term member => decide_eq_true (mem_order.mp member)).symm
  | cons change rest ih =>
      have later := ih (change.apply terms)
      rw [change.toMultiset_apply] at later
      rw [List.foldl_cons, List.foldl_cons, later]
      cases change with
      | incoming term =>
          rw [Change.apply, order_add, List.append_assoc]
          rfl
      | outgoing term =>
          -- a term that is gone may only be asked for later if it has been introduced again by then
          rw [Change.apply, order_remove, toMultiset_remove]
          by_cases left : term ∈ terms.toMultiset.erase term
          · rw [if_pos left]
            rfl
          · rw [if_neg left]
            refine filter_dedup_append (fun present => ?_) terms.order
            exact mem_introduced (of_decide_eq_true present) left

end Terms

namespace Tree

/-! ### Calls -/

/-- A call that changes the terms of a node. -/
inductive TermCall where
  | addTerm (term : String)
  | addTerms (terms : List String)
  | removeTerms (terms : List String)

/-- The changes that a call lists. -/
def TermCall.changes : TermCall → List Terms.Change
  | .addTerm term => [.incoming term]
  | .addTerms terms => terms.map .incoming
  | .removeTerms terms => terms.map .outgoing

/-- Carries a call out at a node. -/
def TermCall.perform (id : NodeId) (tree : Tree) : TermCall → Tree
  | .addTerm term => tree.addTerms id [term]
  | .addTerms terms => tree.addTerms id terms
  | .removeTerms terms => tree.removeTerms id terms

/-- The tree after calls at a node, one after the other. -/
def afterCalls (tree : Tree) (id : NodeId) (calls : List TermCall) : Tree :=
  calls.foldl (TermCall.perform id) tree

variable {tree : Tree} {id : NodeId}

/-- Two changes of one node are one. -/
theorem update_update (tree : Tree) (id : NodeId) (first second : Node → Node)
    : (tree.update id first).update id second = tree.update id (second ∘ first) := by
  simp only [update, List.modify_modify_eq]

/-- A change that changes nothing leaves the tree. -/
theorem update_id (tree : Tree) (id : NodeId) : tree.update id (fun node => node) = tree := by
  have same : tree.nodes.modify id (fun node => node) = tree.nodes := by
    refine List.ext_getElem? fun place => ?_
    rw [List.getElem?_modify]
    cases tree.nodes[place]? <;> simp
  rw [update, same]

/-- A call at a node makes the changes that it lists. -/
theorem TermCall.perform_eq (id : NodeId) (tree : Tree) (call : TermCall)
    : call.perform id tree
      = tree.update id fun node =>
          { node with terms := call.changes.foldl Terms.Change.apply node.terms } := by
  cases call with
  | addTerm term => rfl
  | addTerms terms => simp only [changes, List.foldl_map]; rfl
  | removeTerms terms => simp only [changes, List.foldl_map]; rfl

/-- Calls at a node make all the changes that they list, and leave all else. By induction on them. -/
theorem afterCalls_eq (tree : Tree) (id : NodeId) (calls : List TermCall)
    : tree.afterCalls id calls
      = tree.update id fun node =>
          { node with
            terms := (calls.flatMap TermCall.changes).foldl Terms.Change.apply node.terms } := by
  induction calls generalizing tree with
  | nil => exact (tree.update_id id).symm
  | cons call rest ih =>
      have step : tree.afterCalls id (call :: rest) = (call.perform id tree).afterCalls id rest := rfl
      rw [step, ih, call.perform_eq, update_update]
      simp only [Function.comp_def, List.flatMap_cons, List.foldl_append]

/-- After any calls at a node, all that has changed are its terms. They have the occurrences that are left
when each listed one is added or, where there is one, erased in turn; none is listed that does not
occur; and they stand in the order in which they were last introduced from absence, behind those that
have been there all along, each with the number of its occurrences. Whatever the same list adds and then
removes leaves no trace, not even in the order.
-/
theorem afterCalls_terms {node : Node} (found : tree.nodes[id]? = some node) (calls : List TermCall)
    : let changes := calls.flatMap TermCall.changes
      let left := changes.foldl Terms.Change.occurrences node.terms.toMultiset
      ∃ terms : Terms,
        (tree.afterCalls id calls).nodes[id]? = some { node with terms }
        ∧ terms.toMultiset = left
        ∧ (∀ entry ∈ terms.entries, 0 < entry.2)
        ∧ terms.entries
          = ((node.terms.order ++ Terms.introduced node.terms.toMultiset changes).dedup.filter
              (· ∈ left)).map (fun term => (term, left.count term))
        ∧ ∀ listed,
            ((tree.afterCalls id calls).addTerms id listed).removeTerms id listed
            = tree.afterCalls id calls := by
  intro changes left
  let terms := changes.foldl Terms.Change.apply node.terms
  have same : terms.toMultiset = left := Terms.toMultiset_changes changes node.terms
  refine ⟨terms, ?_, same, terms.listed.positive, ?_, ?_⟩
  · rw [afterCalls_eq, update, List.getElem?_modify_eq, found]
    rfl
  · -- an entry is a term at its place in the order, with its count
    have entries := Terms.map_countIn terms.listed.nodup
    have order : terms.entries.map Prod.fst = _ := Terms.order_changes changes node.terms
    have counts (term : String) : Terms.countIn term terms.entries = left.count term := by
      rw [← same, Terms.count_toMultiset, Terms.count]
    rw [order] at entries
    rw [← entries]
    exact List.map_congr_left fun term _ => by rw [counts]
  · intro listed
    rw [removeTerms, addTerms, update_update]
    have undone : (fun node : Node => { node with terms := node.terms.removeAll listed })
          ∘ (fun node : Node => { node with terms := node.terms.addAll listed })
        = fun node => node := by
      funext node
      exact congrArg (fun terms => { node with terms }) (Terms.removeAll_addAll node.terms listed)
    rw [undone, update_id]

/-- A term of which the only occurrence goes out and another one comes in moves behind a term that has
been there all along, and a call that lists an absent term leaves it absent.
-/
theorem reintroduced_afterCalls_terms
    : let tree := ((empty [] ⟨[], [['a']]⟩).newNode ⟨0, 0, 0, "module", none, []⟩ .empty).addTerms 0
        ["x", "y", "y"]
      let calls : List TermCall :=
        [.removeTerms ["x", "z"], .addTerms ["z", "x"], .addTerm "x", .removeTerms ["z", "y"]]
      ∃ terms : Terms,
        (tree.afterCalls 0 calls).nodes[0]?.map (·.terms) = some terms
        ∧ terms.entries = [("y", 1), ("x", 2)]
        ∧ ((tree.afterCalls 0 calls).addTerms 0 ["w", "x", "w"]).removeTerms 0 ["w", "x", "w"]
          = tree.afterCalls 0 calls := by
  intro tree calls
  have found : tree.nodes[0]? = some tree.nodes[0] := rfl
  obtain ⟨terms, there, -, -, entries, undone⟩ := afterCalls_terms found calls
  refine ⟨terms, by rw [there]; rfl, entries.trans ?_, undone _⟩
  decide

end Tree

end FoldTree
