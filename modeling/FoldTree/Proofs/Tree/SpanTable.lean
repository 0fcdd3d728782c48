import FoldTree.Proofs.Tree.Completeness
import FoldTree.Tree.Report

/-! Terms by place and by id. Every node has an id of its own, but nodes may share a place: a module
that is one comment, a docstring that is all of its module. The table by place then has one entry
for them, with the terms of the last one.
-/

namespace FoldTree.Tree

/-! ### Writing into the table -/

section

variable {span : Span} {terms : Terms} {table : List (Span × Terms)}

/-- A place that is written goes behind the others unless it is there, by induction on the table. -/
theorem map_fst_put
    : (termsBySpan.put span terms table).map Prod.fst
      = table.map Prod.fst ++ if span ∈ table.map Prod.fst then [] else [span] := by
  induction table with
  | nil => rfl
  | cons entry rest ih =>
      by_cases same : entry.1 = span
      · simp [termsBySpan.put, same]
      · rw [termsBySpan.put, if_neg same, List.map_cons, ih]
        simp only [List.map_cons, List.mem_cons, Ne.symm same, false_or, List.cons_append]

/-- Writing replaces the entry of a place and no other, by induction on the table. -/
theorem mem_put (once : (table.map Prod.fst).Nodup) {entry : Span × Terms}
    : entry ∈ termsBySpan.put span terms table
      ↔ entry = (span, terms) ∨ (entry.1 ≠ span ∧ entry ∈ table) := by
  induction table with
  | nil => simp [termsBySpan.put]
  | cons first rest ih =>
      obtain ⟨fresh, once⟩ := List.nodup_cons.mp once
      by_cases same : first.1 = span
      · subst same
        have others : entry ∈ rest → entry.1 ≠ first.1 := fun member same =>
          fresh (same ▸ List.mem_map_of_mem member)
        simp only [termsBySpan.put, if_true, List.mem_cons]
        constructor
        · rintro (new | old)
          · exact Or.inl new
          · exact Or.inr ⟨others old, Or.inr old⟩
        · rintro (new | ⟨apart, rfl | old⟩)
          · exact Or.inl new
          · exact absurd rfl apart
          · exact Or.inr old
      · rw [termsBySpan.put, if_neg same, List.mem_cons, ih once, List.mem_cons]
        constructor
        · rintro (rfl | new | ⟨apart, old⟩)
          · exact Or.inr ⟨same, Or.inl rfl⟩
          · exact Or.inl new
          · exact Or.inr ⟨apart, Or.inr old⟩
        · rintro (new | ⟨apart, rfl | old⟩)
          · exact Or.inr (Or.inl new)
          · exact Or.inl rfl
          · exact Or.inr (Or.inr ⟨apart, old⟩)

end

/-! ### The table of some nodes -/

variable {nodes : List Node}

/-- The table that some nodes write, one after the other. -/
def spanTable (nodes : List Node) : List (Span × Terms) :=
  nodes.foldl (fun table node => termsBySpan.put node.span node.terms table) []

/-- A node of a list that no later one shares its place with. -/
def LastThere (nodes : List Node) (node : Node) : Prop :=
  ∃ before after, nodes = before ++ node :: after ∧ ∀ later ∈ after, later.span ≠ node.span

/-- A node of a list that a later one shares its place with. -/
def Overtaken (nodes : List Node) (node : Node) : Prop :=
  ∃ before after, nodes = before ++ node :: after ∧ ∃ later ∈ after, later.span = node.span

/-- The table has the places of the nodes, in the order in which they come first. Witness: induction
on the nodes from the last one.
-/
theorem map_fst_spanTable (nodes : List Node)
    : (spanTable nodes).map Prod.fst = (nodes.map Node.span).eraseDups := by
  induction nodes using List.reverseRecOn with
  | nil => rfl
  | append_singleton nodes node ih =>
      have step : spanTable (nodes ++ [node])
          = termsBySpan.put node.span node.terms (spanTable nodes) := by
        rw [spanTable, List.foldl_append]
        rfl
      rw [step, map_fst_put, ih, List.map_append, List.map_singleton, Terms.eraseDups_concat]
      simp only [List.mem_eraseDups]

/-- No place has two entries. -/
theorem spanTable_once (nodes : List Node) : ((spanTable nodes).map Prod.fst).Nodup := by
  rw [map_fst_spanTable]
  exact Terms.nodup_eraseDups _

/-- The last node of a place in a longer list is the new one, or was it before and has another place
than that.
-/
theorem lastThere_concat {node last : Node}
    : LastThere (nodes ++ [last]) node
      ↔ node = last ∨ (node.span ≠ last.span ∧ LastThere nodes node) := by
  constructor
  · rintro ⟨before, after, split, apart⟩
    rcases List.eq_nil_or_concat after with rfl | ⟨after, end', rfl⟩
    · obtain ⟨-, same⟩ := List.append_inj' split rfl
      exact Or.inl (List.cons.inj same).1.symm
    · rw [List.concat_eq_append, ← List.cons_append, ← List.append_assoc] at split
      obtain ⟨front, same⟩ := List.append_inj' split rfl
      obtain ⟨rfl, -⟩ := List.cons.inj same
      rw [List.concat_eq_append] at apart
      refine Or.inr ⟨Ne.symm (apart last (by simp)), before, after, front, fun later member => ?_⟩
      exact apart later (List.mem_append_left _ member)
  · rintro (rfl | ⟨differ, before, after, rfl, apart⟩)
    · exact ⟨nodes, [], rfl, nofun⟩
    · refine ⟨before, after ++ [last], by simp, fun later member => ?_⟩
      rcases List.mem_append.mp member with old | new
      · exact apart later old
      · exact List.mem_singleton.mp new ▸ Ne.symm differ

/-- The entry of a place has the terms of the last node there. Witness: induction on the nodes from
the last one.
-/
theorem mem_spanTable {entry : Span × Terms}
    : entry ∈ spanTable nodes ↔ ∃ node, LastThere nodes node ∧ (node.span, node.terms) = entry := by
  induction nodes using List.reverseRecOn with
  | nil => simp [spanTable, LastThere]
  | append_singleton nodes last ih =>
      have step : spanTable (nodes ++ [last])
          = termsBySpan.put last.span last.terms (spanTable nodes) := by
        rw [spanTable, List.foldl_append]
        rfl
      rw [step, mem_put (spanTable_once nodes), ih]
      simp only [lastThere_concat]
      constructor
      · rintro (rfl | ⟨apart, node, there, rfl⟩)
        · exact ⟨last, Or.inl rfl, rfl⟩
        · exact ⟨node, Or.inr ⟨apart, there⟩, rfl⟩
      · rintro ⟨node, rfl | ⟨apart, there⟩, rfl⟩
        · exact Or.inl rfl
        · exact Or.inr ⟨apart, node, there, rfl⟩

/-! ### Shared places -/

/-- The first node of a list is the last one of its place if none behind it shares the place. -/
theorem lastThere_cons {first node : Node}
    : LastThere (first :: nodes) node
      ↔ (node = first ∧ first.span ∉ nodes.map Node.span) ∨ LastThere nodes node := by
  constructor
  · rintro ⟨_ | ⟨_, before⟩, after, split, apart⟩
    · obtain ⟨rfl, rfl⟩ := List.cons.inj split
      refine Or.inl ⟨rfl, fun shared => ?_⟩
      obtain ⟨later, member, same⟩ := List.mem_map.mp shared
      exact apart later member same
    · exact Or.inr ⟨before, after, (List.cons.inj split).2, apart⟩
  · rintro (⟨rfl, alone⟩ | ⟨before, after, rfl, apart⟩)
    · exact ⟨[], nodes, rfl, fun later member same => alone (same ▸ List.mem_map_of_mem member)⟩
    · exact ⟨first :: before, after, rfl, apart⟩

/-- The first node of a list is overtaken if one behind it shares its place. -/
theorem overtaken_cons {first node : Node}
    : Overtaken (first :: nodes) node
      ↔ (node = first ∧ first.span ∈ nodes.map Node.span) ∨ Overtaken nodes node := by
  constructor
  · rintro ⟨_ | ⟨_, before⟩, after, split, later, member, same⟩
    · obtain ⟨rfl, rfl⟩ := List.cons.inj split
      exact Or.inl ⟨rfl, List.mem_map.mpr ⟨later, member, same⟩⟩
    · exact Or.inr ⟨before, after, (List.cons.inj split).2, later, member, same⟩
  · rintro (⟨rfl, shared⟩ | ⟨before, after, rfl, later, member, same⟩)
    · obtain ⟨later, member, same⟩ := List.mem_map.mp shared
      exact ⟨[], nodes, rfl, later, member, same⟩
    · exact ⟨first :: before, after, rfl, later, member, same⟩

/-- The nodes that no later one shares its place with. -/
def lastOnes : List Node → List Node
  | [] => []
  | node :: rest =>
    if node.span ∈ rest.map Node.span then lastOnes rest else node :: lastOnes rest

/-- These are the last ones of their places, by induction on the nodes. -/
theorem mem_lastOnes {node : Node} : node ∈ lastOnes nodes ↔ LastThere nodes node := by
  induction nodes with
  | nil => simp [lastOnes, LastThere]
  | cons first rest ih =>
      rw [lastOnes, lastThere_cons]
      split
      · rename_i shared
        simp only [ih, shared, not_true_eq_false, and_false, false_or]
      · rename_i alone
        simp only [List.mem_cons, ih, alone, not_false_eq_true, and_true]

/-- The last one of a place is one of the nodes. -/
theorem LastThere.mem {node : Node} (last : LastThere nodes node) : node ∈ nodes := by
  obtain ⟨before, after, rfl, -⟩ := last
  exact List.mem_append_right _ List.mem_cons_self

/-- Every place of a node has a last node, by induction on the nodes. -/
theorem exists_lastThere {span : Span} (shared : span ∈ nodes.map Node.span)
    : ∃ node, LastThere nodes node ∧ node.span = span := by
  induction nodes with
  | nil => exact absurd shared List.not_mem_nil
  | cons first rest ih =>
      by_cases behind : span ∈ rest.map Node.span
      · obtain ⟨node, last, same⟩ := ih behind
        exact ⟨node, lastThere_cons.mpr (Or.inr last), same⟩
      · obtain rfl := (List.mem_cons.mp shared).resolve_right behind
        exact ⟨first, lastThere_cons.mpr (Or.inl ⟨rfl, behind⟩), rfl⟩

/-- No two of the last ones share a place, by induction on the nodes. -/
theorem lastOnes_once (nodes : List Node) : ((lastOnes nodes).map Node.span).Nodup := by
  induction nodes with
  | nil => exact .nil
  | cons first rest ih =>
      rw [lastOnes]
      split
      · exact ih
      · rename_i alone
        refine List.nodup_cons.mpr ⟨fun shared => ?_, ih⟩
        obtain ⟨node, member, same⟩ := List.mem_map.mp shared
        exact alone (same ▸ List.mem_map_of_mem (mem_lastOnes.mp member).mem)

/-- The table lists the last ones with their terms, in some order. -/
theorem spanTable_perm (nodes : List Node)
    : (spanTable nodes).Perm ((lastOnes nodes).map fun node => (node.span, node.terms)) := by
  have once : (((lastOnes nodes).map fun node => (node.span, node.terms)).map Prod.fst).Nodup := by
    rw [List.map_map]
    exact lastOnes_once nodes
  refine (List.perm_ext_iff_of_nodup (.of_map _ (spanTable_once nodes)) (.of_map _ once)).mpr
    fun entry => ?_
  simp only [mem_spanTable, List.mem_map, mem_lastOnes]

/-- The last ones have no more than all nodes, and as much just if all others have nothing. By
induction on the nodes.
-/
theorem sum_lastOnes (f : Node → Multiset String) (nodes : List Node)
    : ((lastOnes nodes).map f).sum ≤ (nodes.map f).sum
      ∧ (((lastOnes nodes).map f).sum = (nodes.map f).sum
          ↔ ∀ node, Overtaken nodes node → f node = 0) := by
  induction nodes with
  | nil => simp [lastOnes, Overtaken]
  | cons first rest ih =>
      obtain ⟨less, same⟩ := ih
      simp only [overtaken_cons, lastOnes, List.map_cons, List.sum_cons]
      split
      · rename_i shared
        refine ⟨less.trans (Multiset.le_add_left _ _), fun all node => ?_, fun none => ?_⟩
        · -- what the first node has would be missing
          have nothing : f first = 0 := by
            rw [all] at less
            exact Multiset.le_zero.mp (add_le_iff_nonpos_left.mp less)
          rw [nothing, zero_add] at all
          rintro (⟨rfl, -⟩ | overtaken)
          · exact nothing
          · exact same.mp all node overtaken
        · rw [none first (Or.inl ⟨rfl, shared⟩), zero_add]
          exact same.mpr fun node overtaken => none node (Or.inr overtaken)
      · rename_i alone
        rw [List.map_cons, List.sum_cons, add_right_inj, same]
        refine ⟨add_le_add (le_refl _) less, ?_⟩
        simp only [alone, and_false, false_or]

/-- The table has the terms of every node at its place just if nodes of one place have the same
terms.
-/
theorem spanTable_faithful (nodes : List Node)
    : (∀ node ∈ nodes,
        ∃ terms,
          (node.span, terms) ∈ spanTable nodes
          ∧ terms.toMultiset = node.terms.toMultiset)
      ↔ ∀ first ∈ nodes,
          ∀ second ∈ nodes,
            first.span = second.span
            → first.terms.toMultiset = second.terms.toMultiset := by
  constructor
  · intro all first one second other same
    obtain ⟨terms, inside, has⟩ := all first one
    obtain ⟨terms', inside', has'⟩ := all second other
    have entry := List.inj_on_of_nodup_map (spanTable_once nodes) inside inside' same
    cases (Prod.mk.inj entry).2
    exact has.symm.trans has'
  · intro alike node member
    obtain ⟨last, there, same⟩ := exists_lastThere (List.mem_map_of_mem (f := Node.span) member)
    exact ⟨last.terms, mem_spanTable.mpr ⟨last, there, same ▸ rfl⟩,
      alike last there.mem node member same⟩

/-! ### Built trees -/

/-- No two nodes of a tree have one id. -/
theorem Numbered.map_id_nodup {tree : Tree} (numbered : tree.Numbered)
    : (tree.nodes.map Node.id).Nodup := by
  refine List.nodup_iff_getElem?_ne_getElem?.mpr fun i j before within same => ?_
  rw [List.length_map] at within
  rw [List.getElem?_map, List.getElem?_map, List.getElem?_eq_getElem within,
    List.getElem?_eq_getElem (Nat.lt_trans before within), Option.map_some, Option.map_some,
    numbered i _ (List.getElem?_eq_getElem _), numbered j _ (List.getElem?_eq_getElem _)] at same
  exact Nat.ne_of_lt before (Option.some.inj same)

variable {source : List Char} {file : Path} {skeleton : Rose Region} {remarks : List Remark}
  {tree : Tree}

/-- The tables of a tree that was built. The one by id lists all nodes. The one by place has an entry
for each place of a node, in the order in which places come first, and the entry holds the terms of
the last node there. So it has an entry for each node just if no two nodes share a place; it gives
back the terms of every node just if nodes that share a place have the same; and it counts all terms
just if the nodes that another one comes behind at their place have none.
-/
theorem build_spanTable (built : build source file skeleton remarks = .ok tree)
    : ∃ nodes byId table,
        tree.reachable = .ok nodes
        ∧ nodes.Perm tree.nodes
        ∧ tree.termsById = .ok byId
        ∧ byId = nodes.map (fun node => (node.id, node.terms))
        ∧ (byId.map Prod.fst).Nodup
        ∧ tree.termsBySpan = .ok table
        ∧ table.map Prod.fst = (nodes.map Node.span).eraseDups
        ∧ (∀ entry, entry ∈ table ↔ ∃ node, LastThere nodes node ∧ (node.span, node.terms) = entry)
        ∧ (table.length = nodes.length ↔ (nodes.map Node.span).Nodup)
        ∧ ((∀ node ∈ nodes,
              ∃ terms, (node.span, terms) ∈ table ∧ terms.toMultiset = node.terms.toMultiset)
            ↔ ∀ first ∈ nodes,
                ∀ second ∈ nodes,
                  first.span = second.span
                  → first.terms.toMultiset = second.terms.toMultiset)
        ∧ ((table.map fun entry => entry.2.toMultiset).sum
              = (byId.map fun entry => entry.2.toMultiset).sum
            ↔ ∀ node, Overtaken nodes node → node.terms.toMultiset = 0) := by
  obtain ⟨shape, spans, -⟩ := build_spans built
  obtain ⟨nodes, reached, all⟩ := spans.reachable_perm
  have lookup : tree.termsBySpan = .ok (spanTable nodes) := by
    rw [termsBySpan, reached]
    rfl
  have listing : tree.termsById = .ok (nodes.map fun node => (node.id, node.terms)) := by
    rw [termsById, reached]
    rfl
  refine ⟨nodes, _, spanTable nodes, reached, all, listing, rfl, ?_, lookup,
    map_fst_spanTable nodes, fun entry => mem_spanTable, ?_, spanTable_faithful nodes, ?_⟩
  · rw [List.map_map]
    exact (all.map Node.id).nodup_iff.mpr spans.numbered.map_id_nodup
  · have count := congrArg List.length (map_fst_spanTable nodes)
    rw [List.length_map] at count
    rw [count, ← (Terms.length_eraseDups _).2, List.length_map]
  · have sums := ((spanTable_perm nodes).map fun entry => entry.2.toMultiset).sum_eq
    rw [List.map_map] at sums
    rw [sums, List.map_map]
    exact (sum_lastOnes (fun node => node.terms.toMultiset) nodes).2

/-- A module that is one comment shares its place with it: the table by place has one entry, which
does not give back the terms of the module.
-/
theorem commentAlone_spanTable
    : ∃ tree nodes table,
        build ['#', 'a', 'b'] ⟨[], [['a']]⟩ (.node ⟨0, 0, 3, "module", none, []⟩ [])
            [⟨⟨1, 0, 3, "comment", none, []⟩, 0, ["ab"]⟩]
          = .ok tree
        ∧ tree.reachable = .ok nodes
        ∧ nodes.length = 2
        ∧ tree.termsBySpan = .ok table
        ∧ table.length ≠ nodes.length
        ∧ ¬∀ node ∈ nodes,
            ∃ terms,
              (node.span, terms) ∈ table
              ∧ terms.toMultiset = node.terms.toMultiset := by
  obtain ⟨tree, built⟩ : ∃ tree,
      build ['#', 'a', 'b'] ⟨[], [['a']]⟩ (.node ⟨0, 0, 3, "module", none, []⟩ [])
          [⟨⟨1, 0, 3, "comment", none, []⟩, 0, ["ab"]⟩]
        = .ok tree := ⟨_, rfl⟩
  obtain ⟨nodes, _, table, reached, -, -, -, -, found, -, -, each, faithful, -⟩ :=
    build_spanTable built
  have rows : nodes.map (fun node => (node.span, node.terms.entries))
      = [(⟨0, 2, 1, 1⟩, []), (⟨0, 2, 1, 1⟩, [("ab", 1)])] := by
    cases built
    cases reached
    rfl
  obtain ⟨first, _, rfl, one, rest⟩ := List.map_eq_cons_iff.mp rows
  obtain ⟨second, _, rfl, other, none⟩ := List.map_eq_cons_iff.mp rest
  obtain rfl := List.map_eq_nil_iff.mp none
  obtain ⟨place, bare⟩ := Prod.mk.inj one
  obtain ⟨place', terms⟩ := Prod.mk.inj other
  refine ⟨tree, _, table, built, reached, rfl, found, ?_, ?_⟩
  · rw [Ne, each]
    simp [place, place']
  · rw [faithful]
    intro alike
    have same := alike first (by simp) second (by simp) (place.trans place'.symm)
    have count := congrArg (Multiset.count "ab") same
    rw [Terms.count_toMultiset, Terms.count_toMultiset, Terms.count, Terms.count, bare, terms]
      at count
    exact absurd count (by decide)

end FoldTree.Tree
