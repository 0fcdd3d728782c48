import FoldTree.Proofs.Tree.Spanning
import Mathlib.Data.List.Forall2
import Mathlib.Data.List.Induction

/-! Grafting by plan. A plan names a node for each of some remarks; the node may be one that stood there
before, or the leaf for an earlier remark. However remarks come to be grafted, the outcome is that of a
plan, which says of every node what has become of it.
-/

namespace FoldTree.Tree

variable {tree : Tree} {plan : List (NodeId × Remark)} {id : NodeId}

/-- Grafts remarks one after the other, each at a node of its own. -/
def graftAll (tree : Tree) (plan : List (NodeId × Remark)) : Tree :=
  plan.foldl (fun tree entry => tree.graft entry.1 entry.2) tree

/-- The nodes for the remarks that are planned for a node, where those of the plan are numbered from
a first.
-/
def leavesOf (plan : List (NodeId × Remark)) (first id : NodeId) : List NodeId :=
  ((plan.zipIdx first).filter fun entry => entry.1.1 == id).map Prod.snd

/-- The node for an entry of a plan with its number. -/
def leafNode (source : List Char) (entry : (NodeId × Remark) × NodeId) : Node :=
  .fresh source entry.2 entry.1.2.region entry.1.2.terms (some entry.1.1)

/-- A plan can be carried out in a tree: each entry names a node that is made before its own leaf. -/
def Feasible (tree : Tree) (plan : List (NodeId × Remark)) : Prop :=
  ∀ entry ∈ plan.zipIdx tree.nodes.length, entry.1.1 < entry.2

/-- A plan for nodes that stood there before can be carried out. -/
theorem feasible_of_made (made : ∀ entry ∈ plan, entry.1 < tree.nodes.length)
    : tree.Feasible plan := by
  rintro ⟨entry, number⟩ member
  obtain ⟨behind, -⟩ := List.mk_mem_zipIdx_iff_le_and_getElem?_sub.mp member
  exact Nat.lt_of_lt_of_le (made entry (List.fst_mem_of_mem_zipIdx member)) behind

/-! ### Leaves of a plan -/

/-- The leaves of a plan in two parts are those of the first, and those of the second behind it. -/
theorem leavesOf_append (plan more : List (NodeId × Remark)) (first id : NodeId)
    : leavesOf (plan ++ more) first id
      = leavesOf plan first id ++ leavesOf more (first + plan.length) id := by
  simp only [leavesOf, List.zipIdx_append, List.filter_append, List.map_append]

/-- A node that no entry names has no leaves. -/
theorem leavesOf_eq_nil (absent : ∀ entry ∈ plan, entry.1 ≠ id) (first : NodeId)
    : leavesOf plan first id = [] := by
  rw [leavesOf, List.filter_eq_nil_iff.mpr, List.map_nil]
  intro entry member
  simpa using absent entry.1 (List.fst_mem_of_mem_zipIdx member)

/-- One more entry of a plan gives its node one more leaf. -/
theorem leavesOf_concat (plan : List (NodeId × Remark)) (first id : NodeId)
    (entry : NodeId × Remark)
    : leavesOf (plan ++ [entry]) first id
      = leavesOf plan first id ++ if id = entry.1 then [first + plan.length] else [] := by
  rw [leavesOf_append]
  by_cases here : id = entry.1
  · simp [leavesOf, here]
  · simp [leavesOf, here, Ne.symm here]

/-- The leaves for remarks at one node are as many, from the first number on. -/
theorem leavesOf_block (own : List Remark) (first id : NodeId)
    : leavesOf (own.map (Prod.mk id)) first id = List.range' first own.length := by
  rw [leavesOf, List.filter_eq_self.mpr, List.zipIdx_map_snd, List.length_map]
  intro entry member
  obtain ⟨remark, -, same⟩ := List.mem_map.mp (List.fst_mem_of_mem_zipIdx member)
  rw [← same, beq_self_eq_true]

/-- The leaves of a node stand in the plan, in order, for the remarks that are planned for it. -/
theorem leavesOf_forall₂ (plan : List (NodeId × Remark)) (first id : NodeId)
    : List.Forall₂ (fun leaf remark => ((id, remark), leaf) ∈ plan.zipIdx first)
        (leavesOf plan first id) ((plan.filter fun entry => entry.1 == id).map Prod.snd) := by
  have own : plan.filter (fun entry => entry.1 == id)
      = ((plan.zipIdx first).filter fun entry => entry.1.1 == id).map Prod.fst := by
    calc plan.filter (fun entry => entry.1 == id)
      _ = ((plan.zipIdx first).map Prod.fst).filter (fun entry => entry.1 == id) := by
        rw [List.zipIdx_map_fst]
      _ = ((plan.zipIdx first).filter fun entry => entry.1.1 == id).map Prod.fst :=
        List.filter_map
  rw [own, leavesOf, List.map_map, List.forall₂_map_left_iff, List.forall₂_map_right_iff,
    List.forall₂_same]
  intro entry member
  obtain ⟨inside, named⟩ := List.mem_filter.mp member
  cases beq_iff_eq.mp named
  exact inside

/-- A plan that goes through nodes one after the other numbers its leaves by them, in that order. By
induction on the nodes.
-/
theorem flatMap_leavesOf {ids : List NodeId} (once : ids.Nodup) (own : NodeId → List Remark)
    (first : NodeId)
    : let plan := ids.flatMap fun id => (own id).map (Prod.mk id)
      ids.flatMap (leavesOf plan first) = List.range' first plan.length := by
  induction ids generalizing first with
  | nil => rfl
  | cons id rest ih =>
      obtain ⟨apart, once⟩ := List.nodup_cons.mp once
      have named : ∀ entry ∈ rest.flatMap (fun id => (own id).map (Prod.mk id)), entry.1 ∈ rest := by
        intro entry member
        obtain ⟨other, inside, member⟩ := List.mem_flatMap.mp member
        obtain ⟨remark, -, rfl⟩ := List.mem_map.mp member
        exact inside
      have later := ih once (first + (own id).length)
      dsimp only at later ⊢
      rw [List.flatMap_cons (f := fun id => (own id).map (Prod.mk id))]
      generalize rest.flatMap (fun id => (own id).map (Prod.mk id)) = plan at named later ⊢
      -- the leaves of the first node come first, and those of the others are numbered on from them
      have here : leavesOf ((own id).map (Prod.mk id) ++ plan) first id
          = List.range' first (own id).length := by
        rw [leavesOf_append, leavesOf_block, leavesOf_eq_nil, List.append_nil]
        exact fun entry member same => apart (same ▸ named entry member)
      have others : ∀ other ∈ rest, leavesOf ((own id).map (Prod.mk id) ++ plan) first other
          = leavesOf plan (first + (own id).length) other := by
        intro other member
        rw [leavesOf_append, leavesOf_eq_nil, List.nil_append, List.length_map]
        intro entry among same
        obtain ⟨remark, -, rfl⟩ := List.mem_map.mp among
        obtain rfl : id = other := same
        exact apart member
      rw [List.flatMap_cons, here, List.flatMap_congr others, later, List.length_append,
        List.length_map, List.range'_append_1]

/-- Items that give nothing may be left out before all is gathered, by induction on the items. -/
theorem flatMap_filter_of_nil {α β : Type} {keep : α → Bool} {give : α → List β} {items : List α}
    (nothing : ∀ a ∈ items, keep a = false → give a = [])
    : (items.filter keep).flatMap give = items.flatMap give := by
  induction items with
  | nil => rfl
  | cons a rest ih =>
      have later := ih fun b member => nothing b (List.mem_cons_of_mem _ member)
      cases kept : keep a with
      | true => rw [List.filter_cons, if_pos kept, List.flatMap_cons, List.flatMap_cons, later]
      | false =>
          rw [List.filter_cons, kept, List.flatMap_cons, nothing a List.mem_cons_self kept,
            List.nil_append]
          exact later

/-- A plan that goes through nodes one after the other has for each of them what is its own, by
induction on the nodes.
-/
theorem filter_plan {ids : List NodeId} (once : ids.Nodup) (own : NodeId → List Remark)
    (member : id ∈ ids)
    : ((ids.flatMap fun id => (own id).map (Prod.mk id)).filter fun entry => entry.1 == id).map Prod.snd
      = own id := by
  induction ids with
  | nil => cases member
  | cons first rest ih =>
      obtain ⟨apart, once⟩ := List.nodup_cons.mp once
      rw [List.flatMap_cons, List.filter_append, List.map_append]
      rcases List.mem_cons.mp member with rfl | later
      · have block : ((own id).map (Prod.mk id)).filter (fun entry => entry.1 == id)
            = (own id).map (Prod.mk id) :=
          List.filter_eq_self.mpr (List.forall_mem_map.mpr fun _ _ => beq_self_eq_true id)
        have others : (rest.flatMap fun id => (own id).map (Prod.mk id)).filter
            (fun entry => entry.1 == id) = [] := by
          refine List.filter_eq_nil_iff.mpr fun entry among same => ?_
          obtain ⟨other, inside, among⟩ := List.mem_flatMap.mp among
          obtain ⟨remark, -, rfl⟩ := List.mem_map.mp among
          cases beq_iff_eq.mp same
          exact apart inside
        rw [block, others, List.map_nil, List.append_nil, List.map_map]
        exact List.map_id _
      · have block : ((own first).map (Prod.mk first)).filter (fun entry => entry.1 == id) = [] := by
          refine List.filter_eq_nil_iff.mpr (List.forall_mem_map.mpr fun _ _ same => ?_)
          cases beq_iff_eq.mp same
          exact apart later
        rw [block, List.map_nil, List.nil_append]
        exact ih once later

/-! ### What a plan leaves behind -/

/-- Grafting by a plan makes a node for each of its entries, by induction on it. -/
theorem length_graftAll (tree : Tree) (plan : List (NodeId × Remark))
    : (tree.graftAll plan).nodes.length = tree.nodes.length + plan.length := by
  induction plan generalizing tree with
  | nil => rfl
  | cons entry rest ih =>
      refine (ih (tree.graft entry.1 entry.2)).trans ?_
      rw [length_graft, List.length_cons]
      omega

/-- A plan in two parts can be carried out if the first can, and the second after it. -/
theorem feasible_append {more : List (NodeId × Remark)}
    : tree.Feasible (plan ++ more) ↔ tree.Feasible plan ∧ (tree.graftAll plan).Feasible more := by
  rw [Feasible, Feasible, Feasible, List.zipIdx_append, List.forall_mem_append, length_graftAll]

/-- The nodes that a feasible plan names are made by its end. -/
theorem Feasible.lt (feasible : tree.Feasible plan)
    : ∀ entry ∈ plan, entry.1 < tree.nodes.length + plan.length := by
  intro entry member
  obtain ⟨i, within, rfl⟩ := List.mem_iff_getElem.mp member
  have older := feasible (plan[i], tree.nodes.length + i) (by
    rw [List.mk_add_mem_zipIdx_iff_getElem?, List.getElem?_eq_getElem within])
  exact Nat.lt_trans older (Nat.add_lt_add_left within _)

/-- All that is not a node is left as it is, by induction on the plan. -/
theorem graftAll_frame (tree : Tree) (plan : List (NodeId × Remark))
    : tree.graftAll plan = { tree with nodes := (tree.graftAll plan).nodes } := by
  induction plan generalizing tree with
  | nil => rfl
  | cons entry rest ih => exact ih (tree.graft entry.1 entry.2)

/-- Grafting by a feasible plan adds a leaf for each of its entries, in its order, and links every node
to those that are its own, be it one from before or a leaf. Witness: induction on the plan from its
end, whose last leaf comes behind all others.
-/
theorem getElem?_graftAll (feasible : tree.Feasible plan) (id : NodeId)
    : (tree.graftAll plan).nodes[id]?
      = (tree.nodes ++ (plan.zipIdx tree.nodes.length).map (leafNode tree.source))[id]?.map
          (·.extend (leavesOf plan tree.nodes.length id)) := by
  induction plan using List.reverseRecOn with
  | nil =>
      rw [List.zipIdx_nil, List.map_nil, List.append_nil]
      cases found : tree.nodes[id]? <;> simp [graftAll, leavesOf, found]
  | append_singleton plan entry ih =>
      obtain ⟨before, last⟩ := feasible_append.mp feasible
      have older : entry.1 < (tree.graftAll plan).nodes.length :=
        last (entry, _) (by rw [List.zipIdx_singleton]; exact List.mem_cons_self)
      have step : tree.graftAll (plan ++ [entry]) = (tree.graftAll plan).graft entry.1 entry.2 := by
        simp only [graftAll, List.foldl_append, List.foldl_cons, List.foldl_nil]
      have count := tree.length_graftAll plan
      have source : (tree.graftAll plan).source = tree.source := by rw [graftAll_frame]
      have leaves : (tree.nodes ++ (plan.zipIdx tree.nodes.length).map (leafNode tree.source)).length
          = (tree.graftAll plan).nodes.length := by
        rw [List.length_append, List.length_map, List.length_zipIdx, count]
      have known := ih before
      rw [step, List.zipIdx_append, List.zipIdx_singleton, List.map_append, ← List.append_assoc,
        leavesOf_concat, ← count]
      generalize tree.nodes ++ (plan.zipIdx tree.nodes.length).map (leafNode tree.source) = known_nodes
        at leaves known ⊢
      rcases Nat.lt_trichotomy id (tree.graftAll plan).nodes.length with old | rfl | beyond
      · rw [getElem?_graft older old, known, List.getElem?_append_left (leaves.symm ▸ old),
          Option.map_map]
        refine congrArg (Option.map · _) (funext fun node => ?_)
        exact node.extend_extend _ _
      · -- nothing is planned for the leaf that comes last
        have bare : leavesOf plan tree.nodes.length (tree.graftAll plan).nodes.length = [] := by
          refine leavesOf_eq_nil (fun other member => ?_) _
          rw [count]
          exact Nat.ne_of_lt (before.lt other member)
        rw [getElem?_graft_new older, source, bare, if_neg (Nat.ne_of_gt older), ← leaves,
          List.map_singleton, List.getElem?_concat_length, Option.map_some, List.append_nil,
          Node.extend_nil]
        rfl
      · rw [List.getElem?_eq_none, List.getElem?_eq_none, Option.map_none]
        · rw [List.length_append, leaves]
          exact beyond
        · rw [length_graft]
          exact beyond

/-- A node from before a plan gets its leaves behind its other children. -/
theorem getElem?_graftAll_old (feasible : tree.Feasible plan) {node : Node}
    (found : tree.nodes[id]? = some node)
    : (tree.graftAll plan).nodes[id]?
      = some (node.extend (leavesOf plan tree.nodes.length id)) := by
  rw [getElem?_graftAll feasible,
    List.getElem?_append_left (List.getElem?_eq_some_iff.mp found).1, found, Option.map_some]

/-- The leaf for an entry of a plan has those leaves as its children that the plan has for itself. -/
theorem getElem?_graftAll_leaf (feasible : tree.Feasible plan)
    {entry : (NodeId × Remark) × NodeId} (member : entry ∈ plan.zipIdx tree.nodes.length)
    : (tree.graftAll plan).nodes[entry.2]?
      = some ((leafNode tree.source entry).extend (leavesOf plan tree.nodes.length entry.2)) := by
  obtain ⟨entry, number⟩ := entry
  obtain ⟨behind, found⟩ := List.mk_mem_zipIdx_iff_le_and_getElem?_sub.mp member
  rw [getElem?_graftAll feasible, List.getElem?_append_right behind, List.getElem?_map,
    List.getElem?_zipIdx, found, Option.map_some, Option.map_some, Option.map_some,
    Nat.add_sub_cancel' behind]

/-- A new node stands for a remark of the plan. -/
theorem exists_entry_of_new (feasible : tree.Feasible plan) (new : tree.nodes.length ≤ id) {node : Node}
    (found : (tree.graftAll plan).nodes[id]? = some node)
    : ∃ entry ∈ plan, node.region = entry.2.region := by
  rw [getElem?_graftAll feasible, List.getElem?_append_right new] at found
  obtain ⟨before, there, rfl⟩ := Option.map_eq_some_iff.mp found
  obtain ⟨leaf, member, rfl⟩ := List.mem_map.mp (List.mem_of_getElem? there)
  exact ⟨leaf.1, List.fst_mem_of_mem_zipIdx member, rfl⟩

/-- Grafting keeps a tree numbered. -/
theorem Numbered.graftAll (numbered : tree.Numbered) (feasible : tree.Feasible plan)
    : (tree.graftAll plan).Numbered := by
  intro id node found
  rw [getElem?_graftAll feasible] at found
  obtain ⟨before, there, rfl⟩ := Option.map_eq_some_iff.mp found
  rcases Nat.lt_or_ge id tree.nodes.length with old | new
  · rw [List.getElem?_append_left old] at there
    exact numbered id before there
  · rw [List.getElem?_append_right new, List.getElem?_map, List.getElem?_zipIdx, Option.map_map] at there
    obtain ⟨entry, -, rfl⟩ := Option.map_eq_some_iff.mp there
    exact Nat.add_sub_cancel' new

end FoldTree.Tree
