import FoldTree.Proofs.Tree.Plans
import Mathlib.Data.Finset.Card
import Mathlib.Logic.Function.Iterate
import Mathlib.Logic.Relation

/-! Grafting of remarks on remarks. What is grafted is visited in its turn, and may carry remarks itself.
The walk ends if no remark's region carries, by way of others, the region that carries it. Then every
node that it comes to has got a child for each remark that its region carries, be it an old node or one
that was grafted on the way.
-/

namespace FoldTree.Tree

variable {tree : Tree} {remarks : List Remark} {plan more : List (NodeId × Remark)} {id : NodeId}

/-! ### Chains of remarks -/

/-- The region of a key carries a remark on the region of another. -/
def Carries (remarks : List Remark) (key other : Nat) : Prop :=
  ∃ remark ∈ remarks, remark.carrier = key ∧ remark.region.key = other

/-- Where no chain of remarks comes back to its start, regions can be ranked such that what they carry
ranks lower, with no more ranks than remarks beyond the lowest. Witness: the number of regions that
chains from a region come to.
-/
theorem exists_rank (acyclic : ∀ key, ¬Relation.TransGen (Carries remarks) key key)
    : ∃ rank : Nat → Nat,
        (∀ key other, Carries remarks key other → rank other < rank key)
        ∧ ∀ key, rank key ≤ remarks.length := by
  classical
  let regions := (remarks.map (·.region.key)).toFinset
  refine ⟨fun key => (regions.filter (Relation.TransGen (Carries remarks) key)).card, ?_, ?_⟩
  · intro key other carries
    refine Finset.card_lt_card (Finset.ssubset_iff_of_subset ?_ |>.mpr ⟨other, ?_, ?_⟩)
    · intro far member
      obtain ⟨inside, chain⟩ := Finset.mem_filter.mp member
      exact Finset.mem_filter.mpr ⟨inside, .head carries chain⟩
    · obtain ⟨remark, among, -, same⟩ := id carries
      refine Finset.mem_filter.mpr ⟨?_, .single carries⟩
      exact List.mem_toFinset.mpr (List.mem_map.mpr ⟨remark, among, same⟩)
    · -- a chain from the other region does not come to this region itself
      exact fun member => acyclic other (Finset.mem_filter.mp member).2
  · intro key
    refine (Finset.card_filter_le _ _).trans ((List.toFinset_card_le _).trans ?_)
    rw [List.length_map]

/-! ### The loop and the walk -/

/-- Grafting under way: the tree as it is by now, and the nodes that are pending. -/
structure Grafting where
  tree : Tree
  pending : List NodeId

/-- Grafts at the first node that is pending. The children that it has by then come before the others
that are.
-/
def Grafting.next (remarks : List Remark) (now : Grafting) : Grafting :=
  match now.pending with
  | [] => now
  | id :: rest =>
    let grown := graftAt remarks id now.tree
    ⟨grown, grown.childrenOf id ++ rest⟩

/-- The walk that grafts remarks. -/
def graftWalk (remarks : List Remark) (depth : Nat) (id : NodeId) (tree : Tree) : Tree :=
  (walk childrenOf (fun id () tree => ((), graftAt remarks id tree)) depth id () tree).2

/-- The walk grafts at a node and then goes through the children that this leaves it with. -/
theorem graftWalk_succ (depth : Nat) (id : NodeId) (tree : Tree)
    : graftWalk remarks (depth + 1) id tree
      = ((graftAt remarks id tree).childrenOf id).foldl
          (fun tree child => graftWalk remarks depth child tree) (graftAt remarks id tree) :=
  rfl

/-! ### What a plan leaves alone -/

/-- The key of the region of a node, if there is such a node. -/
def keyAt (tree : Tree) (id : NodeId) : Option Nat :=
  tree.nodes[id]?.map (·.region.key)

/-- What a node carries depends on the key of its region alone. -/
theorem carried_of_keyAt {other : Tree} (same : other.keyAt id = tree.keyAt id)
    : other.carried remarks id = tree.carried remarks id := by
  have carries (tree : Tree) : tree.carried remarks id
      = ((tree.keyAt id).map fun key => remarks.filter fun remark => remark.carrier == key).getD [] := by
    rw [carried, keyAt]
    cases tree.nodes[id]? <;> rfl
  rw [carries, carries, same]

/-- Nodes keep their regions. -/
theorem keyAt_graftAll (feasible : tree.Feasible plan) (old : id < tree.nodes.length)
    : (tree.graftAll plan).keyAt id = tree.keyAt id := by
  have found := List.getElem?_eq_getElem old
  rw [keyAt, keyAt, getElem?_graftAll_old feasible found, found]
  rfl

/-- A shape stays grown if the plan names none of its nodes, by induction on it. -/
theorem Grown.graftAll {shape : Rose NodeId} (grown : tree.Grown shape)
    (feasible : tree.Feasible plan)
    (apart : ∀ id ∈ shape.preorder, ∀ entry ∈ plan, entry.1 ≠ id)
    : (tree.graftAll plan).Grown shape := by
  induction grown with
  | @node id node below found children _ ih =>
      rw [Rose.preorder_node] at apart
      have here := getElem?_graftAll_old feasible found
      rw [leavesOf_eq_nil (apart id List.mem_cons_self), Node.extend_nil] at here
      refine .node here children fun branch inside => ih branch inside fun other member => ?_
      exact apart other (List.mem_cons_of_mem _ (List.mem_flatMap.mpr ⟨branch, inside, member⟩))

/-- The remarks that the nodes of several shapes carry, each with its node, in pre-order. -/
def planFor (remarks : List Remark) (tree : Tree) (row : List (Rose NodeId)) :
    List (NodeId × Remark) :=
  (row.flatMap Rose.preorder).flatMap fun id => (tree.carried remarks id).map (Prod.mk id)

/-- The plan for some nodes names just these. -/
theorem mem_planFor {row : List (Rose NodeId)} {entry : NodeId × Remark}
    (member : entry ∈ planFor remarks tree row)
    : entry.1 ∈ row.flatMap Rose.preorder := by
  obtain ⟨id, inside, member⟩ := List.mem_flatMap.mp member
  obtain ⟨remark, -, rfl⟩ := List.mem_map.mp member
  exact inside

/-- What nodes carry is not changed by grafting elsewhere, nor by grafting at them. -/
theorem planFor_graftAll (feasible : tree.Feasible plan) {row : List (Rose NodeId)}
    (grown : ∀ branch ∈ row, tree.Grown branch)
    : planFor remarks (tree.graftAll plan) row = planFor remarks tree row := by
  refine List.flatMap_congr fun id member => ?_
  obtain ⟨branch, inside, member⟩ := List.mem_flatMap.mp member
  obtain ⟨node, found⟩ := (grown branch inside).found member
  have old := (List.getElem?_eq_some_iff.mp found).1
  rw [carried_of_keyAt (keyAt_graftAll feasible old)]

/-! ### Rows -/

/-- The ids below a bound are those of the ids below a greater one. -/
theorem filter_lt_filter {less bound : Nat} (le : less ≤ bound) (ids : List NodeId)
    : (ids.filter (· < bound)).filter (· < less) = ids.filter (· < less) := by
  rw [List.filter_filter]
  refine List.filter_congr fun id _ => ?_
  rw [← Bool.decide_and]
  exact decide_eq_decide.mpr (and_iff_left_of_imp fun lt => Nat.lt_of_lt_of_le lt le)

/-- Several shapes are grown in a tree, no two of whose ids are the same. -/
structure Grove (tree : Tree) (row : List (Rose NodeId)) : Prop where
  grown : ∀ branch ∈ row, tree.Grown branch
  once : (row.flatMap Rose.preorder).Nodup

/-- The ids of grown shapes are those of nodes. -/
theorem Grove.lt {row : List (Rose NodeId)} (grove : tree.Grove row)
    : ∀ id ∈ row.flatMap Rose.preorder, id < tree.nodes.length := by
  intro id member
  obtain ⟨branch, inside, member⟩ := List.mem_flatMap.mp member
  obtain ⟨node, found⟩ := (grove.grown branch inside).found member
  exact (List.getElem?_eq_some_iff.mp found).1

/-- A shape whose ids are distinct is a grove of its own. -/
theorem Grown.grove {shape : Rose NodeId} (grown : tree.Grown shape) (once : shape.preorder.Nodup)
    : tree.Grove [shape] := by
  refine ⟨fun branch inside => List.mem_singleton.mp inside ▸ grown, ?_⟩
  rwa [List.flatMap_singleton]

/-- Grafting along several shapes has made others of them by a plan: the leaves of the plan hang below
the old roots, among ids that are in their old order, and the plan is just what the new shapes carry in
the end.
-/
structure Sprouts (remarks : List Remark) (tree : Tree) (row row' : List (Rose NodeId))
    (plan : List (NodeId × Remark)) : Prop where
  feasible : tree.Feasible plan
  roots : row'.map Rose.value = row.map Rose.value
  grown : ∀ branch ∈ row', (tree.graftAll plan).Grown branch
  ids : (row'.flatMap Rose.preorder).Perm
    (row.flatMap Rose.preorder ++ List.range' tree.nodes.length plan.length)
  old : (row'.flatMap Rose.preorder).filter (· < tree.nodes.length) = row.flatMap Rose.preorder
  follows : plan = planFor remarks (tree.graftAll plan) row'

section

variable {row row' next next' : List (Rose NodeId)}

/-- The plan names old nodes of the shapes, and new ones. -/
theorem Sprouts.named (sprouts : Sprouts remarks tree row row' plan)
    : ∀ entry ∈ plan, entry.1 ∈ row.flatMap Rose.preorder ∨ tree.nodes.length ≤ entry.1 := by
  intro entry member
  rw [sprouts.follows] at member
  rcases List.mem_append.mp (sprouts.ids.mem_iff.mp (mem_planFor member)) with old | new
  · exact Or.inl old
  · exact Or.inr (List.mem_range'_1.mp new).1

/-- Shapes beside those that are grafted along stay as they are. -/
theorem Sprouts.beside (sprouts : Sprouts remarks tree row row' plan) (grove : tree.Grove (row ++ next))
    : (tree.graftAll plan).Grove next := by
  have once := grove.once
  rw [List.flatMap_append] at once
  obtain ⟨-, once, apart⟩ := List.nodup_append.mp once
  refine ⟨fun branch inside => ?_, once⟩
  refine (grove.grown branch (List.mem_append_right _ inside)).graftAll sprouts.feasible ?_
  rintro id member entry among rfl
  have listed : entry.1 ∈ next.flatMap Rose.preorder := List.mem_flatMap.mpr ⟨branch, inside, member⟩
  rcases sprouts.named entry among with old | new
  · exact apart _ old _ listed rfl
  · have made := grove.lt entry.1 (by rw [List.flatMap_append]; exact List.mem_append_right _ listed)
    exact Nat.not_le_of_lt made new

/-- Grafting along shapes one after the other is grafting along all of them. -/
theorem Sprouts.append (first : Sprouts remarks tree row row' plan)
    (second : Sprouts remarks (tree.graftAll plan) next next' more) (grove : tree.Grove (row ++ next))
    : Sprouts remarks tree (row ++ next) (row' ++ next') (plan ++ more) := by
  have split : tree.graftAll (plan ++ more) = (tree.graftAll plan).graftAll more :=
    List.foldl_append
  have count := tree.length_graftAll plan
  have once := grove.once
  have made := grove.lt
  rw [List.flatMap_append] at once made
  obtain ⟨-, -, apart⟩ := List.nodup_append.mp once
  -- the second plan names none of the nodes that the first one leaves behind
  have clear : ∀ id ∈ row'.flatMap Rose.preorder, ∀ entry ∈ more, entry.1 ≠ id := by
    rintro _ member entry among rfl
    have old := first.ids.mem_iff.mp member
    rw [List.mem_append, List.mem_range'_1] at old
    rcases second.named entry among with later | new
    · have before := made entry.1 (List.mem_append_right _ later)
      rcases old with old | new
      · exact apart _ old _ later rfl
      · exact Nat.not_le_of_lt before new.1
    · rw [count] at new
      rcases old with old | old
      · have before := made entry.1 (List.mem_append_left _ old)
        exact Nat.not_le_of_lt (Nat.lt_add_right _ before) new
      · exact Nat.not_le_of_lt old.2 new
  refine ⟨feasible_append.mpr ⟨first.feasible, second.feasible⟩, ?_, ?_, ?_, ?_, ?_⟩
  · rw [List.map_append, List.map_append, first.roots, second.roots]
  · rw [split]
    intro branch inside
    rcases List.mem_append.mp inside with left | right
    · refine (first.grown branch left).graftAll second.feasible fun id member => ?_
      exact clear id (List.mem_flatMap.mpr ⟨branch, left, member⟩)
    · exact second.grown branch right
  · have numbers := List.range'_append_1 (s := tree.nodes.length) (m := plan.length)
      (n := more.length)
    rw [List.flatMap_append, List.flatMap_append, List.length_append, ← numbers, ← count]
    refine (first.ids.append second.ids).trans ?_
    rw [List.append_assoc, List.append_assoc]
    exact (List.perm_append_comm_assoc _ _ _).append_left _
  · have longer : tree.nodes.length ≤ (tree.graftAll plan).nodes.length := by
      rw [count]
      exact Nat.le_add_right _ _
    rw [List.flatMap_append, List.flatMap_append, List.filter_append, first.old,
      ← filter_lt_filter longer, second.old, List.filter_eq_self.mpr]
    exact fun id member => decide_eq_true (made id (List.mem_append_right _ member))
  · rw [split, planFor, List.flatMap_append, List.flatMap_append]
    refine congrArg₂ (· ++ ·) ?_ second.follows
    exact first.follows.trans (planFor_graftAll second.feasible first.grown).symm

end

/-! ### One node -/

/-- Nodes of consecutive ids that have no children, as shapes beside each other. -/
def leafRow (first count : Nat) : List (Rose NodeId) :=
  (List.range' first count).map fun leaf => .node leaf []

/-- The ids of a row of leaves. -/
@[simp]
theorem preorder_leafRow (first count : Nat)
    : (leafRow first count).flatMap Rose.preorder = List.range' first count := by
  rw [leafRow, List.flatMap_map]
  exact List.flatMap_singleton' _

/-- Each leaf of a row is its own root. -/
@[simp]
theorem value_leafRow (first count : Nat)
    : (leafRow first count).map Rose.value = List.range' first count := by
  rw [leafRow, List.map_map]
  exact List.map_id _

/-- The remarks that a node carries, as a plan. -/
def ownPlan (remarks : List Remark) (tree : Tree) (id : NodeId) : List (NodeId × Remark) :=
  (tree.carried remarks id).map (Prod.mk id)

/-- Grafting at a node is grafting by the plan of what it carries. -/
theorem graftAt_eq (remarks : List Remark) (tree : Tree) (id : NodeId)
    : graftAt remarks id tree = tree.graftAll (ownPlan remarks tree id) := by
  rw [graftAt, graftAll, ownPlan, List.foldl_map]

section

variable {below : List (Rose NodeId)} {node : Node} (found : tree.nodes[id]? = some node)
include found

/-- A node can carry out its own plan. -/
theorem feasible_ownPlan : tree.Feasible (ownPlan remarks tree id) := by
  refine feasible_of_made fun entry member => ?_
  obtain ⟨remark, -, rfl⟩ := List.mem_map.mp member
  exact (List.getElem?_eq_some_iff.mp found).1

/-- A node that is grafted at gets the next ids as children. -/
theorem getElem?_ownPlan
    : (tree.graftAll (ownPlan remarks tree id)).nodes[id]?
      = some (node.extend (List.range' tree.nodes.length (ownPlan remarks tree id).length)) := by
  rw [getElem?_graftAll_old (feasible_ownPlan found) found, ownPlan, leavesOf_block, List.length_map]

/-- The new children of a node that is grafted at have no children, and the regions of what it
carries.
-/
theorem exists_leaf_ownPlan {leaf : NodeId}
    (new : leaf ∈ List.range' tree.nodes.length (ownPlan remarks tree id).length)
    : ∃ remark ∈ tree.carried remarks id,
        (tree.graftAll (ownPlan remarks tree id)).nodes[leaf]?
          = some (.fresh tree.source leaf remark.region remark.terms (some id)) := by
  have older := (List.getElem?_eq_some_iff.mp found).1
  rw [List.mem_range'_1] at new
  obtain ⟨i, rfl⟩ := Nat.exists_eq_add_of_le new.1
  have within := Nat.lt_of_add_lt_add_left new.2
  have member : ((ownPlan remarks tree id)[i], tree.nodes.length + i)
      ∈ (ownPlan remarks tree id).zipIdx tree.nodes.length := by
    rw [List.mk_add_mem_zipIdx_iff_getElem?, List.getElem?_eq_getElem within]
  obtain ⟨remark, own, same⟩ := List.mem_map.mp (List.getElem_mem within)
  have there := getElem?_graftAll_leaf (feasible_ownPlan found) member
  rw [← same, leavesOf_eq_nil, Node.extend_nil] at there
  · exact ⟨remark, own, there⟩
  · intro entry among
    obtain ⟨remark, -, rfl⟩ := List.mem_map.mp among
    exact Nat.ne_of_lt (Nat.lt_of_lt_of_le older new.1)

variable (grove : tree.Grove [.node id below])
include grove

/-- A node that is grafted at leaves its branches as they are, with leaves behind them. -/
theorem grove_ownPlan
    : (tree.graftAll (ownPlan remarks tree id)).Grove
        (below ++ leafRow tree.nodes.length (ownPlan remarks tree id).length) := by
  have once := grove.once
  have made := grove.lt
  rw [List.flatMap_singleton, Rose.preorder_node] at once made
  obtain ⟨apart, once⟩ := List.nodup_cons.mp once
  constructor
  · intro branch inside
    rcases List.mem_append.mp inside with old | new
    · have grown : tree.Grown branch := by
        cases grove.grown _ List.mem_cons_self with
        | node _ _ grown => exact grown branch old
      refine grown.graftAll (feasible_ownPlan found) ?_
      rintro other member entry among rfl
      obtain ⟨remark, -, rfl⟩ := List.mem_map.mp among
      exact apart (List.mem_flatMap.mpr ⟨branch, old, member⟩)
    · obtain ⟨leaf, fresh, rfl⟩ := List.mem_map.mp new
      obtain ⟨remark, -, there⟩ := exists_leaf_ownPlan found fresh
      exact .leaf there rfl
  · rw [List.flatMap_append, preorder_leafRow]
    refine List.nodup_append.mpr ⟨once, List.nodup_range', ?_⟩
    rintro other old _ new rfl
    exact Nat.not_le_of_lt (made other (List.mem_cons_of_mem _ old)) (List.mem_range'_1.mp new).1

/-- Grafting at a node, and then along what hangs from it by then, is grafting along its shape. -/
theorem Sprouts.fromNode {row' : List (Rose NodeId)} (children : node.children = below.map Rose.value)
    (sprouts : Sprouts remarks (tree.graftAll (ownPlan remarks tree id))
      (below ++ leafRow tree.nodes.length (ownPlan remarks tree id).length) row' more)
    : Sprouts remarks tree [.node id below] [.node id row'] (ownPlan remarks tree id ++ more) := by
  have feasible : tree.Feasible (ownPlan remarks tree id) := feasible_ownPlan found
  have older := (List.getElem?_eq_some_iff.mp found).1
  have split : tree.graftAll (ownPlan remarks tree id ++ more)
      = (tree.graftAll (ownPlan remarks tree id)).graftAll more :=
    List.foldl_append
  have count := tree.length_graftAll (ownPlan remarks tree id)
  -- nothing more is planned for the node itself
  have apart : ∀ entry ∈ more, entry.1 ≠ id := by
    rintro entry among rfl
    have once := grove.once
    rw [List.flatMap_singleton, Rose.preorder_node] at once
    rcases sprouts.named entry among with listed | new
    · rw [List.flatMap_append, preorder_leafRow] at listed
      rcases List.mem_append.mp listed with inner | leaf
      · exact (List.nodup_cons.mp once).1 inner
      · exact Nat.not_le_of_lt older (List.mem_range'_1.mp leaf).1
    · rw [count] at new
      exact Nat.not_le_of_lt (Nat.lt_add_right _ older) new
  refine ⟨feasible_append.mpr ⟨feasible, sprouts.feasible⟩, rfl, ?_, ?_, ?_, ?_⟩
  · intro branch inside
    cases List.mem_singleton.mp inside
    have here := getElem?_graftAll_old sprouts.feasible (getElem?_ownPlan found)
    rw [leavesOf_eq_nil apart, Node.extend_nil] at here
    rw [split]
    refine .node here ?_ sprouts.grown
    rw [sprouts.roots, List.map_append, value_leafRow, ← children]
    rfl
  · have numbers := List.range'_append_1 (s := tree.nodes.length)
      (m := (ownPlan remarks tree id).length) (n := more.length)
    rw [List.flatMap_singleton, List.flatMap_singleton, Rose.preorder_node, Rose.preorder_node,
      List.length_append, ← numbers, ← count, List.cons_append]
    refine .cons id (sprouts.ids.trans (.of_eq ?_))
    rw [List.flatMap_append, preorder_leafRow, List.append_assoc]
  · have longer : tree.nodes.length ≤ (tree.graftAll (ownPlan remarks tree id)).nodes.length := by
      rw [count]
      exact Nat.le_add_right _ _
    have inner : (below.flatMap Rose.preorder).filter (· < tree.nodes.length)
        = below.flatMap Rose.preorder := by
      refine List.filter_eq_self.mpr fun other member => decide_eq_true (grove.lt other ?_)
      rw [List.flatMap_singleton, Rose.preorder_node]
      exact List.mem_cons_of_mem _ member
    have leaves : (List.range' tree.nodes.length (ownPlan remarks tree id).length).filter
        (· < tree.nodes.length) = [] := by
      refine List.filter_eq_nil_iff.mpr fun other member less => ?_
      exact Nat.not_le_of_lt (of_decide_eq_true less) (List.mem_range'_1.mp member).1
    rw [List.flatMap_singleton, List.flatMap_singleton, Rose.preorder_node, Rose.preorder_node,
      List.filter_cons, if_pos (decide_eq_true older), ← filter_lt_filter longer, sprouts.old,
      List.flatMap_append, preorder_leafRow, List.filter_append, inner, leaves, List.append_nil]
  · have made : id < (tree.graftAll (ownPlan remarks tree id)).nodes.length := by
      rw [count]
      exact Nat.lt_add_right _ older
    have carries : (tree.graftAll (ownPlan remarks tree id ++ more)).carried remarks id
        = tree.carried remarks id := by
      rw [split]
      refine carried_of_keyAt ((keyAt_graftAll sprouts.feasible made).trans ?_)
      exact keyAt_graftAll feasible older
    rw [planFor, List.flatMap_singleton, Rose.preorder_node, List.flatMap_cons, carries, split]
    exact congrArg _ sprouts.follows

end

/-! ### The walk -/

/-- A walk along several shapes grafts by a plan, and so does the loop, which goes to each of the nodes
that hang there in the end just once before it comes to anything else.
-/
structure Walks (remarks : List Remark) (depth : Nat) (tree : Tree) (row row' : List (Rose NodeId))
    (plan : List (NodeId × Remark)) : Prop extends Sprouts remarks tree row row' plan where
  walked : (row.map Rose.value).foldl (fun tree child => graftWalk remarks depth child tree) tree
    = tree.graftAll plan
  looped : ∀ rest, (Grafting.next remarks)^[(row'.flatMap Rose.preorder).length]
      ⟨tree, row.map Rose.value ++ rest⟩
    = ⟨tree.graftAll plan, rest⟩

/-- There is nothing to do along no shapes. -/
theorem Walks.nil (remarks : List Remark) (depth : Nat) (tree : Tree)
    : Walks remarks depth tree [] [] [] where
  feasible _ none := absurd none List.not_mem_nil
  roots := rfl
  grown _ none := absurd none List.not_mem_nil
  ids := .refl _
  old := rfl
  follows := rfl
  walked := rfl
  looped _ := rfl

/-- A walk along shapes and then along others is one along all of them. -/
theorem Walks.append {depth : Nat} {row row' next next' : List (Rose NodeId)}
    (first : Walks remarks depth tree row row' plan)
    (second : Walks remarks depth (tree.graftAll plan) next next' more)
    (grove : tree.Grove (row ++ next))
    : Walks remarks depth tree (row ++ next) (row' ++ next') (plan ++ more) where
  toSprouts := first.toSprouts.append second.toSprouts grove
  walked := by
    rw [List.map_append, List.foldl_append, first.walked, second.walked]
    exact List.foldl_append.symm
  looped rest := by
    rw [List.map_append, List.flatMap_append, List.length_append, Nat.add_comm,
      Function.iterate_add_apply, List.append_assoc, first.looped, second.looped]
    exact congrArg (Grafting.mk · rest) List.foldl_append.symm

/-- A walk that grafts at a node and goes on along what hangs from it then is one along its shape. -/
theorem Walks.fromNode {depth : Nat} {below row' : List (Rose NodeId)} {node : Node}
    (found : tree.nodes[id]? = some node) (children : node.children = below.map Rose.value)
    (grove : tree.Grove [.node id below])
    (walks : Walks remarks depth (tree.graftAll (ownPlan remarks tree id))
      (below ++ leafRow tree.nodes.length (ownPlan remarks tree id).length) row' more)
    : Walks remarks (depth + 1) tree [.node id below] [.node id row']
        (ownPlan remarks tree id ++ more) := by
  have links : (graftAt remarks id tree).childrenOf id
      = (below ++ leafRow tree.nodes.length (ownPlan remarks tree id).length).map Rose.value := by
    rw [graftAt_eq, childrenOf, getElem?_ownPlan found, List.map_append, value_leafRow, ← children]
    rfl
  refine ⟨walks.toSprouts.fromNode found grove children, ?_, fun rest => ?_⟩
  · rw [List.map_singleton, List.foldl_cons, List.foldl_nil, Rose.value, graftWalk_succ, links,
      graftAt_eq, walks.walked]
    exact List.foldl_append.symm
  · have step : Grafting.next remarks ⟨tree, id :: rest⟩
        = ⟨graftAt remarks id tree, (graftAt remarks id tree).childrenOf id ++ rest⟩ := rfl
    rw [List.flatMap_singleton, Rose.preorder_node, List.length_cons, Function.iterate_succ_apply,
      List.map_singleton, Rose.value, List.singleton_append, step, links, graftAt_eq, walks.looped]
    exact congrArg (Grafting.mk · rest) List.foldl_append.symm

/-- A walk to a depth comes to the end of all chains that start in a shape, where the ranks of its
regions bound the lengths of the chains.
-/
def Fits (rank : Nat → Nat) (tree : Tree) (depth : Nat) (shape : Rose NodeId) : Prop :=
  ∃ bound,
    shape.size + bound ≤ depth
    ∧ ∀ id ∈ shape.preorder, ∀ key, tree.keyAt id = some key → rank key ≤ bound

section

variable {rank : Nat → Nat} {depth : Nat}

/-- Chains from old nodes are as long as they were. -/
theorem Fits.graftAll {shape : Rose NodeId} (fits : Fits rank tree depth shape)
    (feasible : tree.Feasible plan) (grown : tree.Grown shape)
    : Fits rank (tree.graftAll plan) depth shape := by
  obtain ⟨bound, deep, low⟩ := fits
  refine ⟨bound, deep, fun id member key has => low id member key ?_⟩
  obtain ⟨node, found⟩ := grown.found member
  rwa [keyAt_graftAll feasible (List.getElem?_eq_some_iff.mp found).1] at has

/-- What hangs from a node that is grafted at fits one level less: there are smaller shapes, and leaves
with shorter chains.
-/
theorem Fits.inner {below : List (Rose NodeId)} {node : Node} (found : tree.nodes[id]? = some node)
    (lower : ∀ key other, Carries remarks key other → rank other < rank key)
    (grove : tree.Grove [.node id below]) (fits : Fits rank tree (depth + 1) (.node id below))
    : ∀ branch ∈ below ++ leafRow tree.nodes.length (ownPlan remarks tree id).length,
        Fits rank (tree.graftAll (ownPlan remarks tree id)) depth branch := by
  have feasible : tree.Feasible (ownPlan remarks tree id) := feasible_ownPlan found
  obtain ⟨bound, deep, low⟩ := fits
  intro branch inside
  rcases List.mem_append.mp inside with old | new
  · have smaller := Rose.size_branch_lt (a := id) old
    have grown : tree.Grown branch := by
      cases grove.grown _ List.mem_cons_self with
      | node _ _ grown => exact grown branch old
    refine Fits.graftAll ⟨bound, by omega, fun other member => low other ?_⟩ feasible grown
    rw [Rose.preorder_node]
    exact List.mem_cons_of_mem _ (List.mem_flatMap.mpr ⟨branch, old, member⟩)
  · obtain ⟨leaf, fresh, rfl⟩ := List.mem_map.mp new
    obtain ⟨remark, own, there⟩ := exists_leaf_ownPlan found fresh
    have carries : Carries remarks node.region.key remark.region.key := by
      rw [carried, found] at own
      obtain ⟨among, carrier⟩ := List.mem_filter.mp own
      exact ⟨remark, among, beq_iff_eq.mp carrier, rfl⟩
    have less := lower _ _ carries
    have most := low id (Rose.value_mem_preorder _) node.region.key (by rw [keyAt, found]; rfl)
    have filled : 1 ≤ (Rose.node id below).size := List.length_pos_of_mem (Rose.value_mem_preorder _)
    have single : (Rose.node leaf []).size = 1 := rfl
    refine ⟨rank remark.region.key, by omega, fun other member key has => ?_⟩
    cases List.mem_singleton.mp member
    rw [keyAt, there] at has
    cases has
    exact Nat.le_refl _

/-- A walk along shapes that fit its depth grafts by a plan. Witness: induction on the depth, and for
each depth on the shapes.
-/
theorem exists_walks (lower : ∀ key other, Carries remarks key other → rank other < rank key)
    {row : List (Rose NodeId)} (grove : tree.Grove row)
    (fits : ∀ branch ∈ row, Fits rank tree depth branch)
    : ∃ row' plan, Walks remarks depth tree row row' plan := by
  induction depth generalizing tree row with
  | zero =>
      cases row with
      | nil => exact ⟨[], [], .nil remarks 0 tree⟩
      | cons shape rest =>
          obtain ⟨bound, deep, -⟩ := fits shape List.mem_cons_self
          have filled : 1 ≤ shape.size := List.length_pos_of_mem shape.value_mem_preorder
          omega
  | succ depth ih =>
      induction row generalizing tree with
      | nil => exact ⟨[], [], .nil remarks _ tree⟩
      | cons shape rest later =>
          have grown := grove.grown shape List.mem_cons_self
          have once := grove.once
          rw [List.flatMap_cons] at once
          have single := grown.grove (List.nodup_append.mp once).1
          have fit := fits shape List.mem_cons_self
          cases grown with
          | @node id node below found children _ =>
              -- what hangs from the first shape by then is walked before the other shapes
              obtain ⟨row', plan, inner⟩ := ih (grove_ownPlan found single)
                (fit.inner found lower single)
              have first := inner.fromNode found children single
              obtain ⟨rest', plan', second⟩ := later (first.beside grove) fun branch inside =>
                (fits branch (List.mem_cons_of_mem _ inside)).graftAll first.feasible
                  (grove.grown branch (List.mem_cons_of_mem _ inside))
              exact ⟨_, _, first.append second grove⟩

end

/-- Where no chain of remarks comes back to its start, grafting from the root on ends. Witness: chains are
no longer than there are remarks, and no path is longer than there are nodes.
-/
theorem Grown.addNodes_walks {shape : Rose NodeId} (grown : tree.Grown shape)
    (once : shape.preorder.Nodup) (root : tree.root = some shape.value)
    (acyclic : ∀ key, ¬Relation.TransGen (Carries remarks) key key)
    : ∃ shape' plan depth,
        Walks remarks depth tree [shape] [shape'] plan
        ∧ tree.addNodes remarks = .ok (tree.graftAll plan) := by
  obtain ⟨rank, lower, most⟩ := exists_rank acyclic
  have fits : Fits rank tree (tree.nodes.length + remarks.length) shape :=
    ⟨remarks.length, Nat.add_le_add_right (grown.size_le once) _, fun _ _ key _ => most key⟩
  obtain ⟨row', plan, walks⟩ := exists_walks lower (grown.grove once) fun branch inside =>
    List.mem_singleton.mp inside ▸ fits
  obtain ⟨shape', rfl⟩ : ∃ shape', row' = [shape'] := by
    have roots := congrArg List.length walks.roots
    rw [List.length_map, List.length_map, List.length_singleton] at roots
    exact List.length_eq_one_iff.mp roots
  refine ⟨shape', plan, _, walks, ?_⟩
  rw [← walks.walked, addNodes, rootId, root]
  rfl

/-- Over a finite tree and remarks among which no chain comes back to its start, grafting ends: the loop
goes once through every node that the root reaches in the end, and then nothing is pending. By then
every such node, old or grafted on the way, has got one new child for each remark that its region
carries, in the order of the remarks and behind the children that it had; each is new and wraps the
region of its remark with the terms. The new ids count up from the number of the old ones through the
parents in pre-order, so that nothing else is made, and all that old nodes have besides their new
children is what they had.
-/
theorem Forms.addNodes_sprouts {shape : Rose NodeId} (forms : tree.Forms shape)
    (acyclic : ∀ key, ¬Relation.TransGen (Carries remarks) key key)
    : ∃ (full : Tree) (grown : Rose NodeId) (news : NodeId → List NodeId),
        tree.addNodes remarks = .ok full
        ∧ (Grafting.next remarks)^[grown.preorder.length] ⟨tree, [shape.value]⟩ = ⟨full, []⟩
        ∧ full.Forms grown
        ∧ full = { tree with nodes := full.nodes }
        ∧ tree.nodes.length ≤ full.nodes.length
        ∧ grown.preorder.flatMap news
          = List.range' tree.nodes.length (full.nodes.length - tree.nodes.length)
        ∧ (∀ id, id ∉ grown.preorder → news id = [])
        ∧ (∀ (id : NodeId) (node : Node),
            tree.nodes[id]? = some node → full.nodes[id]? = some (node.extend (news id)))
        ∧ ∀ id ∈ grown.preorder,
            ∀ node,
              full.nodes[id]? = some node
              → List.Forall₂
                  (fun leaf remark =>
                    full.nodes[leaf]?
                    = some ((Node.fresh tree.source leaf remark.region remark.terms
                        (some id)).extend (news leaf)))
                  (news id)
                  (remarks.filter fun remark => remark.carrier == node.region.key) := by
  obtain ⟨grown, plan, depth, walks, added⟩ := forms.grown.addNodes_walks forms.once forms.root acyclic
  have count := tree.length_graftAll plan
  have value : grown.value = shape.value := by simpa using walks.roots
  have looped := walks.looped []
  have ids := walks.ids
  have follows := walks.follows
  simp only [planFor, List.flatMap_singleton] at looped ids follows
  have once : grown.preorder.Nodup := by
    refine ids.nodup_iff.mpr (List.nodup_append.mpr ⟨forms.once, List.nodup_range', ?_⟩)
    rintro id old _ new rfl
    have made := (forms.grown.grove forms.once).lt id (by rwa [List.flatMap_singleton])
    exact Nat.not_le_of_lt made (List.mem_range'_1.mp new).1
  have numbers := flatMap_leavesOf once (fun id => (tree.graftAll plan).carried remarks id)
    tree.nodes.length
  refine ⟨tree.graftAll plan, grown, leavesOf plan tree.nodes.length, added, looped, ?_,
    graftAll_frame tree plan, ?_, ?_, ?_, ?_, ?_⟩
  · refine ⟨?_, walks.grown grown List.mem_cons_self, once, forms.numbered.graftAll walks.feasible⟩
    rw [graftAll_frame, value]
    exact forms.root
  · rw [count]
    exact Nat.le_add_right _ _
  · dsimp only at numbers
    rw [← follows] at numbers
    rw [numbers, count, Nat.add_sub_cancel_left]
  · intro id absent
    refine leavesOf_eq_nil (fun entry member same => absent ?_) _
    rw [walks.follows] at member
    have listed := mem_planFor member
    rw [List.flatMap_singleton, same] at listed
    exact listed
  · exact fun id node found => getElem?_graftAll_old walks.feasible found
  · intro id member node found
    have own : (plan.filter fun entry => entry.1 == id).map Prod.snd
        = remarks.filter fun remark => remark.carrier == node.region.key := by
      have block := filter_plan once (fun id => (tree.graftAll plan).carried remarks id) member
      rw [← follows] at block
      rw [block, carried, found]
    rw [← own]
    refine (leavesOf_forall₂ plan tree.nodes.length id).imp fun leaf remark planned => ?_
    exact getElem?_graftAll_leaf walks.feasible planned

/-- Three nodes: a root over two that wrap the same region. -/
def twins : Tree :=
  let region (key : Nat) : Region := ⟨key, 0, 1, "block", none, []⟩
  let skeleton : Rose Region := .node (region 0) [.node (region 1) [], .node (region 1) []]
  (growSkeleton (empty ['a'] ⟨[], [['a']]⟩) skeleton).setRoot 0

/-- Four remarks: one on the region of two nodes, one on the region of the first remark, one on the
region of the root, and one on no region of a node or a remark.
-/
def chained : List Remark :=
  let region (key : Nat) : Region := ⟨key, 0, 1, "comment", none, []⟩
  [⟨region 5, 1, ["a"]⟩, ⟨region 6, 5, ["b", "b"]⟩, ⟨region 7, 0, []⟩, ⟨region 9, 8, []⟩]

/-- The root is grafted at first and gets the next id. Then come the two nodes below it, each with a child
that has a child of its own, so that five nodes are made, and the loop goes through eight.
-/
theorem twins_addNodes_sprouts
    : twins.Forms (.node 0 [.node 1 [], .node 2 []])
      ∧ (∀ key, ¬Relation.TransGen (Carries chained) key key)
      ∧ ∃ (full : Tree) (grown : Rose NodeId) (news : NodeId → List NodeId),
          twins.addNodes chained = .ok full
          ∧ (Grafting.next chained)^[grown.preorder.length] ⟨twins, [0]⟩ = ⟨full, []⟩
          ∧ full.Forms grown
          ∧ full.nodes.map (·.children) = [[1, 2, 3], [4], [6], [], [5], [], [7], []]
          ∧ grown.preorder.flatMap news = [3, 4, 5, 6, 7]
          ∧ full.nodes[0]? = some (twins.nodes[0].extend (news 0)) := by
  have forms : twins.Forms (.node 0 [.node 1 [], .node 2 []]) := by
    refine ⟨rfl, .node rfl rfl ?_, by decide, numbered_of_map_id (by decide)⟩
    simpa using ⟨.leaf rfl rfl, .leaf rfl rfl⟩
  have acyclic : ∀ key, ¬Relation.TransGen (Carries chained) key key := by
    -- every remark stands for a region of a greater key than the one that carries it
    have rises : ∀ remark ∈ chained, remark.carrier < remark.region.key := by decide
    have onward {key other : Nat} (chain : Relation.TransGen (Carries chained) key other)
        : key < other := by
      induction chain with
      | single carries =>
          obtain ⟨remark, member, rfl, rfl⟩ := carries
          exact rises remark member
      | tail _ carries ih =>
          obtain ⟨remark, member, rfl, rfl⟩ := carries
          exact ih.trans (rises remark member)
    exact fun key chain => Nat.lt_irrefl key (onward chain)
  obtain ⟨full, grown, news, added, looped, forms', -, -, numbers, -, old, -⟩ :=
    forms.addNodes_sprouts acyclic
  have known : (twins.addNodes chained).toOption.map (fun full => full.nodes.map (·.children))
      = some [[1, 2, 3], [4], [6], [], [5], [], [7], []] := by
    decide +kernel
  rw [added] at known
  have children := Option.some.inj known
  have count : full.nodes.length = 8 := by simpa using congrArg List.length children
  rw [count] at numbers
  exact ⟨forms, acyclic, full, grown, news, added, looped, forms', children, numbers, old 0 _ rfl⟩

end FoldTree.Tree
