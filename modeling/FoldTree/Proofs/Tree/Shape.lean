import FoldTree.Proofs.Hanging
import FoldTree.Tree.Walk

/-! Finite fold trees. The links of a tree's nodes may run anywhere; where they lead from the root
to every node by one path only, the ids that the root reaches form a rose tree, and all walks from
the root follow that shape.
-/

namespace FoldTree.Tree

variable {tree : Tree} {shape : Rose NodeId}

/-- A shape of ids is what the tree's links lead to from its root id on. -/
inductive Grown (tree : Tree) : Rose NodeId → Prop
  | node {id : NodeId} {node : Node} {below : List (Rose NodeId)}
    (found : tree.nodes[id]? = some node) (children : node.children = below.map Rose.value)
    (grown : ∀ branch ∈ below, Grown tree branch)
    : Grown tree (.node id below)

/-- Every node carries the id of its place. -/
def Numbered (tree : Tree) : Prop :=
  ∀ (id : NodeId) (node : Node), tree.nodes[id]? = some node → node.id = id

/-- A tree is numbered if the ids of its nodes count up from zero. -/
theorem numbered_of_map_id (ids : tree.nodes.map Node.id = List.range tree.nodes.length)
    : tree.Numbered := by
  intro id node found
  have place := congrArg (fun all => all[id]?) ids
  have bound := (List.getElem?_eq_some_iff.mp found).1
  simpa [List.getElem?_map, found, List.getElem?_range bound] using place

/-- The nodes that the root reaches form a finite tree of a given shape: each is reached once, and
carries the id by which it is reached.
-/
structure Forms (tree : Tree) (shape : Rose NodeId) : Prop where
  root : tree.root = some shape.value
  grown : tree.Grown shape
  once : shape.preorder.Nodup
  numbered : tree.Numbered

/-- A node without children is a shape of its own. -/
theorem Grown.leaf {id : NodeId} {node : Node} (found : tree.nodes[id]? = some node)
    (children : node.children = [])
    : tree.Grown (.node id []) :=
  .node found children (by simp)

/-- A grown shape stays grown with new leaves, where these are the nodes' new children. Witness:
induction on the shape.
-/
theorem Grown.hang {other : Tree} {more : NodeId → List NodeId} (grown : tree.Grown shape)
    (kept : ∀ id ∈ shape.preorder,
      ∀ node,
        tree.nodes[id]? = some node
        → ∃ node',
            other.nodes[id]? = some node'
            ∧ node'.children = node.children ++ more id)
    (leaves : ∀ id ∈ shape.preorder,
      ∀ leaf ∈ more id,
        ∃ node, other.nodes[leaf]? = some node ∧ node.children = [])
    : other.Grown (shape.hang more) := by
  induction grown with
  | @node id node below found children _ ih =>
      rw [Rose.preorder_node] at kept leaves
      obtain ⟨node', found', children'⟩ := kept id List.mem_cons_self node found
      rw [Rose.hang_node]
      refine .node found' ?_ fun branch member => ?_
      · have values : below.map (Rose.value ∘ Rose.hang more) = below.map Rose.value :=
          List.map_congr_left fun branch _ => Rose.value_hang more branch
        have same : (more id).map (Rose.value ∘ fun leaf => .node leaf []) = more id :=
          List.map_id _
        rw [children', children, List.map_append, List.map_map, List.map_map, values, same]
      · rcases List.mem_append.mp member with inner | leaf
        · obtain ⟨branch, inside, rfl⟩ := List.mem_map.mp inner
          have under (id : NodeId) (member : id ∈ branch.preorder)
              : id ∈ below.flatMap Rose.preorder :=
            List.mem_flatMap.mpr ⟨branch, inside, member⟩
          exact ih branch inside
            (fun id member => kept id (List.mem_cons_of_mem _ (under id member)))
            fun id member => leaves id (List.mem_cons_of_mem _ (under id member))
        · obtain ⟨new, inside, rfl⟩ := List.mem_map.mp leaf
          obtain ⟨node, found, bare⟩ := leaves id List.mem_cons_self new inside
          exact .leaf found bare

/-- Every id of a grown shape has a node, by induction on the shape. -/
theorem Grown.found (grown : tree.Grown shape) {id : NodeId} (member : id ∈ shape.preorder)
    : ∃ node, tree.nodes[id]? = some node := by
  induction grown with
  | node found _ _ ih =>
      rw [Rose.preorder_node] at member
      rcases List.mem_cons.mp member with rfl | below
      · exact ⟨_, found⟩
      · obtain ⟨branch, inside, member⟩ := List.mem_flatMap.mp below
        exact ih branch inside member

/-- A shape of distinct ids has no more of them than the tree has nodes. -/
theorem Grown.size_le (grown : tree.Grown shape) (once : shape.preorder.Nodup)
    : shape.size ≤ tree.nodes.length := by
  have included : shape.preorder ⊆ List.range tree.nodes.length := by
    intro id member
    obtain ⟨node, found⟩ := grown.found member
    exact List.mem_range.mpr (List.getElem?_eq_some_iff.mp found).1
  simpa [Rose.size] using once.length_le_of_subset included

/-- Following the links to a depth that a shape does not exceed gives the shape back. The depth is
counted by the number of ids, which is at least the number of levels.
-/
theorem Grown.below_eq (grown : tree.Grown shape) {depth : Nat} (bound : shape.size ≤ depth + 1)
    : tree.below depth shape.value = shape := by
  induction depth generalizing shape with
  | zero =>
      cases grown with
      | @node id node below found children grown =>
          cases below with
          | nil => rfl
          | cons branch rest =>
              have smaller := Rose.size_branch_lt (a := id)
                (List.mem_cons_self : branch ∈ branch :: rest)
              have some := List.length_pos_of_mem branch.value_mem_preorder
              simp only [Rose.size] at *
              omega
  | succ depth ih =>
      cases grown with
      | @node id node below found children grown =>
          have step : below.map (fun branch => tree.below depth branch.value) = below := by
            refine (List.map_congr_left ?_).trans (List.map_id' below)
            intro branch member
            have smaller := Rose.size_branch_lt (a := id) member
            exact ih (grown branch member) (by omega)
          simp only [Rose.value, Tree.below, childrenOf, found, children, List.map_map]
          simpa [Function.comp_def] using step

/-- The subtree at the root of a tree is its shape. -/
theorem Forms.subtree_eq (forms : tree.Forms shape) : tree.subtree shape.value = shape :=
  forms.grown.below_eq (Nat.le_succ_of_le (forms.grown.size_le forms.once))

end FoldTree.Tree
