import FoldTree.Proofs.Offer.Failing

/-! Trees with marks. A mark unfolds one node and changes nothing else: terms, links and places of all
nodes are those from before, so that the tree keeps its shape.
-/

namespace FoldTree.Tree

variable {tree : Tree} {shape : Rose NodeId} {marks : List NodeId} {id : NodeId}

/-- Marks change the fold flags of the nodes that they name, by induction on them. -/
theorem getElem?_mark (tree : Tree) (marks : List NodeId) (id : NodeId)
    : (tree.mark marks).nodes[id]?
      = tree.nodes[id]?.map fun node =>
          { node with unfolded := node.unfolded || decide (id ∈ marks) } := by
  induction marks generalizing tree with
  | nil => simp [mark]
  | cons first rest ih =>
      have later := ih (tree.setUnfolded first)
      rw [getElem?_setUnfolded] at later
      refine later.trans ?_
      cases tree.nodes[id]? with
      | none => rfl
      | some node =>
          by_cases here : first = id
          · simp [here]
          · simp [here, Ne.symm here]

/-- Marks keep the file, by induction on them. -/
theorem file_mark (tree : Tree) (marks : List NodeId) : (tree.mark marks).file = tree.file := by
  induction marks generalizing tree with
  | nil => rfl
  | cons first rest ih => exact ih (tree.setUnfolded first)

/-- Marks make no node, by induction on them. -/
theorem length_mark (tree : Tree) (marks : List NodeId)
    : (tree.mark marks).nodes.length = tree.nodes.length := by
  induction marks generalizing tree with
  | nil => rfl
  | cons first rest ih => exact (ih (tree.setUnfolded first)).trans (List.length_modify _ _ _)

/-- Marks keep all terms. -/
theorem termsAt_mark (tree : Tree) (marks : List NodeId) (id : NodeId)
    : (tree.mark marks).termsAt id = tree.termsAt id := by
  simp only [termsAt, getElem?_mark]
  cases tree.nodes[id]? <;> rfl

/-- A node is folded under marks if it was before and is not marked. -/
theorem folded_mark (tree : Tree) (marks : List NodeId) (id : NodeId)
    : (tree.mark marks).folded id = (tree.folded id && decide (id ∉ marks)) := by
  simp only [folded, getElem?_mark]
  cases tree.nodes[id]? with
  | none => rfl
  | some node => simp

/-- Marks keep the shape of a tree. -/
theorem Forms.mark (forms : tree.Forms shape) (marks : List NodeId)
    : (tree.mark marks).Forms shape :=
  forms.of_faces (tree.mark_faces marks).2 (tree.mark_faces marks).1

/-- The nodes of some ids have the same terms under marks. -/
theorem map_terms_nodesAt_mark (tree : Tree) (marks ids : List NodeId)
    : ((tree.mark marks).nodesAt ids).map (·.terms) = (tree.nodesAt ids).map (·.terms) := by
  simp only [nodesAt, List.map_filterMap, getElem?_mark, Option.map_map]
  rfl

end FoldTree.Tree
