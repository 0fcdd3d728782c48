import FoldTree.Proofs.Tree.Growth
import FoldTree.Proofs.Tree.Shape

/-! Trees with the same faces. What a tree's links lead to is all in the faces of its nodes, so that
changes to what no face shows leave its shape alone.
-/

namespace FoldTree.Tree

variable {tree other : Tree} {shape : Rose NodeId}

section

variable (same : ∀ id, other.faceAt id = tree.faceAt id)

include same

/-- Trees with the same faces have the same children. -/
theorem childrenOf_of_faces (id : NodeId) : other.childrenOf id = tree.childrenOf id := by
  have children (tree : Tree)
      : tree.childrenOf id = ((tree.faceAt id).map Face.children).getD [] := by
    simp only [childrenOf, faceAt, Option.map_map]
    cases tree.nodes[id]? <;> rfl
  rw [children, children, same]

/-- A shape is grown in every tree with the same faces, by induction on it. -/
theorem Grown.of_faces (grown : tree.Grown shape) : other.Grown shape := by
  induction grown with
  | @node id node below found children _ ih =>
      have face := (same id).trans (faceAt_of_found found)
      obtain ⟨node', found', alike⟩ := Option.map_eq_some_iff.mp face
      exact .node found' ((congrArg Face.children alike).trans children) ih

/-- A tree forms a shape as every tree with the same faces and root does. -/
theorem Forms.of_faces (forms : tree.Forms shape) (root : other.root = tree.root)
    : other.Forms shape where
  root := root.trans forms.root
  grown := forms.grown.of_faces same
  once := forms.once
  numbered id node found := by
    have face := (same id).symm.trans (faceAt_of_found found)
    obtain ⟨node', found', alike⟩ := Option.map_eq_some_iff.mp face
    exact (congrArg Face.id alike).symm.trans (forms.numbered id node' found')

end

/-- Giving levels changes no face, nor anything else that is seen from outside of the nodes. -/
theorem setLevel_faces (tree : Tree) (id : NodeId)
    : (tree.setLevel id).source = tree.source
      ∧ (tree.setLevel id).root = tree.root
      ∧ (tree.setLevel id).nodes.length = tree.nodes.length
      ∧ ∀ other, (tree.setLevel id).faceAt other = tree.faceAt other := by
  unfold setLevel
  split
  · simp
  · split
    · simp
    · refine ⟨rfl, rfl, by simp [update], fun other => faceAt_update tree id ?_⟩
      exact fun _ => rfl

end FoldTree.Tree
