import FoldTree.Proofs.Offer.Profits
import FoldTree.Proofs.Tree.Faces

/-! Where passes fail. Without a content model, a pass over costs and one over profits both fail
just where some folded node is broken. Marking nodes unfolded changes which nodes are folded and
nothing of what they cost.
-/

namespace FoldTree

namespace Tree

variable {tree other : Tree} {shape : Rose NodeId} {id : NodeId}

/-- The pass over costs fails just where it comes to a broken node. -/
theorem Forms.baseline_fails_iff (forms : tree.Forms shape)
    : (∃ fault, tree.baseline = .error fault) ↔ ∃ id ∈ shape.preorder, tree.isBroken id = true := by
  rw [forms.baseline_eq, unlessBroken]
  cases first : shape.preorder.find? tree.isBroken with
  | none => simpa using List.find?_eq_none.mp first
  | some id => simpa using ⟨id, List.mem_of_find?_eq_some first, List.find?_some first⟩

/-! ### Marks -/

/-- A tree with some nodes marked unfolded, one after the other. -/
def mark (tree : Tree) (marks : List NodeId) : Tree :=
  marks.foldl setUnfolded tree

/-- Marks change no face and no root, by induction on them. -/
theorem mark_faces (tree : Tree) (marks : List NodeId)
    : (tree.mark marks).root = tree.root
      ∧ ∀ id, (tree.mark marks).faceAt id = tree.faceAt id := by
  induction marks generalizing tree with
  | nil => exact ⟨rfl, fun _ => rfl⟩
  | cons id rest ih =>
      obtain ⟨root, faces⟩ := ih (tree.setUnfolded id)
      exact ⟨root, fun other => (faces other).trans (faceAt_update tree id fun _ => rfl)⟩

section

variable (same : ∀ id, other.faceAt id = tree.faceAt id)

include same

/-- Trees with the same faces show the same lines. -/
theorem extraLines_of_faces (id : NodeId) : other.extraLines id = tree.extraLines id := by
  have lines (tree : Tree)
      : tree.extraLines id = ((tree.faceAt id).map fun face => face.span.lineCount - 1).getD 0 := by
    simp only [extraLines, faceAt, Option.map_map]
    cases tree.nodes[id]? <;> rfl
  rw [lines, lines, same]

/-- Trees with the same faces have the same net lines. -/
theorem netLines_of_faces (id : NodeId) : other.netLines id = tree.netLines id := by
  have lines : other.extraLines = tree.extraLines := funext (extraLines_of_faces same)
  rw [netLines, netLines, lines, childrenOf_of_faces same]

end

/-- What is folded is there. -/
theorem exists_of_folded (folded : tree.folded id = true)
    : ∃ node, tree.nodes[id]? = some node := by
  unfold Tree.folded at folded
  split at folded
  · exact ⟨_, ‹_›⟩
  · cases folded

/-- What is still folded after marks was there before. -/
theorem lt_of_folded_mark {marks : List NodeId} (folded : (tree.mark marks).folded id = true)
    : id < tree.nodes.length := by
  obtain ⟨node, found⟩ := exists_of_folded folded
  have face := faceAt_of_found found
  rw [(tree.mark_faces marks).2] at face
  exact lt_of_faceAt face

/-- Marks change nothing of what nodes cost: a node is broken if it is still folded and its children
show more lines than it does.
-/
theorem isBroken_mark (tree : Tree) (marks : List NodeId) (id : NodeId)
    : (tree.mark marks).isBroken id
      = ((tree.mark marks).folded id && decide (tree.netLines id < 0)) := by
  rw [isBroken, netLines_of_faces (tree.mark_faces marks).2]

end Tree

namespace Pass

variable {pass : Pass} {sampler : Option Sampler} {tree : Tree} {shape : Rose NodeId}

/-- A row fails just where one of its visits does. -/
theorem inRow_fails_iff {β : Type} (visits : List (Except Fault β × List SamplerCall))
    : (∃ fault, (inRow visits).1 = .error fault)
      ↔ ∃ visit ∈ visits, ∃ fault, visit.1 = .error fault := by
  rcases run : inRow visits with ⟨fault | values, asked⟩
  · obtain ⟨visit, member, failed⟩ := inRow_error run
    exact ⟨fun _ => ⟨visit, member, fault, failed⟩, fun _ => ⟨fault, rfl⟩⟩
  · have succeeded := (inRow_ok run).1
    refine ⟨by simp, fun ⟨visit, member, fault, failed⟩ => ?_⟩
    have among : visit.1 ∈ visits.map Prod.fst := List.mem_map_of_mem member
    rw [succeeded, failed] at among
    simp at among

/-- Without a content model every node has a profit. -/
theorem reportOutcome_noContentModel (policy : pass.profit.policy = .noContentModel)
    (sampler : Option Sampler) (working : WorkingSet) (node : Node)
    : ∃ profit, pass.reportOutcome sampler working node = .ok profit := by
  have positive : ¬(1.0 : Float) < 0 := by decide +kernel
  have unasked := (question?_eq_none_iff pass (pass.scoringSet working node) node).mpr policy
  have scored : pass.scoreOutcome sampler working node = .ok 1.0 := by
    simp [scoreOutcome, answer, unasked, checked, positive]
  unfold reportOutcome
  split
  · exact ⟨_, rfl⟩
  · rw [scored]
    exact ⟨_, rfl⟩

/-- Without a content model, a visit of a node fails just if the node is broken. -/
theorem visit_fails_iff (policy : pass.profit.policy = .noContentModel) (working : WorkingSet)
    {lineage : NodeId × List NodeId} {node : Node} (found : tree.nodes[lineage.1]? = some node)
    : (∃ fault, (pass.visit sampler tree working lineage).1 = .error fault)
      ↔ tree.isBroken lineage.1 = true := by
  obtain ⟨profit, reported⟩ := reportOutcome_noContentModel policy sampler working node
  simp only [visit, found, reported, Outcome.ok_bind]
  cases tree.isBroken lineage.1 <;> simp

/-- Without a content model, the pass over profits fails where the one over costs does. -/
theorem scored_fails_iff (forms : tree.Forms shape) {settings : Settings}
    (policy : settings.profit.policy = .noContentModel) (sampler : Option Sampler)
    : (∃ fault, (tree.scored settings sampler).1 = .error fault)
      ↔ ∃ id ∈ shape.preorder, tree.isBroken id = true := by
  cases made : Pass.start tree settings sampler with
  | error fault =>
      simp [start, forms.reachable_eq, policy, Policy.needsSampler, Except.mapError] at made
  | ok session =>
      obtain ⟨pass, state⟩ := session
      have same : pass.profit.policy = .noContentModel := by
        rw [(start_ok forms made).2.1]
        exact policy
      have fails {lineage : NodeId × List NodeId} (member : lineage ∈ shape.lineages [])
          : (∃ fault, (pass.visit sampler tree state.working lineage).1 = .error fault)
            ↔ tree.isBroken lineage.1 = true := by
        have reached : lineage.1 ∈ shape.preorder := by
          rw [← Rose.map_fst_lineages []]
          exact List.mem_map_of_mem member
        obtain ⟨node, found⟩ := forms.grown.found reached
        exact visit_fails_iff same state.working found
      rw [scored_eq forms made, inRow_fails_iff, ← Rose.map_fst_lineages [] shape]
      simp only [List.mem_map]
      constructor
      · rintro ⟨_, ⟨lineage, member, rfl⟩, failed⟩
        exact ⟨lineage.1, ⟨lineage, member, rfl⟩, (fails member).mp failed⟩
      · rintro ⟨_, ⟨lineage, member, rfl⟩, broken⟩
        exact ⟨_, ⟨lineage, member, rfl⟩, (fails member).mpr broken⟩

end Pass

end FoldTree
