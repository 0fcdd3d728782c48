import FoldTree.Proofs.Tree.Shape
import Mathlib.Data.List.Perm.Basic
import Mathlib.Logic.Relation

/-! Ancestors. A node stands above those that its links lead to. Over a finite tree the nodes above
another one are just those that are listed with it, and the pre-order has them first.
-/

namespace FoldTree.Tree

variable {tree : Tree} {shape : Rose NodeId}

/-- A node stands above another where links lead from it to the other. -/
def Above (tree : Tree) : NodeId → NodeId → Prop :=
  Relation.TransGen fun parent child => child ∈ tree.childrenOf parent

/-- No node of a list comes before one that it stands below. -/
def AncestorsFirst (tree : Tree) (ids : List NodeId) : Prop :=
  ids.Pairwise fun earlier later => ¬tree.Above later earlier

/-- The ancestors in a lineage stand above its node, by induction on the shape. -/
theorem Grown.above_of_lineage {above : List NodeId} (grown : tree.Grown shape)
    (top : ∀ ancestor ∈ above, tree.Above ancestor shape.value) {lineage : NodeId × List NodeId}
    (member : lineage ∈ shape.lineages above) {ancestor : NodeId} (up : ancestor ∈ lineage.2)
    : tree.Above ancestor lineage.1 := by
  induction grown generalizing above with
  | @node id node below found children _ ih =>
      rw [Rose.lineages, Rose.lineagesAll_eq_flatMap, List.mem_cons, List.mem_flatMap] at member
      rcases member with rfl | ⟨branch, inside, member⟩
      · exact top ancestor up
      · have link : branch.value ∈ tree.childrenOf id := by
          simp only [childrenOf, found, children]
          exact List.mem_map_of_mem inside
        refine ih branch inside (fun other among => ?_) member
        rcases List.mem_cons.mp among with rfl | among
        · exact .single link
        · exact (top other among).tail link

/-- The ancestors in a lineage of a finite tree stand above its node. -/
theorem Forms.above_of_lineage (forms : tree.Forms shape) {lineage : NodeId × List NodeId}
    (listed : lineage ∈ shape.lineages []) {ancestor : NodeId} (up : ancestor ∈ lineage.2)
    : tree.Above ancestor lineage.1 :=
  forms.grown.above_of_lineage (fun _ none => absurd none List.not_mem_nil) listed up

/-- No lineage of a finite tree names a node twice. -/
theorem Forms.lineage_nodup (forms : tree.Forms shape) {lineage : NodeId × List NodeId}
    (listed : lineage ∈ shape.lineages [])
    : (lineage.1 :: lineage.2).Nodup :=
  Rose.lineage_nodup forms.once (fun _ none => absurd none List.not_mem_nil) .nil listed

/-- The children of a listed node are listed below it, by induction on the shape. -/
theorem Grown.listed_child {above : List NodeId} (grown : tree.Grown shape)
    {lineage : NodeId × List NodeId} (member : lineage ∈ shape.lineages above) {child : NodeId}
    (link : child ∈ tree.childrenOf lineage.1)
    : (child, lineage.1 :: lineage.2) ∈ shape.lineages above := by
  induction grown generalizing above with
  | @node id node below found children _ ih =>
      rw [Rose.lineages, Rose.lineagesAll_eq_flatMap, List.mem_cons, List.mem_flatMap] at member ⊢
      rcases member with rfl | ⟨branch, inside, member⟩
      · simp only [childrenOf, found, children] at link
        obtain ⟨branch, inside, rfl⟩ := List.mem_map.mp link
        exact Or.inr ⟨branch, inside, branch.root_mem_lineages⟩
      · exact Or.inr ⟨branch, inside, ih branch inside member⟩

/-- What a reached node stands above is listed with it among its ancestors. -/
theorem Grown.lineage_of_above (grown : tree.Grown shape) {ancestor : NodeId}
    (reached : ancestor ∈ shape.preorder) {id : NodeId} (lies : tree.Above ancestor id)
    : ∃ above, (id, above) ∈ shape.lineages [] ∧ ancestor ∈ above := by
  obtain ⟨up, listed⟩ := Rose.exists_lineage reached
  induction lies with
  | single link => exact ⟨_, grown.listed_child listed link, List.mem_cons_self⟩
  | tail _ link ih =>
      obtain ⟨above, listed, inside⟩ := ih
      exact ⟨_, grown.listed_child listed link, List.mem_cons_of_mem _ inside⟩

/-- The pre-order of a finite tree has ancestors first. Witness: induction on the rest of the
lineages, none of which belongs to an ancestor of the one before.
-/
theorem Forms.ancestorsFirst (forms : tree.Forms shape) : tree.AncestorsFirst shape.preorder := by
  have values := Rose.map_fst_lineages [] shape
  have later {before after : List (NodeId × List NodeId)}
      (split : shape.lineages [] = before ++ after)
      : tree.AncestorsFirst (after.map Prod.fst) := by
    induction after generalizing before with
    | nil => exact .nil
    | cons lineage rest ih =>
        have split' : shape.lineages [] = before ++ [lineage] ++ rest := by simp [split]
        refine .cons (fun other member lies => ?_) (ih split')
        have distinct : (before.map Prod.fst ++ lineage.1 :: rest.map Prod.fst).Nodup := by
          have once := forms.once
          rwa [← values, split, List.map_append, List.map_cons] at once
        have reached : other ∈ shape.preorder := by
          rw [← values, split, List.map_append, List.map_cons]
          exact List.mem_append_right _ (List.mem_cons_of_mem _ member)
        -- a later node above this one is one of its ancestors, all of which come before it
        obtain ⟨above, listed, up⟩ := forms.grown.lineage_of_above reached lies
        have here : lineage ∈ shape.lineages [] :=
          split ▸ List.mem_append_right _ List.mem_cons_self
        have same : above = lineage.2 :=
          congrArg Prod.snd (Rose.lineage_unique forms.once listed here rfl)
        have earlier := Rose.ancestor_before split (same ▸ up)
        exact (List.nodup_append.mp distinct).2.2 other earlier other
          (List.mem_cons_of_mem _ member) rfl
  exact values ▸ later (List.nil_append _).symm

/-- Every set of reached nodes has an order with ancestors first. -/
theorem Forms.exists_ancestorsFirst (forms : tree.Forms shape) {ids : List NodeId}
    (once : ids.Nodup) (reached : ∀ id ∈ ids, id ∈ shape.preorder)
    : ∃ first, ids.Perm first ∧ tree.AncestorsFirst first := by
  refine ⟨shape.preorder.filter fun id => decide (id ∈ ids), ?_, forms.ancestorsFirst.filter _⟩
  refine (List.perm_ext_iff_of_nodup once (forms.once.filter _)).mpr fun id => ?_
  rw [List.mem_filter, decide_eq_true_eq]
  exact ⟨fun member => ⟨reached id member, member⟩, And.right⟩

end FoldTree.Tree
