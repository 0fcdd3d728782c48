import FoldTree.Proofs.Tree.Blueprint

/-! Trees that hold all remarks. Where every remark has its carrier in the skeleton, and stands for a
region that is nowhere else, building loses no remark and makes none twice.
-/

namespace FoldTree

/-- Remarks hang on a skeleton: regions of it carry them, and what they stand for are regions apart
from these and from each other.
-/
structure Hung (skeleton : Rose Region) (remarks : List Remark) : Prop where
  carried : ∀ remark ∈ remarks, ∃ region ∈ skeleton.preorder, region.key = remark.carrier
  distinct : (skeleton.preorder.map Region.key ++ remarks.map (·.region.key)).Nodup

namespace Hung

variable {skeleton : Rose Region} {remarks : List Remark}

/-- What remarks stand for carries no remarks. -/
theorem bare (hung : Hung skeleton remarks)
    : ∀ remark ∈ remarks, ∀ other ∈ remarks, other.carrier ≠ remark.region.key := by
  intro remark member other among same
  obtain ⟨region, inside, key⟩ := hung.carried other among
  obtain ⟨-, -, apart⟩ := List.nodup_append.mp hung.distinct
  exact apart region.key (List.mem_map_of_mem inside) remark.region.key
    (List.mem_map_of_mem (f := fun remark : Remark => remark.region.key) member)
    (key.trans same)

/-- All remarks find the region that carries them. -/
theorem matched_perm (hung : Hung skeleton remarks)
    : (Tree.matched skeleton remarks).Perm remarks := by
  have found := Tree.flatMap_carriers_perm (List.nodup_append.mp hung.distinct).1 remarks
  rw [List.flatMap_map, List.filter_eq_self.mpr fun remark member => ?_] at found
  · exact found
  · exact decide_eq_true (List.mem_map.mpr (hung.carried remark member))

end Hung

namespace Tree

variable {tree : Tree} {skeleton : Rose Region} {remarks : List Remark}

/-- Building grafts along the plan, and then gives levels only. -/
theorem exists_planned (source : List Char) (file : Path)
    (distinct : (skeleton.preorder.map Region.key).Nodup)
    (bare : ∀ remark ∈ remarks, ∀ other ∈ remarks, other.carrier ≠ remark.region.key)
    : ∃ tree,
        build source file skeleton remarks = .ok tree
        ∧ tree.Planned skeleton remarks
        ∧ ∃ nodes, tree.reachable = .ok nodes ∧ nodes.Perm tree.nodes := by
  obtain ⟨full, shape, added, -, built, spans, -⟩ := build_eq source file skeleton remarks
  obtain ⟨-, -, flat⟩ := setLevels_flat full shape.preorder
  have grafted : (planted source file skeleton).addNodes remarks = .ok _ :=
    addNodes_planted fun remark member => List.filter_eq_nil_iff.mpr fun other among => by
      simpa using bare remark member other among
  cases added.symm.trans grafted
  exact ⟨_, built, (planned_graftAll distinct).of_flat flat, spans.reachable_perm⟩

/-- A tree has a leaf for a remark, below a node whose region carries it. -/
def HasLeaf (tree : Tree) (remark : Remark) : Prop :=
  ∃ (id parent : NodeId) (node above : Node),
    tree.nodes[id]? = some node
    ∧ node.Wraps id remark.region remark.terms
    ∧ node.children = []
    ∧ node.parent = some parent
    ∧ tree.nodes[parent]? = some above
    ∧ above.region.key = remark.carrier
    ∧ id ∈ above.children

/-- A remark that found its carrier has a leaf below it. -/
theorem Planned.hasLeaf (planned : tree.Planned skeleton remarks) {remark : Remark}
    (member : remark ∈ matched skeleton remarks)
    : tree.HasLeaf remark := by
  -- the place of the remark in the row of those that found carriers gives the number of its leaf
  obtain ⟨i, within, same⟩ := List.mem_iff_getElem.mp member
  have numbered : (remark, skeleton.preorder.length + i)
      ∈ (matched skeleton remarks).zipIdx skeleton.preorder.length := by
    rw [List.mk_add_mem_zipIdx_iff_getElem?, List.getElem?_eq_getElem within, same]
  obtain ⟨node, there, wraps, leaf, place, inside, carries, parent⟩ := planned.leaves _ numbered
  obtain ⟨joint, joins, rfl⟩ := exists_joint_of_place inside
  obtain ⟨above, there', wraps', -, children⟩ := planned.regions joint joins
  refine ⟨_, _, node, above, there, wraps, leaf, parent, there', ?_, ?_⟩
  · rw [wraps'.region, carries]
  · rw [children]
    refine List.mem_append_right _ (List.mem_map.mpr ⟨_, List.mem_filter.mpr ⟨numbered, ?_⟩, rfl⟩)
    exact beq_iff_eq.mpr carries.symm

/-- A tree holds a skeleton with remarks: it has one node for each of the regions and one for each
remark, a leaf below the node of its carrier, and the root reaches all of them.
-/
structure Holds (tree : Tree) (skeleton : Rose Region) (remarks : List Remark) : Prop where
  count : tree.nodes.length = skeleton.size + remarks.length
  regions : (tree.nodes.map Node.region).Perm (skeleton.preorder ++ remarks.map Remark.region)
  distinct : (tree.nodes.map (·.region.key)).Nodup
  leaves : ∀ remark ∈ remarks, tree.HasLeaf remark
  terms : (tree.nodes.map fun node => node.terms.toMultiset).sum
    = (skeleton.preorder.flatMap Region.terms : Multiset String)
      + (remarks.flatMap Remark.terms : Multiset String)
  reached : ∃ nodes, tree.reachable = .ok nodes ∧ nodes.Perm tree.nodes

end Tree

/-- From a skeleton with the remarks that hang on it a tree is built that holds them all. -/
theorem Hung.exists_holds {skeleton : Rose Region} {remarks : List Remark}
    (hung : Hung skeleton remarks) (source : List Char) (file : Path)
    : ∃ tree, Tree.build source file skeleton remarks = .ok tree ∧ tree.Holds skeleton remarks := by
  obtain ⟨tree, built, planned, reached⟩ :=
    Tree.exists_planned source file (List.nodup_append.mp hung.distinct).1 hung.bare
  have all := hung.matched_perm
  have regions : (tree.nodes.map Node.region).Perm
      (skeleton.preorder ++ remarks.map Remark.region) := by
    rw [planned.order]
    exact (all.map Remark.region).append_left _
  refine ⟨tree, built, ?count, regions, ?distinct,
    fun remark member => planned.hasLeaf (all.mem_iff.mpr member), ?terms, reached⟩
  case count =>
    rw [planned.count, all.length_eq]
    rfl
  case distinct =>
    have keys := regions.map Region.key
    rw [List.map_append, List.map_map, List.map_map] at keys
    exact keys.nodup_iff.mpr hung.distinct
  case terms => rw [planned.terms, Multiset.coe_eq_coe.mpr (all.flatMap_right Remark.terms)]

end FoldTree
