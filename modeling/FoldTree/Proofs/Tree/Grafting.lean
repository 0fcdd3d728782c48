import FoldTree.Proofs.Tree.Growth
import FoldTree.Proofs.Tree.Sprouting

/-! Grafting along a walk. The walk goes through the nodes of the skeleton in their pre-order and
through the new nodes, which carry nothing: so each skeleton node gets leaves for the remarks that
its region carries, and no other node changes.
-/

namespace FoldTree.Tree

variable {base tree : Tree} {remarks : List Remark} {id : NodeId}

/-- The remarks that a region carries. -/
def remarksOf (remarks : List Remark) (region : Region) : List Remark :=
  remarks.filter fun remark => remark.carrier == region.key

/-- The remarks that a node carries are those of its region. -/
theorem carried_eq {face : Face} (there : tree.faceAt id = some face)
    : tree.carried remarks id = remarksOf remarks face.region := by
  obtain ⟨node, found, rfl⟩ := Option.map_eq_some_iff.mp there
  simp only [carried, found]
  rfl

/-- A node for a remark is a leaf. -/
def IsLeafFor (tree : Tree) (id : NodeId) (remark : Remark) : Prop :=
  tree.faceAt id = some (.leaf tree.source id remark.region)

/-- What is related to a list has a partner in it for each of its own. -/
theorem exists_of_forall₂ {α β : Type} {R : α → β → Prop} {first : List α} {second : List β}
    (related : List.Forall₂ R first second)
    : ∀ a ∈ first, ∃ b ∈ second, R a b := by
  induction related with
  | nil => simp
  | cons here _ ih =>
      rintro other (_ | ⟨_, member⟩)
      · exact ⟨_, List.mem_cons_self, here⟩
      · obtain ⟨partner, inside, there⟩ := ih other member
        exact ⟨partner, List.mem_cons_of_mem _ inside, there⟩

/-- Grafting at some nodes has been done: each has got new children behind the old ones, leaves for
the remarks that its region carries, and no other node has changed.
-/
structure Grafted (base : Tree) (remarks : List Remark) (tree : Tree) (done : List NodeId)
    (news : NodeId → List NodeId) : Prop where
  source : tree.source = base.source
  root : tree.root = base.root
  more : base.nodes.length ≤ tree.nodes.length
  made : done.flatMap news
    = List.range' base.nodes.length (tree.nodes.length - base.nodes.length)
  kept : ∀ id < base.nodes.length, id ∉ done → tree.faceAt id = base.faceAt id
  grown : ∀ id ∈ done, ∀ face, base.faceAt id = some face
    → tree.faceAt id = some (face.extend (news id))
      ∧ List.Forall₂ tree.IsLeafFor (news id) (remarksOf remarks face.region)

/-- The children of a node are those of its face. -/
theorem childrenOf_eq {face : Face} (there : tree.faceAt id = some face)
    : tree.childrenOf id = face.children := by
  obtain ⟨node, found, rfl⟩ := Option.map_eq_some_iff.mp there
  simp only [childrenOf, found]
  rfl

/-! ### Bare remarks -/

section

variable (bare : ∀ remark ∈ remarks, remarksOf remarks remark.region = [])
include bare

/-- Where no remark's region carries remarks, there are no chains of them. -/
theorem acyclic_of_bare (key : Nat) : ¬Relation.TransGen (Carries remarks) key key := by
  have last {key other far : Nat} (first : Carries remarks key other)
      : ¬Carries remarks other far := by
    obtain ⟨remark, member, -, rfl⟩ := first
    rintro ⟨more, among, carrier, -⟩
    have carried : more ∈ remarksOf remarks remark.region :=
      List.mem_filter.mpr ⟨among, beq_iff_eq.mpr carrier⟩
    rw [bare remark member] at carried
    cases carried
  intro chain
  obtain ⟨other, first, back⟩ := Relation.TransGen.head'_iff.mp chain
  rcases Relation.ReflTransGen.cases_head back with rfl | ⟨_, second, -⟩
  · exact last first first
  · exact last first second

/-- Then grafting from the root on follows the plan for what the nodes carry that it reaches before. -/
theorem Grown.addNodes_bare {shape : Rose NodeId} (grown : base.Grown shape)
    (once : shape.preorder.Nodup) (root : base.root = some shape.value)
    : base.addNodes remarks = .ok (base.graftAll (planFor remarks base [shape])) := by
  obtain ⟨shape', plan, depth, walks, added⟩ :=
    grown.addNodes_walks once root (acyclic_of_bare bare)
  have fresh : ∀ id ∈ shape'.preorder, base.nodes.length ≤ id
      → (base.graftAll plan).carried remarks id = [] := by
    intro id member new
    obtain ⟨node, found⟩ := (walks.grown shape' List.mem_cons_self).found member
    obtain ⟨entry, planned, region⟩ := exists_entry_of_new walks.feasible new found
    rw [walks.follows] at planned
    obtain ⟨carrier, -, own⟩ := List.mem_flatMap.mp planned
    obtain ⟨remark, among, rfl⟩ := List.mem_map.mp own
    rw [carried_eq (faceAt_of_found found), face, region]
    exact bare remark (carried_subset remarks _ carrier among)
  -- new nodes carry nothing, so the plan comes from the old ones, in their old order
  have same : plan = planFor remarks base [shape] := by
    rw [← planFor_graftAll walks.feasible (grown.grove once).grown]
    refine walks.follows.trans ?_
    have old := walks.old
    simp only [planFor, List.flatMap_singleton] at old ⊢
    rw [← old]
    refine (flatMap_filter_of_nil fun id member new => ?_).symm
    rw [fresh id member (Nat.le_of_not_lt (of_decide_eq_false new)), List.map_nil]
  rw [added, same]

end

/-- Grafting by the plan for what several nodes carry gives each of them its leaves. -/
theorem Grafted.graftAll (remarks : List Remark) {ids : List NodeId} (once : ids.Nodup)
    (made : ∀ id ∈ ids, id < base.nodes.length)
    : let plan := ids.flatMap fun id => (base.carried remarks id).map (Prod.mk id)
      Grafted base remarks (base.graftAll plan) ids (leavesOf plan base.nodes.length) := by
  intro plan
  have named : ∀ entry ∈ plan, entry.1 ∈ ids := by
    intro entry member
    obtain ⟨id, inside, member⟩ := List.mem_flatMap.mp member
    obtain ⟨remark, -, rfl⟩ := List.mem_map.mp member
    exact inside
  have feasible : base.Feasible plan :=
    feasible_of_made fun entry member => made entry.1 (named entry member)
  have count := base.length_graftAll plan
  have faces {id : NodeId} {face : Face} (there : base.faceAt id = some face)
      : (base.graftAll plan).faceAt id = some (face.extend (leavesOf plan base.nodes.length id)) := by
    obtain ⟨node, found, rfl⟩ := Option.map_eq_some_iff.mp there
    exact faceAt_of_found (getElem?_graftAll_old feasible found)
  refine ⟨by rw [graftAll_frame], by rw [graftAll_frame], ?_, ?_, ?_, ?_⟩
  · rw [count]
    exact Nat.le_add_right _ _
  · rw [count, Nat.add_sub_cancel_left]
    exact flatMap_leavesOf once _ _
  · intro id older absent
    have there := faceAt_of_found (List.getElem?_eq_getElem older)
    have bare : leavesOf plan base.nodes.length id = [] := by
      refine leavesOf_eq_nil (fun entry member same => ?_) _
      exact absent (same ▸ named entry member)
    rw [faces there, bare, Face.extend_nil, there]
  · intro id member face there
    refine ⟨faces there, ?_⟩
    have own := filter_plan once (fun id => base.carried remarks id) member
    rw [← carried_eq there, ← own]
    refine (leavesOf_forall₂ plan base.nodes.length id).imp fun leaf remark planned => ?_
    -- nothing is planned for a leaf
    have behind := (List.mem_zipIdx planned).1
    have bare : leavesOf plan base.nodes.length leaf = [] := by
      refine leavesOf_eq_nil (fun entry member => ?_) _
      exact Nat.ne_of_lt ((made entry.1 (named entry member)).trans_le behind)
    have leaf_found := getElem?_graftAll_leaf feasible planned
    rw [bare, Node.extend_nil] at leaf_found
    rw [IsLeafFor, faceAt_of_found leaf_found, graftAll_frame]
    rfl

end FoldTree.Tree
