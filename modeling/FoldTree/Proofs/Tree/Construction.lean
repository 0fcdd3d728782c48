import FoldTree.Proofs.Tree.Faces
import FoldTree.Proofs.Tree.Grafting

/-! Built trees. A tree that is built from a skeleton and its remarks is finite: its nodes are those
of the skeleton, each with a leaf for every remark that its region carries, and the root reaches all
of them.
-/

namespace FoldTree.Tree

variable {base tree : Tree} {remarks : List Remark} {id : NodeId}

/-- Grafting has been done as well when only what no face shows has changed since. -/
theorem Grafted.of_faces {other : Tree} {done : List NodeId} {news : NodeId → List NodeId}
    (grafted : Grafted base remarks tree done news) (source : other.source = tree.source)
    (root : other.root = tree.root) (length : other.nodes.length = tree.nodes.length)
    (same : ∀ id, other.faceAt id = tree.faceAt id)
    : Grafted base remarks other done news where
  source := source.trans grafted.source
  root := root.trans grafted.root
  more := length ▸ grafted.more
  made := length ▸ grafted.made
  kept id made absent := (same id).trans (grafted.kept id made absent)
  grown id member face found := by
    obtain ⟨extended, leaves⟩ := grafted.grown id member face found
    refine ⟨(same id).trans extended, leaves.imp fun leaf remark isLeaf => ?_⟩
    rw [IsLeafFor, same, source]
    exact isLeaf

/-- Grafting has been done when levels have been given, by induction on the nodes that get them. -/
theorem Grafted.setLevels {done : List NodeId} {news : NodeId → List NodeId}
    (grafted : Grafted base remarks tree done news) (ids : List NodeId)
    : Grafted base remarks (ids.foldl setLevel tree) done news := by
  induction ids generalizing tree with
  | nil => exact grafted
  | cons id rest ih =>
      obtain ⟨source, root, length, same⟩ := setLevel_faces tree id
      exact ih (grafted.of_faces source root length same)

/-- The ids of a skeleton's regions are grown where its nodes mirror it, by induction on it. -/
theorem Mirrors.grown {skeleton : Rose Region} (mirrors : tree.Mirrors skeleton)
    : tree.Grown (skeleton.map Region.key) := by
  induction skeleton using Rose.induction with
  | node region below ih =>
      have here := mirrors (.node region below) (Rose.self_mem_subtrees _)
      obtain ⟨node, found, same⟩ := Option.map_eq_some_iff.mp here
      rw [Rose.map, Rose.mapAll_eq_map]
      refine .node found ?_ fun branch member => ?_
      · rw [List.map_map]
        refine (congrArg Face.children same).trans (List.map_congr_left fun branch _ => ?_)
        exact (Rose.value_map Region.key branch).symm
      · obtain ⟨inner, inside, rfl⟩ := List.mem_map.mp member
        exact ih inner inside (mirrors.branch inside)

/-- Building grafts the remarks at all nodes of a tree that mirrors the skeleton. -/
theorem build_grafted (source : List Char) (file : Path) {skeleton : Rose Region}
    (counted : Counted skeleton.preorder 0)
    (bare : ∀ remark ∈ remarks, remarksOf remarks remark.region = [])
    : ∃ base tree news,
        build source file skeleton remarks = .ok tree
        ∧ base.source = source
        ∧ base.root = some skeleton.value.key
        ∧ base.nodes.length = skeleton.preorder.length
        ∧ base.Mirrors skeleton
        ∧ Grafted base remarks tree (skeleton.preorder.map Region.key) news := by
  have key : skeleton.value.key = 0 := by
    have head := congrArg List.head? counted
    cases skeleton with
    | node region below => simpa [Rose.preorder, List.range'_succ, Rose.value] using head
  obtain ⟨grown, length, mirrors⟩ := growSkeleton_spec skeleton (empty source file) counted
  generalize raw : growSkeleton (empty source file) skeleton = seed at *
  -- that a node is made the root changes nothing of what the skeleton is mirrored by
  have same (id : NodeId) : (seed.setRoot 0).faceAt id = seed.faceAt id :=
    faceAt_update seed 0 fun _ => rfl
  have length : (seed.setRoot 0).nodes.length = skeleton.preorder.length := by
    simpa [setRoot, update, empty] using length
  have mirrors : (seed.setRoot 0).Mirrors skeleton := mirrors.of_faces rfl fun _ _ => same _
  have distinct : (skeleton.preorder.map Region.key).Nodup := counted ▸ List.nodup_range'
  have ids : (skeleton.map Region.key).preorder = skeleton.preorder.map Region.key :=
    Rose.preorder_map _ _
  have made : ∀ id ∈ skeleton.preorder.map Region.key, id < (seed.setRoot 0).nodes.length := by
    intro id member
    obtain ⟨region, inside, rfl⟩ := List.mem_map.mp member
    have bound := (counted.bounds region inside).2
    rwa [Nat.zero_add, ← length] at bound
  have root : (seed.setRoot 0).root = some (skeleton.map Region.key).value := by
    rw [Rose.value_map, key]
    rfl
  have added := mirrors.grown.addNodes_bare bare (ids ▸ distinct) root
  rw [planFor, List.flatMap_singleton, ids] at added
  have grafted := Grafted.graftAll remarks distinct made
  dsimp only at grafted
  generalize (seed.setRoot 0).graftAll _ = full at added grafted
  have root' : full.rootId = .ok 0 := by simp only [rootId, grafted.root]; rfl
  refine ⟨seed.setRoot 0, _, _, ?_, grown.source, by rw [key]; rfl, length, mirrors,
    grafted.setLevels (full.preorder 0)⟩
  simp only [build, raw, added, bind, Except.bind, Tree.setLevels, root', Except.map]

/-! ### The shape of a built tree -/

mutual

/-- The ids of a skeleton's regions, each with leaves behind the regions below it. -/
def leafed (news : NodeId → List NodeId) : Rose Region → Rose NodeId
  | .node region below =>
    .node region.key (leafedAll news below ++ (news region.key).map fun leaf => .node leaf [])

/-- The ids of several skeletons with their leaves. -/
def leafedAll (news : NodeId → List NodeId) : List (Rose Region) → List (Rose NodeId)
  | [] => []
  | branch :: rest => leafed news branch :: leafedAll news rest

end

/-- The leaves hang from the ids of the regions, by induction on the skeleton. -/
theorem leafed_eq_hang (news : NodeId → List NodeId) (skeleton : Rose Region)
    : leafed news skeleton = (skeleton.map Region.key).hang news := by
  have all (branches : List (Rose Region))
      : leafedAll news branches = branches.map (leafed news) := by
    induction branches with
    | nil => rfl
    | cons branch rest ih => simp [leafedAll, ih]
  induction skeleton using Rose.induction with
  | node region below ih =>
      rw [leafed, all, Rose.map, Rose.mapAll_eq_map, Rose.hang_node, List.map_map,
        List.map_congr_left ih]
      rfl

/-- The root keeps its id. -/
theorem value_leafed (news : NodeId → List NodeId) (skeleton : Rose Region)
    : (leafed news skeleton).value = skeleton.value.key := by
  rw [leafed_eq_hang, Rose.value_hang, Rose.value_map]

/-- The ids with leaves are those of the regions and then the leaves of all of them, in some order. -/
theorem preorder_leafed_perm (news : NodeId → List NodeId) (skeleton : Rose Region)
    : (leafed news skeleton).preorder.Perm
        (skeleton.preorder.map Region.key
          ++ (skeleton.preorder.map Region.key).flatMap news) := by
  rw [leafed_eq_hang, ← Rose.preorder_map]
  exact Rose.preorder_hang_perm news _

/-- Where all nodes of a skeleton have been grafted at, its ids with the leaves are what the links
lead to.
-/
theorem Grafted.grown_leafed {skeleton : Rose Region} {done : List NodeId}
    {news : NodeId → List NodeId} (grafted : Grafted base remarks tree done news)
    (mirrors : base.Mirrors skeleton) (all : ∀ region ∈ skeleton.preorder, region.key ∈ done)
    : tree.Grown (leafed news skeleton) := by
  have faces {id : NodeId} (member : id ∈ (skeleton.map Region.key).preorder) {node : Node}
      (found : base.nodes[id]? = some node)
      : tree.faceAt id = some ((face node).extend (news id))
        ∧ List.Forall₂ tree.IsLeafFor (news id) (remarksOf remarks (face node).region) := by
    rw [Rose.preorder_map] at member
    obtain ⟨region, inside, rfl⟩ := List.mem_map.mp member
    exact grafted.grown _ (all region inside) _ (faceAt_of_found found)
  rw [leafed_eq_hang]
  refine mirrors.grown.hang (fun id member node found => ?_) fun id member leaf new => ?_
  · obtain ⟨node', found', same⟩ := Option.map_eq_some_iff.mp (faces member found).1
    exact ⟨node', found', congrArg Face.children same⟩
  · obtain ⟨node, found⟩ := mirrors.grown.found member
    obtain ⟨remark, -, isLeaf⟩ := exists_of_forall₂ (faces member found).2 leaf new
    obtain ⟨node', found', same⟩ := Option.map_eq_some_iff.mp isLeaf
    exact ⟨node', found', congrArg Face.children same⟩

/-- A tree is built from a skeleton and its remarks: it is finite and reaches all its nodes. Each
region of the skeleton has a node, whose children are the nodes of the regions below it and then a
leaf for each remark that it carries.
-/
structure Built (tree : Tree) (skeleton : Rose Region) (remarks : List Remark)
    (news : NodeId → List NodeId) : Prop where
  forms : tree.Forms (leafed news skeleton)
  all : (leafed news skeleton).preorder.Perm (List.range tree.nodes.length)
  regions : ∀ part ∈ skeleton.subtrees,
    tree.faceAt part.value.key
      = some ⟨part.value.key, part.value, Span.ofRegion tree.source part.value,
          (part.children.map fun branch => branch.value.key) ++ news part.value.key⟩
  leaves : ∀ part ∈ skeleton.subtrees,
    List.Forall₂ tree.IsLeafFor (news part.value.key) (remarksOf remarks part.value)

/-- Every id that is reached is that of a region of the skeleton or of a leaf of one. -/
theorem mem_preorder_leafed {news : NodeId → List NodeId} {skeleton : Rose Region}
    (reached : id ∈ (leafed news skeleton).preorder)
    : (∃ part ∈ skeleton.subtrees, id = part.value.key)
      ∨ ∃ part ∈ skeleton.subtrees, id ∈ news part.value.key := by
  rw [(preorder_leafed_perm news skeleton).mem_iff, ← Rose.map_value_subtrees, List.map_map,
    List.mem_append, List.mem_flatMap] at reached
  rcases reached with key | ⟨_, key, new⟩
  · obtain ⟨part, member, rfl⟩ := List.mem_map.mp key
    exact Or.inl ⟨part, member, rfl⟩
  · obtain ⟨part, member, rfl⟩ := List.mem_map.mp key
    exact Or.inr ⟨part, member, new⟩

/-- A tree in which grafting has been done at all nodes of its skeleton is built. -/
theorem Grafted.built {skeleton : Rose Region} {news : NodeId → List NodeId}
    (grafted : Grafted base remarks tree (skeleton.preorder.map Region.key) news)
    (counted : Counted skeleton.preorder 0) (root : base.root = some skeleton.value.key)
    (length : base.nodes.length = skeleton.preorder.length) (mirrors : base.Mirrors skeleton)
    : tree.Built skeleton remarks news := by
  have among (part : Rose Region) (member : part ∈ skeleton.subtrees)
      : part.value.key ∈ skeleton.preorder.map Region.key := by
    rw [← Rose.map_value_subtrees, List.map_map]
    exact List.mem_map_of_mem (f := Region.key ∘ Rose.value) member
  -- nodes of the skeleton have the first ids, and grafting made all that come behind
  have all : (leafed news skeleton).preorder.Perm (List.range tree.nodes.length) := by
    have split := List.range'_append_1 (s := 0) (m := base.nodes.length)
      (n := tree.nodes.length - base.nodes.length)
    refine (preorder_leafed_perm news skeleton).trans (.of_eq ?_)
    rw [grafted.made, counted, ← length, List.range_eq_range']
    rwa [Nat.zero_add, Nat.add_sub_cancel' grafted.more] at split
  have faces (part : Rose Region) (member : part ∈ skeleton.subtrees) :=
    grafted.grown _ (among part member) _ (mirrors part member)
  refine ⟨⟨?_, ?_, ?_, ?_⟩, all, ?_, ?_⟩
  · rw [grafted.root, root, value_leafed]
  · exact grafted.grown_leafed mirrors fun region member => List.mem_map_of_mem member
  · exact all.nodup_iff.mpr List.nodup_range
  · intro id node found
    have made := (List.getElem?_eq_some_iff.mp found).1
    have face := faceAt_of_found found
    rcases mem_preorder_leafed (all.mem_iff.mpr (List.mem_range.mpr made)) with
      ⟨part, member, rfl⟩ | ⟨part, member, new⟩
    · rw [(faces part member).1, Option.some.injEq] at face
      exact (congrArg Face.id face).symm
    · obtain ⟨remark, -, isLeaf⟩ := exists_of_forall₂ (faces part member).2 id new
      rw [IsLeafFor, face, Option.some.injEq] at isLeaf
      exact congrArg Face.id isLeaf
  · intro part member
    rw [(faces part member).1, grafted.source]
    rfl
  · intro part member
    exact (faces part member).2

/-- Every skeleton is built into a tree with all remarks that its regions carry, where no remark's
region carries others.
-/
theorem exists_built (source : List Char) (file : Path) {skeleton : Rose Region}
    (counted : Counted skeleton.preorder 0)
    (bare : ∀ remark ∈ remarks, remarksOf remarks remark.region = [])
    : ∃ tree news,
        build source file skeleton remarks = .ok tree
        ∧ tree.source = source
        ∧ tree.Built skeleton remarks news := by
  obtain ⟨base, tree, news, built, same, root, length, mirrors, grafted⟩ :=
    build_grafted source file counted bare
  exact ⟨tree, news, built, grafted.source.trans same, grafted.built counted root length mirrors⟩

end FoldTree.Tree
