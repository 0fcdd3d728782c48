import FoldTree.Proofs.Tree.Faces
import FoldTree.Proofs.Tree.Spanning
import Mathlib.Data.List.Induction

/-! Levels and whole builds. Levels are given out in pre-order, so that a node's parent has got its
level before; each is then the number of steps from the root.
-/

namespace FoldTree

/-- A node without its level. -/
def Node.flat (node : Node) : Node :=
  { node with level := 0 }

namespace Tree

variable {tree other : Tree} {shape : Rose NodeId}

/-- The node above in a lineage has the one below among its children, by induction on the shape. -/
theorem Grown.child_of_lineage {above : List NodeId} (grown : tree.Grown shape)
    (top : ∀ parent rest, above = parent :: rest → shape.value ∈ tree.childrenOf parent)
    {lineage : NodeId × List NodeId} (member : lineage ∈ shape.lineages above) {parent : NodeId}
    {rest : List NodeId} (up : lineage.2 = parent :: rest)
    : lineage.1 ∈ tree.childrenOf parent := by
  induction grown generalizing above with
  | @node id node below found children _ ih =>
      rw [Rose.lineages, Rose.lineagesAll_eq_flatMap, List.mem_cons, List.mem_flatMap] at member
      rcases member with rfl | ⟨branch, inside, member⟩
      · exact top parent rest up
      · refine ih branch inside (fun parent rest same => ?_) member
        obtain ⟨rfl, -⟩ := List.cons.inj same
        simp only [childrenOf, found, children]
        exact List.mem_map_of_mem inside

/-! ### Giving levels -/

/-- Giving a level changes one node, and only if that is not on level zero. -/
theorem getElem?_setLevel (tree : Tree) (id place : NodeId)
    : (tree.setLevel id).nodes[place]?
      = tree.nodes[place]?.map fun node =>
          if place = id ∧ node.level ≠ 0
          then { node with level := tree.levelUnder node.parent }
          else node := by
  unfold setLevel
  split
  · rename_i none
    by_cases same : place = id
    · simp [same, none]
    · simp [same]
  · rename_i node found
    split
    · rename_i zero
      by_cases same : place = id
      · simp [same, found, zero]
      · simp [same]
    · rename_i other
      simp only [update, List.getElem?_modify]
      by_cases same : place = id
      · simp [same, found, other]
      · simp [same, Ne.symm same]

/-- Giving levels changes nothing but levels, by induction on the nodes that get them. -/
theorem setLevels_flat (tree : Tree) (ids : List NodeId)
    : (ids.foldl setLevel tree).root = tree.root
      ∧ (ids.foldl setLevel tree).source = tree.source
      ∧ (ids.foldl setLevel tree).nodes.map Node.flat = tree.nodes.map Node.flat := by
  induction ids generalizing tree with
  | nil => exact ⟨rfl, rfl, rfl⟩
  | cons id rest ih =>
      obtain ⟨root, source, nodes⟩ := ih (tree.setLevel id)
      obtain ⟨source', root', -, -⟩ := setLevel_faces tree id
      refine ⟨root.trans root', source.trans source', nodes.trans ?_⟩
      apply List.ext_getElem?
      intro place
      rw [List.getElem?_map, List.getElem?_map, getElem?_setLevel, Option.map_map]
      refine congrFun (congrArg _ (funext fun node => ?_)) _
      simp only [Function.comp_apply]
      split <;> rfl

/-- The next node in pre-order gets the length of its lineage as its level, where all nodes before it
have got theirs: its parent is one of them.
-/
theorem Spans.level_next (spans : tree.Spans shape) (bare : tree.Unlevelled)
    {before after : List (NodeId × List NodeId)} {lineage : NodeId × List NodeId}
    (split : shape.lineages [] = before ++ lineage :: after) {now : Tree}
    (levelled : ∀ lineage ∈ before,
      ∀ node,
        tree.nodes[lineage.1]? = some node
        → now.nodes[lineage.1]? = some { node with level := lineage.2.length })
    {node : Node} (found : tree.nodes[lineage.1]? = some node)
    (still : now.nodes[lineage.1]? = some node)
    : (now.setLevel lineage.1).nodes[lineage.1]?
      = some { node with level := lineage.2.length } := by
  have level := bare lineage.1 node found
  have here : lineage ∈ shape.lineages [] := split ▸ List.mem_append_right _ List.mem_cons_self
  rw [getElem?_setLevel, still, Option.map_some]
  rcases Rose.lineages_split shape split with ⟨-, rfl⟩ | ⟨parent, member, up⟩
  · -- the root keeps its level
    have zero : node.level = 0 := by rw [level, if_pos spans.root]
    rw [if_neg fun both => both.2 zero]
    exact congrArg (fun level => some { node with level }) zero
  · -- the parent of any other node comes before it, so it has its level
    have child := spans.grown.child_of_lineage
      (fun _ _ same => absurd same (List.cons_ne_nil _ _).symm) here up
    have linked := spans.linked child
    rw [parentOf, found, Option.bind_some] at linked
    have reached : parent.1 ∈ shape.preorder := by
      rw [← Rose.map_fst_lineages [], split]
      exact List.mem_map_of_mem (List.mem_append_left _ member)
    obtain ⟨above, found'⟩ := spans.grown.found reached
    have other : tree.root ≠ some lineage.1 := by
      intro same
      rw [spans.root, Option.some.injEq] at same
      have root := Rose.lineage_unique spans.once shape.root_mem_lineages here same
      exact List.cons_ne_nil _ _ (up.symm.trans (congrArg Prod.snd root).symm)
    have low : node.level ≠ 0 := by simp [level, other]
    have under : now.levelUnder node.parent = parent.2.length + 1 := by
      simp only [levelUnder, linked, Option.bind_some, levelled parent member above found']
    simp [low, under, up]

/-- While levels are given out in pre-order, the nodes that have got theirs stand as deep as these
say, and all others are as they were. Witness: induction on the nodes that have got theirs.
-/
theorem Spans.levels_prefix (spans : tree.Spans shape) (bare : tree.Unlevelled)
    {before after : List (NodeId × List NodeId)} (split : shape.lineages [] = before ++ after)
    : (∀ lineage ∈ before,
          ∀ node,
            tree.nodes[lineage.1]? = some node
            → ((before.map Prod.fst).foldl setLevel tree).nodes[lineage.1]?
              = some { node with level := lineage.2.length })
      ∧ ∀ lineage ∈ after,
          ((before.map Prod.fst).foldl setLevel tree).nodes[lineage.1]? = tree.nodes[lineage.1]? := by
  induction before using List.reverseRecOn generalizing after with
  | nil => simp
  | append_singleton before lineage ih =>
      rw [List.append_assoc, List.singleton_append] at split
      obtain ⟨levelled, rest⟩ := ih split
      have distinct : (lineage.1 :: (before ++ after).map Prod.fst).Nodup := by
        have once := spans.once
        rw [← Rose.map_fst_lineages [], split, List.map_append, List.map_cons,
          List.perm_middle.nodup_iff] at once
        rwa [List.map_append]
      have apart (other : NodeId × List NodeId) (member : other ∈ before ++ after)
          : other.1 ≠ lineage.1 := fun same =>
        (List.nodup_cons.mp distinct).1 (same ▸ List.mem_map_of_mem member)
      rw [List.map_append, List.map_singleton, List.foldl_append, List.foldl_cons, List.foldl_nil]
      -- one more level is given, to a node that none of the others is
      generalize (before.map Prod.fst).foldl setLevel tree = now at levelled rest ⊢
      constructor
      · intro other member node found
        rcases List.mem_append.mp member with member | member
        · rw [getElem?_setLevel, levelled other member node found]
          simp [apart other (List.mem_append_left _ member)]
        · cases List.mem_singleton.mp member
          have still := (rest lineage List.mem_cons_self).trans found
          exact spans.level_next bare split levelled found still
      · intro other member
        rw [getElem?_setLevel, rest other (List.mem_cons_of_mem _ member)]
        simp [apart other (List.mem_append_right _ member)]

/-- A node is there with some level in every tree that differs in levels only. -/
theorem exists_of_flat (same : other.nodes.map Node.flat = tree.nodes.map Node.flat) {id : NodeId}
    {node : Node} (found : tree.nodes[id]? = some node)
    : ∃ level : Int, other.nodes[id]? = some { node with level } := by
  have alike : other.nodes[id]?.map Node.flat = some node.flat := by
    rw [← List.getElem?_map, same, List.getElem?_map, found, Option.map_some]
  obtain ⟨node', found', eq⟩ := Option.map_eq_some_iff.mp alike
  refine ⟨node'.level, found'.trans ?_⟩
  exact congrArg (fun flat => some { flat with level := node'.level }) eq

/-- A tree that differs from another one in levels has its parents. -/
theorem parentOf_of_flat (same : other.nodes.map Node.flat = tree.nodes.map Node.flat)
    (id : NodeId)
    : other.parentOf id = tree.parentOf id := by
  have flat (tree : Tree) : tree.parentOf id = (tree.nodes.map Node.flat)[id]?.bind Node.parent := by
    rw [List.getElem?_map, Option.bind_map]
    rfl
  rw [flat, flat, same]

/-- A tree that differs from a spanned one in levels is spanned. -/
theorem Spans.of_flat (spans : tree.Spans shape) (root : other.root = tree.root)
    (same : other.nodes.map Node.flat = tree.nodes.map Node.flat)
    : other.Spans shape := by
  have found (id : NodeId) : other.nodes[id]?.map Node.flat = tree.nodes[id]?.map Node.flat := by
    rw [← List.getElem?_map, same, List.getElem?_map]
  have faces (id : NodeId) : other.faceAt id = tree.faceAt id := by
    have flat (tree : Tree) : tree.faceAt id = (tree.nodes[id]?.map Node.flat).map face := by
      rw [Option.map_map]
      rfl
    rw [flat, flat, found]
  have length : other.nodes.length = tree.nodes.length := by
    simpa using congrArg List.length same
  refine ⟨spans.toForms.of_faces faces root, length ▸ spans.all, ?_, ?_⟩
  · intro parent child member
    rw [parentOf_of_flat same]
    exact spans.linked (childrenOf_of_faces faces parent ▸ member)
  · intro node member
    have inside : node.flat ∈ tree.nodes.map Node.flat := same ▸ List.mem_map_of_mem member
    obtain ⟨alike, member, eq⟩ := List.mem_map.mp inside
    exact (congrArg Node.unfolded eq).symm.trans (spans.folded alike member)

/-- Every skeleton is built with any remarks: they are grafted on its nodes, and levels are given to
all nodes in pre-order.
-/
theorem build_eq (source : List Char) (file : Path) (skeleton : Rose Region)
    (remarks : List Remark)
    : ∃ full shape,
        (planted source file skeleton).addNodes remarks = .ok full
        ∧ full.Spans shape
        ∧ build source file skeleton remarks = .ok (shape.preorder.foldl setLevel full)
        ∧ (shape.preorder.foldl setLevel full).Spans shape
        ∧ (shape.preorder.foldl setLevel full).Levelled shape := by
  obtain ⟨full, added, shape, spans, bare⟩ := addNodes_rising source file skeleton remarks
  obtain ⟨root, -, flat⟩ := setLevels_flat full shape.preorder
  have rootId : full.rootId = .ok shape.value := by simp only [Tree.rootId, spans.root]
  have order : full.preorder shape.value = shape.preorder := by
    rw [Tree.preorder, spans.subtree_eq]
  refine ⟨full, shape, added, spans, ?_, spans.of_flat root flat, ?_⟩
  · rw [planted] at added
    simp only [build, added, bind, Except.bind, setLevels, rootId, Except.map, order]
  · intro lineage member node found
    have reached : lineage.1 ∈ shape.preorder := by
      rw [← Rose.map_fst_lineages []]
      exact List.mem_map_of_mem member
    obtain ⟨older, there⟩ := spans.grown.found reached
    have all := (spans.levels_prefix bare (List.append_nil _).symm).1 lineage member older there
    rw [Rose.map_fst_lineages, found] at all
    exact congrArg Node.level (Option.some.inj all)

/-- A tree that was built is spanned by its root, and every level is the length of the path from
there.
-/
theorem build_spans {source : List Char} {file : Path} {skeleton : Rose Region}
    {remarks : List Remark} (built : build source file skeleton remarks = .ok tree)
    : ∃ shape, tree.Spans shape ∧ tree.Levelled shape := by
  obtain ⟨full, shape, -, -, same, spans, levelled⟩ := build_eq source file skeleton remarks
  cases same.symm.trans built
  exact ⟨shape, spans, levelled⟩

end Tree

end FoldTree
