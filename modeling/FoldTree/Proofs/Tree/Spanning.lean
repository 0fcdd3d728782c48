import FoldTree.Proofs.Outcome
import FoldTree.Proofs.Tree.Planting
import FoldTree.Proofs.Tree.Shape

/-! Every build gives a finite tree that its root spans. Whatever the skeleton and the remarks are,
each step of a build keeps the tree in shape: growing a skeleton plants it, a graft hangs one more
leaf, and giving levels changes nothing else. In the end every node is reached from the root by one
path, its links agree, and its level is the length of that path.
-/

namespace FoldTree.Tree

variable {tree other : Tree} {shape : Rose NodeId}

/-- The parent of a node, if there is such a node and it has one. -/
def parentOf (tree : Tree) (id : NodeId) : Option NodeId :=
  tree.nodes[id]?.bind Node.parent

/-- The root of a tree reaches all its nodes, by one path each, all parents know their children and
the other way round, and nothing is unfolded.
-/
structure Spans (tree : Tree) (shape : Rose NodeId) : Prop extends tree.Forms shape where
  all : shape.preorder.Perm (List.range tree.nodes.length)
  linked : ∀ ⦃parent child⦄, child ∈ tree.childrenOf parent → tree.parentOf child = some parent
  folded : ∀ node ∈ tree.nodes, node.unfolded = false

/-- What a root that spans its tree reaches are the nodes there are. -/
theorem Spans.reached_iff (spans : tree.Spans shape) {id : NodeId}
    : id ∈ shape.preorder ↔ id < tree.nodes.length :=
  spans.all.mem_iff.trans List.mem_range

/-- The root is on level zero and all other nodes have no level yet. -/
def Unlevelled (tree : Tree) : Prop :=
  ∀ id node, tree.nodes[id]? = some node → node.level = if tree.root = some id then 0 else -1

/-- Every node stands as deep as its level says. -/
def Levelled (tree : Tree) (shape : Rose NodeId) : Prop :=
  ∀ lineage ∈ shape.lineages [],
    ∀ node, tree.nodes[lineage.1]? = some node → node.level = lineage.2.length

/-! ### Grafts -/

/-- A graft adds one node behind the others, and links it to an older one. -/
theorem graft_eq {id : NodeId} (made : id < tree.nodes.length) (remark : Remark)
    : tree.graft id remark
      = { tree with
          nodes := tree.nodes.modify id (·.extend [tree.nodes.length])
            ++ [.fresh tree.source tree.nodes.length remark.region remark.terms (some id)] } :=
  link_append tree made _ []

/-- A node that was there before a graft is there afterwards, with the new child if it is the
parent.
-/
theorem getElem?_graft {id place : NodeId} (made : id < tree.nodes.length)
    (old : place < tree.nodes.length) (remark : Remark)
    : (tree.graft id remark).nodes[place]?
      = tree.nodes[place]?.map (·.extend (if place = id then [tree.nodes.length] else [])) := by
  rw [graft_eq made]
  simp only
  rw [List.getElem?_append_left (by rwa [List.length_modify]), List.getElem?_modify]
  by_cases same : place = id
  · simp [same]
  · simp [same, Ne.symm same]

/-- The new node of a graft. -/
theorem getElem?_graft_new {id : NodeId} (made : id < tree.nodes.length) (remark : Remark)
    : (tree.graft id remark).nodes[tree.nodes.length]?
      = some (.fresh tree.source tree.nodes.length remark.region remark.terms (some id)) := by
  rw [graft_eq made]
  simp

/-- A graft makes one node. -/
theorem length_graft (tree : Tree) (id : NodeId) (remark : Remark)
    : (tree.graft id remark).nodes.length = tree.nodes.length + 1 := by
  simp [graft, link, update, newNode]

/-- Every node after a graft was there before, but for new children, or is the new one. -/
theorem graft_cases {id place : NodeId} (made : id < tree.nodes.length) {remark : Remark}
    {node : Node} (found : (tree.graft id remark).nodes[place]? = some node)
    : (∃ older,
        tree.nodes[place]? = some older
        ∧ node = older.extend (if place = id then [tree.nodes.length] else []))
      ∨ place = tree.nodes.length
        ∧ node = .fresh tree.source tree.nodes.length remark.region remark.terms (some id) := by
  have bound := (List.getElem?_eq_some_iff.mp found).1
  rw [length_graft] at bound
  rcases Nat.lt_or_eq_of_le (Nat.le_of_lt_succ bound) with old | rfl
  · rw [getElem?_graft made old] at found
    obtain ⟨older, there, rfl⟩ := Option.map_eq_some_iff.mp found
    exact Or.inl ⟨older, there, rfl⟩
  · rw [getElem?_graft_new made] at found
    exact Or.inr ⟨rfl, (Option.some.inj found).symm⟩

/-- What has a parent is a node. -/
theorem lt_of_parentOf {parent child : NodeId} (up : tree.parentOf child = some parent)
    : child < tree.nodes.length := by
  obtain ⟨node, found, -⟩ := Option.bind_eq_some_iff.mp up
  exact (List.getElem?_eq_some_iff.mp found).1

/-- Nodes keep their parents in a graft. -/
theorem parentOf_graft {id place : NodeId} (made : id < tree.nodes.length)
    (old : place < tree.nodes.length) (remark : Remark)
    : (tree.graft id remark).parentOf place = tree.parentOf place := by
  rw [parentOf, getElem?_graft made old, parentOf]
  cases tree.nodes[place]? <;> rfl

/-- One leaf for one of several distinct values is all there is. -/
theorem flatMap_once {ids : List NodeId} (once : ids.Nodup) {id : NodeId} (member : id ∈ ids)
    (leaf : NodeId)
    : (ids.flatMap fun other => if other = id then [leaf] else []) = [leaf] := by
  obtain ⟨before, after, rfl⟩ := List.append_of_mem member
  obtain ⟨-, later, apart⟩ := List.nodup_append.mp once
  have left : (before.flatMap fun other => if other = id then [leaf] else []) = [] :=
    List.flatMap_eq_nil_iff.mpr fun other inside =>
      if_neg (apart other inside id List.mem_cons_self)
  have right : (after.flatMap fun other => if other = id then [leaf] else []) = [] :=
    List.flatMap_eq_nil_iff.mpr fun other inside =>
      if_neg fun same : other = id => (List.nodup_cons.mp later).1 (same ▸ inside)
  rw [List.flatMap_append, List.flatMap_cons, left, right, if_pos rfl]
  rfl

/-- After a graft into a spanned tree all children know their parents. -/
theorem Spans.linked_graft (spans : tree.Spans shape) {id : NodeId}
    (made : id < tree.nodes.length) (remark : Remark) {parent child : NodeId}
    (member : child ∈ (tree.graft id remark).childrenOf parent)
    : (tree.graft id remark).parentOf child = some parent := by
  simp only [childrenOf] at member
  split at member
  · rename_i node found
    rcases graft_cases made found with ⟨older, there, rfl⟩ | ⟨rfl, rfl⟩
    · -- an older child keeps its parent, and the new one was made with its own
      rcases List.mem_append.mp member with kept | new
      · have known : tree.childrenOf parent = older.children := by simp only [childrenOf, there]
        have up := spans.linked (known ▸ kept)
        rwa [parentOf_graft made (lt_of_parentOf up)]
      · split at new
        · rename_i same
          cases List.mem_singleton.mp new
          rw [parentOf, getElem?_graft_new made, same]
          rfl
        · exact absurd new List.not_mem_nil
    · exact absurd member List.not_mem_nil
  · exact absurd member List.not_mem_nil

/-- A graft hangs one leaf more into a spanned tree. -/
theorem Spans.graft (spans : tree.Spans shape) {id : NodeId} (made : id < tree.nodes.length)
    (remark : Remark)
    : (tree.graft id remark).Spans
        (shape.hang fun other => if other = id then [tree.nodes.length] else []) := by
  have all : (shape.hang fun other => if other = id then [tree.nodes.length] else []).preorder.Perm
      (List.range (tree.graft id remark).nodes.length) := by
    rw [length_graft, List.range_succ]
    refine (shape.preorder_hang_perm _).trans ?_
    rw [flatMap_once spans.once (spans.reached_iff.mpr made)]
    exact spans.all.append_right _
  refine ⟨⟨?_, ?_, all.nodup_iff.mpr List.nodup_range, ?_⟩, all, ?_, ?_⟩
  · rw [Rose.value_hang, ← spans.root, graft_eq made]
  · -- the leaf joins the children of its parent, and has none itself
    refine spans.grown.hang (fun place member node found => ?_) fun place member leaf new => ?_
    · rw [getElem?_graft made (spans.reached_iff.mp member), found]
      exact ⟨_, rfl, rfl⟩
    · split at new
      · cases List.mem_singleton.mp new
        exact ⟨_, getElem?_graft_new made remark, rfl⟩
      · exact absurd new List.not_mem_nil
  · intro place node found
    rcases graft_cases made found with ⟨older, there, rfl⟩ | ⟨rfl, rfl⟩
    · exact spans.numbered place older there
    · rfl
  · intro parent child member
    exact spans.linked_graft made remark member
  · intro node member
    obtain ⟨place, found⟩ := List.mem_iff_getElem?.mp member
    rcases graft_cases made found with ⟨older, there, rfl⟩ | ⟨rfl, rfl⟩
    · exact spans.folded older (List.mem_iff_getElem?.mpr ⟨place, there⟩)
    · rfl

/-- A graft gives no levels. -/
theorem Spans.unlevelled_graft (spans : tree.Spans shape) (level : tree.Unlevelled) {id : NodeId}
    (made : id < tree.nodes.length) (remark : Remark)
    : (tree.graft id remark).Unlevelled := by
  have same : (tree.graft id remark).root = some shape.value := by rw [graft_eq made, spans.root]
  have older : shape.value < tree.nodes.length :=
    spans.reached_iff.mp shape.value_mem_preorder
  intro place node found
  rw [same]
  rcases graft_cases made found with ⟨older, there, rfl⟩ | ⟨rfl, rfl⟩
  · rw [← spans.root]
    exact level place older there
  · rw [if_neg fun here => Nat.ne_of_lt older (Option.some.inj here)]
    rfl

/-! ### The skeleton -/

/-- The tree of a skeleton before any remark is grafted. -/
def planted (source : List Char) (file : Path) (skeleton : Rose Region) : Tree :=
  (growSkeleton (empty source file) skeleton).setRoot 0

section

variable (source : List Char) (file : Path) {skeleton : Rose Region}

/-- Every joint of a skeleton has its node, with the level of the root. -/
theorem getElem?_planted {joint : Rose (NodeId × Region) × Option (NodeId × Region)}
    (member : joint ∈ (skeleton.number Prod.mk 0).1.joints none)
    : (planted source file skeleton).nodes[joint.1.value.1]?
      = some { seedling source joint with level := if joint.1.value.1 = 0 then 0 else -1 } := by
  have found := Rose.getElem?_number_joints member
  rw [planted, growSkeleton_eq]
  simp only [setRoot, update, empty, List.nil_append, List.length_nil, List.getElem?_modify,
    List.getElem?_map, found]
  by_cases first : joint.1.value.1 = 0
  · simp [first]
  · simp [first, Ne.symm first, seedling, Node.fresh, Node.extend]

/-- A skeleton has as many nodes as regions. -/
theorem length_planted
    : (planted source file skeleton).nodes.length = skeleton.preorder.length := by
  rw [planted, growSkeleton_eq]
  simpa [setRoot, update, empty] using Rose.length_number_joints 0 none skeleton

/-- There are no other nodes. -/
theorem planted_cases {id : NodeId} {node : Node}
    (found : (planted source file skeleton).nodes[id]? = some node)
    : ∃ joint ∈ (skeleton.number Prod.mk 0).1.joints none,
        joint.1.value.1 = id
        ∧ node = { seedling source joint with level := if id = 0 then 0 else -1 } := by
  have bound := (List.getElem?_eq_some_iff.mp found).1
  rw [length_planted, ← Rose.length_number_joints 0 none] at bound
  have member := List.getElem_mem bound
  have number := Rose.number_of_getElem? (List.getElem?_eq_getElem bound)
  have same := getElem?_planted source file member
  rw [number, found] at same
  exact ⟨_, member, number, Option.some.inj same⟩

/-- Every part of a skeleton is grown from its node, by induction on the part. -/
theorem planted_grown {part : Rose (NodeId × Region)}
    (member : part ∈ (skeleton.number Prod.mk 0).1.subtrees)
    : (planted source file skeleton).Grown (part.map Prod.fst) := by
  induction part using Rose.induction with
  | node place below ih =>
      obtain ⟨parent, joint⟩ := Rose.exists_joint none member
      have found := getElem?_planted source file joint
      rw [Rose.map, Rose.mapAll_eq_map]
      refine .node found ?_ fun branch inside => ?_
      · rw [List.map_map]
        refine List.map_congr_left fun branch _ => ?_
        exact (Rose.value_map Prod.fst branch).symm
      · obtain ⟨inner, among, rfl⟩ := List.mem_map.mp inside
        exact ih inner among (Rose.branch_mem_subtrees member among)

/-- All children of a skeleton's nodes know their parents. -/
theorem planted_linked {parent child : NodeId}
    (member : child ∈ (planted source file skeleton).childrenOf parent)
    : (planted source file skeleton).parentOf child = some parent := by
  simp only [childrenOf] at member
  split at member
  · rename_i node found
    obtain ⟨⟨⟨place, below⟩, above⟩, joint, number, rfl⟩ := planted_cases source file found
    obtain ⟨branch, inside, rfl⟩ := List.mem_map.mp member
    have part : Rose.node place below ∈ (skeleton.number Prod.mk 0).1.subtrees := by
      rw [← Rose.map_fst_joints none]
      exact List.mem_map_of_mem joint
    have hangs : (branch, some place) ∈ (skeleton.number Prod.mk 0).1.joints none :=
      Rose.branch_mem_joints part inside
    have linked := getElem?_planted source file hangs
    rw [parentOf]
    refine (congrArg (fun found => Option.bind found Node.parent) linked).trans ?_
    exact congrArg some number
  · exact absurd member List.not_mem_nil

/-- The root of a skeleton spans its tree, which has no levels yet. -/
theorem planted_spans
    : (planted source file skeleton).Spans ((skeleton.number Prod.mk 0).1.map Prod.fst)
      ∧ (planted source file skeleton).Unlevelled := by
  have all : ((skeleton.number Prod.mk 0).1.map Prod.fst).preorder
      = List.range (planted source file skeleton).nodes.length := by
    rw [Rose.preorder_map, Rose.number_fst, length_planted, List.range_eq_range']
  refine ⟨⟨⟨?_, ?_, all ▸ List.nodup_range, ?_⟩, .of_eq all, ?_, ?_⟩, ?_⟩
  · rw [Rose.value_map, Rose.number_value]
    rfl
  · exact planted_grown source file (Rose.self_mem_subtrees _)
  · intro id node found
    obtain ⟨joint, -, number, rfl⟩ := planted_cases source file found
    exact number
  · intro parent child member
    exact planted_linked source file member
  · intro node member
    obtain ⟨id, found⟩ := List.mem_iff_getElem?.mp member
    obtain ⟨joint, -, -, rfl⟩ := planted_cases source file found
    rfl
  · intro id node found
    obtain ⟨joint, -, number, rfl⟩ := planted_cases source file found
    have root : (planted source file skeleton).root = some 0 := rfl
    simp only [root, Option.some.injEq, eq_comm]

end

/-! ### Remarks -/

/-- What every visit of a walk preserves, the walk preserves, by induction on its depth. -/
theorem walk_preserves {σ α : Type} (P : σ → Prop) {children : σ → NodeId → List NodeId}
    {visit : NodeId → α → σ → α × σ}
    (step : ∀ id value state, P state → P (visit id value state).2) (depth : Nat) (id : NodeId)
    (value : α) {state : σ} (holds : P state)
    : P (walk children visit depth id value state).2 := by
  induction depth generalizing id value state with
  | zero => exact holds
  | succ depth ih =>
      have visited := step id value state holds
      rw [walk]
      generalize visit id value state = result at visited
      simp only
      -- the visit settles the children, and each of them is walked from where the last one ended
      generalize children result.2 id = ids
      generalize result.2 = state at visited
      induction ids generalizing state with
      | nil => exact visited
      | cons child rest later => exact later _ (ih child result.1 visited)

/-- What a node carries is among the remarks. -/
theorem carried_subset (remarks : List Remark) (tree : Tree) (id : NodeId)
    : tree.carried remarks id ⊆ remarks := by
  unfold carried
  split
  · exact List.nil_subset _
  · exact fun remark member => List.mem_of_mem_filter member

/-- At an id that no node has there is nothing that could carry remarks. -/
theorem graftAt_of_missing {id : NodeId} (missing : tree.nodes[id]? = none)
    (remarks : List Remark)
    : graftAt remarks id tree = tree := by
  have bare : tree.carried remarks id = [] := by simp only [carried, missing]
  rw [graftAt, bare, List.foldl_nil]

/-- What every graft of some remarks preserves, grafting them preserves. -/
theorem addNodes_preserves (P : Tree → Prop) {remarks : List Remark}
    (step : ∀ remark ∈ remarks, ∀ (id : NodeId) (now : Tree), P now → P (now.graft id remark))
    {left : Tree} (made : tree.addNodes remarks = .ok left) (holds : P tree)
    : P left := by
  have grafts (id : NodeId) (own : List Remark) (among : own ⊆ remarks) (now : Tree) (holds : P now)
      : P (own.foldl (fun tree remark => tree.graft id remark) now) := by
    induction own generalizing now with
    | nil => exact holds
    | cons remark rest ih =>
        obtain ⟨first, others⟩ := List.cons_subset.mp among
        exact ih others _ (step remark first id now holds)
  obtain ⟨root, -, rfl⟩ := Outcome.map_eq_ok.mp made
  exact walk_preserves P
    (fun id _ now holds => grafts id _ (carried_subset remarks now id) now holds) _ root () holds

/-- A tree on the way of being built: its root spans it, and only the root has a level. -/
def Rising (tree : Tree) : Prop :=
  ∃ shape, tree.Spans shape ∧ tree.Unlevelled

/-- Grafting at a node keeps a tree rising, by induction on the remarks there. -/
theorem Rising.graftAt (rising : tree.Rising) (remarks : List Remark) (id : NodeId)
    : (graftAt remarks id tree).Rising := by
  cases found : tree.nodes[id]? with
  | none => rwa [graftAt_of_missing found]
  | some node =>
      rw [Tree.graftAt]
      have made := (List.getElem?_eq_some_iff.mp found).1
      generalize tree.carried remarks id = own
      clear found
      induction own generalizing tree with
      | nil => exact rising
      | cons remark rest ih =>
          obtain ⟨shape, spans, bare⟩ := rising
          rw [List.foldl_cons]
          refine ih ⟨_, spans.graft made remark, spans.unlevelled_graft bare made remark⟩ ?_
          rw [length_graft]
          exact Nat.lt_succ_of_lt made

/-- Grafting all remarks on a skeleton leaves a rising tree. -/
theorem addNodes_rising (source : List Char) (file : Path) (skeleton : Rose Region)
    (remarks : List Remark)
    : ∃ full : Tree,
        (planted source file skeleton).addNodes remarks = .ok full ∧ full.Rising := by
  have rising : (planted source file skeleton).Rising := ⟨_, planted_spans source file⟩
  have walked (depth : Nat)
      : (walk childrenOf (fun id () tree => ((), Tree.graftAt remarks id tree)) depth 0 ()
          (planted source file skeleton)).2.Rising :=
    walk_preserves Rising (fun id _ _ rising => rising.graftAt remarks id) depth 0 () rising
  exact ⟨_, rfl, walked _⟩

end FoldTree.Tree
