import FoldTree.Tree.Cost
import FoldTree.Tree.Graft
import Mathlib.Data.List.Forall2

/-! Trees over a text and over another one in which all offsets have moved. Building a tree asks for
the places of regions only to place its nodes, so a tree that is built from moved regions is the tree
of the regions with all its nodes moved.
-/

namespace FoldTree

/-- A region with its two ends at other offsets. -/
def Region.move (shift : Int → Int) (region : Region) : Region :=
  { region with start := shift region.start, length := shift region.stop - shift region.start }

/-- A region that has moved stops where its end has moved to. -/
@[simp]
theorem Region.stop_move (shift : Int → Int) (region : Region)
    : (region.move shift).stop = shift region.stop := by
  change shift region.start + (shift region.stop - shift region.start) = _
  omega

/-- A remark whose region has moved. -/
def Remark.move (shift : Int → Int) (remark : Remark) : Remark :=
  { remark with region := remark.region.move shift }

/-- A node whose region has moved, in the text that it has moved to. -/
def Node.move (source : List Char) (shift : Int → Int) (node : Node) : Node :=
  let region := node.region.move shift
  let span := Span.ofRegion source region
  { node with region, span, text := Text.slice source span.first (span.last + 1) }

namespace Tree

/-- A tree whose regions have moved to another text. -/
def move (source : List Char) (shift : Int → Int) (tree : Tree) : Tree :=
  { tree with source, nodes := tree.nodes.map (Node.move source shift) }

variable (source : List Char) (shift : Int → Int) (tree : Tree)

/-- Nodes move one by one. -/
theorem getElem?_move (id : NodeId)
    : (tree.move source shift).nodes[id]? = tree.nodes[id]?.map (Node.move source shift) :=
  List.getElem?_map

/-- A tree that moves keeps its number of nodes. -/
@[simp]
theorem length_move : (tree.move source shift).nodes.length = tree.nodes.length :=
  List.length_map _

/-- A tree that moves keeps its root. -/
@[simp]
theorem rootId_move : (tree.move source shift).rootId = tree.rootId := rfl

/-- A tree that moves keeps its links. -/
@[simp]
theorem childrenOf_move (id : NodeId)
    : (tree.move source shift).childrenOf id = tree.childrenOf id := by
  rw [childrenOf, childrenOf, getElem?_move]
  cases tree.nodes[id]? <;> rfl

/-- A change of what does not move can be made before or after. -/
theorem update_move (id : NodeId) {change : Node → Node}
    (apart : ∀ node, (change node).move source shift = change (node.move source shift))
    : (tree.move source shift).update id change = (tree.update id change).move source shift := by
  have nodes : (tree.nodes.map (Node.move source shift)).modify id change
      = (tree.nodes.modify id change).map (Node.move source shift) := by
    apply List.ext_getElem?
    intro i
    rw [List.getElem?_modify, List.getElem?_map, List.getElem?_map, List.getElem?_modify]
    cases tree.nodes[i]? with
    | none => rfl
    | some node => by_cases here : id = i <;> simp [here, apart]
  exact congrArg (fun nodes => { tree with source, nodes }) nodes

/-- A node for a moved region is the moved node of the region. -/
theorem newNode_move (region : Region) (terms : Terms)
    : (tree.move source shift).newNode (region.move shift) terms
      = (tree.newNode region terms).move source shift := by
  have nodes : tree.nodes.map (Node.move source shift)
        ++ [(tree.move source shift).makeNode (region.move shift) terms]
      = (tree.nodes ++ [tree.makeNode region terms]).map (Node.move source shift) := by
    rw [List.map_append, List.map_singleton, makeNode, length_move]
    rfl
  exact congrArg (fun nodes => { tree with source, nodes }) nodes

/-- Links are the same between moved nodes. -/
theorem link_move (parent child : NodeId)
    : (tree.move source shift).link parent child = (tree.link parent child).move source shift := by
  rw [link, link, update_move, update_move] <;> exact fun _ => rfl

/-- A moved node can be declared the root. -/
theorem setRoot_move (id : NodeId)
    : (tree.move source shift).setRoot id = (tree.setRoot id).move source shift := by
  rw [setRoot, update_move]
  · rfl
  · exact fun _ => rfl

mutual

/-- Moved regions grow into moved nodes. -/
theorem growSkeleton_move (tree : Tree) (skeleton : Rose Region)
    : growSkeleton (tree.move source shift) (skeleton.map (Region.move shift))
      = (growSkeleton tree skeleton).move source shift := by
  match skeleton with
  | .node region below =>
      rw [Rose.map, growSkeleton, growSkeleton, newNode_move, growBranches_move, length_move]
      rfl

/-- Moved regions grow into moved nodes under one parent. -/
theorem growBranches_move (tree : Tree) (parent : NodeId) (branches : List (Rose Region))
    : growBranches (tree.move source shift) parent (Rose.mapAll (Region.move shift) branches)
      = (growBranches tree parent branches).move source shift := by
  match branches with
  | [] => rw [Rose.mapAll, growBranches, growBranches]
  | branch :: rest =>
      rw [Rose.mapAll, growBranches, growBranches, growSkeleton_move, length_move, link_move,
        growBranches_move]

end

/-- A moved region carries the moved remarks. -/
theorem carried_move (remarks : List Remark) (id : NodeId)
    : (tree.move source shift).carried (remarks.map (Remark.move shift)) id
      = (tree.carried remarks id).map (Remark.move shift) := by
  rw [carried, carried, getElem?_move]
  cases tree.nodes[id]? with
  | none => rfl
  | some node => exact List.filter_map

/-- A moved remark becomes the moved node of the remark. -/
theorem graft_move (id : NodeId) (remark : Remark)
    : (tree.move source shift).graft id (remark.move shift)
      = (tree.graft id remark).move source shift := by
  rw [graft, graft, length_move, ← link_move, ← newNode_move]
  rfl

/-- Moved remarks are grafted at a moved node, by induction on them. -/
theorem graftAt_move (remarks : List Remark) (id : NodeId)
    : graftAt (remarks.map (Remark.move shift)) id (tree.move source shift)
      = (graftAt remarks id tree).move source shift := by
  rw [graftAt, graftAt, carried_move]
  generalize tree.carried remarks id = carried
  induction carried generalizing tree with
  | nil => rfl
  | cons remark rest ih => rw [List.map_cons, List.foldl_cons, List.foldl_cons, graft_move, ih]

/-- A walk through a moved tree goes as the walk through the tree does, where each visit does. Witness:
induction on the depth.
-/
theorem walk_move {visit visit' : NodeId → Unit → Tree → Unit × Tree}
    (same : ∀ id tree, (visit' id () (tree.move source shift)).2 = (visit id () tree).2.move source shift)
    (depth : Nat) (id : NodeId) (tree : Tree)
    : (walk childrenOf visit' depth id () (tree.move source shift)).2
      = (walk childrenOf visit depth id () tree).2.move source shift := by
  induction depth generalizing id tree with
  | zero => rfl
  | succ depth ih =>
      simp only [walk, same, childrenOf_move]
      generalize (visit id () tree).2 = next
      generalize next.childrenOf id = children
      induction children generalizing next with
      | nil => rfl
      | cons child rest inner => rw [List.foldl_cons, List.foldl_cons, ih, inner]

/-- Moved remarks are grafted on a moved tree. -/
theorem addNodes_move (remarks : List Remark)
    : (tree.move source shift).addNodes (remarks.map (Remark.move shift))
      = (tree.addNodes remarks).map (move source shift) := by
  rw [addNodes, addNodes, rootId_move, length_move, List.length_map]
  cases tree.rootId with
  | error fault => rfl
  | ok root =>
      exact congrArg Except.ok (walk_move source shift
        (fun id tree => graftAt_move source shift tree remarks id) _ root tree)

/-- A moved node gets the level of the node. -/
theorem setLevel_move (id : NodeId)
    : (tree.move source shift).setLevel id = (tree.setLevel id).move source shift := by
  have under (parent : Option NodeId)
      : (tree.move source shift).levelUnder parent = tree.levelUnder parent := by
    rw [levelUnder, levelUnder]
    cases parent with
    | none => rfl
    | some parent =>
        rw [Option.bind_some, Option.bind_some, getElem?_move]
        cases tree.nodes[parent]? <;> rfl
  rw [setLevel, setLevel, getElem?_move]
  cases tree.nodes[id]? with
  | none => rfl
  | some node =>
      simp only [Option.map_some, under]
      rw [update_move, apply_ite (move source shift)]
      · rfl
      · exact fun _ => rfl

/-- The nodes below a moved node are those below the node, by induction on the depth. -/
theorem below_move (depth : Nat) (id : NodeId)
    : (tree.move source shift).below depth id = tree.below depth id := by
  induction depth generalizing id with
  | zero => rfl
  | succ depth ih =>
      rw [below, below, childrenOf_move]
      exact congrArg _ (List.map_congr_left fun child _ => ih child)

/-- The nodes of a moved tree get the levels of the tree's nodes. -/
theorem setLevels_move
    : (tree.move source shift).setLevels = tree.setLevels.map (move source shift) := by
  rw [setLevels, setLevels, rootId_move]
  cases tree.rootId with
  | error fault => rfl
  | ok root =>
      simp only [Except.map, preorder, subtree, length_move, below_move]
      generalize (tree.below tree.nodes.length root).preorder = ids
      refine congrArg Except.ok ?_
      induction ids generalizing tree with
      | nil => rfl
      | cons id rest ih => rw [List.foldl_cons, List.foldl_cons, setLevel_move, ih]

/-- The tree of moved regions and remarks is the moved tree. -/
theorem build_move (other : List Char) (file : Path) (skeleton : Rose Region)
    (remarks : List Remark)
    : build other file (skeleton.map (Region.move shift)) (remarks.map (Remark.move shift))
      = (build source file skeleton remarks).map (move other shift) := by
  have grown := growSkeleton_move other shift (empty source file) skeleton
  rw [show (empty source file).move other shift = empty other file from rfl] at grown
  rw [build, build, grown, setRoot_move, addNodes_move]
  cases ((growSkeleton (empty source file) skeleton).setRoot 0).addNodes remarks with
  | error fault => rfl
  | ok full => exact setLevels_move other shift full

/-! ### Trees of the same lines -/

/-- What is said about a cost below zero tells the lines of the node, and not its offsets. -/
theorem message_eq_of_lineRange_eq (cost : Int) (id : NodeId) {span span' : Span}
    (same : span.lineRange = span'.lineRange)
    : (Fault.negativeUniqueCost cost id span).message
      = (Fault.negativeUniqueCost cost id span').message :=
  congrArg (("Negative unique cost " ++ toString cost ++ " for node " ++ toString id ++ " at lines ")
    ++ ·) same

/-- A node of a tree and one of another tree are the same but for the offsets and the characters of
their regions.
-/
structure NodesAlike (tree other : Tree) (node node' : Node) : Prop where
  id : node'.id = node.id
  kind : node'.region.kind = node.region.kind
  name : node'.region.name = node.region.name
  parent : node'.parent = node.parent
  children : node'.children = node.children
  level : node'.level = node.level
  terms : node'.terms = node.terms
  unfolded : node'.unfolded = node.unfolded
  firstLine : node'.span.firstLine = node.span.firstLine
  lastLine : node'.span.lastLine = node.span.lastLine
  cost : (other.uniqueCost node').mapError Fault.message
    = (tree.uniqueCost node).mapError Fault.message

/-- Trees have the same root, and their nodes are the same but for the offsets and the characters of
their regions.
-/
structure Alike (tree other : Tree) : Prop where
  root : other.root = tree.root
  nodes : List.Forall₂ (NodesAlike tree other) tree.nodes other.nodes

section

variable {source shift tree} (kept : ∀ node ∈ tree.nodes,
  (node.move source shift).span.firstLine = node.span.firstLine
    ∧ (node.move source shift).span.lastLine = node.span.lastLine)

include kept

/-- Nodes that move from lines to the same lines show as many. -/
theorem lineCount_move {node : Node} (member : node ∈ tree.nodes)
    : (node.move source shift).span.lineCount = node.span.lineCount := by
  obtain ⟨first, last⟩ := kept node member
  rw [Span.lineCount, Span.lineCount, first, last]

/-- Nodes that move from lines to the same lines cost the same by themselves. A cost below zero is
told with the same lines.
-/
theorem uniqueCost_move {node : Node} (member : node ∈ tree.nodes)
    : ((tree.move source shift).uniqueCost (node.move source shift)).mapError Fault.message
      = (tree.uniqueCost node).mapError Fault.message := by
  have extra (id : NodeId) : (tree.move source shift).extraLines id = tree.extraLines id := by
    rw [extraLines, extraLines, getElem?_move]
    cases found : tree.nodes[id]? with
    | none => rfl
    | some child =>
        exact congrArg (· - 1) (lineCount_move kept (List.mem_of_getElem? found))
  have below : (tree.move source shift).childLines (node.move source shift)
      = tree.childLines node := by
    simp only [childLines, extra]
    rfl
  obtain ⟨first, last⟩ := kept node member
  simp only [uniqueCost, below, lineCount_move kept member]
  by_cases low : node.span.lineCount - 1 - tree.childLines node < 0
  · have range : (node.move source shift).span.lineRange = node.span.lineRange := by
      rw [Span.lineRange, Span.lineRange, first, last]
    rw [if_pos low, if_pos low]
    exact congrArg Except.error (message_eq_of_lineRange_eq _ _ range)
  · rw [if_neg low, if_neg low]

/-- A tree is alike when all nodes move from lines to the same lines. -/
theorem alike_move : tree.Alike (tree.move source shift) := by
  refine ⟨rfl, ?_⟩
  rw [move, List.forall₂_map_right_iff, List.forall₂_same]
  intro node member
  obtain ⟨first, last⟩ := kept node member
  exact ⟨rfl, rfl, rfl, rfl, rfl, rfl, rfl, rfl, first, last, uniqueCost_move kept member⟩

end

end Tree

end FoldTree
