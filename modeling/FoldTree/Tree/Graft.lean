import FoldTree.Tree.Levels

/-! Grafting of remarks, and building a tree from a skeleton of regions. Each remark
becomes a new last child of every node whose region carries it; the new nodes are visited in turn,
since their regions may carry remarks themselves.
-/

namespace FoldTree.Tree

/-- Makes a node for a remark and attaches it under a node. -/
def graft (tree : Tree) (id : NodeId) (remark : Remark) : Tree :=
  let child := tree.nodes.length
  (tree.newNode remark.region (Terms.empty.addAll remark.terms)).link id child

/-- The remarks that a node's region carries, in their given order. -/
def carried (tree : Tree) (remarks : List Remark) (id : NodeId) : List Remark :=
  match tree.nodes[id]? with
  | none => []
  | some node => remarks.filter fun remark => remark.carrier == node.region.key

/-- Grafts all remarks that one node carries. -/
def graftAt (remarks : List Remark) (id : NodeId) (tree : Tree) : Tree :=
  (tree.carried remarks id).foldl (fun tree remark => tree.graft id remark) tree

/-- Grafts remarks along a walk from the root. Where no remark's region carries, by way of
others, the region that carries it, no path runs through more new nodes than there are
remarks, and that bounds the depth.
-/
def addNodes (tree : Tree) (remarks : List Remark) : Except Fault Tree :=
  tree.rootId.map fun root =>
    (walk childrenOf (fun id () tree => ((), graftAt remarks id tree))
      (tree.nodes.length + remarks.length) root () tree).2

mutual

/-- Makes nodes for a region and those below it, in pre-order, attached to each other. The id of
the first is the number of nodes made before.
-/
def growSkeleton (tree : Tree) : Rose Region → Tree
  | .node region below =>
    growBranches (tree.newNode region (Terms.empty.addAll region.terms)) tree.nodes.length below

/-- Makes nodes for several regions with what is below them, attached to one parent. -/
def growBranches (tree : Tree) (parent : NodeId) : List (Rose Region) → Tree
  | [] => tree
  | branch :: rest =>
    let child := tree.nodes.length
    growBranches ((growSkeleton tree branch).link parent child) parent rest

end

/-- Builds the tree of a skeleton with its remarks: skeleton nodes first, in pre-order, then
the remarks in the order in which a walk meets their carriers.
-/
def build (source : List Char) (file : Path) (skeleton : Rose Region)
    (remarks : List Remark) : Except Fault Tree := do
  let tree := (growSkeleton (empty source file) skeleton).setRoot 0
  let tree ← tree.addNodes remarks
  tree.setLevels

end FoldTree.Tree
