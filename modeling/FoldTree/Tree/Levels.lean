import FoldTree.Tree.Walk

/-! Levels count the steps from the root. They are given out along a walk from the root, each from
the level of the parent that the node was attached to.
-/

namespace FoldTree.Tree

/-- The level next to a parent's level. -/
def levelUnder (tree : Tree) (parent : Option NodeId) : Int :=
  match parent.bind fun id => tree.nodes[id]? with
  | some node => node.level + 1
  | none => 0

/-- Gives one node its level. A node on level zero stays there. -/
def setLevel (tree : Tree) (id : NodeId) : Tree :=
  match tree.nodes[id]? with
  | none => tree
  | some node =>
    if node.level = 0 then tree
    else tree.update id fun node => { node with level := tree.levelUnder node.parent }

/-- Gives every node that the root reaches its level. -/
def setLevels (tree : Tree) : Except Fault Tree :=
  tree.rootId.map fun root => (tree.preorder root).foldl setLevel tree

end FoldTree.Tree
