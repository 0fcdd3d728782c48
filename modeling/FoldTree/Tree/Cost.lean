import FoldTree.Tree.Basic

/-! The lines that a node adds to the display when it is unfolded. -/

namespace FoldTree.Tree

/-- The lines of a node beyond its first. -/
def extraLines (tree : Tree) (id : NodeId) : Int :=
  match tree.nodes[id]? with
  | some node => node.span.lineCount - 1
  | none => 0

/-- The lines beyond their first of all children of a node. -/
def childLines (tree : Tree) (node : Node) : Int :=
  node.children.foldl (fun lines child => lines + tree.extraLines child) 0

/-- The lines beyond its first that a node shows and none of its children shows, where the
children share no lines but those on which one ends and the next starts. Children that reach out
of the node or overlap can bring this below zero, which is a fault.
-/
def uniqueCost (tree : Tree) (node : Node) : Except Fault Int :=
  let cost := node.span.lineCount - 1 - tree.childLines node
  if cost < 0 then .error (.negativeUniqueCost cost node.id node.span) else .ok cost

end FoldTree.Tree
