import FoldTree.Rose
import FoldTree.Tree.Basic

/-! Walks from a node through all nodes below it, in pre-order. What is left of the depth bounds
every walk, so that a tree whose links run in a circle has finite walks too; the depth of a tree
without such a circle is at most its number of nodes.
-/

namespace FoldTree

/-- Visits a node with what its parent's visit gave, then the children that it has after the
visit. Siblings are visited from left to right, each with the value from their parent. Gives the
value of the first visit and the state after the last one.
-/
def walk {σ α : Type} (children : σ → NodeId → List NodeId)
    (visit : NodeId → α → σ → α × σ) : Nat → NodeId → α → σ → α × σ
  | 0, _, value, state => (value, state)
  | depth + 1, id, value, state =>
    let (result, next) := visit id value state
    (result, (children next id).foldl
      (fun state child => (walk children visit depth child result state).2) next)

namespace Tree

/-- The ids at and below a node, down to a depth. -/
def below (tree : Tree) : Nat → NodeId → Rose NodeId
  | 0, id => .node id []
  | depth + 1, id => .node id ((tree.childrenOf id).map (tree.below depth))

/-- The ids at and below a node. -/
def subtree (tree : Tree) (id : NodeId) : Rose NodeId :=
  tree.below tree.nodes.length id

/-- The ids at and below a node in pre-order. -/
def preorder (tree : Tree) (id : NodeId) : List NodeId :=
  (tree.subtree id).preorder

/-- The nodes at and below a node in pre-order. -/
def nodesBelow (tree : Tree) (id : NodeId) : List Node :=
  (tree.preorder id).filterMap fun id => tree.nodes[id]?

/-- The nodes that the root reaches, in pre-order. -/
def reachable (tree : Tree) : Except Fault (List Node) :=
  tree.rootId.map tree.nodesBelow

end Tree

end FoldTree
