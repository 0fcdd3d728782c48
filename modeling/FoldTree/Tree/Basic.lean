import FoldTree.Path
import FoldTree.Term.Bag
import FoldTree.Text.Slice
import FoldTree.Tree.Span

/-! Fold trees. A tree keeps all its nodes in the order in which they were made; a node's id is its
place in that order, and nodes refer to each other by id. Nodes are made loose and attached later,
and any node may be declared the root.
-/

namespace FoldTree

/-- The place of a node in its tree's order. -/
abbrev NodeId := Nat

/-- One region of the text as part of a tree. The terms are those of this node alone. -/
structure Node where
  id : NodeId
  region : Region
  span : Span
  text : List Char
  level : Int
  terms : Terms
  children : List NodeId
  parent : Option NodeId
  unfolded : Bool

/-- The fold tree of one file, with the display lines that are left to spend. -/
structure Tree where
  source : List Char
  file : Path
  root : Option NodeId
  nodes : List Node
  budget : Float

/-- What breaks a rule of fold trees. -/
inductive Tree.Fault where
  | unknownNode (id : Int)
  | unreachable (id : NodeId)
  | attached (child parent : NodeId)
  | rootless (file : Path)
  | negativeUniqueCost (cost : Int) (id : NodeId) (span : Span)
  | negativeTotalCost (cost : Int) (id : NodeId)
  | negativePayment (cost : Int)

/-- What is said about a broken rule. -/
def Tree.Fault.message : Tree.Fault → String
  | .unknownNode id => "No node " ++ toString id
  | .unreachable id => "No way from the root to node " ++ toString id
  | .attached child parent =>
    "Node " ++ toString child ++ " is already attached to node " ++ toString parent
  | .rootless file => "Fold tree for " ++ file.text ++ " has no root"
  | .negativeUniqueCost cost id span =>
    "Negative unique cost " ++ toString cost ++ " for node " ++ toString id ++ " at lines "
      ++ span.lineRange
  | .negativeTotalCost cost id =>
    "Negative accumulated cost " ++ toString cost ++ " at node " ++ toString id
  | .negativePayment cost => "Cannot shrink budget by negative cost " ++ toString cost

namespace Tree

/-- A tree of no nodes with nothing to spend. -/
def empty (source : List Char) (file : Path) : Tree where
  source
  file
  root := none
  nodes := []
  budget := 0.0

/-- The name under which a content model knows the file. -/
def fileId (tree : Tree) : String :=
  tree.file.stem

/-- The node of an id. A negative id counts from the node made last. -/
def find (tree : Tree) (id : Int) : Except Fault Node :=
  let place := if id < 0 then id + tree.nodes.length else id
  match (if place < 0 then none else tree.nodes[place.toNat]?) with
  | some node => .ok node
  | none => .error (.unknownNode id)

/-- The root, once one is declared. -/
def rootId (tree : Tree) : Except Fault NodeId :=
  match tree.root with
  | some id => .ok id
  | none => .error (.rootless tree.file)

/-- The children of a node, in the order in which they were attached. -/
def childrenOf (tree : Tree) (id : NodeId) : List NodeId :=
  match tree.nodes[id]? with
  | some node => node.children
  | none => []

/-- Changes one node. -/
def update (tree : Tree) (id : NodeId) (f : Node → Node) : Tree :=
  { tree with nodes := tree.nodes.modify id f }

/-- A loose folded node for a region, with the next free id and the given terms. -/
def makeNode (tree : Tree) (region : Region) (terms : Terms) : Node :=
  let span := Span.ofRegion tree.source region
  { id := tree.nodes.length
    region
    span
    text := Text.slice tree.source span.first (span.last + 1)
    level := -1
    terms
    children := []
    parent := none
    unfolded := false }

/-- Makes a loose node for a region; its id is the number of nodes made before. -/
def newNode (tree : Tree) (region : Region) (terms : Terms) : Tree :=
  { tree with nodes := tree.nodes ++ [tree.makeNode region terms] }

/-- Writes the link between a parent and its new last child on both sides. -/
def link (tree : Tree) (parent child : NodeId) : Tree :=
  (tree.update parent fun node => { node with children := node.children ++ [child] }).update child
    fun node => { node with parent := some parent }

/-- Attaches a loose node as the last child of another. -/
def addChild (tree : Tree) (parent child : NodeId) : Except Fault Tree := do
  let node ← tree.find child
  match node.parent with
  | some other => .error (.attached child other)
  | none => .ok (tree.link parent child)

/-- Declares the root and gives it level zero. -/
def setRoot (tree : Tree) (id : NodeId) : Tree :=
  { tree.update id fun node => { node with level := 0 } with root := some id }

/-- Adds one occurrence of each term to a node. -/
def addTerms (tree : Tree) (id : NodeId) (terms : List String) : Tree :=
  tree.update id fun node => { node with terms := node.terms.addAll terms }

/-- Removes one occurrence of each term from a node, where there is one. -/
def removeTerms (tree : Tree) (id : NodeId) (terms : List String) : Tree :=
  tree.update id fun node => { node with terms := node.terms.removeAll terms }

/-- Marks a node unfolded; nothing folds it again. -/
def setUnfolded (tree : Tree) (id : NodeId) : Tree :=
  tree.update id fun node => { node with unfolded := true }

/-- Replaces the lines that are left to spend. -/
def setBudget (tree : Tree) (budget : Float) : Tree :=
  { tree with budget }

/-- Spends lines. -/
def shrinkBudget (tree : Tree) (cost : Int) : Except Fault Tree :=
  if cost < 0 then .error (.negativePayment cost)
  else .ok { tree with budget := tree.budget - Float.ofInt cost }

/-- The line of an offset in the tree's text: how many of its lines start up to there. -/
def lineNumber (tree : Tree) (offset : Int) : Nat :=
  let starts := Text.lineStarts tree.source
  Text.countUpTo starts offset 0 starts.size (Nat.le_refl _)

end Tree

end FoldTree
