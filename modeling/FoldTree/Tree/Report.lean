import FoldTree.Decimal.Layout
import FoldTree.Text.Quoted
import FoldTree.Tree.Loop
import FoldTree.Tree.OwnText

/-! Descriptions of nodes and trees for reading. -/

namespace FoldTree

/-- The entries of a multiset between braces, as quoted terms with their counts. -/
def Terms.describe (terms : Terms) : String :=
  "\x7b" ++ ", ".intercalate (terms.entries.map fun entry =>
    Text.quoted entry.1 ++ ": " ++ toString entry.2) ++ "\x7d"

/-- The word for a truth value, with a capital. -/
def truthWord (b : Bool) : String :=
  if b then "True" else "False"

namespace Tree

/-- A short description of a node. -/
def nodeLabel (node : Node) : String :=
  "FoldableNode(id=" ++ toString node.id ++ ", kind=" ++ Text.quoted node.region.kind ++ ", lines="
    ++ node.span.lineRange ++ ")"

/-- A node with its own text and its terms. -/
def describeNode (tree : Tree) (node : Node) : String :=
  "Level: " ++ toString node.level ++ " isUnfolded: " ++ truthWord node.unfolded ++ " - Range "
    ++ node.span.lineRange ++ " : \n " ++ String.ofList (tree.ownText node) ++ "raw-tfs: "
    ++ node.terms.describe ++ "\n"

/-- All nodes that the root reaches, one description after the other. -/
def describe (tree : Tree) : Except Fault String :=
  tree.reachable.map fun nodes =>
    String.join (nodes.map fun node => "\n" ++ tree.describeNode node)

/-- A short description of a tree. -/
def label (tree : Tree) : String :=
  "FoldableTree(file=" ++ Text.quoted tree.file.name ++ ", nodes=" ++ toString tree.nodes.length
    ++ ", budget=" ++ Decimal.exact tree.budget ++ ")"

/-- The terms of the reachable nodes by place: nodes of equal place share the entry of the first,
which holds the terms of the last.
-/
def termsBySpan (tree : Tree) : Except Fault (List (Span × Terms)) :=
  tree.reachable.map fun nodes => nodes.foldl (fun table node => put node.span node.terms table) []
where
  put (span : Span) (terms : Terms) : List (Span × Terms) → List (Span × Terms)
  | [] => [(span, terms)]
  | (other, kept) :: rest =>
    if other = span then (other, terms) :: rest else (other, kept) :: put span terms rest

/-- The terms of the reachable nodes by id, in pre-order. -/
def termsById (tree : Tree) : Except Fault (List (NodeId × Terms)) :=
  tree.reachable.map fun nodes => nodes.map fun node => (node.id, node.terms)

end Tree

end FoldTree
