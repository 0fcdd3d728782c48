import FoldTree.Text.Blank
import FoldTree.Tree.Basic

/-! The text that a node shows by itself, with the texts of its children cut out. -/

namespace FoldTree.Tree

/-- What is left of a text from an offset on, when stretches given in order are cut out. A
stretch that starts before the offset is left alone. Offsets count from the start of the text.
-/
def cutOut (text : List Char) : Int → List (Int × Int) → List Char
  | cursor, [] => Text.slice text cursor text.length
  | cursor, (first, last) :: rest =>
    if first < cursor then cutOut text cursor rest
    else Text.slice text cursor first ++ cutOut text (last + 1) rest

/-- The places of a node's children inside its text, by where they start. -/
def childStretches (tree : Tree) (node : Node) : List (Int × Int) :=
  let spans := (node.children.filterMap fun id => tree.nodes[id]?).map (·.span)
  (spans.mergeSort fun a b => decide (a.first ≤ b.first)).map fun span =>
    (span.first - node.span.first, span.last - node.span.first)

/-- The text of a node with the text of every child cut out. -/
def ownText (tree : Tree) (node : Node) : List Char :=
  cutOut node.text 0 (tree.childStretches node)

/-- The most characters that a preview shows. -/
def previewWidth : Nat := 40

/-- The first line of a node's own text, shortened with three dots when it is long. -/
def preview (tree : Tree) (node : Node) : List Char :=
  let line := Text.trim (Text.firstLine (Text.trim (tree.ownText node)))
  if line.length > previewWidth then line.take (previewWidth - 3) ++ ['.', '.', '.'] else line

end FoldTree.Tree
