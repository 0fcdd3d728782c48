import FoldTree.Console.Table
import FoldTree.Tree.Record
import FoldTree.Tree.Report

/-! What the commands show: the tree of a file, its terms, and the offers for its nodes. Texts other
than JSON have markup.
-/

namespace FoldTree.Console

/-- The width of a line of output, in cells. A console has the width of its terminal, or the one that its
environment names. Here it is so wide that a table of offers, whose previews are short, has all of its
columns as wide as their texts; how columns shrink to a narrower console is not described.
-/
def lineWidth : Nat := 10000

/-- Lines as output. -/
def output (lines : List (List Char)) : String :=
  String.join (lines.map fun line => String.ofList (line ++ ['\n']))

/-- A text as output, fitted to the width of a line. -/
def printed (text : String) : String :=
  output (wrapped lineWidth .fold .plain text)

/-- A JSON value as a line of output. -/
def printedJson (value : Json) : String :=
  value.render true ++ "\n"

/-! ### Trees -/

/-- What stands in front of a node: nothing for the root, else the bars of the nodes above it and a
branch, which is the last one of its node or not.
-/
structure Margin where
  bars : String
  isRoot : Bool
  isLast : Bool

/-- The bars and the branch. -/
def Margin.text (margin : Margin) : String :=
  margin.bars ++ if margin.isRoot then "" else if margin.isLast then "└─ " else "├─ "

/-- The margin of a child. -/
def Margin.below (margin : Margin) (isLast : Bool) : Margin where
  bars := if margin.isRoot then margin.bars
    else margin.bars ++ if margin.isLast then "   " else "│  "
  isRoot := false
  isLast := isLast

/-- The line for a node. -/
def nodeLine (tree : Tree) (margin : Margin) (node : Node) : Except Tree.Fault String := do
  let cost ← tree.uniqueCost node
  return s!"{margin.text}[cyan]#{node.id}[/] {node.region.kind} [dim]lines {node.span.firstLine}-"
    ++ s!"{node.span.lastLine}, unique {cost}, {node.terms.total} terms[/]"

mutual

/-- The lines for a subtree in pre-order. -/
def treeLines (tree : Tree) (margin : Margin) : Rose NodeId → List (Except Tree.Fault String)
  | .node id below =>
    match tree.nodes[id]? with
    | none => []
    | some node => nodeLine tree margin node :: branchLines tree margin below

/-- The lines for the branches below a margin. -/
def branchLines (tree : Tree) (margin : Margin) :
    List (Rose NodeId) → List (Except Tree.Fault String)
  | [] => []
  | branch :: rest =>
    treeLines tree (margin.below rest.isEmpty) branch ++ branchLines tree margin rest

end

/-- The heading over a tree. -/
def treeHeading (tree : Tree) : String :=
  s!"\n[bold]Fold tree for [cyan]{tree.file.name}[/cyan][/] ({tree.nodes.length} nodes)\n"

/-- A tree as text: its heading, then a line for each node. -/
def treeTexts (tree : Tree) (root : NodeId) : List (Except Tree.Fault String) :=
  .ok (treeHeading tree) :: treeLines tree ⟨"", true, true⟩ (tree.subtree root)

/-! ### Terms -/

/-- A term with its count, which is left out for a single occurrence. -/
def countedTerm (entry : String × Nat) : String :=
  if 1 < entry.2 then s!"{entry.1}×{entry.2}" else entry.1

/-- The terms of a node, the most frequent ones first. -/
def listedTerms (terms : Terms) : String :=
  if terms.isEmpty then "  [dim]no terms[/]"
  else "  " ++ ", ".intercalate (terms.mostCommon.map countedTerm)

/-- The terms of nodes as text: two lines for each. -/
def termTexts (nodes : List Node) : List String :=
  nodes.flatMap fun node =>
    [s!"[cyan]#{node.id}[/cyan] {node.region.kind} [dim]{node.span.lineRange}[/]",
      listedTerms node.terms]

/-- The terms of nodes as a JSON value. -/
def termsJson (nodes : List Node) : Json :=
  .object (nodes.map fun node => (toString node.id, node.terms.json))

/-! ### Offers -/

/-- The columns of the table of offers. -/
def offerColumns : List Column :=
  [⟨"id", .right⟩, ⟨"kind", .left⟩, ⟨"lines", .left⟩, ⟨"cost", .right⟩, ⟨"profit", .right⟩,
    ⟨"text", .left⟩]

/-- The row for an offer. -/
def offerRow (tree : Tree) (node : Node) (offer : Offer) : List String :=
  [toString node.id,
    node.region.kind ++ (if node.unfolded then " [green](unfolded)[/]" else ""),
    s!"{node.span.firstLine}-{node.span.lastLine}",
    toString offer.cost,
    offer.shortProfit,
    String.ofList (tree.preview node)]

/-- Offers as a table. -/
def offerTable (tree : Tree) (offers : OfferTable) : Table where
  title := s!"Unfold options for {tree.file.name}"
  columns := offerColumns
  rows := offers.filterMap fun (id, offer) =>
    (tree.nodes[id]?).map fun node => offerRow tree node offer

/-- What is left to spend. -/
def budgetLine (tree : Tree) : String :=
  s!"[dim]Remaining budget: {Decimal.general 6 tree.budget} lines[/]"

/-- Offers as a JSON value. -/
def offersJson (tree : Tree) (offers : OfferTable) : Json :=
  .object [
    ("file", .text tree.file.text),
    ("budget", .number tree.budget),
    ("options", .list (offers.map fun (id, offer) =>
      .object [("id", .integer id), ("cost", .integer offer.cost), ("profit", offer.json)]))]

end FoldTree.Console
