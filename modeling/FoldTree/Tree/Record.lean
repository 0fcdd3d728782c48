import FoldTree.Json
import FoldTree.Offer.Basic

/-! Nodes and offers as JSON values. -/

namespace FoldTree

/-- A multiset as an object of counts. -/
def Terms.json (terms : Terms) : Json :=
  .object (terms.entries.map fun entry => (entry.1, .integer entry.2))

/-- A profit as a JSON value: absent, a number, or a text where it is not finite. -/
def Offer.json (offer : Offer) : Json :=
  match offer.profit with
  | none => .null
  | some profit => if profit.isFinite then .number profit else .text (Decimal.exact profit)

namespace Tree

/-- The fields of a node's record. -/
def nodeFields (tree : Tree) (node : Node) : Except Fault (List (String × Json)) := do
  return [
    ("id", .integer node.id),
    ("kind", .text node.region.kind),
    ("level", .integer node.level),
    ("start_line", .integer node.span.firstLine),
    ("end_line", .integer node.span.lastLine),
    ("unique_cost", .integer (← tree.uniqueCost node)),
    ("terms", node.terms.json)]

mutual

/-- The record of a subtree: the fields of its root, and the records below it. -/
def recordBelow (tree : Tree) : Rose NodeId → Except Fault Json
  | .node id below =>
    match tree.nodes[id]? with
    | none => .ok .null
    | some node => do
      let fields ← tree.nodeFields node
      let children ← tree.recordAll below
      return .object (fields ++ [("children", .list children)])

/-- The records of several subtrees. -/
def recordAll (tree : Tree) : List (Rose NodeId) → Except Fault (List Json)
  | [] => .ok []
  | branch :: rest => do
    let first ← tree.recordBelow branch
    let others ← tree.recordAll rest
    return first :: others

end

end Tree

end FoldTree
