import FoldTree.Decimal.Layout
import FoldTree.Tree.Cost
import FoldTree.Tree.Walk

/-! Offers: what unfolding a node costs in display lines and what profit it promises. An unfolded
node costs nothing and its children count from zero again; a folded node costs what its parent has
come to plus its own unique cost, and hands that on.
-/

namespace FoldTree

/-- The cost of unfolding a node, and its profit where one was asked for. -/
structure Offer where
  cost : Int
  profit : Option Float

namespace Offer

/-- A profit below every number, for nodes that are never worth unfolding. -/
def worst : Float := -1.0 / 0.0

/-- Whether the profit is the worst one. -/
def isWorthless (offer : Offer) : Bool :=
  match offer.profit with
  | some profit => profit == worst
  | none => false

/-- The profit to four digits, or a dash. -/
def shortProfit (offer : Offer) : String :=
  match offer.profit with
  | none => "-"
  | some profit => if offer.isWorthless then "-inf" else Decimal.general 4 profit

end Offer

/-- Offers for nodes in the order in which they were made. -/
abbrev OfferTable := List (NodeId × Offer)

namespace Tree

/-- The offer for one node over the cost that its parent has come to, and the cost that its
children count from.
-/
def offerFor (tree : Tree) (node : Node) (above : Int) (profit : Option Float) :
    Except Fault (Offer × Int) :=
  if node.unfolded then .ok (⟨0, profit⟩, 0)
  else do
    let cost := above + (← tree.uniqueCost node)
    if cost < 0 then throw (.negativeTotalCost cost node.id)
    return (⟨cost, profit⟩, cost)

mutual

/-- Offers without profits for the nodes of a subtree, in pre-order. -/
def baselineBelow (tree : Tree) (above : Int) : Rose NodeId → Except Fault OfferTable
  | .node id below =>
    match tree.nodes[id]? with
    | none => .ok []
    | some node => do
      let (offer, cost) ← tree.offerFor node above none
      let rest ← tree.baselineAll cost below
      return (id, offer) :: rest

/-- Offers without profits for the nodes of several subtrees, one after the other. -/
def baselineAll (tree : Tree) (above : Int) : List (Rose NodeId) → Except Fault OfferTable
  | [] => .ok []
  | branch :: rest => do
    let first ← tree.baselineBelow above branch
    let others ← tree.baselineAll above rest
    return first ++ others

end

/-- Offers without profits for all nodes that the root reaches. -/
def baseline (tree : Tree) : Except Fault OfferTable := do
  tree.baselineBelow 0 (tree.subtree (← tree.rootId))

/-- Pays what a node costs by the offers of the moment, and unfolds it. -/
def pay (tree : Tree) (id : NodeId) : Except Fault Tree := do
  match (← tree.baseline).lookup id with
  | none => throw (.unreachable id)
  | some offer => return (← tree.shrinkBudget offer.cost).setUnfolded id

end Tree

end FoldTree
