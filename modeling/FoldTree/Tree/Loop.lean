import FoldTree.Tree.Walk

/-! Walks as loops. A loop keeps a stack of the nodes that are pending, each with the value that came of
the visit to its parent, and the next node is the last one of the stack. When a node has been visited,
the children that it has by then go on the stack from the last one to the first, so that the first one is
next. Only the number of rounds that it is given bounds a loop.
-/

namespace FoldTree

/-- What is done at a node with the value from its parent: it comes to a value for the node's children, or
it fails. Either way it leaves a state behind, and the tree may be part of that.
-/
abbrev Operation (ε σ α : Type) := NodeId → α → σ → Except ε α × σ

/-- An operation that never fails. -/
def Operation.total {ε σ α : Type} (visit : NodeId → α → σ → α × σ) : Operation ε σ α :=
  fun id above state => (.ok (visit id above state).1, (visit id above state).2)

/-- A loop under way: the state, the calls of the operation with the values that it was given, the fault
that ended the loop, if one did, and the nodes that are pending.
-/
structure Loop (ε σ α : Type) where
  state : σ
  calls : List (NodeId × α)
  fault : Option ε
  stack : List (NodeId × α)

namespace Loop

variable {ε σ α : Type}

/-- Siblings as they go on the stack, each with the value from their parent. -/
def pile (value : α) (siblings : List NodeId) : List (NodeId × α) :=
  siblings.reverse.map fun child => (child, value)

/-- One round: takes the last node off the stack, calls the operation there, and puts the node's children
on the stack. A fault leaves nothing pending.
-/
def next (children : σ → NodeId → List NodeId) (operate : Operation ε σ α) (now : Loop ε σ α) :
    Loop ε σ α :=
  match now.stack.getLast? with
  | none => now
  | some (id, above) =>
    match operate id above now.state with
    | (.error fault, after) => ⟨after, now.calls ++ [(id, above)], some fault, []⟩
    | (.ok value, after) =>
      ⟨after, now.calls ++ [(id, above)], none,
        now.stack.dropLast ++ pile value (children after id)⟩

/-- Some rounds; nothing happens in them once nothing is pending. -/
def run (children : σ → NodeId → List NodeId) (operate : Operation ε σ α) :
    Nat → Loop ε σ α → Loop ε σ α
  | 0, now => now
  | rounds + 1, now => run children operate rounds (now.next children operate)

/-- What a loop has come to: a result of its own, unless a fault has ended it. -/
def outcome {β : Type} (now : Loop ε σ α) (result : β) : Except ε β :=
  match now.fault with
  | some fault => .error fault
  | none => .ok result

/-- Calls the operation at the root, and then goes round from the root's children on. If the rounds are
enough, gives the calls that were made, the value of the root, and the last state.
-/
def traverse? (children : σ → NodeId → List NodeId) (operate : Operation ε σ α) (rounds : Nat)
    (root : NodeId) (prev : α) (state : σ) : Option (List (NodeId × α) × Except ε α × σ) :=
  match operate root prev state with
  | (.error fault, after) => some ([(root, prev)], .error fault, after)
  | (.ok value, after) =>
    let last := run children operate rounds
      ⟨after, [(root, prev)], none, pile value (children after root)⟩
    if last.stack.isEmpty then some (last.calls, last.outcome value, last.state) else none

/-- Goes round from the root on, for the sake of what the operation leaves in the state. If the rounds are
enough, gives the calls that were made, whether one of them failed, and the last state.
-/
def sweep? (children : σ → NodeId → List NodeId) (operate : Operation ε σ α) (rounds : Nat)
    (root : NodeId) (prev : α) (state : σ) : Option (List (NodeId × α) × Except ε Unit × σ) :=
  let last := run children operate rounds ⟨state, [], none, [(root, prev)]⟩
  if last.stack.isEmpty then some (last.calls, last.outcome (), last.state) else none

end Loop

/-- An iteration under way: the nodes that it has given, and those that are pending. -/
structure Iteration where
  given : List NodeId
  stack : List NodeId

namespace Iteration

/-- One round: gives the last node of the stack, and puts the node's children on the stack. -/
def next (links : NodeId → List NodeId) (now : Iteration) : Iteration :=
  match now.stack.getLast? with
  | none => now
  | some id => ⟨now.given ++ [id], now.stack.dropLast ++ (links id).reverse⟩

/-- Some rounds; nothing happens in them once nothing is pending. -/
def run (links : NodeId → List NodeId) : Nat → Iteration → Iteration
  | 0, now => now
  | rounds + 1, now => run links rounds (now.next links)

/-- The nodes that iterating from a root gives, if the rounds are enough. -/
def from? (links : NodeId → List NodeId) (rounds : Nat) (root : NodeId) : Option (List NodeId) :=
  let last := run links rounds ⟨[], [root]⟩
  if last.stack.isEmpty then some last.given else none

end Iteration

/-- Walks through a tree that does not change, keeping a state of its own. A walk that does not end, since
links run in a circle, comes to nothing.
-/
def Tree.traverse {σ α : Type} (tree : Tree) (visit : NodeId → α → σ → α × σ) (id : NodeId)
    (value : α) (state : σ) : α × σ :=
  let operate : Operation Empty σ α := .total visit
  match Loop.traverse? (fun _ => tree.childrenOf) operate tree.nodes.length id value state with
  | some (_, .ok result, last) => (result, last)
  | none => (value, state)

end FoldTree
