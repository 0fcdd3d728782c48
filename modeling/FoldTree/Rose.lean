/-! Trees with any number of branches, and their pre-order view. Every recursion over such a tree
comes as a pair: one function for a tree, one for the list of its branches.
-/

namespace FoldTree

/-- A value together with the trees that hang below it, from left to right. -/
inductive Rose (α : Type) where
  | node (value : α) (children : List (Rose α))

namespace Rose

variable {α β : Type}

instance [Inhabited α] : Inhabited (Rose α) := ⟨.node default []⟩

/-- The value at the root. -/
def value : Rose α → α
  | .node a _ => a

/-- The trees directly below the root. -/
def children : Rose α → List (Rose α)
  | .node _ cs => cs

mutual

/-- The values in pre-order: each value before those below it, siblings from left to right. -/
def preorder : Rose α → List α
  | .node a cs => a :: preorderAll cs

/-- The values of several trees, one tree after the other. -/
def preorderAll : List (Rose α) → List α
  | [] => []
  | c :: cs => c.preorder ++ preorderAll cs

end

mutual

/-- Applies a function to every value. -/
def map (f : α → β) : Rose α → Rose β
  | .node a cs => .node (f a) (mapAll f cs)

/-- Applies a function to every value of several trees. -/
def mapAll (f : α → β) : List (Rose α) → List (Rose β)
  | [] => []
  | c :: cs => c.map f :: mapAll f cs

end

mutual

/-- Replaces each value by an image that may depend on how many values come before it in
pre-order; also gives the count after the last one.
-/
def number (f : Nat → α → β) (next : Nat) : Rose α → Rose β × Nat
  | .node a cs =>
    let (cs', after) := numberAll f (next + 1) cs
    (.node (f next a) cs', after)

/-- Numbers several trees one after the other. -/
def numberAll (f : Nat → α → β) (next : Nat) : List (Rose α) → List (Rose β) × Nat
  | [] => ([], next)
  | c :: cs =>
    let (c', middle) := c.number f next
    let (cs', after) := numberAll f middle cs
    (c' :: cs', after)

end

mutual

/-- The address of the first value in pre-order that passes a test, as the child indexes that
lead to it from the root.
-/
def findPath? (p : α → Bool) : Rose α → Option (List Nat)
  | .node a cs => if p a then some [] else findPathAll? p 0 cs

/-- The address of the first passing value of several siblings, counted from an index on. -/
def findPathAll? (p : α → Bool) (index : Nat) : List (Rose α) → Option (List Nat)
  | [] => none
  | c :: cs =>
    match c.findPath? p with
    | some path => some (index :: path)
    | none => findPathAll? p (index + 1) cs

end

/-- How many values a tree holds. -/
def size (t : Rose α) : Nat :=
  t.preorder.length

end Rose

end FoldTree
