import FoldTree.Source.Grammar.Phrases

/-! What can be assigned to or deleted: which shapes of expression are targets, and the grammar
of targets that no equals sign follows.
-/

namespace FoldTree.Source.Grammar

open Rule

mutual

/-- Whether an expression without a star can be assigned to. -/
def isTarget : Expr → Bool
  | .name _ | .attribute .. | .subscript .. => true
  | .tuple items | .list items => areTargets items
  | _ => false

/-- Whether all expressions can be assigned to, starred or not. -/
def areTargets : List Expr → Bool
  | [] => true
  | .starred value :: rest => isTarget value && areTargets rest
  | item :: rest => isTarget item && areTargets rest

end

mutual

/-- Whether an expression can be deleted. -/
def isDeletable : Expr → Bool
  | .name _ | .attribute .. | .subscript .. => true
  | .tuple items | .list items => areDeletable items
  | _ => false

/-- Whether all expressions can be deleted. -/
def areDeletable : List Expr → Bool
  | [] => true
  | item :: rest => isDeletable item && areDeletable rest

end

/-- Whether an expression is a single place to assign to. -/
def isSingleTarget : Expr → Bool
  | .name _ | .attribute .. | .subscript .. => true
  | _ => false

/-- Whether what stands before an equals sign can be assigned to. A star may stand outside of a
tuple.
-/
def isAssignable (target : Expr) : Bool :=
  areTargets [target]

/-- Reads a place to assign to, starred or not. -/
def starTarget (self : Phrases) : Rule Expr := do
  let starred ← skipsMark "*"
  let target ← self.primary
  if isTarget target then return if starred then .starred target else target
  else failure

/-- Reads one place to assign to or several with commas. -/
def starTargets (self : Phrases) : Rule Expr := do
  return tupled (← commaList self.bound startsStarred (starTarget self))

/-- Reads places to delete. -/
def deletedTargets (self : Phrases) : Rule (List Expr) := do
  let (targets, _) ← commaList self.bound startsExpression self.primary
  if areDeletable targets then return targets else failure

end FoldTree.Source.Grammar
