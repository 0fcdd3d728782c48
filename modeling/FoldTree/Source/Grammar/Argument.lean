import FoldTree.Source.Grammar.Target

/-! The grammar of loops inside expressions, of arguments and of subscripts. -/

namespace FoldTree.Source.Grammar

open Rule

/-! ### Loops -/

/-- Whether a loop over values comes next. -/
def seesLoop : Rule Bool := do
  if ← seesKeyword "for" then return true
  else return (← seesKeyword "async") && (← peekSecond) == some (.keyword "for")

/-- Reads one loop over values with its conditions. -/
def loop (self : Phrases) : Rule (List Expr) := do
  let _ ← skipsKeyword "async"
  keyword "for"
  let targets ← starTargets self
  keyword "in"
  let values ← self.disjunction
  let conditions ← collect (do
    if ← skipsKeyword "if" then return some (← self.disjunction) else return none) self.bound
  return targets :: values :: conditions

/-- Reads one or more loops over values. -/
def loops (self : Phrases) : Rule (List Expr) := do
  let first ← loop self
  let later ← collect (do
    if ← seesLoop then return some (← loop self) else return none) self.bound
  return first ++ later.flatten

/-! ### Arguments -/

/-- What the arguments read so far allow next: any, named or starred ones, or named or doubly
starred ones.
-/
inductive ArgumentStage where
  | any
  | named
  | doubled
deriving DecidableEq

/-- Reads one argument, as one given by place or by name. -/
def argument (self : Phrases) (stage : ArgumentStage) :
    Rule (ArgumentStage × List Expr × List Expr) := do
  if ← skipsMark "**" then return (.doubled, [], [← self.expression])
  else if ← skipsMark "*" then
    if stage = .doubled then failure
    return (stage, [.starred (← self.expression)], [])
  else if ← seesNameBefore "=" then
    let word ← anyName
    mark "="
    let value ← self.expression
    return (if stage = .any then .named else stage, [], [.labelled word [value]])
  else
    if stage ≠ .any then failure
    return (.any, [← namedExpression self], [])

/-- Reads the arguments behind one, up to the closing bracket, which stays: those given by place,
then those given by name.
-/
def laterArguments (self : Phrases) : Nat → ArgumentStage → Rule (List Expr × List Expr)
  | 0, _ => failure
  | rounds + 1, stage => do
    if ← seesMark ")" then return ([], [])
    mark ","
    if ← seesMark ")" then return ([], [])
    let (after, placed, named) ← argument self stage
    let (laterPlaced, laterNamed) ← laterArguments self rounds after
    return (placed ++ laterPlaced, named ++ laterNamed)

/-- Whether arguments are one expression by place, over which a loop may stand. -/
def isLoopBody : List Expr × List Expr → Bool
  | ([.starred _], _) => false
  | ([_], []) => true
  | _ => false

/-- Reads a possibly empty list of arguments up to the closing bracket, which stays. A loop over
values may stand in place of all arguments where that is allowed.
-/
def arguments (self : Phrases) (loopAllowed : Bool) : Rule (List Expr) := do
  if ← seesMark ")" then return []
  let (stage, placed, named) ← argument self .any
  if loopAllowed && isLoopBody (placed, named) && (← seesLoop) then
    return placed ++ (← loops self)
  let (laterPlaced, laterNamed) ← laterArguments self self.bound stage
  return placed ++ laterPlaced ++ named ++ laterNamed

/-! ### Subscripts -/

/-- Reads a bound of a slice if there is one. -/
def sliceBound (self : Phrases) : Rule (List Expr) := do
  if startsExpression (← peek).lexeme then return [← self.expression] else return []

/-- Reads the rest of a slice behind its first bound. -/
def sliceFrom (self : Phrases) (first : List Expr) : Rule Expr := do
  mark ":"
  let second ← sliceBound self
  let third ← if ← skipsMark ":" then sliceBound self else pure []
  return .compound (first ++ second ++ third)

/-- Reads one item of a subscript: a slice, a starred expression, or an expression that may get a
name.
-/
def sliceItem (self : Phrases) : Rule Expr := do
  if ← skipsMark "*" then return .starred (← self.expression)
  else if ← seesMark ":" then sliceFrom self []
  else if ← seesNameBefore ":=" then namedExpression self
  else
    let first ← self.expression
    if ← seesMark ":" then sliceFrom self [first] else return first

/-- Whether a token can start an item of a subscript. -/
def startsSlice (lexeme : Lexeme) : Bool :=
  startsStarred lexeme || lexeme == .mark ":"

/-- Reads what stands in the brackets of a subscript. One starred expression makes a tuple. -/
def slices (self : Phrases) : Rule Expr := do
  match ← commaList self.bound startsSlice (sliceItem self) with
  | ([.starred value], _) => return .tuple [.starred value]
  | items => return tupled items

end FoldTree.Source.Grammar
