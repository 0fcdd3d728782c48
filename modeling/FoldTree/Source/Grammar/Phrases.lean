import FoldTree.Source.Grammar.Rule
import FoldTree.Source.Program
import FoldTree.Text.Compatibility

/-! Phrases that the grammar of expressions is made of. Rules for what stands inside brackets, or
behind a word or sign that starts an expression, come from a deeper level of nesting, so that each
level is made from the one below it and the depth of nesting bounds them all.
-/

namespace FoldTree.Source.Grammar

open Rule

/-- The rules that one level of nesting hands to the next, with the bound on repetitions. -/
structure Phrases where
  bound : Nat
  expression : Rule Expr
  disjunction : Rule Expr
  inversion : Rule Expr
  bitwise : Rule Expr
  factor : Rule Expr
  primary : Rule Expr

/-- No rule fits at the deepest level. -/
def Phrases.none : Phrases where
  bound := 0
  expression := failure
  disjunction := failure
  inversion := failure
  bitwise := failure
  factor := failure
  primary := failure

/-- Whether a token can start an expression. -/
def startsExpression : Lexeme → Bool
  | .name _ | .number _ | .literal _ => true
  | .keyword spelling => ["False", "None", "True", "await", "lambda", "not"].contains spelling
  | .mark spelling => ["(", "[", "\x7b", "+", "-", "~", "..."].contains spelling
  | _ => false

/-- Whether a token can start an expression or a starred one. -/
def startsStarred (lexeme : Lexeme) : Bool :=
  startsExpression lexeme || lexeme == .mark "*"

/-- The parts of an expression of one part are that part alone. -/
def joined : List Expr → Expr
  | [part] => part
  | parts => .compound parts

/-- Reads a name. -/
def anyName : Rule String := do
  match (← next).lexeme with
  | .name spelling => return String.ofList (Text.composeIdentifier spelling.toList)
  | _ => failure

/-- Whether a name comes next with a given sign behind it. -/
def seesNameBefore (sign : String) : Rule Bool := do
  match (← peek).lexeme with
  | .name _ => return (← peekSecond) == some (.mark sign)
  | _ => return false

/-- Reads operands with operators between them. -/
def operation (bound : Nat) (operator : Rule Bool) (operand : Rule Expr) : Rule Expr := do
  let first ← operand
  let others ← collect (do
    if ← operator then return some (← operand) else return none) bound
  return joined (first :: others)

/-- Reads one of some signs if it comes next. -/
def skipsAnyMark (spellings : List String) : Rule Bool := do
  if ← seesAnyMark spellings then
    let _ ← next
    return true
  else return false

/-- Reads an expression or one whose value gets a name. -/
def namedExpression (self : Phrases) : Rule Expr := do
  if ← seesNameBefore ":=" then
    let word ← anyName
    mark ":="
    return .compound [.name word, ← self.expression]
  else self.expression

/-- Reads a starred expression without comparisons, or an expression. -/
def starExpression (self : Phrases) : Rule Expr := do
  if ← skipsMark "*" then return .starred (← self.bitwise) else self.expression

/-- Reads a starred expression without comparisons, or an expression that may get a name. -/
def starNamedExpression (self : Phrases) : Rule Expr := do
  if ← skipsMark "*" then return .starred (← self.bitwise) else namedExpression self

/-- One expression alone, or the tuple of several or of one with a comma behind it. -/
def tupled (items : List Expr × Bool) : Expr :=
  match items with
  | ([item], false) => item
  | (all, _) => .tuple all

/-- Reads one expression or several with commas. -/
def starExpressions (self : Phrases) : Rule Expr := do
  return tupled (← commaList self.bound startsStarred (starExpression self))

/-- Reads what a generator gives out. -/
def yieldExpression (self : Phrases) : Rule Expr := do
  keyword "yield"
  if ← skipsKeyword "from" then return .compound [← self.expression]
  else if startsStarred (← peek).lexeme then return .compound [← starExpressions self]
  else return .constant

end FoldTree.Source.Grammar
