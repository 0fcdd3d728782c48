import FoldTree.Source.Grammar.Atom
import FoldTree.Source.Grammar.Parameter

/-! The grammar of expressions, from operators that bind most closely to conditions, and its
levels of nesting.
-/

namespace FoldTree.Source.Grammar

open Rule

/-- Reads an atom with what stands behind it, perhaps awaited. -/
def awaited (self : Phrases) : Rule Expr := do
  if ← skipsKeyword "await" then return .compound [← primary self] else primary self

/-- Reads a signed expression or a power. -/
def factor (self : Phrases) : Rule Expr := do
  if ← skipsAnyMark ["+", "-", "~"] then return .compound [← self.factor]
  else
    let base ← awaited self
    if ← skipsMark "**" then return .compound [base, ← self.factor] else return base

/-- Reads sums of products. -/
def sum (self : Phrases) : Rule Expr :=
  operation self.bound (skipsAnyMark ["+", "-"])
    (operation self.bound (skipsAnyMark ["*", "/", "//", "%", "@"]) (factor self))

/-- Reads an expression without comparisons. -/
def bitwise (self : Phrases) : Rule Expr :=
  operation self.bound (skipsMark "|")
    (operation self.bound (skipsMark "^")
      (operation self.bound (skipsMark "&")
        (operation self.bound (skipsAnyMark ["<<", ">>"]) (sum self))))

/-- Reads a comparison operator if one comes next. -/
def skipsComparison : Rule Bool := do
  if ← skipsAnyMark ["==", "!=", "<=", "<", ">=", ">"] then return true
  else if ← skipsKeyword "in" then return true
  else if ← skipsKeyword "is" then
    let _ ← skipsKeyword "not"
    return true
  else if (← seesKeyword "not") && (← peekSecond) == some (.keyword "in") then
    let _ ← next
    let _ ← next
    return true
  else return false

/-- Reads a negation or a comparison. -/
def inversion (self : Phrases) : Rule Expr := do
  if ← skipsKeyword "not" then return .compound [← self.inversion]
  else operation self.bound skipsComparison (bitwise self)

/-- Reads an expression without a condition. -/
def disjunction (self : Phrases) : Rule Expr :=
  operation self.bound (skipsKeyword "or")
    (operation self.bound (skipsKeyword "and") (inversion self))

/-- Reads a function without a name. -/
def lambda (self : Phrases) : Rule Expr := do
  keyword "lambda"
  let given ← parameters self false self.expression ":"
  mark ":"
  return .compound (given ++ [← self.expression])

/-- Reads an expression. The words of a condition count before those it chooses between. -/
def expression (self : Phrases) : Rule Expr := do
  if ← seesKeyword "lambda" then lambda self
  else
    let chosen ← disjunction self
    if ← skipsKeyword "if" then
      let test ← disjunction self
      keyword "else"
      return .compound [test, chosen, ← self.expression]
    else return chosen

/-- The level of nesting above another. -/
def Phrases.above (self : Phrases) : Phrases where
  bound := self.bound + 1
  expression := Grammar.expression self
  disjunction := Grammar.disjunction self
  inversion := Grammar.inversion self
  bitwise := Grammar.bitwise self
  factor := Grammar.factor self
  primary := Grammar.primary self

/-- The rules for expressions that nest to some depth. -/
def phrases : Nat → Phrases
  | 0 => .none
  | depth + 1 => (phrases depth).above

end FoldTree.Source.Grammar
