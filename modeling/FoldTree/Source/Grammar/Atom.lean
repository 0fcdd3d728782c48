import FoldTree.Source.FormattedText
import FoldTree.Source.Grammar.Display
import FoldTree.Source.Lexer

/-! The grammar of atoms, and of what stands behind them: attributes, arguments and subscripts. -/

namespace FoldTree.Source.Grammar

open Rule

/-- Reads an expression that is a whole text, and stands in brackets, blanks and line ends
around it aside.
-/
def expressionOf? (self : Phrases) (text : List Char) : Option Expr := do
  let all ← tokens ('(' :: text ++ [')'])
  let (read, _) ← (starExpressions self).run ⟨all, .start⟩
  return read

/-- The expressions in a text literal, which only a formatted text has. No literal that is part
of a text may be malformed.
-/
def literalFields? (self : Phrases) (literal : Literal) : Option (List Expr) :=
  if literal.isFormatted then do
    let pieces ← FormattedText.ofBody literal.isRaw literal.body
    FormattedText.readPieces literal.isRaw (expressionOf? self) pieces
  else literal.text?.map fun _ => []

/-- What literals that stand next to each other make. Bytes do not join with texts; a formatted
text makes the whole an expression of its fields.
-/
def joinedLiterals? (self : Phrases) (all : List Literal) : Option Expr :=
  if all.any (·.isBytes) then
    if all.all fun literal => literal.isBytes && literal.isWellFormedBytes then some .constant
    else none
  else if all.any (·.isFormatted) then
    (all.mapM (literalFields? self)).map fun parts => .compound parts.flatten
  else (all.mapM Literal.text?).map fun texts => .text texts.flatten

/-- Reads literals that stand next to each other. -/
def literals (self : Phrases) : Rule Expr := do
  let all ← collect (do
    match (← peek).lexeme with
    | .literal literal => do
      let _ ← next
      return some literal
    | _ => return none) self.bound
  match joinedLiterals? self all with
  | some read => return read
  | none => failure

/-- Whether a keyword is a constant. -/
def isConstantWord (spelling : String) : Bool :=
  spelling == "True" || spelling == "False" || spelling == "None"

/-- Reads an atom. -/
def atom (self : Phrases) : Rule Expr := do
  match (← peek).lexeme with
  | .name _ => return .name (← anyName)
  | .literal _ => literals self
  | .number _ => do
    let _ ← next
    return .constant
  | .keyword spelling => do
    let _ ← next
    if isConstantWord spelling then return .constant else failure
  | .mark spelling =>
    if spelling = "(" then group self
    else if spelling = "[" then listDisplay self
    else if spelling = "\x7b" then braceDisplay self
    else do
      mark "..."
      return .constant
  | _ => failure

/-- Reads attributes, arguments and subscripts behind what they belong to. -/
def primaryBehind (self : Phrases) : Nat → Expr → Rule Expr
  | 0, _ => failure
  | rounds + 1, owner => do
    if ← skipsMark "." then primaryBehind self rounds (.attribute owner (← anyName))
    else if ← skipsMark "(" then
      let given ← arguments self true
      mark ")"
      primaryBehind self rounds (.compound (owner :: given))
    else if ← skipsMark "[" then
      let index ← slices self
      mark "]"
      primaryBehind self rounds (.subscript owner index)
    else return owner

/-- Reads an atom with all that stands behind it. -/
def primary (self : Phrases) : Rule Expr := do
  primaryBehind self self.bound (← atom self)

end FoldTree.Source.Grammar
