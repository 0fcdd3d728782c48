import FoldTree.Source.Grammar.Expression

/-! The grammar of simple statements, several of which may share a line. -/

namespace FoldTree.Source.Grammar

open Rule

/-- Whether a token is a name. -/
def isName : Lexeme → Bool
  | .name _ => true
  | _ => false

/-- The signs that assign and compute at once. -/
def computingMarks : List String :=
  ["+=", "-=", "*=", "@=", "/=", "%=", "&=", "|=", "^=", "<<=", ">>=", "**=", "//="]

/-- Reads the value of an assignment. -/
def assignedValue (self : Phrases) : Rule Expr := do
  if ← seesKeyword "yield" then yieldExpression self else starExpressions self

/-- Reads what follows the first equals sign: further targets, and the value. -/
def assignmentBehind (self : Phrases) : Nat → Rule (List Expr)
  | 0 => failure
  | rounds + 1 => do
    if ← seesKeyword "yield" then return [← yieldExpression self]
    let read ← starExpressions self
    if ← skipsMark "=" then
      if isAssignable read then return read :: (← assignmentBehind self rounds) else failure
    else return [read]

/-- Reads what follows an expression at the start of a statement, with the expression. -/
def partsBehind (self : Phrases) (read : Expr) : Rule (List Expr) := do
  if ← skipsMark "=" then
    if isAssignable read then return read :: (← assignmentBehind self self.bound) else failure
  else if ← skipsMark ":" then
    if !isSingleTarget read then failure
    let type ← self.expression
    if ← skipsMark "=" then return [read, type, ← assignedValue self] else return [read, type]
  else if ← skipsAnyMark computingMarks then
    if !isSingleTarget read then failure
    return [read, ← assignedValue self]
  else return [read]

/-- Reads an expression as a statement, or an assignment. -/
def expressionStatement (self : Phrases) : Rule Stmt := do
  let first ← here
  if ← seesKeyword "yield" then
    let given ← yieldExpression self
    return .simple (← extentFrom first) [given]
  let read ← starExpressions self
  match ← partsBehind self read with
  | [_] => return .evaluate (← extentFrom first) read
  | parts => return .simple (← extentFrom first) parts

/-- Reads the other name that something imported may get. -/
def otherName : Rule (List String) := do
  if ← skipsKeyword "as" then return [← anyName] else return []

/-- Reads names with dots between them. -/
def dottedWords (self : Phrases) : Rule (List String) := do
  let first ← anyName
  let later ← collect (do
    if ← skipsMark "." then return some (← anyName) else return none) self.bound
  return first :: later

/-- Reads what an import of whole modules imports. -/
def importedModules (self : Phrases) : Rule (List String) := do
  keyword "import"
  let read ← commaSeparated self.bound isName do
    return (← dottedWords self) ++ (← otherName)
  return read.flatten

/-- Reads a name from a module, with its other name. -/
def importedName : Rule (List String) := do
  return (← anyName) :: (← otherName)

/-- Reads the names that an import takes from a module. -/
def importedNames (self : Phrases) : Rule (List String) := do
  if ← skipsMark "*" then return []
  else if ← skipsMark "(" then
    let (read, _) ← commaList self.bound isName importedName
    mark ")"
    return read.flatten
  else return (← commaSeparated self.bound isName importedName).flatten

/-- Reads what an import from a module imports: the words of the module, then those of the names.
The module may be left out behind dots.
-/
def importedFrom (self : Phrases) : Rule (List String) := do
  keyword "from"
  let dots ← collect (do
    if ← skipsAnyMark [".", "..."] then return some () else return none) self.bound
  let module ← if !dots.isEmpty && (← seesKeyword "import") then pure [] else dottedWords self
  keyword "import"
  return module ++ (← importedNames self)

/-- Reads the parts of a simple statement that starts with a given keyword. -/
def keywordParts (self : Phrases) (spelling : String) : Rule (List Expr) := do
  keyword spelling
  match spelling with
  | "pass" | "break" | "continue" => return []
  | "return" =>
    if startsStarred (← peek).lexeme then return [← starExpressions self] else return []
  | "raise" =>
    if startsExpression (← peek).lexeme then
      let raised ← self.expression
      if ← skipsKeyword "from" then return [raised, ← self.expression] else return [raised]
    else return []
  | "global" | "nonlocal" => do
    let _ ← commaSeparated self.bound isName anyName
    return []
  | "del" => deletedTargets self
  | "assert" => do
    let asserted ← self.expression
    if ← skipsMark "," then return [asserted, ← self.expression] else return [asserted]
  | _ => failure

/-- Whether a keyword starts an expression or what a generator gives out. -/
def startsValue (spelling : String) : Bool :=
  startsExpression (.keyword spelling) || spelling == "yield"

/-- Reads a simple statement. -/
def simpleStatement (self : Phrases) : Rule Stmt := do
  let first ← here
  match (← peek).lexeme with
  | .keyword spelling =>
    if startsValue spelling then expressionStatement self
    else if spelling = "import" then
      let words ← importedModules self
      return .importing (← extentFrom first) words
    else if spelling = "from" then
      let words ← importedFrom self
      return .importing (← extentFrom first) words
    else
      let parts ← keywordParts self spelling
      return .simple (← extentFrom first) parts
  | _ => expressionStatement self

/-- Reads simple statements up to the end of their line. -/
def simpleStatements (self : Phrases) : Rule (List Stmt) := do
  let first ← simpleStatement self
  let later ← collect (do
    if ← skips .newline then return none
    mark ";"
    if ← skips .newline then return none
    else return some (← simpleStatement self)) self.bound
  return first :: later

end FoldTree.Source.Grammar
