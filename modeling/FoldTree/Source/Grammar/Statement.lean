import FoldTree.Source.Grammar.Pattern
import FoldTree.Source.Grammar.Simple

/-! The grammar of compound statements and of whole programs. A compound statement takes the rule
for the statements in its body as an argument.
-/

namespace FoldTree.Source.Grammar

open Rule

/-- Reads the statements of a body behind its colon: those of an indented block, or simple ones on
the same line.
-/
def block (self : Phrases) (statement : Rule (List Stmt)) : Rule (List Stmt) := do
  mark ":"
  if ← skips .newline then
    expect .indent
    let first ← statement
    let later ← collect (do
      if ← skips .dedent then return none else return some (← statement)) self.bound
    return first ++ later.flatten
  else simpleStatements self

/-- Reads a clause that a keyword alone starts, if it comes next. -/
def wordClause (body : Rule (List Stmt)) (spelling : String) : Rule (List Clause) := do
  if ← skipsKeyword spelling then return [.mk [] (← body)] else return []

/-- Reads a condition and what follows it. A further condition stands as a statement of its own in
place of the other branch.
-/
def conditional (self : Phrases) (body : Rule (List Stmt)) (spelling : String) : Nat → Rule Stmt
  | 0 => failure
  | rounds + 1 => do
    let first ← here
    keyword spelling
    let test ← namedExpression self
    let chosen := Clause.mk [test] (← body)
    let other ← if ← seesKeyword "elif" then
        let nested ← conditional self body "elif" rounds
        pure [Clause.mk [] [nested]]
      else wordClause body "else"
    return .block (← extentFrom first) .conditional (chosen :: other)

/-- Reads a loop that a condition ends. -/
def whileLoop (self : Phrases) (body : Rule (List Stmt)) : Rule Stmt := do
  let first ← here
  keyword "while"
  let test ← namedExpression self
  let repeated := Clause.mk [test] (← body)
  let other ← wordClause body "else"
  return .block (← extentFrom first) .whileLoop (repeated :: other)

/-- Reads a loop over values from its place on. -/
def forLoop (self : Phrases) (body : Rule (List Stmt)) (kind : BlockKind) (first : Position) :
    Rule Stmt := do
  keyword "for"
  let targets ← starTargets self
  keyword "in"
  let values ← starExpressions self
  let repeated := Clause.mk [targets, values] (← body)
  let other ← wordClause body "else"
  return .block (← extentFrom first) kind (repeated :: other)

/-- Reads a context with the place that it may be assigned to. -/
def contextItem (self : Phrases) : Rule (List Expr) := do
  let context ← self.expression
  if ← skipsKeyword "as" then return [context, ← starTarget self] else return [context]

/-- Reads contexts up to the colon, which stays. Brackets stand around all of them or belong to
the first.
-/
def contextItems (self : Phrases) : Rule (List (List Expr)) :=
  (do
    mark "("
    let (items, _) ← commaList self.bound startsExpression (contextItem self)
    mark ")"
    if ← seesMark ":" then return items else failure)
  <|> commaSeparated self.bound startsExpression (contextItem self)

/-- Reads a statement over contexts from its place on. -/
def contextBlock (self : Phrases) (body : Rule (List Stmt)) (kind : BlockKind)
    (first : Position) : Rule Stmt := do
  keyword "with"
  let items ← contextItems self
  let clause := Clause.mk items.flatten (← body)
  return .block (← extentFrom first) kind [clause]

/-- Reads what a handler catches: a type, which handlers of groups need, with a name that it may
get.
-/
def caught (self : Phrases) (isGroups : Bool) : Rule (List Expr) := do
  if isGroups then mark "*"
  if !isGroups && (← seesMark ":") then return []
  let type ← self.expression
  let _ ← otherName
  return [type]

/-- Reads a guarded body with its handlers. All of them are for groups, or none. -/
def guarded (self : Phrases) (body : Rule (List Stmt)) : Rule Stmt := do
  let first ← here
  keyword "try"
  let tried := Clause.mk [] (← body)
  let isGroups := (← seesKeyword "except") && (← peekSecond) == some (.mark "*")
  let handlers ← collect (do
    if ← skipsKeyword "except" then
      let header ← caught self isGroups
      return some (Clause.mk header (← body))
    else return none) self.bound
  let other ← if handlers.isEmpty then pure [] else wordClause body "else"
  let last ← wordClause body "finally"
  if handlers.isEmpty && last.isEmpty then failure
  return .block (← extentFrom first) (if isGroups then .guardedGroups else .guarded)
    (tried :: handlers ++ other ++ last)

/-- Reads one clause of a choice. -/
def choiceClause (self : Phrases) (body : Rule (List Stmt)) : Rule Clause := do
  expect (.name "case")
  let read ← clausePattern self
  let guard ← if ← skipsKeyword "if" then pure [← namedExpression self] else pure []
  return .mk (read :: guard) (← body)

/-- Reads a choice between patterns. -/
def choice (self : Phrases) (body : Rule (List Stmt)) : Rule Stmt := do
  let first ← here
  expect (.name "match")
  let (items, comma) ← commaList self.bound startsStarred (starNamedExpression self)
  if items.length = 1 && !comma && items.any fun item => item matches .starred _ then failure
  mark ":"
  expect .newline
  expect .indent
  let clause ← choiceClause self body
  let later ← collect (do
    if ← skips .dedent then return none else return some (← choiceClause self body)) self.bound
  return .block (← extentFrom first) .choice (.mk items [] :: clause :: later)

/-- Reads the definition of a function from its place on. -/
def function (self : Phrases) (body : Rule (List Stmt)) (decorators : List Expr)
    (first : Position) : Rule Stmt := do
  keyword "def"
  let name ← anyName
  mark "("
  let given ← parameters self true (starExpression self) ")"
  mark ")"
  let result ← if ← skipsMark "->" then pure [← self.expression] else pure []
  let statements ← body
  return .define (← extentFrom first) .function name decorators given statements result

/-- Reads the definition of a class from its place on. -/
def classDefinition (self : Phrases) (body : Rule (List Stmt)) (decorators : List Expr)
    (first : Position) : Rule Stmt := do
  keyword "class"
  let name ← anyName
  let given ← if ← skipsMark "(" then do
      let given ← arguments self false
      mark ")"
      pure given
    else pure []
  let statements ← body
  return .define (← extentFrom first) .classDef name decorators given statements []

/-- Reads decorators, each on a line of its own. -/
def decorators (self : Phrases) : Rule (List Expr) :=
  collect (do
    if ← skipsMark "@" then
      let read ← namedExpression self
      expect .newline
      return some read
    else return none) self.bound

/-- Reads a definition with its decorators. -/
def definition (self : Phrases) (body : Rule (List Stmt)) : Rule Stmt := do
  let read ← decorators self
  let first ← here
  if ← seesKeyword "class" then classDefinition self body read first
  else
    let _ ← skipsKeyword "async"
    function self body read first

/-- Reads a statement that goes on while others do. -/
def asynchronous (self : Phrases) (body : Rule (List Stmt)) : Rule Stmt := do
  let first ← here
  keyword "async"
  if ← seesKeyword "for" then forLoop self body .asyncLoop first
  else if ← seesKeyword "with" then contextBlock self body .asyncContext first
  else function self body [] first

/-- Reads a compound statement that starts with a given keyword. -/
def keywordBlock (self : Phrases) (body : Rule (List Stmt)) (spelling : String) : Rule Stmt := do
  let first ← here
  match spelling with
  | "if" => conditional self body "if" self.bound
  | "while" => whileLoop self body
  | "for" => forLoop self body .loop first
  | "with" => contextBlock self body .context first
  | "try" => guarded self body
  | "def" | "class" => definition self body
  | "async" => asynchronous self body
  | _ => failure

/-- The keywords that start compound statements. -/
def blockWords : List String :=
  ["if", "while", "for", "with", "try", "def", "class", "async"]

/-- Reads a statement whose bodies nest to some depth, or the simple ones of a line. A word that
may start a choice may also be a name.
-/
def statement (self : Phrases) : Nat → Rule (List Stmt)
  | 0 => failure
  | depth + 1 => do
    let body := block self (statement self depth)
    match (← peek).lexeme with
    | .keyword spelling =>
      if blockWords.contains spelling then return [← keywordBlock self body spelling]
      else simpleStatements self
    | .mark "@" => return [← definition self body]
    | .name "match" =>
      (do return [← choice self body]) <|> simpleStatements self
    | _ => simpleStatements self

/-- Reads the statements of a whole program. -/
def program (self : Phrases) : Rule (List Stmt) := do
  let read ← collect (do
    if ← sees .finish then return none
    else return some (← statement self self.bound)) self.bound
  return read.flatten

end FoldTree.Source.Grammar

namespace FoldTree.Source

/-- How deep phrases may nest in a token: a formatted text holds phrases of its own. -/
def Token.room (token : Token) : Nat :=
  match token.lexeme with
  | .literal literal => literal.body.length + 1
  | _ => 1

/-- The statements that some tokens make, or nothing when they make no program. No phrase nests
deeper than there are tokens, and characters in text literals.
-/
def programOf? (all : List Token) : Option (List Stmt) :=
  let depth := all.foldl (fun depth token => depth + token.room) 8
  ((Grammar.program (Grammar.phrases depth)).run ⟨all, .start⟩).map (·.1)

/-- The statements of a program, or nothing when the text is no program. -/
def statements? (text : List Char) : Option (List Stmt) :=
  (tokens text).bind programOf?

end FoldTree.Source
