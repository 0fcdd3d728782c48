import FoldTree.Source.Grammar.Argument

/-! The grammar of what stands in brackets of its own: groups and tuples, lists, sets and
mappings, and loops that make them.
-/

namespace FoldTree.Source.Grammar

open Rule

/-- Reads what follows the first phrase of a list with commas. -/
def itemsBehind (self : Phrases) (first : Expr) : Rule (List Expr × Bool) := do
  let later ← collect (do
    if (← seesMark ",") && (← peekSecond).any startsStarred then
      let _ ← next
      return some (← starNamedExpression self)
    else return none) self.bound
  return (first :: later, ← skipsMark ",")

/-- Reads a group, a tuple, or a loop in its place. -/
def group (self : Phrases) : Rule Expr := do
  mark "("
  if ← skipsMark ")" then return .tuple []
  else if ← seesKeyword "yield" then
    let given ← yieldExpression self
    mark ")"
    return .compound [given]
  else
    let first ← starNamedExpression self
    if first matches .starred _ then
      let items ← itemsBehind self first
      mark ")"
      if items.1.length = 1 && !items.2 then failure
      return .tuple items.1
    else if ← seesLoop then
      let read ← loops self
      mark ")"
      return .compound (first :: read)
    else
      let items ← itemsBehind self first
      mark ")"
      return tupled items

/-- Reads a list, or a loop that makes one. -/
def listDisplay (self : Phrases) : Rule Expr := do
  mark "["
  if ← skipsMark "]" then return .list []
  let first ← starNamedExpression self
  if !(first matches .starred _) && (← seesLoop) then
    let read ← loops self
    mark "]"
    return .compound (first :: read)
  let items ← itemsBehind self first
  mark "]"
  return .list items.1

/-- Reads an entry of a mapping behind its key. -/
def entryValue (self : Phrases) (key : Expr) : Rule (List Expr × Expr) := do
  mark ":"
  return ([key], ← self.expression)

/-- Reads an entry of a mapping, or a whole mapping in its place: its key, if it has one, and its
value.
-/
def entry (self : Phrases) : Rule (List Expr × Expr) := do
  if ← skipsMark "**" then return ([], ← self.bitwise)
  else entryValue self (← self.expression)

/-- Whether a token can start an entry of a mapping. -/
def startsEntry (lexeme : Lexeme) : Bool :=
  startsExpression lexeme || lexeme == .mark "**"

/-- Reads the rest of a mapping behind its first entry. The words of all keys count before those
of the values.
-/
def mappingBehind (self : Phrases) (first : List Expr × Expr) : Rule Expr := do
  let later ← collect (do
    if (← seesMark ",") && (← peekSecond).any startsEntry then
      let _ ← next
      return some (← entry self)
    else return none) self.bound
  let _ ← skipsMark ","
  mark "\x7d"
  let entries := first :: later
  return .compound ((entries.map (·.1)).flatten ++ entries.map (·.2))

/-- Reads a set behind its first item. -/
def setBehind (self : Phrases) (first : Expr) : Rule Expr := do
  let items ← itemsBehind self first
  mark "\x7d"
  return .compound items.1

/-- Reads a mapping or a set, or a loop that makes one. -/
def braceDisplay (self : Phrases) : Rule Expr := do
  mark "\x7b"
  if ← skipsMark "\x7d" then return .constant
  else if ← seesMark "**" then mappingBehind self (← entry self)
  else
    let isNamed ← seesNameBefore ":="
    let first ← starNamedExpression self
    if first matches .starred _ then setBehind self first
    else if !isNamed && (← seesMark ":") then
      let (key, value) ← entryValue self first
      if ← seesLoop then
        let read ← loops self
        mark "\x7d"
        return .compound (key ++ value :: read)
      else mappingBehind self (key, value)
    else if ← seesLoop then
      let read ← loops self
      mark "\x7d"
      return .compound (first :: read)
    else setBehind self first

end FoldTree.Source.Grammar
