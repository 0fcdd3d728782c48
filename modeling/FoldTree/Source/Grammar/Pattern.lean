import FoldTree.Source.Grammar.Expression

/-! The grammar of patterns that a choice compares its subject with. Words that a pattern binds
do not count, those that it looks up do.
-/

namespace FoldTree.Source.Grammar

open Rule

/-- Reads a name that a pattern binds. The wildcard binds nothing, and a name that goes on as
something else is no such name.
-/
def captureTarget : Rule Unit := do
  if ← sees (.name "_") then failure
  let _ ← anyName
  if ← seesAnyMark [".", "(", "="] then failure

/-- Reads a name with attributes, and says whether there are any. -/
def dottedName (self : Phrases) : Rule (Expr × Bool) := do
  let first ← anyName
  let attributes ← collect (do
    if ← skipsMark "." then return some (← anyName) else return none) self.bound
  return (attributes.foldl .attribute (.name first), !attributes.isEmpty)

/-- Reads a number and says whether it is imaginary. -/
def number : Rule Bool := do
  match (← next).lexeme with
  | .number imaginary => return imaginary
  | _ => failure

/-- Reads a number, perhaps with a minus sign, or the sum of a real and an imaginary number. -/
def numberPattern : Rule Expr := do
  let _ ← skipsMark "-"
  let imaginary ← number
  if ← skipsAnyMark ["+", "-"] then
    if imaginary || !(← number) then failure
  return .constant

/-- Reads a constant that a pattern may be. -/
def literalPattern (self : Phrases) : Rule Expr := do
  match (← peek).lexeme with
  | .number _ | .mark "-" => numberPattern
  | .literal _ => literals self
  | .keyword spelling => do
    let _ ← next
    if isConstantWord spelling then return .constant else failure
  | _ => failure

/-- Whether a token can start a constant that a pattern may be. -/
def startsLiteralPattern : Lexeme → Bool
  | .number _ | .literal _ => true
  | .mark spelling => spelling == "-"
  | .keyword spelling => isConstantWord spelling
  | _ => false

/-- Whether a token can start a pattern. -/
def startsPattern : Lexeme → Bool
  | .name _ => true
  | .mark spelling => ["(", "[", "\x7b", "-"].contains spelling
  | lexeme => startsLiteralPattern lexeme

/-- Whether a token can start a pattern or a starred one. -/
def startsStarPattern (lexeme : Lexeme) : Bool :=
  startsPattern lexeme || lexeme == .mark "*"

/-- Reads a pattern or a starred name, and says which. -/
def starPattern (pattern : Rule Expr) : Rule (Expr × Bool) := do
  if ← skipsMark "*" then
    if !(← skips (.name "_")) then captureTarget
    return (.constant, true)
  else return (← pattern, false)

/-- Reads patterns in a sequence without brackets. Without a comma it is one pattern, which has
no star.
-/
def openSequence (self : Phrases) (pattern : Rule Expr) : Rule Expr := do
  let (items, comma) ← commaList self.bound startsStarPattern (starPattern pattern)
  match items, comma with
  | [(item, isStarred)], false => if isStarred then failure else return item
  | all, _ => return .compound (all.map (·.1))

/-- Reads a group or a sequence in round brackets. -/
def groupPattern (self : Phrases) (pattern : Rule Expr) : Rule Expr := do
  mark "("
  if ← skipsMark ")" then return .constant
  let read ← openSequence self pattern
  mark ")"
  return read

/-- Reads a sequence in square brackets. -/
def listPattern (self : Phrases) (pattern : Rule Expr) : Rule Expr := do
  mark "["
  if ← skipsMark "]" then return .constant
  let (items, _) ← commaList self.bound startsStarPattern (starPattern pattern)
  mark "]"
  return .compound (items.map (·.1))

/-- Reads a key of a mapping: a constant, or a name with attributes. -/
def keyPattern (self : Phrases) : Rule Expr := do
  if startsLiteralPattern (← peek).lexeme then literalPattern self
  else
    let (read, hasAttributes) ← dottedName self
    if hasAttributes then return read else failure

/-- Reads the entries of a mapping, up to a name for the rest, which comes last. -/
def entryPatterns (self : Phrases) (pattern : Rule Expr) : Nat → Rule (List Expr × List Expr)
  | 0 => failure
  | rounds + 1 => do
    if ← seesMark "\x7d" then return ([], [])
    else if ← skipsMark "**" then
      captureTarget
      let _ ← skipsMark ","
      return ([], [])
    else
      let key ← keyPattern self
      mark ":"
      let value ← pattern
      if ← skipsMark "," then
        let (keys, values) ← entryPatterns self pattern rounds
        return (key :: keys, value :: values)
      else return ([key], [value])

/-- Reads a mapping. The words of all keys count before those of the values. -/
def mappingPattern (self : Phrases) (pattern : Rule Expr) : Rule Expr := do
  mark "\x7b"
  let (keys, values) ← entryPatterns self pattern self.bound
  mark "\x7d"
  return .compound (keys ++ values)

/-- Reads the patterns for the parts of an object: those by place, then those by name. -/
def partPatterns (self : Phrases) (pattern : Rule Expr) (isNamed : Bool) : Nat → Rule (List Expr)
  | 0 => failure
  | rounds + 1 => do
    if ← seesMark ")" then return []
    let namesPart ← seesNameBefore "="
    if namesPart then
      let _ ← anyName
      mark "="
    else if isNamed then failure
    let part ← pattern
    if ← skipsMark "," then return part :: (← partPatterns self pattern namesPart rounds)
    else return [part]

/-- Reads a pattern that starts with a name: a wildcard, a name to bind or to look up, or the
class of an object with patterns for its parts.
-/
def namePattern (self : Phrases) (pattern : Rule Expr) : Rule Expr := do
  if ← skips (.name "_") then return .constant
  let (read, hasAttributes) ← dottedName self
  if ← skipsMark "(" then
    let parts ← partPatterns self pattern false self.bound
    mark ")"
    return .compound (read :: parts)
  else if ← seesMark "=" then failure
  else return if hasAttributes then read else .constant

/-- Reads a pattern without alternatives. -/
def closedPattern (self : Phrases) (pattern : Rule Expr) : Rule Expr := do
  match (← peek).lexeme with
  | .name _ => namePattern self pattern
  | .mark "(" => groupPattern self pattern
  | .mark "[" => listPattern self pattern
  | .mark "\x7b" => mappingPattern self pattern
  | _ => literalPattern self

/-- Reads a pattern that nests to some depth, with its alternatives and the name that it may be
bound to.
-/
def pattern (self : Phrases) : Nat → Rule Expr
  | 0 => failure
  | depth + 1 => do
    let read ← operation self.bound (skipsMark "|") (closedPattern self (pattern self depth))
    if ← skipsKeyword "as" then captureTarget
    return read

/-- Reads the pattern of a clause: one, or a sequence without brackets. -/
def clausePattern (self : Phrases) : Rule Expr :=
  openSequence self (pattern self self.bound)

end FoldTree.Source.Grammar
