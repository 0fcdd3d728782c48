import FoldTree.Source.Program
import FoldTree.Source.Token

/-! Rules that read phrases from a sequence of tokens. A rule that does not fit reads nothing, so
that another can be tried in its place.
-/

namespace FoldTree.Source.Grammar

/-- The tokens to come, and the place behind the last visible token read. -/
structure Stream where
  rest : List Token
  behind : Position

namespace Stream

/-- The stream behind a token that comes first. -/
def past (behind : Position) (token : Token) (rest : List Token) : Stream :=
  ⟨rest, if token.lexeme.isVisible then token.extent.behind else behind⟩

/-- Which streams reading some tokens leads to from a stream. -/
inductive Reaches : Stream → Stream → Prop
  | refl {stream : Stream} : Reaches stream stream
  | next {behind : Position} {token : Token} {rest : List Token} {after : Stream}
    (later : Reaches (past behind token rest) after)
    : Reaches ⟨token :: rest, behind⟩ after

/-- What is read in two steps is read in one. -/
theorem Reaches.trans {first second third : Stream} (before : Reaches first second)
    (later : Reaches second third)
    : Reaches first third := by
  induction before with
  | refl => exact later
  | next _ ih => exact .next (ih later)

end Stream

/-- A rule gives what it read, or nothing where it does not fit. It reads on from where it starts:
no rule goes back or skips tokens.
-/
structure Rule (α : Type) where
  run : Stream → Option (α × Stream)
  reaches : ∀ {stream : Stream} {a : α} {after : Stream},
    run stream = some (a, after) → stream.Reaches after

namespace Rule

variable {α β : Type}

/-- The rule that reads nothing and always fits. -/
protected def pure (a : α) : Rule α where
  run stream := some (a, stream)
  reaches read := by
    cases read
    exact .refl

/-- A rule and then another that may depend on what the first one read. -/
protected def bind (rule : Rule α) (later : α → Rule β) : Rule β where
  run stream := (rule.run stream).bind fun (a, after) => (later a).run after
  reaches read := by
    obtain ⟨⟨a, middle⟩, first, second⟩ := Option.bind_eq_some_iff.mp read
    exact (rule.reaches first).trans ((later a).reaches second)

/-- A rule, or another one where the first does not fit. -/
protected def orElse (rule : Rule α) (other : Unit → Rule α) : Rule α where
  run stream := (rule.run stream).or ((other ()).run stream)
  reaches read := by
    rcases Option.or_eq_some_iff.mp read with first | ⟨-, second⟩
    · exact rule.reaches first
    · exact (other ()).reaches second

instance : Monad Rule where
  pure := Rule.pure
  bind := Rule.bind

instance : Alternative Rule where
  failure := ⟨fun _ => none, nofun⟩
  orElse := Rule.orElse

/-- Where the rules that follow start reading. -/
def stream : Rule Stream where
  run stream := some (stream, stream)
  reaches read := by
    cases read
    exact .refl

/-- The next token, which stays. -/
def peek : Rule Token := do
  match (← stream).rest with
  | token :: _ => return token
  | [] => failure

/-- The token after the next one, which stays; none at the end. -/
def peekSecond : Rule (Option Lexeme) := do
  match (← stream).rest with
  | _ :: token :: _ => return some token.lexeme
  | _ => return none

/-- Reads the next token. -/
def next : Rule Token where
  run
    | ⟨token :: rest, behind⟩ => some (token, .past behind token rest)
    | ⟨[], _⟩ => none
  reaches {stream _ _} read := by
    rcases stream with ⟨_ | ⟨token, rest⟩, behind⟩
    · cases read
    · cases read
      exact .next .refl

/-- Whether the next token is a given one. -/
def sees (lexeme : Lexeme) : Rule Bool := do
  return (← peek).lexeme = lexeme

/-- Reads the next token if it is a given one, and says whether it is. -/
def skips (lexeme : Lexeme) : Rule Bool := do
  if ← sees lexeme then
    let _ ← next
    return true
  else return false

/-- Reads a given token. -/
def expect (lexeme : Lexeme) : Rule Unit := do
  if !(← skips lexeme) then failure

/-- Whether a sign comes next. -/
def seesMark (spelling : String) : Rule Bool := sees (.mark spelling)

/-- Reads a sign if it comes next. -/
def skipsMark (spelling : String) : Rule Bool := skips (.mark spelling)

/-- Reads a sign. -/
def mark (spelling : String) : Rule Unit := expect (.mark spelling)

/-- Whether a keyword comes next. -/
def seesKeyword (spelling : String) : Rule Bool := sees (.keyword spelling)

/-- Reads a keyword if it comes next. -/
def skipsKeyword (spelling : String) : Rule Bool := skips (.keyword spelling)

/-- Reads a keyword. -/
def keyword (spelling : String) : Rule Unit := expect (.keyword spelling)

/-- Whether one of some signs comes next. -/
def seesAnyMark (spellings : List String) : Rule Bool := do
  match (← peek).lexeme with
  | .mark spelling => return spellings.contains spelling
  | _ => return false

/-- Repeats a step until it gives nothing more, within a bound on the rounds. -/
def collect (step : Rule (Option α)) : Nat → Rule (List α)
  | 0 => failure
  | rounds + 1 => do
    match ← step with
    | none => return []
    | some a => return a :: (← collect step rounds)

/-- Reads one or more phrases with commas between them; a last comma stays unless a phrase can
start behind it.
-/
def commaSeparated (bound : Nat) (starts : Lexeme → Bool) (rule : Rule α) :
    Rule (List α) := do
  let first ← rule
  let others ← collect (do
    if (← seesMark ",") && (← peekSecond).any starts then
      let _ ← next
      return some (← rule)
    else return none) bound
  return first :: others

/-- Reads phrases with commas between them and perhaps behind the last; says whether there was one
behind the last.
-/
def commaList (bound : Nat) (starts : Lexeme → Bool) (rule : Rule α) :
    Rule (List α × Bool) := do
  let items ← commaSeparated bound starts rule
  return (items, ← skipsMark ",")

/-- The place of the next token. -/
def here : Rule Position := do
  return (← peek).extent.first

/-- The extent from a place to the last visible token read. -/
def extentFrom (first : Position) : Rule Extent := do
  return ⟨first, (← stream).behind⟩

end Rule

end FoldTree.Source.Grammar
