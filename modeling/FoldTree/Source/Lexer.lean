import FoldTree.Source.Number
import FoldTree.Source.Token
import FoldTree.Text.Identifier

/-! From text to tokens. Line ends are unified first; then each line that starts a statement is
measured for its indentation, and tokens are read until the line ends outside of all brackets.
-/

namespace FoldTree.Source

/-- Line ends of two characters, or of a carriage return alone, become one newline each. -/
def unifyLineEnds : List Char → List Char
  | [] => []
  | '\r' :: '\n' :: rest => '\n' :: unifyLineEnds rest
  | c :: rest => (if c = '\r' then '\n' else c) :: unifyLineEnds rest

/-- Whether a text ends its last line. A line end of two characters at the very end does not
count.
-/
def endsLine (text : List Char) : Bool :=
  match text.reverse with
  | '\n' :: '\r' :: _ => false
  | c :: _ => c == '\n' || c == '\r'
  | [] => false

/-- A text as the lexer reads it: with unified line ends, and one more where the last line lacks
its own.
-/
def readable (text : List Char) : List Char :=
  unifyLineEnds text ++ if endsLine text then [] else ['\n']

/-- What is left of a text, and its place. -/
structure Cursor where
  rest : List Char
  place : Position
deriving Repr

namespace Cursor

/-- The cursor behind the first characters. -/
def skip (cursor : Cursor) (count : Nat) : Cursor :=
  ⟨cursor.rest.drop count, cursor.place.afterAll (cursor.rest.take count)⟩

/-- The cursor behind the first characters that pass a test. -/
def skipWhile (cursor : Cursor) (p : Char → Bool) : Cursor :=
  cursor.skip (cursor.rest.takeWhile p).length

/-- The cursor behind a comment, which starts with a hash and runs to the end of its line. -/
def skipComment (cursor : Cursor) : Cursor :=
  if cursor.rest.head? = some '#' then cursor.skipWhile (· != '\n') else cursor

end Cursor

/-- The columns of an indentation: with tabs to multiples of eight, and with tabs of one column. -/
structure Indent where
  column : Nat
  narrow : Nat
deriving DecidableEq, Repr

/-- Measures the indentation in front of a text, with the number of its characters over those
counted before. A form feed starts again from column zero. A backslash joins the next line; the
indentation then is the column of the first backslash that is not at the margin.
-/
def measure (indent : Indent) (joined count : Nat) : List Char → Option (Indent × Nat)
  | ' ' :: rest => measure ⟨indent.column + 1, indent.narrow + 1⟩ joined (count + 1) rest
  | '\t' :: rest =>
    measure ⟨(indent.column / 8 + 1) * 8, indent.narrow + 1⟩ joined (count + 1) rest
  | '\x0c' :: rest => measure ⟨0, 0⟩ joined (count + 1) rest
  | '\\' :: '\n' :: c :: rest =>
    measure indent (if joined = 0 then indent.column else joined) (count + 2) (c :: rest)
  | rest =>
    if rest.head? = some '\\' then none
    else some (if joined = 0 then indent else ⟨joined, joined⟩, count)

/-- The most open indentations, and the most open brackets. -/
def mostIndents : Nat := 100

/-- The most brackets that may be open at once. -/
def mostBrackets : Nat := 200

/-- The indentations that are open behind a line start, innermost first, with the tokens for those
that it opens or closes. Both measures of an indentation have to agree on its order.
-/
def openIndents (indent : Indent) : List Indent → Option (List Indent × List Lexeme)
  | [] => none
  | top :: below =>
    if indent.column = top.column then
      if indent.narrow = top.narrow then some (top :: below, []) else none
    else if top.column < indent.column then
      if mostIndents ≤ below.length + 1 ∨ indent.narrow ≤ top.narrow then none
      else some (indent :: top :: below, [.indent])
    else (openIndents indent below).bind fun (indents, lexemes) =>
      if lexemes.contains .indent then none else some (indents, .dedent :: lexemes)

/-- What the letters in front of a quote say about a text literal. -/
def literalFlags? : List Char → Option Literal
  | [] => some ⟨false, false, false, []⟩
  | [c] =>
    if c = 'r' ∨ c = 'R' then some ⟨true, false, false, []⟩
    else if c = 'b' ∨ c = 'B' then some ⟨false, true, false, []⟩
    else if c = 'f' ∨ c = 'F' then some ⟨false, false, true, []⟩
    else if c = 'u' ∨ c = 'U' then some ⟨false, false, false, []⟩
    else none
  | [c, d] =>
    let isR (x : Char) : Bool := x == 'r' || x == 'R'
    let other := if isR c then d else c
    if isR c == isR d then none
    else if other = 'b' ∨ other = 'B' then some ⟨true, true, false, []⟩
    else if other = 'f' ∨ other = 'F' then some ⟨true, false, true, []⟩
    else none
  | _ => none

/-- Whether a character is a quote. -/
def isQuote (c : Char) : Bool :=
  c == '"' || c == '\''

/-- The body of a text literal between single quotes, and what follows. A backslash keeps the next
character, a newline too.
-/
def shortBody (quote : Char) : List Char → Option (List Char × List Char)
  | [] => none
  | ['\\'] => none
  | '\\' :: c :: rest => (shortBody quote rest).map fun (body, after) => ('\\' :: c :: body, after)
  | c :: rest =>
    if c = quote then some ([], rest)
    else if c = '\n' then none
    else (shortBody quote rest).map fun (body, after) => (c :: body, after)

/-- The body of a text literal between triple quotes, and what follows. -/
def longBody (quote : Char) : List Char → Option (List Char × List Char)
  | [] => none
  | ['\\'] => none
  | '\\' :: c :: rest => (longBody quote rest).map fun (body, after) => ('\\' :: c :: body, after)
  | c :: rest =>
    if c = quote ∧ rest.take 2 = [quote, quote] then some ([], rest.drop 2)
    else (longBody quote rest).map fun (body, after) => (c :: body, after)

/-- Reads a text literal from its first quote on. -/
def readBody : List Char → Option (List Char × List Char)
  | [] => none
  | quote :: rest =>
    if rest.take 2 = [quote, quote] then longBody quote (rest.drop 2) else shortBody quote rest

/-- The number of characters of a text literal between quotes. -/
def quotedLength (text : List Char) (body : List Char) : Nat :=
  match text with
  | quote :: rest => if rest.take 2 = [quote, quote] then body.length + 6 else body.length + 2
  | [] => 0

/-- Reads a text literal with the letters in front of it, if the text starts with one at all. -/
def readLiteral? (text : List Char) : Option (Option (Lexeme × Nat)) :=
  let letters := (text.take 3).takeWhile fun c => !isQuote c
  let spelled := text.drop letters.length
  if spelled.head?.any isQuote then
    (literalFlags? letters).map fun flags =>
      (readBody spelled).map fun (body, _) =>
        (.literal { flags with body }, letters.length + quotedLength spelled body)
  else none

/-- Reads the longest sign that a text starts with. -/
def readMark (text : List Char) : Option (Lexeme × Nat) :=
  (marks.flatten.find? fun mark => mark.toList.isPrefixOf text).map fun mark =>
    (.mark mark, mark.length)

/-- Reads a name or keyword. -/
def readWord (text : List Char) : Option (Lexeme × Nat) :=
  let word := text.takeWhile Number.continuesWord
  let spelling := String.ofList word
  if !Text.isIdentifier word then none
  else some (if keywords.contains spelling then .keyword spelling else .name spelling, word.length)

/-- Reads a number. All characters of a number, and those of a word that follows it, are word
characters, points or signs.
-/
def readNumber (text : List Char) : Option (Lexeme × Nat) :=
  let stretch := text.takeWhile fun c =>
    Number.continuesWord c || c == '.' || c == '+' || c == '-'
  (Number.read stretch).map fun (imaginary, after) =>
    (.number imaginary, stretch.length - after.length)

/-- Reads the first token of a text that starts with no blank, line end, comment or backslash, and
gives the number of its characters.
-/
def readLexeme (text : List Char) : Option (Lexeme × Nat) :=
  match readLiteral? text with
  | some read => read
  | none =>
    match text with
    | [] => none
    | c :: rest =>
      if Number.isDigit c ∨ (c = '.' ∧ rest.head?.any Number.isDigit) then readNumber text
      else if Number.continuesWord c then readWord text
      else readMark text

/-- The opening bracket of a closing one. -/
def openerOf? : String → Option String
  | ")" => some "("
  | "]" => some "["
  | "\x7d" => some "\x7b"
  | _ => none

/-- The brackets that are open behind a token, innermost first. A closing bracket has to match the
innermost open one.
-/
def openBrackets (brackets : List String) : Lexeme → Option (List String)
  | .mark spelling =>
    if spelling = "(" ∨ spelling = "[" ∨ spelling = "\x7b" then
      if mostBrackets ≤ brackets.length then none else some (spelling :: brackets)
    else
      match openerOf? spelling with
      | none => some brackets
      | some opener =>
        match brackets with
        | top :: below => if top = opener then some below else none
        | [] => none
  | _ => some brackets

/-- Where the lexer stands between two tokens. -/
structure LexerState where
  cursor : Cursor
  indents : List Indent
  brackets : List String
  atLineStart : Bool

/-- A token of no characters, which has no place. -/
def emptyToken (lexeme : Lexeme) : Token :=
  ⟨lexeme, default⟩

/-- Reads the start of a line: none of it when the line is blank or holds a comment alone, else
its indentation.
-/
def lineStart (state : LexerState) : Option (List Token × LexerState) := do
  let (indent, count) ← measure ⟨0, 0⟩ 0 0 state.cursor.rest
  let cursor := state.cursor.skip count
  let behind := cursor.skipComment
  if behind.rest.head? = some '\n' then return ([], { state with cursor := behind.skip 1 })
  let (indents, lexemes) ← openIndents indent state.indents
  return (lexemes.map emptyToken, { state with cursor, indents, atLineStart := false })

/-- Reads one token inside a line, or the end of the line. Lines end inside brackets too, but no
token stands for that.
-/
def lineStep (state : LexerState) : Option (List Token × LexerState) :=
  let cursor := (state.cursor.skipWhile fun c => c == ' ' || c == '\t' || c == '\x0c').skipComment
  match cursor.rest with
  | [] => none
  | '\n' :: _ =>
    let next := cursor.skip 1
    if state.brackets.isEmpty then
      some ([⟨.newline, cursor.place, next.place⟩],
        { state with cursor := next, atLineStart := true })
    else some ([], { state with cursor := next })
  | ['\\', '\n'] => none
  | '\\' :: '\n' :: _ => some ([], { state with cursor := cursor.skip 2 })
  | rest => do
    let (lexeme, count) ← readLexeme rest
    let next := cursor.skip count
    let brackets ← openBrackets state.brackets lexeme
    return ([⟨lexeme, cursor.place, next.place⟩], { state with cursor := next, brackets })

/-- The tokens from a state on; each round reads a token or a line. At the end of the text, which
lies outside of all brackets, the open indentations are closed.
-/
def tokensFrom : Nat → LexerState → Option (List Token)
  | 0, _ => none
  | rounds + 1, state =>
    if state.cursor.rest.isEmpty then
      if state.brackets.isEmpty then
        some ((state.indents.drop 1).map (fun _ => emptyToken .dedent) ++ [emptyToken .finish])
      else none
    else do
      let (tokens, next) ← if state.atLineStart then lineStart state else lineStep state
      return tokens ++ (← tokensFrom rounds next)

/-- The tokens of a text, or nothing when some part of it is no token. -/
def tokens (text : List Char) : Option (List Token) :=
  let prepared := readable text
  tokensFrom (2 * prepared.length + 2)
    { cursor := ⟨prepared, .start⟩, indents := [⟨0, 0⟩], brackets := [], atLineStart := true }

end FoldTree.Source
