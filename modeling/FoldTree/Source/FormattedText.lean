import FoldTree.Source.Literal

/-! Formatted texts: literal stretches with fields between them. A field is in braces, holds an
expression, and may have a format, which is a formatted text of its own.
-/

namespace FoldTree.Source

/-- A part of a formatted text. -/
inductive Piece where
  | literal (text : List Char)
  | field (expression : List Char) (format : List Piece)

namespace FormattedText

/-- What ends a literal stretch: a brace written twice, the start of a field, the end of the format
that the stretch stands in, or the end of the text.
-/
inductive Stop where
  | doubled
  | field
  | close
  | finish
deriving DecidableEq

/-- A literal stretch with what ends it and what follows. -/
structure Stretch where
  text : List Char
  stop : Stop
  rest : List Char

/-- A stretch with a character in front. -/
def Stretch.after (c : Char) (stretch : Stretch) : Stretch :=
  { stretch with text := c :: stretch.text }

/-- Whether a character is a brace. -/
def isBrace (c : Char) : Bool :=
  c == '\x7b' || c == '\x7d'

/-- The end of a stretch at a brace. Outside of formats a brace written twice stands for itself,
and a closing one cannot stand alone.
-/
def endAtBrace (isFormat : Bool) (c : Char) (rest : List Char) : Option Stretch :=
  if !isFormat && rest.head? = some c then some ⟨[c], .doubled, rest.drop 1⟩
  else if c = '\x7b' then some ⟨[], .field, rest⟩
  else if isFormat then some ⟨[], .close, c :: rest⟩
  else none

/-- Reads a literal stretch. Unless the text is raw, the braces of a character's name do not
count. The first flag says whether such a name is being read.
-/
def stretch (isRaw isFormat : Bool) : Bool → List Char → Option Stretch
  | _, [] => some ⟨[], .finish, []⟩
  | true, c :: rest => (stretch isRaw isFormat (c != '\x7d') rest).map (.after c)
  | false, c :: rest =>
    if isBrace c then endAtBrace isFormat c rest
    else if isRaw ∨ c ≠ '\\' then (stretch isRaw isFormat false rest).map (.after c)
    else
      match rest with
      | [] => some ⟨[c], .finish, []⟩
      | d :: after =>
        if isBrace d then (endAtBrace isFormat d after).map (.after c)
        else if d = 'N' then
          match after with
          | [] => some ⟨[c, d], .finish, []⟩
          | e :: name =>
            if e = '\x7b' then
              (stretch isRaw isFormat true name).map fun read => ((read.after e).after d).after c
            else (stretch isRaw isFormat false (e :: name)).map fun read => (read.after d).after c
        else (stretch isRaw isFormat false after).map fun read => (read.after d).after c

/-- Whether a character is a blank inside an expression. -/
def isFieldBlank (c : Char) : Bool :=
  c == ' ' || c == '\t' || c == '\n' || c == '\x0c'

/-- Whether a character ends the expression of a field when it stands outside of all brackets. -/
def endsField (c : Char) : Bool :=
  c == '!' || c == ':' || c == '=' || c == '\x7d'

/-- Whether two characters are one comparison operator. -/
def isComparison (c d : Char) : Bool :=
  (c == '!' || c == '=' || c == '<' || c == '>') && d == '='

/-- The closing bracket of an opening one. -/
def closerOf? (c : Char) : Option Char :=
  if c = '(' then some ')'
  else if c = '[' then some ']'
  else if c = '\x7b' then some '\x7d'
  else none

/-- Reads the expression of a field up to the character that ends it, which stays. Inside, texts
count as one and brackets have to match; backslashes and comments cannot stand there. Given are the
text being read, by its quote and whether that is tripled, and the closing brackets to come.
-/
def fieldExpression : Option (Char × Bool) → List Char → List Char → Option (List Char × List Char)
  | _, _, [] => none
  | some (quote, isLong), closers, c :: rest =>
    if c = '\\' then none
    else if c ≠ quote then (fieldExpression (some (quote, isLong)) closers rest).map (keep c)
    else if !isLong then (fieldExpression none closers rest).map (keep c)
    else
      match rest with
      | d :: e :: after =>
        if d = quote ∧ e = quote then
          (fieldExpression none closers after).map (keep c ∘ keep d ∘ keep e)
        else (fieldExpression (some (quote, isLong)) closers (d :: e :: after)).map (keep c)
      | _ => none
  | none, closers, c :: rest =>
    if c = '\\' ∨ c = '#' then none
    else if c = '"' ∨ c = '\'' then
      match rest with
      | d :: e :: after =>
        if d = c ∧ e = c then
          (fieldExpression (some (c, true)) closers after).map (keep c ∘ keep d ∘ keep e)
        else (fieldExpression (some (c, false)) closers (d :: e :: after)).map (keep c)
      | after => (fieldExpression (some (c, false)) closers after).map (keep c)
    else
      match closerOf? c with
      | some closer => (fieldExpression none (closer :: closers) rest).map (keep c)
      | none =>
        match closers with
        | [] =>
          match rest with
          | d :: after =>
            if isComparison c d then (fieldExpression none [] after).map (keep c ∘ keep d)
            else if endsField c then some ([], c :: d :: after)
            else if c = ')' ∨ c = ']' then none
            else (fieldExpression none [] (d :: after)).map (keep c)
          | [] => if endsField c then some ([], [c]) else none
        | closer :: outer =>
          if c = closer then (fieldExpression none outer rest).map (keep c)
          else if c = ')' ∨ c = ']' ∨ c = '\x7d' then none
          else (fieldExpression none (closer :: outer) rest).map (keep c)
where
  keep (c : Char) (read : List Char × List Char) : List Char × List Char :=
    (c :: read.1, read.2)

/-- Whether a character is a blank behind the equals sign of a field. -/
def isAsciiBlank (c : Char) : Bool :=
  c == ' ' || ('\t' ≤ c && c ≤ '\r')

/-- What follows the equals sign that may stand behind an expression. -/
def behindEquals : List Char → List Char
  | '=' :: rest => rest.dropWhile isAsciiBlank
  | rest => rest

/-- What follows the conversion that may stand behind an expression. There are three, each of one
letter.
-/
def behindConversion : List Char → Option (List Char)
  | '!' :: c :: rest => if c = 's' ∨ c = 'r' ∨ c = 'a' then some rest else none
  | ['!'] => none
  | rest => some rest

/-- How deep formats may stand in each other. -/
def deepestFormat : Nat := 2

/-- Reads pieces up to the end of the text or of the format that they stand in. The formats around
them are counted; the deepest has no fields.
-/
def pieces (isRaw : Bool) : Nat → Nat → List Char → Option (List Piece × List Char)
  | 0, _, _ => none
  | rounds + 1, depth, text => do
    let read ← stretch isRaw (depth != 0) false text
    match read.stop with
    | .close => return ([.literal read.text], read.rest)
    | .finish => return ([.literal read.text], [])
    | .doubled =>
      let (later, rest) ← pieces isRaw rounds depth read.rest
      return (.literal read.text :: later, rest)
    | .field =>
      if deepestFormat ≤ depth then none
      let (expression, behind) ← fieldExpression none [] read.rest
      if expression.all isFieldBlank then none
      let behind ← behindConversion (behindEquals behind)
      let (format, behind) ← match behind with
        | ':' :: after => pieces isRaw rounds (depth + 1) after
        | _ => some ([], behind)
      match behind with
      | '\x7d' :: after =>
        let (later, rest) ← pieces isRaw rounds depth after
        return (.literal read.text :: .field expression format :: later, rest)
      | _ => none

/-- The pieces of a formatted text. Each round passes at least one character but the last. -/
def ofBody (isRaw : Bool) (body : List Char) : Option (List Piece) :=
  (pieces isRaw (body.length + 1) 0 body).map (·.1)

mutual

/-- What the expressions of a piece read as, in order. A literal stretch has none, but it has to
be well formed.
-/
def readPiece {α : Type} (isRaw : Bool) (read : List Char → Option α) : Piece → Option (List α)
  | .literal text =>
    if isRaw then some [] else (unescape .nothing text).map fun _ => []
  | .field expression format => do
    let value ← read expression
    return value :: (← readPieces isRaw read format)

/-- What the expressions of some pieces read as, in order. -/
def readPieces {α : Type} (isRaw : Bool) (read : List Char → Option α) :
    List Piece → Option (List α)
  | [] => some []
  | piece :: rest => do
    let values ← readPiece isRaw read piece
    return values ++ (← readPieces isRaw read rest)

end

end FormattedText

end FoldTree.Source
