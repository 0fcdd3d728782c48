import FoldTree.Decimal.Numeral
import FoldTree.Source.Number
import FoldTree.Toml.Value

/-! How TOML writes values that hold no others. Each reader gives the value and what follows. -/

namespace FoldTree.Toml

/-! ### Texts -/

/-- A control character that cannot stand in a text or comment; tabs can, and in a text of several
lines newlines too.
-/
def isIllegal (isLong : Bool) (c : Char) : Bool :=
  (c.toNat < 32 || c.toNat == 127) && c != '\t' && !(isLong && c == '\n')

/-- A blank inside a line. -/
def isSpace (c : Char) : Bool :=
  c == ' ' || c == '\t'

/-- A blank or a newline. -/
def isSpaceOrNewline (c : Char) : Bool :=
  isSpace c || c == '\n'

/-- The character that an escape of one letter stands for. -/
def plainEscape? (c : Char) : Option Char :=
  if c = '"' ∨ c = '\\' then some c
  else if c = 'b' then some (Char.ofNat 8)
  else if c = 't' then some '\t'
  else if c = 'n' then some '\n'
  else if c = 'f' then some (Char.ofNat 12)
  else if c = 'r' then some '\r'
  else none

/-- Reads a character written by its code in a number of hexadecimal digits. -/
def codeEscape (width : Nat) (text : List Char) : Option (Char × List Char) :=
  let digits := text.take width
  if digits.length = width ∧ digits.all fun c => (Text.hexDigit? c).isSome then
    let code := Text.hexValue digits
    if code.isValidChar then some (Char.ofNat code, text.drop width) else none
  else none

/-- What follows a backslash at the end of a line, which joins the line to the next word. Only
blanks may stand between them.
-/
def joinedLines (text : List Char) : Option (List Char) :=
  match text.dropWhile isSpace with
  | '\n' :: rest => some (rest.dropWhile isSpaceOrNewline)
  | [] => some []
  | _ => none

/-- Reads what a backslash starts, as the characters that it stands for. -/
def escaped (isLong : Bool) : List Char → Option (List Char × List Char)
  | [] => none
  | c :: rest =>
    if isLong && isSpaceOrNewline c then (joinedLines (c :: rest)).map fun rest => ([], rest)
    else if c = 'u' then (codeEscape 4 rest).map fun (d, rest) => ([d], rest)
    else if c = 'U' then (codeEscape 8 rest).map fun (d, rest) => ([d], rest)
    else (plainEscape? c).map fun d => ([d], rest)

/-- Reads a text with escapes up to its closing quotes. Each round passes a character. -/
def basicBody (isLong : Bool) : Nat → List Char → Option (List Char × List Char)
  | 0, _ => none
  | _, [] => none
  | rounds + 1, c :: rest =>
    if c = '"' then
      if !isLong then some ([], rest)
      else if rest.take 2 = ['"', '"'] then some ([], rest.drop 2)
      else (basicBody isLong rounds rest).map fun (body, after) => (c :: body, after)
    else if c = '\\' then
      (escaped isLong rest).bind fun (meant, rest) =>
        (basicBody isLong rounds rest).map fun (body, after) => (meant ++ body, after)
    else if isIllegal isLong c then none
    else (basicBody isLong rounds rest).map fun (body, after) => (c :: body, after)

/-- Reads a text without escapes up to its closing quotes. -/
def literalBody (isLong : Bool) : List Char → Option (List Char × List Char)
  | [] => none
  | c :: rest =>
    if c = '\'' && (!isLong || rest.take 2 == ['\'', '\'']) then
      some ([], if isLong then rest.drop 2 else rest)
    else if isIllegal isLong c then none
    else (literalBody isLong rest).map fun (body, after) => (c :: body, after)

/-- Adds to a text of several lines the one or two quotes that may stand before its closing ones. -/
def withLastQuotes (quote : Char) (read : List Char × List Char) : List Char × List Char :=
  let extra := (read.2.take 2).takeWhile (· == quote)
  (read.1 ++ extra, read.2.drop extra.length)

/-- Reads a text from its first quote on. A newline right behind three quotes does not count. -/
def readText (text : List Char) : Option (List Char × List Char) :=
  match text with
  | [] => none
  | quote :: rest =>
    if rest.take 2 = [quote, quote] then
      let body := rest.drop 2
      let body := if body.head? = some '\n' then body.drop 1 else body
      (if quote = '"' then basicBody true (body.length + 1) body else literalBody true body).map
        (withLastQuotes quote)
    else readLine quote rest
where
  readLine (quote : Char) (rest : List Char) : Option (List Char × List Char) :=
    if quote = '"' then basicBody false (rest.length + 1) rest else literalBody false rest

/-- Reads a text of one line from its first quote on. -/
def readLineText (text : List Char) : Option (List Char × List Char) :=
  match text with
  | [] => none
  | quote :: rest => readText.readLine quote rest

/-! ### Dates and times -/

/-- The number that decimal digits write. -/
def digitsValue (digits : List Char) : Nat :=
  digits.foldl (fun value c => 10 * value + (c.toNat - '0'.toNat)) 0

/-- Reads a number of a given count of digits, in a range. -/
def readDigits (count least most : Nat) (text : List Char) : Option (Nat × List Char) :=
  let digits := text.take count
  let value := digitsValue digits
  if digits.length = count ∧ digits.all Source.Number.isDigit ∧ least ≤ value ∧ value ≤ most then
    some (value, text.drop count)
  else none

/-- What follows a given character. -/
def behind (c : Char) : List Char → Option (List Char)
  | [] => none
  | d :: rest => if d = c then some rest else none

/-- Reads the fraction of a second, of which six digits count. -/
def readFraction (text : List Char) : Nat × List Char :=
  match text with
  | '.' :: rest =>
    let digits := rest.takeWhile Source.Number.isDigit
    if digits.isEmpty then (0, text)
    else
      let counted := digits.take 6
      (digitsValue counted * Decimal.powerOfTen (6 - counted.length), rest.drop digits.length)
  | _ => (0, text)

/-- Reads a time of day. -/
def readTime (text : List Char) : Option (Time × List Char) := do
  let (hour, text) ← readDigits 2 0 23 text
  let text ← behind ':' text
  let (minute, text) ← readDigits 2 0 59 text
  let text ← behind ':' text
  let (second, text) ← readDigits 2 0 59 text
  let (micro, text) := readFraction text
  return (⟨hour, minute, second, micro⟩, text)

/-- Reads a date; it need not be in the calendar. -/
def readDate (text : List Char) : Option (Date × List Char) := do
  let (year, text) ← readDigits 4 0 9999 text
  let text ← behind '-' text
  let (month, text) ← readDigits 2 1 12 text
  let text ← behind '-' text
  let (day, text) ← readDigits 2 1 31 text
  return (⟨year, month, day⟩, text)

/-- Reads an offset from universal time behind its sign. -/
def readOffset (text : List Char) : Option (Int × List Char) := do
  let (hours, text) ← readDigits 2 0 23 text
  let text ← behind ':' text
  let (minutes, text) ← readDigits 2 0 59 text
  return ((60 * hours + minutes : Nat), text)

/-- Reads an offset from universal time if there is one. -/
def readZone (text : List Char) : Option Int × List Char :=
  match text with
  | [] => (none, [])
  | c :: rest =>
    if c = 'Z' ∨ c = 'z' then (some 0, rest)
    else if c = '+' ∨ c = '-' then
      match readOffset rest with
      | some (offset, after) => (some (if c = '-' then -offset else offset), after)
      | none => (none, text)
    else (none, text)

/-- Reads the time that may stand behind a date. -/
def readTimeBehind (date : Date) (text : List Char) : Moment × List Char :=
  match text with
  | [] => (.date date, [])
  | c :: rest =>
    if c = 'T' ∨ c = 't' ∨ c = ' ' then
      match readTime rest with
      | some (time, after) =>
        let (offset, after) := readZone after
        (.dateTime date time offset, after)
      | none => (.date date, text)
    else (.date date, text)

/-! ### Numbers -/

/-- The digits of a run with single underscores between them, and what follows. The first digit is
read already.
-/
def digitsBehind (accept : Char → Bool) : List Char → List Char × List Char
  | [] => ([], [])
  | '_' :: c :: rest =>
    if accept c then
      let (digits, after) := digitsBehind accept rest
      (c :: digits, after)
    else ([], '_' :: c :: rest)
  | c :: rest =>
    if accept c then
      let (digits, after) := digitsBehind accept rest
      (c :: digits, after)
    else ([], c :: rest)

/-- Reads a run of at least one digit. -/
def readRun (accept : Char → Bool) : List Char → Option (List Char × List Char)
  | [] => none
  | c :: rest =>
    if accept c then
      let (digits, after) := digitsBehind accept rest
      some (c :: digits, after)
    else none

/-- Whether a digit is below a base. -/
def isDigitIn (base : Nat) (c : Char) : Bool :=
  (Text.hexDigit? c).any (· < base)

/-- Reads a whole number in base sixteen, eight or two behind its leading zero. -/
def readBased (text : List Char) : Option (Nat × List Char) :=
  match text with
  | 'x' :: rest => inBase 16 rest
  | 'o' :: rest => inBase 8 rest
  | 'b' :: rest => inBase 2 rest
  | _ => none
where
  inBase (base : Nat) (rest : List Char) : Option (Nat × List Char) :=
    (readRun (isDigitIn base) rest).map fun (digits, after) =>
      (digits.foldl (fun value c => base * value + (Text.hexDigit? c).getD 0) 0, after)

/-- Reads the digits of a whole number, in which a zero comes first only on its own. -/
def readWhole : List Char → Option (List Char × List Char)
  | '0' :: rest => some (['0'], rest)
  | text => readRun Source.Number.isDigit text

/-- Reads digits behind a point, if there are any, with the point. -/
def readPart (text : List Char) : List Char × List Char :=
  match text with
  | '.' :: rest =>
    match readRun Source.Number.isDigit rest with
    | some (digits, after) => ('.' :: digits, after)
    | none => ([], text)
  | _ => ([], text)

/-- Reads a sign, if there is one. -/
def readSign : List Char → List Char × List Char
  | '+' :: rest => (['+'], rest)
  | '-' :: rest => (['-'], rest)
  | text => ([], text)

/-- Reads an exponent, if there is one, with its letter. -/
def readExponent (text : List Char) : List Char × List Char :=
  match text with
  | [] => ([], [])
  | c :: rest =>
    if c = 'e' ∨ c = 'E' then
      let (sign, unsigned) := readSign rest
      match readRun Source.Number.isDigit unsigned with
      | some (digits, after) => ('e' :: sign ++ digits, after)
      | none => ([], text)
    else ([], text)

/-- Why a document cannot be read: it is no TOML, or a whole number in it is too long to be read or
written.
-/
inductive Fault where
  | malformed
  | longNumber
deriving DecidableEq, Repr

/-- Reads a decimal number. With a fraction or an exponent it is a floating one. -/
def readDecimal (text : List Char) : Option (Except Fault Value × List Char) := do
  let (sign, unsigned) := readSign text
  let (whole, rest) ← readWhole unsigned
  let (part, rest) := readPart rest
  let (exponent, rest) := readExponent rest
  if part.isEmpty && exponent.isEmpty then
    let value : Int := digitsValue whole
    if Decimal.mostDigits < whole.length then return (.error .longNumber, rest)
    else return (.ok (.integer (if sign = ['-'] then -value else value)), rest)
  else
    let value := (Decimal.readFloat? (sign ++ whole ++ part ++ exponent)).getD 0.0
    return (.ok (.number value), rest)

/-- Reads a number. -/
def readNumber (text : List Char) : Option (Except Fault Value × List Char) :=
  match text with
  | '0' :: rest =>
    match readBased rest with
    | some (value, after) => some (.ok (.integer value), after)
    | none => readDecimal text
  | _ => readDecimal text

/-- Reads one of the words for a truth value, for infinity and for no number. -/
def readWord (text : List Char) : Option (Value × List Char) :=
  (words.find? fun entry => entry.1.toList.isPrefixOf text).map fun (word, value) =>
    (value, text.drop word.length)
where
  words : List (String × Value) :=
    [("true", .truth true), ("false", .truth false), ("inf", .number (1.0 / 0.0)),
      ("nan", .number (0.0 / 0.0)), ("-inf", .number (-1.0 / 0.0)), ("+inf", .number (1.0 / 0.0)),
      ("-nan", .number (0.0 / 0.0)), ("+nan", .number (0.0 / 0.0))]

/-- Reads a date, a time, a number or a word. A date has to be in the calendar. -/
def readScalar (text : List Char) : Except Fault (Value × List Char) :=
  match readDate text with
  | some (date, rest) =>
    let (moment, after) := readTimeBehind date rest
    if date.isValid then .ok (.moment moment, after) else .error .malformed
  | none =>
    match readTime text with
    | some (time, after) => .ok (.moment (.time time), after)
    | none =>
      match readNumber text with
      | some (read, after) => read.map fun value => (value, after)
      | none =>
        match readWord text with
        | some read => .ok read
        | none => .error .malformed

end FoldTree.Toml
