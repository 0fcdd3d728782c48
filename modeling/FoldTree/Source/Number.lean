import FoldTree.Decimal.Power
import FoldTree.Text.CodeSet
import FoldTree.Text.Identifier

/-! The spelling of numbers: whole ones in four bases, and decimal ones with a point, an exponent
or an imaginary unit. Single underscores may stand between digits. Each reader gives what follows.
-/

namespace FoldTree.Source.Number

/-- A decimal digit. -/
def isDigit (c : Char) : Bool :=
  '0' ≤ c && c ≤ '9'

/-- What follows the rest of a run of digits whose first digits are read already. -/
def digitTail (accept : Char → Bool) : List Char → Option (List Char)
  | [] => some []
  | c :: rest =>
    if accept c then digitTail accept rest
    else if c = '_' then
      match rest with
      | d :: after => if accept d then digitTail accept after else none
      | [] => none
    else some (c :: rest)

/-- What follows the digits behind a base mark; an underscore may come first. -/
def basedDigits (accept : Char → Bool) : List Char → Option (List Char)
  | '_' :: c :: rest => if accept c then digitTail accept rest else none
  | c :: rest => if accept c then digitTail accept rest else none
  | [] => none

/-- A character that continues a word; all above ASCII do. -/
def continuesWord (c : Char) : Bool :=
  128 ≤ c.toNat || Text.isAsciiWordPart c

/-- Whether a text starts with the rest of a word and goes on with no letter of it. -/
def startsWord (word text : List Char) : Bool :=
  word.isPrefixOf text && !(text.drop word.length).head?.any continuesWord

/-- Whether a number may end before a text: no letter follows, or a word that can stand after a
number starts.
-/
def mayEndBefore : List Char → Bool
  | [] => true
  | c :: rest =>
    !continuesWord c
      || (c == 'a' && startsWord ['n', 'd'] rest)
      || (c == 'e' && startsWord ['l', 's', 'e'] rest)
      || (c == 'f' && startsWord ['o', 'r'] rest)
      || (c == 'i' && rest.head?.any fun d => d == 'f' || d == 'n' || d == 's')
      || (c == 'o' && startsWord ['r'] rest)
      || (c == 'n' && startsWord ['o', 't'] rest)

/-- A number that ends before a text, and whether it is imaginary. -/
def finish (imaginary : Bool) (rest : List Char) : Option (Bool × List Char) :=
  if mayEndBefore rest then some (imaginary, rest) else none

/-- The end of a number behind its digits: an imaginary unit or nothing. -/
def unitOrEnd : List Char → Option (Bool × List Char)
  | 'j' :: rest | 'J' :: rest => finish true rest
  | rest => finish false rest

/-- The rest of a number behind its whole and fractional digits. The letter of an exponent that
has no digits may start a word instead.
-/
def exponentOn : List Char → Option (Bool × List Char)
  | [] => finish false []
  | c :: rest =>
    if c = 'e' ∨ c = 'E' then
      match rest with
      | s :: d :: after =>
        if s = '+' ∨ s = '-' then
          if isDigit d then digitTail isDigit after >>= unitOrEnd else none
        else if isDigit s then digitTail isDigit (d :: after) >>= unitOrEnd
        else finish false (c :: rest)
      | [s] =>
        if s = '+' ∨ s = '-' then none
        else if isDigit s then some (false, [])
        else finish false (c :: rest)
      | [] => finish false [c]
    else unitOrEnd (c :: rest)

/-- The rest of a number behind its point. -/
def fractionOn : List Char → Option (Bool × List Char)
  | [] => finish false []
  | c :: rest =>
    if isDigit c then digitTail isDigit rest >>= exponentOn else exponentOn (c :: rest)

/-- The rest of a decimal number behind its whole digits. -/
def decimalOn : List Char → Option (Bool × List Char)
  | '.' :: rest => fractionOn rest
  | rest => exponentOn rest

/-- What follows zeros with single underscores between them, or before other digits. -/
def zerosOn : List Char → Option (List Char)
  | '0' :: rest => zerosOn rest
  | '_' :: c :: rest =>
    if c = '0' then zerosOn rest else if isDigit c then some (c :: rest) else none
  | ['_'] => none
  | rest => some rest

/-- A character that makes digits behind a leading zero the digits of no whole number. -/
def leavesWhole (c : Char) : Bool :=
  c == '.' || c == 'e' || c == 'E' || c == 'j' || c == 'J'

/-- The rest of a number behind leading zeros. Other digits may follow them only in a number with
a fraction, an exponent or an imaginary unit.
-/
def behindZeros : List Char → Option (Bool × List Char)
  | [] => finish false []
  | c :: rest =>
    if isDigit c then
      digitTail isDigit rest >>= fun behind =>
        if behind.head?.any leavesWhole then decimalOn behind else none
    else decimalOn (c :: rest)

/-- The rest of a number that starts with a zero: the digits of another base, or more zeros. -/
def afterZero : List Char → Option (Bool × List Char)
  | [] => finish false []
  | c :: rest =>
    if c = 'x' ∨ c = 'X' then
      basedDigits (fun d => (Text.hexDigit? d).isSome) rest >>= finish false
    else if c = 'o' ∨ c = 'O' then
      basedDigits (fun d => '0' ≤ d && d ≤ '7') rest >>= finishBased
    else if c = 'b' ∨ c = 'B' then
      basedDigits (fun d => d == '0' || d == '1') rest >>= finishBased
    else zerosOn (c :: rest) >>= behindZeros
where
  finishBased (rest : List Char) : Option (Bool × List Char) :=
    if rest.head?.any isDigit then none else finish false rest

/-- Whether a spelling is a whole decimal number of too many digits. A number of zeros never is. -/
def isTooLong (spelling : List Char) : Bool :=
  Decimal.mostDigits < spelling.length && spelling.all (fun c => isDigit c || c == '_')
    && spelling.head? != some '0' && Decimal.mostDigits < spelling.countP isDigit

/-- Reads a number that starts with a digit, or with a point before a digit, giving whether it is
imaginary and what follows.
-/
def read (text : List Char) : Option (Bool × List Char) := do
  let (imaginary, behind) ← match text with
    | [] => none
    | c :: rest =>
      if c = '.' then fractionOn rest
      else if c = '0' then afterZero rest
      else digitTail isDigit rest >>= decimalOn
  if isTooLong (text.take (text.length - behind.length)) then none
  return (imaginary, behind)

end FoldTree.Source.Number
