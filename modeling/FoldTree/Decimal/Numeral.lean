import FoldTree.Decimal.Reading
import FoldTree.Text.Blank
import FoldTree.Text.CodeSet

/-! Numbers written by people: white space around them does not count, digits of any script are
digits, and single underscores may stand between digits.
-/

namespace FoldTree.Decimal

/-- The zeros of the scripts that have decimal digits; each is followed by the other nine. -/
def digitZeros : List Nat :=
  (zeroCodes.flatMap Text.words).map Text.hexValue
where
  zeroCodes : List String :=
  ["30 660 6f0 7c0 966 9e6 a66 ae6 b66 be6 c66 ce6 d66 de6 e50 ed0 f20 1040 1090 17e0 1810",
   "1946 19d0 1a80 1a90 1b50 1bb0 1c40 1c50 a620 a8d0 a900 a9d0 a9f0 aa50 abf0 ff10 104a0",
   "10d30 11066 110f0 11136 111d0 112f0 11450 114d0 11650 116c0 11730 118e0 11950 11c50 11d50",
   "11da0 16a60 16ac0 16b50 1d7ce 1d7d8 1d7e2 1d7ec 1d7f6 1e140 1e2f0 1e950 1fbf0"]

/-- The value of a decimal digit of any script. -/
def digitValue? (c : Char) : Option Nat :=
  (digitZeros.find? fun first => first ≤ c.toNat && c.toNat < first + 10).map (c.toNat - ·)

/-- A character in ASCII where it is a digit or white space of any script. -/
def plain (c : Char) : Char :=
  match digitValue? c with
  | some value => Char.ofNat ('0'.toNat + value)
  | none => if Text.isBlank c then ' ' else c

/-- A text without the white space around it, with ASCII digits. -/
def plainText (text : List Char) : List Char :=
  Text.trim (text.map plain)

/-- Digits with single underscores between them, as a value and its number of digits. -/
def digitRun? : List Char → Option (Nat × Nat)
  | text =>
    if text.isEmpty || text.head? == some '_' || text.getLast? == some '_' then none
    else go false (0, 0) text
where
  go (afterMark : Bool) (value : Nat × Nat) : List Char → Option (Nat × Nat)
  | [] => some value
  | c :: rest =>
    if c = '_' then if afterMark then none else go true value rest
    else if '0' ≤ c ∧ c ≤ '9' then
      go false (10 * value.1 + (c.toNat - '0'.toNat), value.2 + 1) rest
    else none

/-- A sign, if there is one, and what follows it. -/
def takeSign : List Char → Bool × List Char
  | '-' :: rest => (true, rest)
  | '+' :: rest => (false, rest)
  | text => (false, text)

/-- Reads a whole number, unless it has too many digits. -/
def readInteger? (text : List Char) : Option Int := do
  let (negative, digits) := takeSign (plainText text)
  let (value, count) ← digitRun? digits
  guard (count ≤ mostDigits)
  return if negative then -(value : Int) else value

/-- Reads the digits of a number before its exponent, as a value and the digits behind the
point.
-/
def readMantissa? (text : List Char) : Option (Nat × Nat) :=
  match Text.cutAt '.' text with
  | [whole] => (digitRun? whole).map fun (value, _) => (value, 0)
  | [whole, part] =>
    match whole.isEmpty, part.isEmpty with
    | true, true => none
    | true, false => digitRun? part
    | false, true => (digitRun? whole).map fun (value, _) => (value, 0)
    | false, false => do
      let (high, _) ← digitRun? whole
      let (low, count) ← digitRun? part
      return (high * powerOfTen count + low, count)
  | _ => none

/-- Reads a floating number, or one of the words for infinity and for no number in any case. -/
def readFloat? (text : List Char) : Option Float :=
  let (negative, body) := takeSign (plainText text)
  let lowered := body.map fun c => if 'A' ≤ c ∧ c ≤ 'Z' then Char.ofNat (c.toNat + 32) else c
  if lowered == "nan".toList then some (0.0 / 0.0)
  else if lowered == "inf".toList || lowered == "infinity".toList then
    some (if negative then -1.0 / 0.0 else 1.0 / 0.0)
  else
    match Text.cutAt 'e' lowered with
    | [mantissa] =>
      (readMantissa? mantissa).map fun (value, places) => toFloat negative value (-(places : Int))
    | [mantissa, exponent] => do
      let (value, places) ← readMantissa? mantissa
      let (down, digits) := takeSign exponent
      let (size, _) ← digitRun? digits
      return toFloat negative value ((if down then -(size : Int) else size) - places)
    | _ => none

end FoldTree.Decimal
