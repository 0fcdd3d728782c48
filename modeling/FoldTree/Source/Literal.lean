import FoldTree.Source.Token
import FoldTree.Text.CharacterName

/-! What text literals stand for: escapes are replaced by the characters they mean. -/

namespace FoldTree.Source

/-- The character of a code point. A code point that no character has, half of a surrogate pair,
stands as the replacement character.
-/
def characterOf (code : Nat) : Char :=
  if code.isValidChar then Char.ofNat code else Char.ofNat 0xfffd

/-- The characters of escapes of one letter. -/
def plainEscape? (c : Char) : Option Char :=
  if c = '\\' ∨ c = '\'' ∨ c = '"' then some c
  else if c = 'a' then some (Char.ofNat 7)
  else if c = 'b' then some (Char.ofNat 8)
  else if c = 'f' then some (Char.ofNat 12)
  else if c = 'n' then some '\n'
  else if c = 'r' then some '\r'
  else if c = 't' then some '\t'
  else if c = 'v' then some (Char.ofNat 11)
  else none

/-- The value of an octal digit. -/
def octalDigit? (c : Char) : Option Nat :=
  if '0' ≤ c ∧ c ≤ '7' then some (c.toNat - '0'.toNat) else none

/-- What a decoder is in the middle of. -/
inductive Pending where
  | nothing
  | escape
  | octal (digits value : Nat)
  | hex (missing value : Nat)
  | nameOpen
  | name (reversed : List Char)
deriving DecidableEq, Repr

/-- Replaces the escapes of a text. A backslash before a line end joins lines, and before any
character that makes no escape with it, or at the end, it stands for itself. Hexadecimal escapes
have to be complete, and names have to be known.
-/
def unescape : Pending → List Char → Option (List Char)
  | .nothing, [] => some []
  | .escape, [] => some ['\\']
  | .octal _ value, [] => some [characterOf value]
  | .hex .., [] => none
  | .nameOpen, [] => none
  | .name _, [] => none
  | .nothing, c :: rest =>
    if c = '\\' then unescape .escape rest else (unescape .nothing rest).map (c :: ·)
  | .octal digits value, c :: rest =>
    match (if digits < 3 then octalDigit? c else none) with
    | some d => unescape (.octal (digits + 1) (8 * value + d)) rest
    | none =>
      (if c = '\\' then unescape .escape rest else (unescape .nothing rest).map (c :: ·)).map
        (characterOf value :: ·)
  | .hex missing value, c :: rest =>
    match Text.hexDigit? c with
    | none => none
    | some d =>
      if missing = 1 then
        if 16 * value + d < 0x110000 then
          (unescape .nothing rest).map (characterOf (16 * value + d) :: ·)
        else none
      else unescape (.hex (missing - 1) (16 * value + d)) rest
  | .nameOpen, c :: rest => if c = '\x7b' then unescape (.name []) rest else none
  | .name reversed, c :: rest =>
    if c = '\x7d' then
      match Text.codeOfName? reversed.reverse with
      | some code => (unescape .nothing rest).map (characterOf code :: ·)
      | none => none
    else unescape (.name (c :: reversed)) rest
  | .escape, c :: rest =>
    match plainEscape? c with
    | some meant => (unescape .nothing rest).map (meant :: ·)
    | none =>
      if c = '\n' then unescape .nothing rest
      else if c = 'x' then unescape (.hex 2 0) rest
      else if c = 'u' then unescape (.hex 4 0) rest
      else if c = 'U' then unescape (.hex 8 0) rest
      else if c = 'N' then unescape .nameOpen rest
      else
        match octalDigit? c with
        | some d => unescape (.octal 1 d) rest
        | none => (unescape .nothing rest).map ('\\' :: c :: ·)

/-- Whether a body of bytes is well formed: of ASCII characters, with complete hexadecimal
escapes.
-/
def isBytesBody : Pending → List Char → Bool
  | .hex .., [] => false
  | _, [] => true
  | .hex missing value, c :: rest =>
    (Text.hexDigit? c).isSome
      && isBytesBody (if missing = 1 then .nothing else .hex (missing - 1) value) rest
  | .escape, c :: rest =>
    c.toNat < 128 && isBytesBody (if c = 'x' then .hex 2 0 else .nothing) rest
  | _, c :: rest =>
    c.toNat < 128 && isBytesBody (if c = '\\' then .escape else .nothing) rest

namespace Literal

/-- The text of a literal that is neither bytes nor formatted. -/
def text? (literal : Literal) : Option (List Char) :=
  if literal.isRaw then some literal.body else unescape .nothing literal.body

/-- Whether a literal of bytes is well formed. -/
def isWellFormedBytes (literal : Literal) : Bool :=
  if literal.isRaw then literal.body.all (·.toNat < 128) else isBytesBody .nothing literal.body

end Literal

end FoldTree.Source
