import FoldTree.Decimal.Layout
import FoldTree.Text.Quoted

/-! JSON texts. -/

namespace FoldTree

/-- A JSON value. Numbers are whole or floating; the latter include infinities and the absence of
a number, which have words of their own.
-/
inductive Json where
  | null
  | integer (value : Int)
  | number (value : Float)
  | text (value : String)
  | list (items : List Json)
  | object (fields : List (String × Json))

namespace Json

/-- A unit of sixteen bits as an escape. -/
def unitEscape (unit : Nat) : List Char :=
  '\\' :: 'u' :: Text.hexDigits 4 unit

/-- One character of a text. Quotes, backslashes and controls are escaped; where only ASCII is
wanted, so is every other character above it, by one or two units of sixteen bits.
-/
def escape (asciiOnly : Bool) (c : Char) : List Char :=
  if c = '"' ∨ c = '\\' then ['\\', c]
  else if c = '\n' then ['\\', 'n']
  else if c = '\r' then ['\\', 'r']
  else if c = '\t' then ['\\', 't']
  else if c.toNat = 8 then ['\\', 'b']
  else if c.toNat = 12 then ['\\', 'f']
  else if c.toNat < 0x20 then unitEscape c.toNat
  else if !asciiOnly || c.toNat < 0x7f then [c]
  else if c.toNat < 0x10000 then unitEscape c.toNat
  else
    let rest := c.toNat - 0x10000
    unitEscape (0xd800 + rest / 0x400) ++ unitEscape (0xdc00 + rest % 0x400)

/-- A text between double quotes. -/
def textToken (asciiOnly : Bool) (text : String) : String :=
  String.ofList ('"' :: text.toList.flatMap (escape asciiOnly) ++ ['"'])

/-- A floating number in its shortest form, or a word where it is no number. -/
def numberToken (x : Float) : String :=
  if x.isNaN then "NaN"
  else if x.isInf then if x < 0 then "-Infinity" else "Infinity"
  else Decimal.exact x

mutual

/-- The text of a value, with a space after each comma and colon. -/
def render (asciiOnly : Bool) : Json → String
  | .null => "null"
  | .integer value => toString value
  | .number value => numberToken value
  | .text value => textToken asciiOnly value
  | .list items => "[" ++ renderItems asciiOnly items ++ "]"
  | .object fields => "\x7b" ++ renderFields asciiOnly fields ++ "\x7d"

/-- The texts of several values. -/
def renderItems (asciiOnly : Bool) : List Json → String
  | [] => ""
  | [item] => render asciiOnly item
  | item :: rest => render asciiOnly item ++ ", " ++ renderItems asciiOnly rest

/-- The texts of several named values. -/
def renderFields (asciiOnly : Bool) : List (String × Json) → String
  | [] => ""
  | [(name, value)] => textToken asciiOnly name ++ ": " ++ render asciiOnly value
  | (name, value) :: rest =>
    textToken asciiOnly name ++ ": " ++ render asciiOnly value ++ ", "
      ++ renderFields asciiOnly rest

end

end Json

end FoldTree
