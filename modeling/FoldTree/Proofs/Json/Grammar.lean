import FoldTree.Json
import FoldTree.Text.CodeSet

/-! The grammar of JSON documents: which texts are one, and what they say. There are no words for
infinities or for the absence of a number.
-/

namespace FoldTree.Json

/-- What a JSON text says. A number stays as it is written, and a text is a sequence of units of
sixteen bits.
-/
inductive Datum where
  | null
  | truth (value : Bool)
  | number (written : List Char)
  | text (units : List Nat)
  | list (items : List Datum)
  | object (fields : List (List Nat × Datum))

/-- White space between the parts of a document. -/
def IsBlank (text : List Char) : Prop :=
  ∀ c ∈ text, c ∈ [' ', '\t', '\n', '\r']

/-- Some digits. -/
structure IsDigits (text : List Char) : Prop where
  nonempty : text ≠ []
  digits : ∀ c ∈ text, c.isDigit

/-- The part of a number in front of its point. Only a zero that stands alone comes first. -/
structure IsWhole (text : List Char) : Prop extends IsDigits text where
  leading : text.head? = some '0' → text = ['0']

/-- The part of a number from its point on, if it has one. -/
inductive IsFraction : List Char → Prop
  | absent : IsFraction []
  | present {written : List Char} (digits : IsDigits written) : IsFraction ('.' :: written)

/-- The exponent of a number, if it has one. -/
inductive IsExponent : List Char → Prop
  | absent : IsExponent []
  | present {mark : Char} {sign written : List Char} (marked : mark ∈ ['e', 'E'])
    (signed : sign ∈ [[], ['+'], ['-']]) (digits : IsDigits written)
    : IsExponent (mark :: (sign ++ written))

/-- A number as it is written. -/
inductive IsNumber : List Char → Prop
  | parts {sign whole part exponent : List Char} (signed : sign ∈ [[], ['-']])
    (front : IsWhole whole) (behind : IsFraction part) (power : IsExponent exponent)
    : IsNumber (sign ++ (whole ++ (part ++ exponent)))

/-- The letters that stand for a unit behind a backslash. -/
def shortEscapes : List (Char × Nat) :=
  [('"', 0x22), ('\\', 0x5c), ('/', 0x2f), ('b', 0x8), ('f', 0xc), ('n', 0xa), ('r', 0xd),
    ('t', 0x9)]

/-- The units of sixteen bits of a character. -/
def unitsOf (c : Char) : List Nat :=
  if c.toNat < 0x10000 then [c.toNat]
  else [0xd800 + (c.toNat - 0x10000) / 0x400, 0xdc00 + (c.toNat - 0x10000) % 0x400]

/-- What stands between the quotes of a text, with its units. -/
inductive Spells : List Nat → List Char → Prop
  | nil : Spells [] []
  | plain {c : Char} {units : List Nat} {text : List Char} (printed : 0x20 ≤ c.toNat)
    (noQuote : c ≠ '"') (noBackslash : c ≠ '\\') (rest : Spells units text)
    : Spells (unitsOf c ++ units) (c :: text)
  | short {letter : Char} {unit : Nat} {units : List Nat} {text : List Char}
    (known : (letter, unit) ∈ shortEscapes) (rest : Spells units text)
    : Spells (unit :: units) ('\\' :: letter :: text)
  | unit {digits : List Char} {units : List Nat} {text : List Char} (four : digits.length = 4)
    (hexadecimal : ∀ c ∈ digits, (Text.hexDigit? c).isSome) (rest : Spells units text)
    : Spells (Text.hexValue digits :: units) ('\\' :: 'u' :: (digits ++ text))

/-- A value, or several of them between the brackets of a list or the braces of an object. -/
inductive Phrase where
  | value (datum : Datum)
  | items (data : List Datum)
  | fields (fields : List (List Nat × Datum))

/-- What is written for a value, or between brackets or braces. -/
inductive Written : Phrase → List Char → Prop
  | null : Written (.value .null) "null".toList
  | truth (value : Bool)
    : Written (.value (.truth value)) (if value then "true".toList else "false".toList)
  | number {written : List Char} (number : IsNumber written)
    : Written (.value (.number written)) written
  | text {units : List Nat} {text : List Char} (spells : Spells units text)
    : Written (.value (.text units)) ('"' :: (text ++ ['"']))
  | list {data : List Datum} {text : List Char} (items : Written (.items data) text)
    : Written (.value (.list data)) ('[' :: (text ++ [']']))
  | object {data : List (List Nat × Datum)} {text : List Char} (fields : Written (.fields data) text)
    : Written (.value (.object data)) ('\x7b' :: (text ++ ['\x7d']))
  | between {datum : Datum} {before text after : List Char} (blank : IsBlank before)
    (value : Written (.value datum) text) (blank' : IsBlank after)
    : Written (.value datum) (before ++ (text ++ after))
  | noItems {text : List Char} (blank : IsBlank text) : Written (.items []) text
  | lastItem {datum : Datum} {text : List Char} (value : Written (.value datum) text)
    : Written (.items [datum]) text
  | item {datum next : Datum} {data : List Datum} {text rest : List Char}
    (value : Written (.value datum) text) (items : Written (.items (next :: data)) rest)
    : Written (.items (datum :: next :: data)) (text ++ ',' :: rest)
  | noFields {text : List Char} (blank : IsBlank text) : Written (.fields []) text
  | lastField {name : List Nat} {datum : Datum} {label text : List Char}
    (named : Written (.value (.text name)) label) (value : Written (.value datum) text)
    : Written (.fields [(name, datum)]) (label ++ ':' :: text)
  | field {name : List Nat} {datum : Datum} {next : List Nat × Datum}
    {data : List (List Nat × Datum)} {label text rest : List Char}
    (named : Written (.value (.text name)) label) (value : Written (.value datum) text)
    (fields : Written (.fields (next :: data)) rest)
    : Written (.fields ((name, datum) :: next :: data)) (label ++ ':' :: (text ++ ',' :: rest))

/-- Whether a text is one JSON document. -/
def IsDocument (text : String) : Prop :=
  ∃ datum, Written (.value datum) text.toList

end FoldTree.Json
