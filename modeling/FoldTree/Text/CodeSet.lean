/-! Sets and maps of code points, written as text so that a property of the character database
stays one readable line group. A written set lists single values and ranges in hexadecimal.
-/

namespace FoldTree.Text

/-- The value of one hexadecimal digit, in either case. -/
def hexDigit? (c : Char) : Option Nat :=
  if '0' ≤ c ∧ c ≤ '9' then some (c.toNat - '0'.toNat)
  else if 'a' ≤ c ∧ c ≤ 'f' then some (c.toNat - 'a'.toNat + 10)
  else if 'A' ≤ c ∧ c ≤ 'F' then some (c.toNat - 'A'.toNat + 10)
  else none

/-- The number that hexadecimal digits write; other characters count as nothing. -/
def hexValue (digits : List Char) : Nat :=
  digits.foldl (fun value c => match hexDigit? c with
    | some d => 16 * value + d
    | none => value) 0

/-- Cuts a text at every occurrence of one character, keeping empty pieces. -/
def cutAt (mark : Char) : List Char → List (List Char)
  | [] => [[]]
  | c :: rest =>
    match cutAt mark rest with
    | [] => [[c]]
    | piece :: pieces => if c = mark then [] :: piece :: pieces else (c :: piece) :: pieces

/-- The pieces of a line between spaces. -/
def words (line : String) : List (List Char) :=
  cutAt ' ' line.toList

/-- A set of code points as inclusive ranges. -/
structure CodeSet where
  ranges : Array (Nat × Nat)

namespace CodeSet

/-- Reads lines of single values and ranges such as "41-5a 5f". -/
def ofLines (lines : List String) : CodeSet where
  ranges := ((lines.flatMap words).map fun word =>
    match cutAt '-' word with
    | [first, last] => (hexValue first, hexValue last)
    | _ => (hexValue word, hexValue word)).toArray

/-- Whether some range holds the code point. -/
def contains (set : CodeSet) (c : Char) : Bool :=
  set.ranges.any fun (first, last) => first ≤ c.toNat && c.toNat ≤ last

end CodeSet

/-- A map from code points to sequences of code points. -/
structure CodeMap where
  entries : Array (Nat × List Nat)

namespace CodeMap

/-- Reads lines of entries such as "fb01=66+69". -/
def ofLines (lines : List String) : CodeMap where
  entries := ((lines.flatMap words).map fun entry =>
    match cutAt '=' entry with
    | [key, image] => (hexValue key, (cutAt '+' image).map hexValue)
    | _ => (hexValue entry, [])).toArray

/-- The image of a code point that the map lists. -/
def find? (map : CodeMap) (code : Nat) : Option (List Nat) :=
  (map.entries.find? fun entry => entry.1 == code).map (·.2)

end CodeMap

end FoldTree.Text
