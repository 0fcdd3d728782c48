/-! Lines and columns of a text. Lines end at the newline character alone. An offset counts
characters from the start of the text; a position is a line with a column in characters or in
UTF-8 bytes.
-/

namespace FoldTree.Text

/-- The line that holds an offset, counted from one: one more than the newlines before it. No line
holds a negative offset, and the number is zero then.
-/
def lineNumber (text : List Char) (offset : Int) : Nat :=
  if offset < 0 then 0 else 1 + (text.take offset.toNat).count '\n'

/-- The offsets behind the newlines of a text, counted from a start on. -/
def newlineStops (start : Nat) (text : List Char) : List Nat :=
  (text.zipIdx start).filterMap fun (c, offset) => if c = '\n' then some (offset + 1) else none

/-- The offsets at which the lines of a text start: the first one at zero, and another one behind
each newline.
-/
def lineStarts (text : List Char) : Array Nat :=
  (0 :: newlineStops 0 text).toArray

/-- How many of some ascending numbers are at most a bound, found by halving. Those before the low
place are known to be, and those from the high place on are known not to be.
-/
def countUpTo (numbers : Array Nat) (bound : Int) (low high : Nat) (inside : high ≤ numbers.size) :
    Nat :=
  if between : low < high then
    let middle := (low + high) / 2
    have known : middle < numbers.size := by omega
    if bound < numbers[middle] then countUpTo numbers bound low middle (Nat.le_of_lt known)
    else countUpTo numbers bound (middle + 1) high inside
  else low
termination_by high - low

/-- The lines of a text without their newlines; one more than there are newlines. -/
def lines : List Char → List (List Char)
  | [] => [[]]
  | c :: rest =>
    if c = '\n' then [] :: lines rest
    else
      match lines rest with
      | [] => [[c]]
      | line :: later => (c :: line) :: later

/-- The lines of a text, each with the offset of its first character, counted from start. -/
def placedLines (start : Nat) : List (List Char) → List (Nat × List Char)
  | [] => []
  | line :: later => (start, line) :: placedLines (start + line.length + 1) later

/-- A text prepared for finding offsets: each line with the offset at which it starts. -/
structure LineTable where
  placed : Array (Nat × List Char)

/-- The table of a text. -/
def LineTable.ofText (text : List Char) : LineTable where
  placed := (placedLines 0 (lines text)).toArray

/-- How many characters of a line lie wholly within its first bytes. -/
def charsWithin : Nat → List Char → Nat
  | _, [] => 0
  | bytes, c :: rest => if c.utf8Size ≤ bytes then 1 + charsWithin (bytes - c.utf8Size) rest else 0

/-- The offset of a line and a column in bytes. A column inside a character stands for that
character, one behind the line for its end. There is none in a line that the text lacks.
-/
def LineTable.byteOffset? (table : LineTable) (line column : Nat) : Option Nat :=
  match line with
  | 0 => none
  | index + 1 => (table.placed[index]?).map fun (start, chars) => start + charsWithin column chars

/-- The offset of a line and a column in characters. -/
def LineTable.charOffset? (table : LineTable) (line column : Nat) : Option Nat :=
  match line with
  | 0 => none
  | index + 1 => (table.placed[index]?).map fun (start, _) => start + column

end FoldTree.Text
