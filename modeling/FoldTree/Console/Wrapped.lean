import FoldTree.Text.Blank
import FoldTree.Text.CellWidth
import FoldTree.Text.Lines

/-! Texts fitted to a width in terminal cells: tabs become blanks, and lines that are too long are
broken between words. A word that is wider than a line is broken too, or else cut short.
-/

namespace FoldTree.Console

/-- What happens to a word that is wider than a line. -/
inductive Overflow where
  | fold
  | ellipsis
deriving DecidableEq

/-- Where the text of a line stands in its width; only plain lines are not filled up to it. -/
inductive Justify where
  | plain
  | left
  | center
  | right
deriving DecidableEq

/-- Whether a character is a control that is never shown: bell, backspace, vertical tab, form feed
and carriage return.
-/
def isDropped (c : Char) : Bool :=
  c.toNat == 7 || c.toNat == 8 || c.toNat == 11 || c.toNat == 12 || c.toNat == 13

/-- A text without the controls that are never shown. -/
def shownText (text : List Char) : List Char :=
  text.filter fun c => !isDropped c

/-- Blanks. -/
def blanks (count : Nat) : List Char :=
  List.replicate count ' '

/-- Replaces tabs by blanks up to columns that are multiples of eight, counted in cells. -/
def expandTabs (column : Nat) : List Char → List Char
  | [] => []
  | c :: rest =>
    if c = '\t' then
      let width := 8 - column % 8
      blanks width ++ expandTabs (column + width) rest
    else c :: expandTabs (column + Text.cellWidth c) rest

/-- Puts a character in front of the first piece. -/
def consFirst (c : Char) : List (List Char) → List (List Char)
  | [] => [[c]]
  | piece :: later => (c :: piece) :: later

/-- Cuts a text where a word starts behind a gap. The flag says whether a gap comes before. -/
def cutAtWords (inGap : Bool) : List Char → List (List Char)
  | [] => [[]]
  | c :: rest =>
    if Text.isBlank c then consFirst c (cutAtWords true rest)
    else if inGap then [] :: consFirst c (cutAtWords false rest)
    else consFirst c (cutAtWords false rest)

/-- The words of a line, each with the blanks behind it, and the first with those in front. A line
of blanks has none.
-/
def wordsOf (line : List Char) : List (List Char) :=
  let indent := line.takeWhile Text.isBlank
  match line.drop indent.length with
  | [] => []
  | text => indent.foldr consFirst (cutAtWords false text)

/-- Cuts a word into pieces that fit into a width; the first one is empty where not even the first
character fits.
-/
def chop (width used : Nat) : List Char → List (List Char)
  | [] => [[]]
  | c :: rest =>
    let size := Text.cellWidth c
    if width < used + size then [] :: consFirst c (chop width size rest)
    else consFirst c (chop width (used + size) rest)

/-- Lines that are being filled, last one first, with the cells that the last one takes. -/
structure Filling where
  lines : List (List Char)
  used : Nat

namespace Filling

/-- Adds text to the last line. -/
def extend (filling : Filling) (text : List Char) : Filling :=
  match filling.lines with
  | [] => ⟨[text], filling.used + Text.cells text⟩
  | line :: before => ⟨(line ++ text) :: before, filling.used + Text.cells text⟩

/-- Starts a line with a text, unless nothing stands before it. -/
def startLine (filling : Filling) (text : List Char) : Filling :=
  if filling.lines.all (·.isEmpty) then Filling.extend ⟨filling.lines, 0⟩ text
  else ⟨text :: filling.lines, Text.cells text⟩

/-- Adds a word: to the last line where it fits, else on a line of its own. -/
def add (width : Nat) (overflow : Overflow) (filling : Filling) (word : List Char) : Filling :=
  let size := Text.cells (Text.trimEnd word)
  if size + filling.used ≤ width then filling.extend word
  else if size ≤ width then filling.startLine word
  else
    match overflow with
    | .ellipsis => filling.startLine word
    | .fold => (chop width 0 word).foldl startLine filling

end Filling

/-- Breaks a line between words. -/
def broken (width : Nat) (overflow : Overflow) (line : List Char) : List (List Char) :=
  match wordsOf line with
  | [] => [line]
  | words => ((words.foldl (Filling.add width overflow) ⟨[[]], 0⟩).lines).reverse

/-- Takes blanks off the end of a line as far as it has more characters than a width. -/
def trimTo (width : Nat) (line : List Char) : List Char :=
  let trailing := line.length - (Text.trimEnd line).length
  line.take (line.length - min trailing (line.length - width))

/-- The first characters of a text that fit into a width; half of a wide one is a blank. -/
def cropped : Nat → List Char → List Char
  | _, [] => []
  | width, c :: rest =>
    let size := Text.cellWidth c
    if size ≤ width then c :: cropped (width - size) rest
    else if width = 0 then [] else [' ']

/-- A text cut short where it is wider than a width. -/
def truncated (width : Nat) (overflow : Overflow) (line : List Char) : List Char :=
  if Text.cells line ≤ width then line
  else
    match overflow with
    | .fold => cropped width line
    | .ellipsis => cropped (width - 1) line ++ ['…']

/-- Places a line in a width. -/
def justified (width : Nat) (overflow : Overflow) (justify : Justify) (line : List Char) :
    List Char :=
  match justify with
  | .plain => truncated width overflow line
  | .left =>
    let line := truncated width overflow line
    line ++ blanks (width - Text.cells line)
  | .center =>
    let line := truncated width overflow (Text.trimEnd line)
    let line := blanks ((width - Text.cells line) / 2) ++ line
    line ++ blanks (width - Text.cells line)
  | .right =>
    let line := truncated width overflow (Text.trimEnd line)
    blanks (width - Text.cells line) ++ line

/-- The lines of a text in a width. -/
def wrapped (width : Nat) (overflow : Overflow) (justify : Justify) (text : String) :
    List (List Char) :=
  (Text.lines (shownText text.toList)).flatMap fun line =>
    (broken width overflow (expandTabs 0 line)).map fun piece =>
      justified width overflow justify (trimTo width piece)

/-- The cells of the widest line of a text. Tabs do not count. -/
def textWidth (text : String) : Nat :=
  ((Text.lines (shownText text.toList)).map Text.cells).foldl max 0

end FoldTree.Console
