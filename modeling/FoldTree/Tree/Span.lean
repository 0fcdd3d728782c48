import FoldTree.Region
import FoldTree.Text.Lines

/-! The place of a region in its text: both end characters and the lines that hold them. -/

namespace FoldTree

/-- A range of characters, both ends included, with the lines of its ends. -/
structure Span where
  first : Int
  last : Int
  firstLine : Int
  lastLine : Int
deriving DecidableEq, Repr

namespace Span

/-- The place of a region in a text. A region of no characters counts as one character long. -/
def ofRegion (source : List Char) (region : Region) : Span :=
  let last := region.start + max region.length 1 - 1
  { first := region.start
    last
    firstLine := Text.lineNumber source region.start
    lastLine := Text.lineNumber source last }

/-- The number of lines from the first to the last, both included. -/
def lineCount (span : Span) : Int :=
  span.lastLine - span.firstLine + 1

/-- The two lines between parentheses. -/
def lineRange (span : Span) : String :=
  "(" ++ toString span.firstLine ++ ", " ++ toString span.lastLine ++ ")"

/-- A description of the range and its lines. -/
def describe (span : Span) : String :=
  "Span([" ++ toString span.first ++ ".." ++ toString span.last ++ "], lines "
    ++ toString span.firstLine ++ "-" ++ toString span.lastLine ++ ")"

end Span

end FoldTree
