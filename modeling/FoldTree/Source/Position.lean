/-! Places in a source text as its reader counts them: lines from one, and columns in UTF-8 bytes
from zero.
-/

namespace FoldTree.Source

/-- A line and a column in bytes. -/
structure Position where
  line : Nat
  column : Nat
deriving DecidableEq, Repr, Inhabited

namespace Position

/-- The first place of a text. -/
def start : Position := ⟨1, 0⟩

/-- The place behind a character. -/
def after (place : Position) (c : Char) : Position :=
  if c = '\n' then ⟨place.line + 1, 0⟩ else ⟨place.line, place.column + c.utf8Size⟩

/-- The place behind a stretch of text. -/
def afterAll (place : Position) (text : List Char) : Position :=
  text.foldl after place

end Position

/-- The places of the first character of a phrase and behind its last one. -/
structure Extent where
  first : Position
  behind : Position
deriving DecidableEq, Repr, Inhabited

namespace Extent

/-- Whether a phrase ends on a later line than it starts on. -/
def isMultiline (extent : Extent) : Bool :=
  extent.first.line != extent.behind.line

end Extent

end FoldTree.Source
