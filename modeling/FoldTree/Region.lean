import FoldTree.Rose

/-! Regions of a source text that can be folded, and what reading a source gives: a skeleton of
regions with remarks to hang under them.
-/

namespace FoldTree

/-- The kinds of region that a source text has. -/
inductive RegionKind where
  | module
  | imports
  | classDef
  | function
  | method
  | block
  | comment
  | docstring
deriving DecidableEq, Repr

/-- The word for a kind. -/
def RegionKind.word : RegionKind → String
  | .module => "module"
  | .imports => "imports"
  | .classDef => "class"
  | .function => "function"
  | .method => "method"
  | .block => "block"
  | .comment => "comment"
  | .docstring => "docstring"

/-- A stretch of a source text. Its key tells it apart from all other regions, equal in every
other respect or not; its terms are those found in it directly, not in the regions below it.
-/
structure Region where
  key : Nat
  start : Int
  length : Int
  kind : String
  name : Option String
  terms : List String
deriving Repr, Inhabited

namespace Region

/-- The offset behind the last character. -/
def stop (region : Region) : Int :=
  region.start + region.length

/-- Whether the region holds all of a range of offsets. -/
def contains (region : Region) (first behind : Int) : Bool :=
  region.start ≤ first && behind ≤ region.stop

end Region

/-- A term-bearing region to hang under the region that carries it. -/
structure Remark where
  region : Region
  carrier : Nat
  terms : List String
deriving Repr

end FoldTree
