/-! Stretches of a text between two offsets, where offsets may be negative or out of range. -/

namespace FoldTree.Text

/-- An offset brought into a text of some length: a negative one counts from the end, and one
that is still outside goes to the nearer end.
-/
def clampOffset (length : Nat) (offset : Int) : Nat :=
  if offset < 0 then (offset + length).toNat else min offset.toNat length

/-- The characters from one offset up to another, none when they are out of order. -/
def slice (text : List Char) (first behind : Int) : List Char :=
  let start := clampOffset text.length first
  (text.drop start).take (clampOffset text.length behind - start)

end FoldTree.Text
