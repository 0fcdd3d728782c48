import FoldTree.Text.CodeSet

/-! White space, as trimming and line splitting see it. -/

namespace FoldTree.Text

/-- The white space characters: the separators of the bidirectional classes WS, B and S and of
the category Zs.
-/
def isBlank (c : Char) : Bool :=
  let n := c.toNat
  (0x9 ≤ n && n ≤ 0xd) || (0x1c ≤ n && n ≤ 0x20) || n == 0x85 || n == 0xa0 || n == 0x1680 ||
    (0x2000 ≤ n && n ≤ 0x200a) || n == 0x2028 || n == 0x2029 || n == 0x202f || n == 0x205f ||
    n == 0x3000

/-- A text without the white space at its end. -/
def trimEnd : List Char → List Char
  | [] => []
  | c :: rest =>
    match trimEnd rest with
    | [] => if isBlank c then [] else [c]
    | kept => c :: kept

/-- A text without the white space at both ends. -/
def trim (text : List Char) : List Char :=
  trimEnd (text.dropWhile isBlank)

/-- Whether a text holds white space only. -/
def isAllBlank (text : List Char) : Bool :=
  text.all isBlank

/-- The characters at which a text falls into display lines. -/
def isLineEnd (c : Char) : Bool :=
  let n := c.toNat
  (0xa ≤ n && n ≤ 0xd) || (0x1c ≤ n && n ≤ 0x1e) || n == 0x85 || n == 0x2028 || n == 0x2029

/-- The first display line of a text, without the character that ends it. -/
def firstLine (text : List Char) : List Char :=
  text.takeWhile fun c => !isLineEnd c

end FoldTree.Text
