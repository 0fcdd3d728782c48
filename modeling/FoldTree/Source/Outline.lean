import FoldTree.Path
import FoldTree.Source.Comment
import FoldTree.Source.Grammar.Statement
import FoldTree.Source.Skeleton
import FoldTree.Tree.Graft

/-! Outlines: what reading a source file gives. The skeleton holds its regions, and doc texts and
comments are remarks that regions of the skeleton carry.
-/

namespace FoldTree.Source

/-- A source with its skeleton and its remarks, doc texts before comments. -/
structure Outline where
  file : Path
  source : List Char
  skeleton : Rose Region
  remarks : List Remark

namespace Outline

/-- Why a source has no outline: it is not UTF-8, is no program, reaches lines that it lacks when
they are counted by newlines alone, or has lines that do not fit together.
-/
inductive Fault where
  | unreadable (file : Path)
  | notProgram (file : Path)
  | missingLine
  | brokenLines (file : Path)
deriving DecidableEq

/-- The text of a fault. It ends in what the reader that failed says of the file. -/
def Fault.message (diagnosis : Path → String) : Fault → String
  | .unreadable file => s!"Cannot read {file.text}: {diagnosis file}"
  | .notProgram file => s!"Syntax error in {file.text}: {diagnosis file}"
  | .missingLine => "list index out of range"
  | .brokenLines file => s!"Cannot tokenize {file.text}: {diagnosis file}"

/-- The outline of a source text. A text with a null character is no program. -/
def ofText (source : List Char) (file : Path) : Except Fault Outline := do
  if source.contains (Char.ofNat 0) then throw (.notProgram file)
  let some program := statements? source | throw (.notProgram file)
  let some parts := parts? source program | throw .missingLine
  let some comments := Comment.ofText source | throw (.brokenLines file)
  let parts := numbered parts
  let skeleton := parts.map (·.region)
  let docs := docRemarks parts skeleton.size
  let comments := commentRemarks source skeleton (skeleton.size + docs.length) comments
  return ⟨file, source, skeleton, docs ++ comments⟩

/-- The outline of the bytes of a file. All line ends are newlines in its source. -/
def ofBytes (bytes : ByteArray) (file : Path) : Except Fault Outline :=
  match String.fromUTF8? bytes with
  | none => .error (.unreadable file)
  | some text => ofText (unifyLineEnds text.toList) file

/-- The tree of an outline. -/
def build (outline : Outline) : Except Tree.Fault Tree :=
  Tree.build outline.source outline.file outline.skeleton outline.remarks

/-- The address in the skeleton of the region that carries a remark. -/
def carrierPath (outline : Outline) (remark : Remark) : List Nat :=
  (outline.skeleton.findPath? fun region => region.key == remark.carrier).getD []

end Outline

/-- Whether a file holds source that has outlines. -/
def isSourceFile (file : Path) : Bool :=
  file.suffix == ".py"

end FoldTree.Source
