import FoldTree.Text.CodeSet

/-! File paths with slashes. Empty and single-dot components do not count, and exactly two slashes
in front are a root of their own.
-/

namespace FoldTree

/-- The slashes in front of a path and its components. -/
structure Path where
  root : List Char
  parts : List (List Char)
deriving DecidableEq

namespace Path

/-- Reads a path. -/
def ofText (text : String) : Path :=
  let chars := text.toList
  let slashes := (chars.takeWhile (· == '/')).length
  { root := if slashes = 2 then ['/', '/'] else if slashes = 0 then [] else ['/']
    parts := (Text.cutAt '/' (chars.drop slashes)).filter fun part => part != [] && part != ['.'] }

/-- The text of a path; a path of nothing is the directory it starts from. -/
def text (path : Path) : String :=
  if path.root.isEmpty && path.parts.isEmpty then "."
  else String.ofList (path.root ++ List.intercalate ['/'] path.parts)

/-- The last component, empty for a path of none. -/
def lastPart (path : Path) : List Char :=
  path.parts.getLast?.getD []

/-- A component cut before its last dot, unless that dot is its first or last character. -/
def cutSuffix (part : List Char) : List Char × List Char :=
  let tail := (part.reverse.takeWhile (· != '.')).reverse
  let stem := part.take (part.length - tail.length - 1)
  if tail.length < part.length && stem != [] && tail != [] then (stem, '.' :: tail) else (part, [])

/-- The last component. -/
def name (path : Path) : String :=
  String.ofList path.lastPart

/-- The last component without its suffix. -/
def stem (path : Path) : String :=
  String.ofList (cutSuffix path.lastPart).1

/-- The suffix of the last component, with its dot. -/
def suffix (path : Path) : String :=
  String.ofList (cutSuffix path.lastPart).2

/-- A path below another one; a path with a root stands for itself. -/
def join (path below : Path) : Path :=
  if below.root.isEmpty then { path with parts := path.parts ++ below.parts } else below

end Path

end FoldTree
