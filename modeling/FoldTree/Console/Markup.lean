import FoldTree.Text.Blank
import FoldTree.Text.LowerCase

/-! Markup of console texts: a tag between square brackets gives what follows a style, and one that
starts with a slash ends that again. Tags are not shown. Backslashes in front of a bracket keep a
tag from being one, as far as they are not escaped themselves.
-/

namespace FoldTree.Console.Markup

/-- A character that is shown, or the text of a tag. -/
inductive Piece where
  | shown (c : Char)
  | tag (text : List Char)

/-- Characters that are all shown. -/
def allShown (text : List Char) : List Piece :=
  text.map Piece.shown

/-- Backslashes that are shown. -/
def slashes (count : Nat) : List Piece :=
  allShown (List.replicate count '\\')

/-- Whether a tag can start with a character. -/
def startsTag (c : Char) : Bool :=
  'a' ≤ c && c ≤ 'z' || c == '#' || c == '/' || c == '@'

/-- What comes before the first closing bracket, with no opening one on the way. -/
def beforeClosing? : List Char → Option (List Char)
  | [] => none
  | c :: rest =>
    if c = ']' then some []
    else if c = '[' then none
    else (beforeClosing? rest).map (c :: ·)

/-- The tag whose opening bracket a text follows. -/
def tag? : List Char → Option (List Char)
  | [] => none
  | c :: rest => if startsTag c then (beforeClosing? rest).map (c :: ·) else none

/-- What has been read of a text: its pieces, and how many backslashes are held back at the end,
since it depends on what follows whether they are shown.
-/
structure Reading where
  pieces : List Piece
  held : Nat

/-- A reading with pieces in front. -/
def Reading.behind (pieces : List Piece) (reading : Reading) : Reading :=
  { reading with pieces := pieces ++ reading.pieces }

/-- Reads a text behind backslashes that are held back, leaving out characters that belong to a tag
already read. Of two backslashes in front of a tag one is shown, and one that is left over makes a
text of the tag; of those in front of any other opening bracket all but one are shown.
-/
def read (held skipped : Nat) : List Char → Reading
  | [] => ⟨[], held⟩
  | c :: rest =>
    match skipped with
    | skipped + 1 => read held skipped rest
    | 0 =>
      if c = '\\' then read (held + 1) 0 rest
      else if c = '[' then
        match tag? rest with
        | none => (read 0 0 rest).behind (slashes (held - 1) ++ [.shown '['])
        | some tag =>
          if held % 2 = 0 then
            (read 0 (tag.length + 1) rest).behind (slashes (held / 2) ++ [.tag tag])
          else (read 0 0 rest).behind (slashes (held / 2) ++ [.shown '['])
      else (read 0 0 rest).behind (slashes held ++ [.shown c])

/-- The pieces of a text. -/
def pieces (text : List Char) : List Piece :=
  let reading := read 0 0 text
  reading.pieces ++ slashes reading.held

/-- The name that a tag has for its style, which ends at an equals sign. -/
def styleName (text : List Char) : List Char :=
  Text.lower (Text.trim (text.takeWhile (· != '=')))

/-- What has been shown, and the names of the open tags, last one first. -/
structure Shown where
  text : List Char
  openTags : List (List Char)

/-- Ends the last open tag of a name, or the last one of all where no name is given. -/
def close? (name : List Char) (openTags : List (List Char)) : Option (List (List Char)) :=
  if name.isEmpty then openTags.tail?
  else if openTags.contains name then some (openTags.erase name)
  else none

/-- The open tags behind a tag, unless it is a closing one with nothing to close. -/
def passTag? (openTags : List (List Char)) : List Char → Option (List (List Char))
  | '/' :: name => close? (styleName name) openTags
  | name => some (styleName name :: openTags)

/-- What is shown of pieces below open tags. -/
def render (openTags : List (List Char)) : List Piece → Option Shown
  | [] => some ⟨[], openTags⟩
  | .shown c :: rest =>
    (render openTags rest).map fun shown => { shown with text := c :: shown.text }
  | .tag text :: rest => do render (← passTag? openTags text) rest

/-- What is shown of a text with markup, or nothing if a closing tag has nothing to close. -/
def shown? (text : String) : Option String :=
  (render [] (pieces text.toList)).map fun shown => String.ofList shown.text

end FoldTree.Console.Markup
