import FoldTree.Text.Identifier
import FoldTree.Text.LowerCase

/-! Terms of names and of free text. A term is a word of at least two letters in lower case. Words
end at every character that is no ASCII letter, before a capital that follows a small letter, and
before the last capital of a run when a small letter follows.
-/

namespace FoldTree.Term

/-- A capital ASCII letter. -/
def isCapital (c : Char) : Bool :=
  'A' ≤ c && c ≤ 'Z'

/-- A small ASCII letter. -/
def isSmall (c : Char) : Bool :=
  'a' ≤ c && c ≤ 'z'

/-- The words of a text that starts inside a word, and the letters of that word from its start. A
word of capitals gives its last letter away to a small letter that follows.
-/
def wordsFrom : List Char → List Char → List (List Char)
  | word, [] => [word]
  | word, c :: rest =>
    if isSmall c then
      match word with
      | first :: second :: others =>
        if isCapital first then (second :: others) :: wordsFrom [c, first] rest
        else wordsFrom (c :: word) rest
      | _ => wordsFrom (c :: word) rest
    else if isCapital c then
      match word with
      | first :: _ =>
        if isCapital first then wordsFrom (c :: word) rest else word :: wordsFrom [c] rest
      | [] => wordsFrom [c] rest
    else word :: wordsFrom [] rest

/-- The words of a text, each from its first letter to its last; words of no letters stand
between neighbouring separators.
-/
def words (text : List Char) : List (List Char) :=
  (wordsFrom [] text).map List.reverse

/-- The terms of a name: its words of two letters or more, in lower case and in order. -/
def splitName (name : List Char) : List String :=
  ((words name).filter fun word => 2 ≤ word.length).map fun word =>
    String.ofList (word.map Text.asciiLower)

/-- The names that a text mentions, when the letters of an unfinished name stand reversed in
name: maximal runs of ASCII letters, digits and underscores that do not start with a digit.
-/
def namesFrom (name : List Char) : List Char → List (List Char)
  | [] => if name.isEmpty then [] else [name.reverse]
  | c :: rest =>
    if name.isEmpty then
      if Text.isAsciiWordStart c then namesFrom [c] rest else namesFrom [] rest
    else if Text.isAsciiWordPart c then namesFrom (c :: name) rest
    else name.reverse :: namesFrom [] rest

/-- The terms of free text: those of the names that it mentions, in order. -/
def splitText (text : List Char) : List String :=
  (namesFrom [] text).flatMap splitName

end FoldTree.Term
