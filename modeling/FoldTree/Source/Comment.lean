import FoldTree.Region
import FoldTree.Term.Split
import FoldTree.Text.Blank
import FoldTree.Text.Lines

/-! Comments of a source text. They are found line by line, where lines end at the newline
character alone: a carriage return inside a line ends a comment behind code, and a comment on a
line of its own runs on past it.
-/

namespace FoldTree.Source

/-- A comment: its line from one, its column from zero, its text with the hashes in front, and
whether nothing but blanks stands before it on its line.
-/
structure Comment where
  row : Nat
  column : Nat
  text : List Char
  alone : Bool
deriving DecidableEq, Repr

namespace Comment

/-- The lines of a text with their newlines; a last line of nothing is no line. -/
def wholeLines (text : List Char) : List (List Char) :=
  match (Text.lines text).reverse with
  | [] => []
  | last :: before =>
    (before.reverse.map fun line => line ++ ['\n']) ++ if last.isEmpty then [] else [last]

/-- A text that is open at the end of a line: its quote, and whether it is tripled. -/
structure OpenText where
  quote : Char
  isLong : Bool
deriving DecidableEq

/-- How the rest of a line stands to a text between single quotes that is open in it: the text ends
there, goes on in the next line, or does neither.
-/
inductive Ending where
  | closed
  | joined
  | missing
deriving DecidableEq

/-- How a line ends a text between single quotes. -/
def endingOf (quote : Char) : List Char → Ending
  | [] => .missing
  | ['\\'] => .missing
  | '\\' :: '\n' :: _ => .joined
  | ['\\', '\r', '\n'] => .joined
  | '\\' :: _ :: rest => endingOf quote rest
  | c :: rest =>
    if c = quote then .closed else if c = '\n' then .missing else endingOf quote rest

/-- Whether a line ends in a backslash before its line end. -/
def endsJoined (line : List Char) : Bool :=
  match line.reverse with
  | '\n' :: '\\' :: _ => true
  | '\n' :: '\r' :: '\\' :: _ => true
  | _ => false

/-- What is being read inside a line. -/
inductive Mode where
  | code
  | text (opened : OpenText)
  | comment
deriving DecidableEq

/-- What carries over from one line to the next: how many brackets are open, whether a backslash
joins the lines, the text that is open, and the columns of the open indentations.
-/
structure Carry where
  level : Int
  joined : Bool
  opened : Option OpenText
  indents : List Nat

/-- Whether a character opens a bracket, and whether it closes one. -/
def bracketStep (c : Char) : Int :=
  if c = '(' ∨ c = '[' ∨ c = '\x7b' then 1
  else if c = ')' ∨ c = ']' ∨ c = '\x7d' then -1
  else 0

/-- The text of a comment behind code. -/
def textWithin (text : List Char) : List Char :=
  text.takeWhile fun c => c != '\r' && c != '\n'

/-- The text that a mode leaves open at the end of a line. -/
def Mode.opened? : Mode → Option OpenText
  | .text opened => some opened
  | _ => none

/-- Reads the rest of a line from a column on: the columns of the comments in it with their texts,
and what carries over.
-/
def readLine : Mode → Nat → Carry → List Char → List (Nat × List Char) × Carry
  | mode, _, carry, [] => ([], { carry with opened := mode.opened? })
  | .comment, column, carry, c :: rest =>
    readLine (if c = '\r' ∨ c = '\n' then .code else .comment) (column + 1) carry rest
  | .text opened, column, carry, c :: rest =>
    if c = '\\' then
      match rest with
      | d :: after =>
        if d = '\n' then readLine (.text opened) (column + 1) carry (d :: after)
        else readLine (.text opened) (column + 2) carry after
      | [] => readLine (.text opened) (column + 1) carry []
    else if c ≠ opened.quote then readLine (.text opened) (column + 1) carry rest
    else if !opened.isLong then readLine .code (column + 1) carry rest
    else
      match rest with
      | d :: e :: after =>
        if d = c ∧ e = c then readLine .code (column + 3) carry after
        else readLine (.text opened) (column + 1) carry (d :: e :: after)
      | after => readLine (.text opened) (column + 1) carry after
  | .code, column, carry, c :: rest =>
    if c = '#' then
      let (found, after) := readLine .comment (column + 1) carry rest
      ((column, textWithin (c :: rest)) :: found, after)
    else if c = '"' ∨ c = '\'' then
      match rest with
      | d :: e :: after =>
        if d = c ∧ e = c then readLine (.text ⟨c, true⟩) (column + 3) carry after
        else
          readLine (if endingOf c (d :: e :: after) = .missing then .code else .text ⟨c, false⟩)
            (column + 1) carry (d :: e :: after)
      | after =>
        readLine (if endingOf c after = .missing then .code else .text ⟨c, false⟩)
          (column + 1) carry after
    else if c = '\\' ∧ (rest = ['\n'] ∨ rest = ['\r', '\n']) then
      ([], { carry with joined := true, opened := none })
    else readLine .code (column + 1) { carry with level := carry.level + bracketStep c } rest

/-- The column behind the blanks at the start of a line, and their number. Tabs go to multiples of
eight, and a form feed starts again from zero.
-/
def indentation (column count : Nat) : List Char → Nat × Nat
  | ' ' :: rest => indentation (column + 1) (count + 1) rest
  | '\t' :: rest => indentation ((column / 8 + 1) * 8) (count + 1) rest
  | '\x0c' :: rest => indentation 0 (count + 1) rest
  | _ => (column, count)

/-- The indentations that are open behind a line, innermost first. A smaller one has to be open
already.
-/
def openColumns (column : Nat) (indents : List Nat) : Option (List Nat) :=
  if indents.head?.any (· < column) then some (column :: indents)
  else if indents.contains column then some (indents.dropWhile (· != column))
  else none

/-- The text of a comment on a line of its own. -/
def wholeText (text : List Char) : List Char :=
  (text.reverse.dropWhile fun c => c == '\r' || c == '\n').reverse

/-- A comment found in a line. -/
def inLine (row : Nat) (line : List Char) (found : Nat × List Char) : Comment :=
  ⟨row, found.1, found.2, Text.isAllBlank (line.take found.1)⟩

/-- Reads a line, giving its comments and what carries over. Nothing carries over from a last line
of blanks without a newline, which ends the text.
-/
def readWholeLine (row : Nat) (carry : Carry) (line : List Char) :
    Option (List Comment × Option Carry) :=
  let finish (read : List (Nat × List Char) × Carry) : Option (List Comment × Option Carry) :=
    some (read.1.map (inLine row line), some read.2)
  match carry.opened with
  | some opened =>
    if opened.isLong ∨ endingOf opened.quote line = .closed then
      finish (readLine (.text opened) 0 carry line)
    else if endsJoined line then some ([], some carry)
    else some ([], some { carry with opened := none })
  | none =>
    if carry.level ≠ 0 ∨ carry.joined then
      finish (readLine .code 0 { carry with joined := false } line)
    else
      let (column, count) := indentation 0 0 line
      let rest := line.drop count
      match rest with
      | [] => some ([], none)
      | c :: _ =>
        if c = '#' then some ([inLine row line (count, wholeText rest)], some carry)
        else if c = '\r' ∨ c = '\n' then some ([], some carry)
        else
          (openColumns column carry.indents).bind fun indents =>
            finish (readLine .code count { carry with indents } rest)

/-- Reads lines to the end of the text, which lies outside of texts, brackets and joined lines. -/
def ofLines (row : Nat) (carry : Carry) : List (List Char) → Option (List Comment)
  | [] => if carry.opened.isSome ∨ carry.level ≠ 0 ∨ carry.joined then none else some []
  | line :: later =>
    match readWholeLine row carry line with
    | none => none
    | some (found, none) => some found
    | some (found, some carry) => (ofLines (row + 1) carry later).map (found ++ ·)

/-- The comments of a text in order, or nothing when its lines do not fit together. -/
def ofText (text : List Char) : Option (List Comment) :=
  ofLines 1 ⟨0, false, none, [0]⟩ (wholeLines text)

/-- Whether a comment goes on a block that ends in another: both are alone on their lines, in the
same column of adjacent lines.
-/
def continues (previous comment : Comment) : Bool :=
  previous.alone && comment.alone && previous.row + 1 == comment.row
    && previous.column == comment.column

/-- Groups comments into blocks of those that go on each other. -/
def blocks : List Comment → List (List Comment)
  | [] => []
  | comment :: later =>
    match blocks later with
    | (next :: rest) :: others =>
      if continues comment next then (comment :: next :: rest) :: others
      else [comment] :: (next :: rest) :: others
    | others => [comment] :: others

/-- The terms of a comment, whose hashes in front do not count. -/
def terms (comment : Comment) : List String :=
  Term.splitText (comment.text.dropWhile (· == '#'))

end Comment

mutual

/-- The innermost region that holds a range of offsets, in a skeleton whose root stands for all
that none of its branches holds. Of several branches the first counts.
-/
def innermost (first behind : Int) : Rose Region → Region
  | .node region below => (innermostOf first behind below).getD region

/-- The innermost region that holds a range of offsets below some skeletons, if one holds it. -/
def innermostOf (first behind : Int) : List (Rose Region) → Option Region
  | [] => none
  | branch :: rest =>
    if branch.value.contains first behind then some (innermost first behind branch)
    else innermostOf first behind rest

end

/-- A block of comments as a remark that the innermost region around it carries. -/
def blockRemark (table : Text.LineTable) (skeleton : Rose Region) (key : Nat)
    (block : List Comment) : Option Remark := do
  let first ← block.head?
  let last ← block.getLast?
  let start ← table.charOffset? first.row first.column
  let stop ← table.charOffset? last.row (last.column + last.text.length)
  let region : Region := ⟨key, start, (stop : Int) - start, RegionKind.comment.word, none, []⟩
  return ⟨region, (innermost start stop skeleton).key, block.flatMap Comment.terms⟩

/-- The comments of a source as remarks, with keys from a first one on. -/
def commentRemarks (source : List Char) (skeleton : Rose Region) (firstKey : Nat)
    (comments : List Comment) : List Remark :=
  let table := Text.LineTable.ofText source
  ((Comment.blocks comments).mapIdx fun index block =>
    blockRemark table skeleton (firstKey + index) block).filterMap id

end FoldTree.Source
