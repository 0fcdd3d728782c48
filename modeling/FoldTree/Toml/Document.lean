import FoldTree.Toml.Scalar

/-! TOML documents: keys, values that hold others, and the statements that build up tables. -/

namespace FoldTree.Toml

/-- A reader takes what it reads from the front of a text. -/
abbrev Reader := StateT (List Char) (Except Fault)

namespace Reader

/-- Fails for a text that is no TOML. -/
def fail {α : Type} : Reader α := throw .malformed

/-- The next character, which stays. -/
def peek? : Reader (Option Char) := do
  return (← get).head?

/-- Passes characters while they pass a test. -/
def skipWhile (p : Char → Bool) : Reader Unit :=
  modify (·.dropWhile p)

/-- Passes a given stretch if it comes next, and says whether it does. -/
def skips (stretch : String) : Reader Bool := do
  let text ← get
  if stretch.toList.isPrefixOf text then
    set (text.drop stretch.length)
    return true
  else return false

/-- Passes a given stretch. -/
def expect (stretch : String) : Reader Unit := do
  if !(← skips stretch) then fail

/-- Reads by a function that may give nothing. -/
def through {α : Type} (read : List Char → Option (α × List Char)) : Reader α := do
  match read (← get) with
  | some (a, rest) =>
    set rest
    return a
  | none => fail

/-- Passes a comment if there is one. -/
def skipComment : Reader Unit := do
  if ← skips "#" then
    skipWhile fun c => !isIllegal false c
    match ← peek? with
    | none => return
    | some c => if c = '\n' then return else fail

/-- Passes blanks, newlines and comments. -/
def skipFiller : Nat → Reader Unit
  | 0 => return
  | rounds + 1 => do
    skipWhile isSpaceOrNewline
    if (← peek?) = some '#' then
      skipComment
      skipFiller rounds

end Reader

open Reader

/-! ### Keys -/

/-- A character of keys without quotes. -/
def isBareKeyPart (c : Char) : Bool :=
  c.isAlphanum || c == '-' || c == '_'

/-- Whether a character can start a key. -/
def startsKey (c : Char) : Bool :=
  isBareKeyPart c || c == '"' || c == '\''

/-- Reads one part of a key. -/
def keyPart : Reader String := do
  let text ← get
  match text.head? with
  | none => fail
  | some c =>
    if isBareKeyPart c then
      skipWhile isBareKeyPart
      return String.ofList (text.takeWhile isBareKeyPart)
    else if c = '"' ∨ c = '\'' then return String.ofList (← through readLineText)
    else fail

/-- Reads the parts of a key behind its first. -/
def keyBehind : Nat → Reader (List String)
  | 0 => fail
  | rounds + 1 => do
    skipWhile isSpace
    if ← skips "." then
      skipWhile isSpace
      let part ← keyPart
      return part :: (← keyBehind rounds)
    else return []

/-- Reads a key: parts with points between them. -/
def key : Reader (List String) := do
  let first ← keyPart
  return first :: (← keyBehind ((← get).length + 1))

/-- A key without its last part, and that part. -/
def splitLast (key : List String) : List String × String :=
  (key.dropLast, key.getLast?.getD "")

/-! ### Values -/

/-- Reads a key and its value. -/
def entry (value : Reader Value) : Reader (List String × Value) := do
  let path ← key
  expect "="
  skipWhile isSpace
  return (path, ← value)

/-- Reads the items of a list up to its closing bracket. -/
def listItems (value : Reader Value) : Nat → Reader (List Value)
  | 0 => fail
  | rounds + 1 => do
    skipFiller ((← get).length + 1)
    if ← skips "]" then return []
    let item ← value
    skipFiller ((← get).length + 1)
    if ← skips "]" then return [item]
    expect ","
    return item :: (← listItems value rounds)

/-- Reads the entries of a table on one line up to its closing bracket, into a table. What a value
holds cannot be added to by later entries.
-/
def tableEntries (value : Reader Value) : Nat → List (List String) → Table → Reader Table
  | 0, _, _ => fail
  | rounds + 1, closed, table => do
    let (path, read) ← entry value
    if closed.any (·.isPrefixOf path) then fail
    let (outer, name) := splitLast path
    match Table.change false (Table.put name read) outer table with
    | none => fail
    | some table => do
      skipWhile isSpace
      if ← skips "\x7d" then return table
      expect ","
      skipWhile isSpace
      tableEntries value rounds (if read.isNested then path :: closed else closed) table

/-- Reads a value that holds others to some depth. -/
def value : Nat → Reader Value
  | 0 => fail
  | depth + 1 => do
    let text ← get
    match text.head? with
    | some '"' | some '\'' => return .text (String.ofList (← through readText))
    | some '[' => do
      set (text.drop 1)
      return .list (← listItems (value depth) text.length)
    | some '\x7b' => do
      set (text.drop 1)
      skipWhile isSpace
      if ← skips "\x7d" then return .table []
      return .table (← tableEntries (value depth) text.length [] [])
    | _ => do
      let (read, rest) ← readScalar text
      set rest
      return read

/-! ### Statements -/

/-- What has been read: the table of all values, the path of the table that entries go to, the
paths of tables that cannot be opened again, of tables that cannot be so once another header comes,
and of values that cannot be added to.
-/
structure Document where
  table : Table
  header : List String
  opened : List (List String)
  opening : List (List String)
  closed : List (List String)

namespace Document

/-- The document of nothing. -/
def empty : Document := ⟨[], [], [], [], []⟩

/-- Whether nothing can be added at a path. -/
def isClosed (document : Document) (path : List String) : Bool :=
  document.closed.any (·.isPrefixOf path)

/-- The paths between a header and the last part of a key below it. -/
def pathsBetween (header outer : List String) : List (List String) :=
  (List.range outer.length).map fun index => header ++ outer.take (index + 1)

/-- Adds an entry below the current header. A key with points opens no table that a header has
opened, and those that it makes cannot be opened by later headers.
-/
def addEntry (document : Document) (path : List String) (value : Value) : Option Document := do
  let (outer, name) := splitLast path
  let between := pathsBetween document.header outer
  if between.any document.opened.contains then none
  let place := document.header ++ outer
  if document.isClosed place then none
  let table ← Table.change true (Table.put name value) place document.table
  let closed := if value.isNested then (document.header ++ path) :: document.closed
    else document.closed
  return { document with table, closed, opening := between ++ document.opening }

/-- A document in which the tables made by keys with points cannot be opened any more. -/
def settle (document : Document) : Document :=
  { document with opened := document.opening ++ document.opened, opening := [] }

/-- Opens a table by its header, once only. -/
def openTable (document : Document) (path : List String) : Option Document := do
  if document.opened.contains path || document.isClosed path then none
  let table ← Table.change true some path document.table
  return { document with table, header := path, opened := path :: document.opened }

/-- Opens a new table at the end of a list of tables. What was said about the last one before does
not hold for it.
-/
def openLast (document : Document) (path : List String) : Option Document := do
  if document.isClosed path then none
  let (outer, name) := splitLast path
  let apart (paths : List (List String)) := paths.filter fun other => !path.isPrefixOf other
  let table ← Table.change true (Table.putLast name) outer document.table
  return { document with
    table
    header := path
    opened := path :: apart document.opened
    closed := apart document.closed }

/-- Reads a header and opens what it names. -/
def readHeader (document : Document) : Reader Document := do
  let document := document.settle
  let isList ← skips "[["
  if !isList then expect "["
  skipWhile isSpace
  let path ← key
  match if isList then document.openLast path else document.openTable path with
  | none => fail
  | some document => do
    expect (if isList then "]]" else "]")
    return document

/-- Reads a statement of one line, if the line has one. -/
def readStatement (document : Document) : Reader Document := do
  match ← peek? with
  | none => return document
  | some c =>
    if c = '[' then document.readHeader
    else if startsKey c then
      let (path, read) ← entry (value ((← get).length + 1))
      match document.addEntry path read with
      | none => fail
      | some document => return document
    else return document

/-- Reads statements to the end of the text, one a line. -/
def readLines : Nat → Document → Reader Document
  | 0, _ => fail
  | rounds + 1, document => do
    skipWhile isSpace
    let document ← document.readStatement
    skipWhile isSpace
    skipComment
    match ← peek? with
    | none => return document
    | some _ =>
      expect "\n"
      readLines rounds document

end Document

/-- A text in which each line end of two characters is a newline. -/
def joinLineEnds : List Char → List Char
  | [] => []
  | '\r' :: '\n' :: rest => '\n' :: joinLineEnds rest
  | c :: rest => c :: joinLineEnds rest

/-- Reads a document. -/
def read (text : List Char) : Except Fault Table := do
  let text := joinLineEnds text
  let (document, _) ← (Document.empty.readLines (text.length + 1)).run text
  return document.table

end FoldTree.Toml
