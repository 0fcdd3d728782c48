import FoldTree.Region
import FoldTree.Source.Program
import FoldTree.Term.Split
import FoldTree.Text.Lines

/-! The skeleton of a program: the regions that can be folded, each with the terms found directly
in it and with its doc text. Definitions and compound statements of more than one line are regions,
and so are runs of imports at the top. What makes no region of its own belongs to the one around.
-/

namespace FoldTree.Source

/-- The doc text of a region, with its place and its terms. -/
structure Doc where
  start : Nat
  length : Int
  terms : List String

/-- A region without its key, and its doc text. -/
structure Part where
  region : Region
  doc : Option Doc

/-- What some phrases give the region around them: terms of its own, and regions below it. -/
structure Contents where
  terms : List String
  below : List (Rose Part)

namespace Contents

/-- The contents of nothing. -/
def empty : Contents := ⟨[], []⟩

/-- The contents of one stretch after those of another. -/
def append (first second : Contents) : Contents :=
  ⟨first.terms ++ second.terms, first.below ++ second.below⟩

instance : Append Contents := ⟨append⟩

/-- The terms of words, in order. -/
def ofWords (words : List String) : Contents :=
  ⟨words.flatMap fun word => Term.splitName word.toList, []⟩

/-- The terms of expressions, in order. -/
def ofExprs (parts : List Expr) : Contents :=
  ofWords (Expr.wordsOfAll parts)

end Contents

/-- The offset and length of a stretch, none if it lies in lines that the text lacks. -/
def span? (table : Text.LineTable) (extent : Extent) : Option (Nat × Int) := do
  let start ← table.byteOffset? extent.first.line extent.first.column
  let stop ← table.byteOffset? extent.behind.line extent.behind.column
  return (start, stop - start)

/-- The doc text that a body starts with; the outer option is for its place. -/
def docOf? (table : Text.LineTable) (body : List Stmt) : Option (Option Doc) :=
  match docText? body with
  | none => some none
  | some (extent, text) =>
    (span? table extent).map fun (start, length) => some ⟨start, length, Term.splitText text⟩

/-- A region over its contents, as the contents of what is around it. -/
def enclosed (table : Text.LineTable) (extent : Extent) (kind : RegionKind)
    (name : Option String) (doc : Option Doc) (contents : Contents) : Option Contents := do
  let (start, length) ← span? table extent
  let region : Region := ⟨0, start, length, kind.word, name, contents.terms⟩
  return ⟨[], [.node ⟨region, doc⟩ contents.below]⟩

/-- The kind of region that a definition makes: functions directly in a class are its methods. -/
def definitionKind (inClass : Bool) : Definition → RegionKind
  | .classDef => .classDef
  | .function => if inClass then .method else .function

mutual

/-- What a statement gives the region around it, which may be a class. Decorators belong to the
region around the definition.
-/
def Stmt.contents (table : Text.LineTable) (inClass : Bool) : Stmt → Option Contents
  | .evaluate _ value => some (.ofExprs [value])
  | .simple _ parts => some (.ofExprs parts)
  | .importing _ words => some (.ofWords words)
  | .define extent sort name decorators header body trailer => do
    let doc ← docOf? table body
    let inside ← contentsOfAll table (sort == .classDef) body
    let region ← enclosed table extent (definitionKind inClass sort) (some name) doc
      (.ofWords [name] ++ .ofExprs header ++ inside ++ .ofExprs trailer)
    return .ofExprs decorators ++ region
  | .block extent kind clauses =>
    if extent.isMultiline then
      (clauseContents table false clauses).bind
        (enclosed table extent .block (some kind.word) none)
    else clauseContents table inClass clauses

/-- What several statements give the region around them. -/
def Stmt.contentsOfAll (table : Text.LineTable) (inClass : Bool) : List Stmt → Option Contents
  | [] => some .empty
  | statement :: rest => do
    let first ← statement.contents table inClass
    return first ++ (← contentsOfAll table inClass rest)

/-- What the clauses of a statement give the region around them. -/
def Stmt.clauseContents (table : Text.LineTable) (inClass : Bool) : List Clause → Option Contents
  | [] => some .empty
  | .mk header body :: rest => do
    let inside ← contentsOfAll table inClass body
    return .ofExprs header ++ inside ++ (← clauseContents table inClass rest)

end

/-- What a run of imports gives the module. It is a region of its own unless it ends on the line
that it starts on.
-/
def importRun (table : Text.LineTable) (run : List Stmt) : Option Contents :=
  match run.head?, run.getLast? with
  | some first, some last => do
    let extent : Extent := ⟨first.extent.first, last.extent.behind⟩
    let contents ← Stmt.contentsOfAll table false run
    if extent.isMultiline then enclosed table extent .imports none none contents
    else return contents
  | _, _ => some .empty

/-- What the statements of a module give it, where a run of imports was read before them. -/
def moduleContents (table : Text.LineTable) (run : List Stmt) : List Stmt → Option Contents
  | [] => importRun table run
  | statement :: rest =>
    if statement.isImport then moduleContents table (run ++ [statement]) rest
    else do
      let before ← importRun table run
      let first ← statement.contents table false
      return before ++ first ++ (← moduleContents table [] rest)

/-- The regions of a program without their keys. There are none if lines that the program reaches
are missing from the text, which may count its lines by fewer line ends.
-/
def parts? (source : List Char) (program : List Stmt) : Option (Rose Part) := do
  let table := Text.LineTable.ofText source
  let doc ← docOf? table program
  let contents ← moduleContents table [] program
  let region : Region := ⟨0, 0, source.length, RegionKind.module.word, none, contents.terms⟩
  return .node ⟨region, doc⟩ contents.below

/-- Gives each region its place in pre-order as its key. -/
def numbered (parts : Rose Part) : Rose Part :=
  (parts.number (fun key part => { part with region := { part.region with key } }) 0).1

/-- A doc text as a remark that a region carries. -/
def Doc.remark (doc : Doc) (carrier : Nat) (key : Nat) : Remark :=
  ⟨⟨key, doc.start, doc.length, RegionKind.docstring.word, none, []⟩, carrier, doc.terms⟩

/-- The doc texts of a program as remarks, in pre-order of their regions, with keys from a first
one on.
-/
def docRemarks (parts : Rose Part) (firstKey : Nat) : List Remark :=
  let docs := parts.preorder.filterMap fun part => part.doc.map fun doc => (part.region.key, doc)
  docs.mapIdx fun index (carrier, doc) => doc.remark carrier (firstKey + index)

end FoldTree.Source
