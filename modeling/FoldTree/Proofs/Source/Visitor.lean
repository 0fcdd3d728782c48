import FoldTree.Proofs.Source.Nesting
import FoldTree.Proofs.Tree.Planting

/-! A visit of a program, step by step. The visitor keeps a stack of the regions that are open, and
writes what it comes across into the innermost one. To open a region, to write some contents into it
and to close it comes to writing the region with these contents into the one around it.
-/

namespace FoldTree.Source

open Text (LineTable)

/-- What a visit has come to: the lines of the text, all regions by their keys, each with the keys
of those right below it, the keys of the regions that are open, the innermost first, and the doc
texts with the keys of the regions that carry them.
-/
structure Visitor where
  table : LineTable
  regions : List (Region × List Nat)
  stack : List Nat
  docs : List (Nat × Doc)

/-- A step of a visit. It fails where it reaches lines that the text lacks. -/
abbrev Visiting := StateT Visitor Option

namespace Visiting

/-- The key of the innermost open region. -/
def current : Visiting Nat := do
  match (← get).stack with
  | key :: _ => pure key
  | [] => failure

/-- Whether the innermost open region is that of a class. -/
def isInClass : Visiting Bool := do
  let key ← current
  match (← get).regions[key]? with
  | some (region, _) => return region.kind == RegionKind.classDef.word
  | none => failure

/-- The offset and length of a stretch. -/
def place (extent : Extent) : Visiting (Nat × Int) := do
  match span? (← get).table extent with
  | some span => pure span
  | none => failure

/-- Adds terms to the innermost open region. -/
def addTerms (terms : List String) : Visiting Unit := do
  let key ← current
  modify fun visitor => { visitor with
    regions := visitor.regions.modify key fun (region, below) =>
      ({ region with terms := region.terms ++ terms }, below) }

/-- Adds the terms of a word. -/
def addWord (word : String) : Visiting Unit :=
  addTerms (Term.splitName word.toList)

/-- Opens a new region below the innermost open one. -/
def enter (extent : Extent) (kind : RegionKind) (name : Option String) : Visiting Unit := do
  let (start, length) ← place extent
  let around ← current
  modify fun visitor =>
    let key := visitor.regions.length
    { visitor with
      regions := visitor.regions.modify around (fun (region, below) => (region, below ++ [key]))
        ++ [(⟨key, start, length, kind.word, name, []⟩, [])]
      stack := key :: visitor.stack }

/-- Closes the innermost open region. -/
def leave : Visiting Unit :=
  modify fun visitor => { visitor with stack := visitor.stack.tail }

/-- Notes the doc text that a body starts with, if there is one, for the innermost open region. -/
def note (body : List Stmt) : Visiting Unit := do
  match docText? body with
  | none => pure ()
  | some (extent, text) =>
    let (start, length) ← place extent
    let key ← current
    modify fun visitor => { visitor with
      docs := visitor.docs ++ [(key, ⟨start, length, Term.splitText text⟩)] }

mutual

/-- Visits an expression. -/
def visitExpr : Expr → Visiting Unit
  | .name word => addWord word
  | .text _ => pure ()
  | .attribute owner word => do
    visitExpr owner
    addWord word
  | .subscript owner index => do
    visitExpr owner
    visitExpr index
  | .starred value => visitExpr value
  | .tuple items => visitExprs items
  | .list items => visitExprs items
  | .labelled word parts => do
    addWord word
    visitExprs parts
  | .compound parts => visitExprs parts

/-- Visits several expressions. -/
def visitExprs : List Expr → Visiting Unit
  | [] => pure ()
  | part :: rest => do
    visitExpr part
    visitExprs rest

end

/-- Visits words. -/
def visitWords : List String → Visiting Unit
  | [] => pure ()
  | word :: rest => do
    addWord word
    visitWords rest

mutual

/-- Visits a statement. The decorators of a definition come before its region is opened. -/
def visitStmt : Stmt → Visiting Unit
  | .evaluate _ value => visitExpr value
  | .simple _ parts => visitExprs parts
  | .importing _ words => visitWords words
  | .define extent sort name decorators header body trailer => do
    visitExprs decorators
    enter extent (definitionKind (← isInClass) sort) (some name)
    addWord name
    note body
    visitExprs header
    visitStmts body
    visitExprs trailer
    leave
  | .block extent kind clauses =>
    if extent.isMultiline then do
      enter extent .block (some kind.word)
      visitClauses clauses
      leave
    else visitClauses clauses

/-- Visits several statements. -/
def visitStmts : List Stmt → Visiting Unit
  | [] => pure ()
  | statement :: rest => do
    visitStmt statement
    visitStmts rest

/-- Visits clauses. -/
def visitClauses : List Clause → Visiting Unit
  | [] => pure ()
  | .mk header body :: rest => do
    visitExprs header
    visitStmts body
    visitClauses rest

end

/-- Visits a run of imports, which has a region of its own if it goes over several lines. -/
def visitRun (run : List Stmt) : Visiting Unit :=
  match run.head?, run.getLast? with
  | some first, some last => do
    let extent : Extent := ⟨first.extent.first, last.extent.behind⟩
    if extent.isMultiline then
      enter extent .imports none
      visitStmts run
      leave
    else visitStmts run
  | _, _ => pure ()

/-- Visits the statements of a module behind a run of imports. -/
def visitBehind (run : List Stmt) : List Stmt → Visiting Unit
  | [] => visitRun run
  | statement :: rest =>
    if statement.isImport then visitBehind (run ++ [statement]) rest
    else do
      visitRun run
      visitStmt statement
      visitBehind [] rest

/-- Visits a module. -/
def visitModule (program : List Stmt) : Visiting Unit := do
  note program
  visitBehind [] program

end Visiting

namespace Visitor

/-- The visitor of a text before the visit: the region of the module is there and open. -/
def start (source : List Char) : Visitor where
  table := LineTable.ofText source
  regions := [(⟨0, 0, source.length, RegionKind.module.word, none, []⟩, [])]
  stack := [0]
  docs := []

/-- A part as a visitor keeps it: its region, and the keys of those right below it. -/
def entry (part : Rose Part) : Region × List Nat :=
  (part.value.region, part.children.map fun branch => branch.value.region.key)

/-- The doc text of a part with the key of its region. -/
def docEntry (part : Part) : Option (Nat × Doc) :=
  part.doc.map fun doc => (part.region.key, doc)

/-- A part with its key. -/
def keyed (key : Nat) (part : Part) : Part :=
  { part with region := { part.region with key } }

/-- The visitor behind a phrase that gives the innermost open region some contents. -/
def absorb (visitor : Visitor) (contents : Contents) : Visitor :=
  let below := (Rose.numberAll keyed visitor.regions.length contents.below).1
  { visitor with
    regions := visitor.regions.modify (visitor.stack.headD 0) (fun (region, keys) =>
        ({ region with terms := region.terms ++ contents.terms },
          keys ++ below.map fun branch => branch.value.region.key))
      ++ (Rose.subtreesAll below).map entry
    docs := visitor.docs ++ (Rose.preorderAll below).filterMap docEntry }

/-- The innermost open region is there, and known to be that of a class or not. -/
def Inside (visitor : Visitor) (inClass : Bool) : Prop :=
  ∃ key rest entry,
    visitor.stack = key :: rest
    ∧ visitor.regions[key]? = some entry
    ∧ (entry.1.kind == RegionKind.classDef.word) = inClass

/-- The visitor behind the opening of a region. -/
def opened (visitor : Visitor) (span : Nat × Int) (kind : RegionKind) (name : Option String)
    : Visitor :=
  let key := visitor.regions.length
  { visitor with
    regions := visitor.regions.modify (visitor.stack.headD 0)
        (fun (region, below) => (region, below ++ [key]))
      ++ [(⟨key, span.1, span.2, kind.word, name, []⟩, [])]
    stack := key :: visitor.stack }

/-- The visitor behind a doc text, if there is one. -/
def noted (visitor : Visitor) (doc : Option Doc) : Visitor :=
  { visitor with docs := visitor.docs ++ (doc.map fun doc => (visitor.stack.headD 0, doc)).toList }

variable {visitor : Visitor} {inClass : Bool}

/-- Nothing changes nothing. -/
theorem absorb_empty (visitor : Visitor) : visitor.absorb .empty = visitor := by
  have same : (fun entry : Region × List Nat =>
      ({ entry.1 with terms := entry.1.terms ++ [] }, entry.2 ++ [])) = id := by
    funext ⟨region, keys⟩
    simp
  simp only [absorb, Contents.empty, Rose.numberAll, Rose.subtreesAll, Rose.preorderAll,
    List.map_nil, List.filterMap_nil, List.append_nil]
  simp only [List.append_nil] at same
  rw [same, List.modify_id]

/-- What is given to the innermost open region does not change what that is. -/
theorem Inside.absorb (inside : visitor.Inside inClass) (contents : Contents)
    : (visitor.absorb contents).Inside inClass := by
  obtain ⟨key, rest, entry, top, found, kind⟩ := inside
  have bound := (List.getElem?_eq_some_iff.mp found).1
  have there : ((visitor.absorb contents).regions[key]?).map (·.1.kind) = some entry.1.kind := by
    simp only [Visitor.absorb, top, List.headD_cons]
    rw [List.getElem?_append_left (by rwa [List.length_modify]), List.getElem?_modify_eq, found]
    rfl
  obtain ⟨entry', there, same⟩ := Option.map_eq_some_iff.mp there
  exact ⟨key, rest, entry', top, there, same ▸ kind⟩

/-- Some contents and then others are one after the other. -/
theorem absorb_absorb (inside : visitor.Inside inClass) (first second : Contents)
    : (visitor.absorb first).absorb second = visitor.absorb (first ++ second) := by
  obtain ⟨key, rest, entry, top, found, -⟩ := inside
  have bound := (List.getElem?_eq_some_iff.mp found).1
  have count (trees : List (Rose Part)) (next : Nat)
      : (Rose.subtreesAll (Rose.numberAll keyed next trees).1).length
        = (Rose.preorderAll trees).length := by
    rw [Rose.length_subtreesAll, (Rose.numberAll_preorder keyed next trees).1, List.length_mapIdx]
  -- the second trees are numbered behind the first ones, as they are when both come at once
  simp only [absorb, top, List.headD_cons, Contents.below_append, Contents.terms_append,
    Rose.numberAll_append, List.length_append, List.length_modify, List.length_map, count]
  rw [Tree.modify_append_left (by rwa [List.length_modify]), List.modify_modify_eq]
  simp only [Function.comp_def, List.append_assoc, List.map_append, List.filterMap_append,
    Rose.subtreesAll_eq_flatMap, Rose.preorderAll_eq_flatMap, List.flatMap_append]

/-- A new region is the innermost open one, with a doc text or not. -/
theorem inside_opened (visitor : Visitor) (span : Nat × Int) (kind : RegionKind)
    (name : Option String) (doc : Option Doc)
    : ((visitor.opened span kind name).noted doc).Inside
        (kind.word == RegionKind.classDef.word) := by
  refine ⟨visitor.regions.length, visitor.stack,
    (⟨visitor.regions.length, span.1, span.2, kind.word, name, []⟩, []), rfl, ?_, rfl⟩
  simp only [noted, opened]
  rw [List.getElem?_append_right (by rw [List.length_modify]), List.length_modify, Nat.sub_self]
  rfl

/-- No doc text changes nothing. -/
theorem noted_none (visitor : Visitor) : visitor.noted none = visitor := by
  simp [noted]

/-- Words and a doc text do not get in each other's way. -/
theorem noted_absorb (visitor : Visitor) (words : List String) (doc : Option Doc)
    : (visitor.absorb (.ofWords words)).noted doc = (visitor.noted doc).absorb (.ofWords words) := by
  simp [noted, absorb, Contents.ofWords, Rose.numberAll, Rose.preorderAll, Rose.subtreesAll]

/-- The region around some contents, with its doc text if there is one. -/
def single (span : Nat × Int) (kind : RegionKind) (name : Option String) (doc : Option Doc)
    (contents : Contents) : Contents :=
  ⟨[], [.node ⟨⟨0, span.1, span.2, kind.word, name, contents.terms⟩, doc⟩ contents.below]⟩

/-- To open a region, to give it contents and to close it gives the region around it this region. -/
theorem absorb_opened (inside : visitor.Inside inClass) (span : Nat × Int) (kind : RegionKind)
    (name : Option String) (doc : Option Doc) (contents : Contents)
    : { ((visitor.opened span kind name).noted doc).absorb contents with
        stack := visitor.stack }
      = visitor.absorb (single span kind name doc contents) := by
  obtain ⟨key, rest, entry, top, found, -⟩ := inside
  have bound := (List.getElem?_eq_some_iff.mp found).1
  simp only [absorb, noted, opened, single, top, List.headD_cons, List.length_append,
    List.length_modify, List.length_singleton]
  rw [Tree.modify_append_cons (by rw [List.length_modify])]
  cases doc <;> simp [Rose.numberAll, Rose.number_node, Rose.subtreesAll, Rose.subtrees,
    Rose.preorderAll, Rose.preorder, keyed, Visitor.entry, docEntry, Rose.value, Rose.children,
    List.filterMap_cons]

end Visitor

end FoldTree.Source
