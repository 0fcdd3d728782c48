import FoldTree.Proofs.Source.Attribution
import FoldTree.Proofs.Source.Ranges
import FoldTree.Proofs.Source.Retexting
import FoldTree.Proofs.Source.Visitor

/-! What a visit of a program comes to. Each phrase gives the innermost open region just its
contents and leaves the stack as it was, so that a whole visit comes to the skeleton of the program,
where each region has the terms of those words that no other region stands around more closely.
-/

namespace FoldTree.Source

open Text (LineTable)

namespace Visiting

open Visitor (single)

/-- A step of a visit gives the innermost open region some contents, or it fails. -/
def Gives (table : LineTable) (inClass : Bool) (step : Visiting Unit) (given : Option Contents)
    : Prop :=
  ∀ visitor : Visitor, visitor.table = table → visitor.Inside inClass
    → step.run visitor = given.map fun contents => ((), visitor.absorb contents)

variable {table : LineTable} {inClass : Bool} {step next : Visiting Unit}
  {given behind : Option Contents}

/-- To do nothing gives nothing. -/
theorem gives_empty : Gives table inClass (pure ()) (some .empty) := by
  intro visitor _ _
  rw [Option.map_some, visitor.absorb_empty]
  rfl

/-- Two steps give what the first one does and then what the second one does. -/
theorem Gives.seq (first : Gives table inClass step given) (later : Gives table inClass next behind)
    : Gives table inClass (do step; next) (do return (← given) ++ (← behind)) := by
  intro visitor same inside
  rw [StateT.run_bind, first visitor same inside]
  cases given with
  | none => rfl
  | some contents =>
      refine (later (visitor.absorb contents) same (inside.absorb contents)).trans ?_
      cases behind with
      | none => rfl
      | some others =>
          rw [Option.map_some, visitor.absorb_absorb inside]
          rfl

/-- A word gives its terms. -/
theorem gives_word (word : String)
    : Gives table inClass (addWord word) (some (.ofWords [word])) := by
  rintro visitor - ⟨key, rest, entry, top, -⟩
  simp [addWord, addTerms, current, top, Visitor.absorb, Contents.ofWords, Rose.numberAll,
    Rose.subtreesAll, Rose.preorderAll]

/-- Words give their terms, by induction. -/
theorem gives_words (words : List String)
    : Gives table inClass (visitWords words) (some (.ofWords words)) := by
  induction words with
  | nil => exact gives_empty
  | cons word rest ih =>
      have split := Contents.ofWords_append [word] rest
      rw [List.singleton_append] at split
      rw [split]
      exact (gives_word word).seq ih

mutual

/-- An expression gives the terms of its words. -/
theorem gives_expr (expr : Expr)
    : Gives table inClass (visitExpr expr) (some (.ofWords expr.words)) := by
  match expr with
  | .name word => exact gives_word word
  | .text value => rw [visitExpr, Expr.words]; exact gives_empty
  | .attribute owner word =>
      rw [visitExpr, Expr.words, Contents.ofWords_append]
      exact (gives_expr owner).seq (gives_word word)
  | .subscript owner index =>
      rw [visitExpr, Expr.words, Contents.ofWords_append]
      exact (gives_expr owner).seq (gives_expr index)
  | .starred value =>
      rw [visitExpr, Expr.words]
      exact gives_expr value
  | .tuple items | .list items | .compound items =>
      rw [visitExpr, Expr.words]
      exact gives_exprs items
  | .labelled word parts =>
      have split := Contents.ofWords_append [word] (Expr.wordsOfAll parts)
      rw [List.singleton_append] at split
      rw [visitExpr, Expr.words, split]
      exact (gives_word word).seq (gives_exprs parts)

/-- Several expressions give the terms of their words. -/
theorem gives_exprs (parts : List Expr)
    : Gives table inClass (visitExprs parts) (some (.ofExprs parts)) := by
  match parts with
  | [] => rw [visitExprs, Contents.ofExprs, Expr.wordsOfAll]; exact gives_empty
  | part :: rest =>
      rw [visitExprs, Contents.ofExprs, Expr.wordsOfAll, Contents.ofWords_append]
      exact (gives_expr part).seq (gives_exprs rest)

end

/-- The innermost open region is that of a class or not. -/
theorem run_isInClass {visitor : Visitor} (inside : visitor.Inside inClass)
    : isInClass.run visitor = some (inClass, visitor) := by
  obtain ⟨key, rest, entry, top, found, rfl⟩ := inside
  simp [isInClass, current, top, found]

/-- A region is opened where its stretch lies. -/
theorem run_enter {visitor : Visitor} (inside : visitor.Inside inClass) (extent : Extent)
    (kind : RegionKind) (name : Option String)
    : (enter extent kind name).run visitor
      = (span? visitor.table extent).map fun span => ((), visitor.opened span kind name) := by
  obtain ⟨key, rest, entry, top, -⟩ := inside
  cases lies : span? visitor.table extent with
  | none => simp [enter, place, lies]
  | some span => simp [enter, place, lies, current, top, Visitor.opened]

/-- A doc text is noted where its stretch lies. -/
theorem run_note {visitor : Visitor} (inside : visitor.Inside inClass) (body : List Stmt)
    : (note body).run visitor
      = (docOf? visitor.table body).map fun doc => ((), visitor.noted doc) := by
  obtain ⟨key, rest, entry, top, -⟩ := inside
  unfold note docOf?
  cases docText? body with
  | none => simp [Visitor.noted]
  | some written =>
      obtain ⟨extent, text⟩ := written
      cases lies : span? visitor.table extent with
      | none => simp [place, lies]
      | some span => simp [place, lies, current, top, Visitor.noted]

/-- What is given inside of a region that was just opened is given to this region. -/
theorem Gives.closed {kind : RegionKind}
    (gives : Gives table (kind.word == RegionKind.classDef.word) step given) {visitor : Visitor}
    (same : visitor.table = table) (inside : visitor.Inside inClass) (span : Nat × Int)
    (name : Option String) (doc : Option Doc)
    : (do step; leave : Visiting Unit).run ((visitor.opened span kind name).noted doc)
      = given.map fun contents => ((), visitor.absorb (single span kind name doc contents)) := by
  rw [StateT.run_bind, gives ((visitor.opened span kind name).noted doc) same
    (visitor.inside_opened span kind name doc)]
  cases given with
  | none => rfl
  | some contents =>
      simp only [Option.map_some]
      rw [← visitor.absorb_opened inside]
      rfl

/-- A region is given to the one around it, with words in front and then a doc text, if its stretch
and that of the doc text lie in the text.
-/
theorem Gives.enclosed {kind : RegionKind}
    (gives : Gives table (kind.word == RegionKind.classDef.word) step given) (extent : Extent)
    (name : Option String) (words : List String) (body : List Stmt)
    : Gives table inClass
        (do enter extent kind name; visitWords words; note body; step; leave)
        (do
          let doc ← docOf? table body
          let inside ← given
          enclosed table extent kind name doc (.ofWords words ++ inside)) := by
  rintro visitor rfl inside
  rw [StateT.run_bind, run_enter inside]
  cases lies : span? visitor.table extent with
  | none => cases docOf? visitor.table body <;> cases given <;> simp [Source.enclosed, lies]
  | some span =>
      have opened := visitor.inside_opened span kind name none
      rw [Visitor.noted_none] at opened
      simp only [Option.map_some, Option.bind_eq_bind, Option.bind_some, StateT.run_bind,
        gives_words words _ rfl opened, run_note (opened.absorb (.ofWords words))]
      cases written : docOf? visitor.table body with
      | none =>
          have written' : docOf? ((visitor.opened span kind name).absorb (.ofWords words)).table body
              = none := written
          simp [written']
      | some doc =>
          have written' : docOf? ((visitor.opened span kind name).absorb (.ofWords words)).table body
              = some doc := written
          -- noting the doc text before the words comes to the same
          have whole := ((gives_words words).seq gives).closed rfl inside span name doc
          rw [StateT.run_bind, StateT.run_bind, gives_words words _ rfl
            (visitor.inside_opened span kind name doc)] at whole
          rw [written']
          simp only [Option.map_some, Option.bind_eq_bind, Option.bind_some,
            Visitor.noted_absorb] at whole ⊢
          refine whole.trans ?_
          cases given with
          | none => rfl
          | some contents =>
              simp only [Option.bind_some, Source.enclosed, lies, Option.bind_eq_bind]
              rfl

/-- A region without words in front or a doc text is given to the one around it. -/
theorem Gives.enclosedOnly (gives : Gives table false step given) (extent : Extent)
    (kind : RegionKind) (name : Option String)
    (plain : (kind.word == RegionKind.classDef.word) = false)
    : Gives table inClass (do enter extent kind name; step; leave)
        (given.bind (Source.enclosed table extent kind name none)) := by
  rw [← plain] at gives
  -- no words in front and a doc text of no statements change nothing
  have steps : (do enter extent kind name; step; leave : Visiting Unit) = (do
      enter extent kind name
      visitWords []
      note []
      step
      leave) := by
    simp only [visitWords, note, docText?, pure_bind]
  rw [steps]
  have given' : given.bind (Source.enclosed table extent kind name none) = (do
      let doc ← docOf? table []
      let inside ← given
      Source.enclosed table extent kind name doc (.ofWords [] ++ inside)) := by
    cases given <;> rfl
  rw [given']
  exact gives.enclosed extent name [] []

/-- A definition gives its region, behind what its decorators give. -/
theorem Gives.define {extent : Extent} {sort : Definition} {name : String}
    {decorators header trailer : List Expr} {body : List Stmt}
    (gives : Gives table (sort == .classDef) (visitStmts body) given)
    : Gives table inClass (visitStmt (.define extent sort name decorators header body trailer))
        (do
          let doc ← docOf? table body
          let inside ← given
          let region ← Source.enclosed table extent (definitionKind inClass sort) (some name) doc
            (.ofWords [name] ++ .ofExprs header ++ inside ++ .ofExprs trailer)
          return .ofExprs decorators ++ region) := by
  have isClass : ((definitionKind inClass sort).word == RegionKind.classDef.word)
      = (sort == .classDef) := by
    cases sort <;> cases inClass <;> rfl
  rw [← isClass] at gives
  -- the name is a word in front of the header, and the trailer counts behind the body
  have region : Gives table inClass _ _ := ((gives_exprs header).seq
    (gives.seq (gives_exprs trailer))).enclosed extent (some name) [name] body
  have steps : visitStmt (.define extent sort name decorators header body trailer) = (do
      visitExprs decorators
      let inClass ← isInClass
      enter extent (definitionKind inClass sort) (some name)
      visitWords [name]
      note body
      (do visitExprs header; visitStmts body; visitExprs trailer)
      leave) := by
    simp only [visitStmt, visitWords, bind_assoc, pure_bind]
  intro visitor same inside
  have inside' := inside.absorb (.ofExprs decorators)
  rw [steps, StateT.run_bind, gives_exprs decorators visitor same inside, Option.map_some,
    Option.bind_eq_bind, Option.bind_some, StateT.run_bind, run_isInClass inside',
    Option.bind_eq_bind, Option.bind_some]
  refine (region (visitor.absorb (.ofExprs decorators)) same inside').trans ?_
  cases docOf? table body with
  | none => rfl
  | some doc =>
      cases given with
      | none => rfl
      | some within =>
          simp only [Option.bind_eq_bind, Option.bind_some, Option.pure_def, Contents.append_assoc]
          cases Source.enclosed table extent (definitionKind inClass sort) (some name) doc
              (.ofWords [name] ++ (.ofExprs header ++ (within ++ .ofExprs trailer))) with
          | none => rfl
          | some contents =>
              rw [Option.map_some, visitor.absorb_absorb inside]
              rfl

mutual

/-- A visit of a statement gives the region around it what the statement does. -/
theorem gives_stmt (inClass : Bool) (statement : Stmt)
    : Gives table inClass (visitStmt statement) (statement.contents table inClass) := by
  match statement with
  | .evaluate _ value =>
      rw [visitStmt, Stmt.contents, Contents.ofExprs, Expr.wordsOfAll, Expr.wordsOfAll,
        List.append_nil]
      exact gives_expr value
  | .simple _ parts =>
      rw [visitStmt, Stmt.contents]
      exact gives_exprs parts
  | .importing _ words =>
      rw [visitStmt, Stmt.contents]
      exact gives_words words
  | .define extent sort name decorators header body trailer =>
      rw [Stmt.contents]
      exact (gives_stmts (sort == .classDef) body).define
  | .block extent kind clauses =>
      rw [visitStmt, Stmt.contents]
      split
      · exact (gives_clauses false clauses).enclosedOnly extent .block (some kind.word) rfl
      · exact gives_clauses inClass clauses

/-- A visit of several statements gives the region around them what these do. -/
theorem gives_stmts (inClass : Bool) (statements : List Stmt)
    : Gives table inClass (visitStmts statements)
        (Stmt.contentsOfAll table inClass statements) := by
  match statements with
  | [] => rw [visitStmts, Stmt.contentsOfAll]; exact gives_empty
  | statement :: rest =>
      rw [visitStmts, Stmt.contentsOfAll]
      exact (gives_stmt inClass statement).seq (gives_stmts inClass rest)

/-- A visit of clauses gives the region around them what these do. -/
theorem gives_clauses (inClass : Bool) (clauses : List Clause)
    : Gives table inClass (visitClauses clauses) (Stmt.clauseContents table inClass clauses) := by
  match clauses with
  | [] => rw [visitClauses, Stmt.clauseContents]; exact gives_empty
  | .mk header body :: rest =>
      rw [visitClauses, Stmt.clauseContents]
      have gives := (gives_exprs header).seq
        ((gives_stmts inClass body).seq (gives_clauses inClass rest))
      convert gives using 1
      cases Stmt.contentsOfAll table inClass body <;>
        cases Stmt.clauseContents table inClass rest
      all_goals simp [Contents.append_assoc]

end

/-- A visit of a run of imports gives the module what the run does. -/
theorem gives_run (run : List Stmt)
    : Gives table false (visitRun run) (importRun table run) := by
  unfold visitRun importRun
  cases run.head? with
  | none => exact gives_empty
  | some first =>
      cases run.getLast? with
      | none => exact gives_empty
      | some last =>
          have gives : Gives table false _ _ := gives_stmts false run
          by_cases long : Extent.isMultiline ⟨first.extent.first, last.extent.behind⟩ = true
          · simp only [long, if_true]
            exact gives.enclosedOnly _ .imports none rfl
          · simp only [long, if_false, Bool.false_eq_true]
            rw [bind_pure]
            exact gives

/-- A visit of the statements behind a run of imports gives the module what these do, by induction
on them.
-/
theorem gives_behind (run statements : List Stmt)
    : Gives table false (visitBehind run statements) (moduleContents table run statements) := by
  induction statements generalizing run with
  | nil =>
      rw [visitBehind, moduleContents]
      exact gives_run run
  | cons statement rest ih =>
      rw [visitBehind, moduleContents]
      split
      · exact ih (run ++ [statement])
      · have gives := (gives_run run).seq ((gives_stmt false statement).seq (ih []))
        convert gives using 1
        cases importRun table run <;> cases statement.contents table false <;>
          cases moduleContents table [] rest
        all_goals simp [Contents.append_assoc]

end Visiting

/-- The visitor of a program at the end: all regions in pre-order, with just that of the module
open.
-/
def Visitor.finished (source : List Char) (parts : Rose Part) : Visitor where
  table := LineTable.ofText source
  regions := (numbered parts).subtrees.map entry
  stack := [0]
  docs := (numbered parts).preorder.filterMap docEntry

/-- Numbered parts have their keys from zero on. -/
theorem numbered_eq (parts : Rose Part) : numbered parts = (parts.number Visitor.keyed 0).1 := rfl

/-- A visit of a program comes to its skeleton, or fails where there is none. -/
theorem Visiting.run_visitModule (source : List Char) (program : List Stmt)
    : (visitModule program).run (.start source)
      = (parts? source program).map fun parts => ((), .finished source parts) := by
  have inside : (Visitor.start source).Inside false := ⟨0, [], _, rfl, rfl, rfl⟩
  rw [visitModule, StateT.run_bind, run_note inside, parts?]
  cases written : docOf? (LineTable.ofText source) program with
  | none =>
      have written' : docOf? (Visitor.start source).table program = none := written
      rw [written']
      rfl
  | some doc =>
      have written' : docOf? (Visitor.start source).table program = some doc := written
      have inside' : ((Visitor.start source).noted doc).Inside false := inside
      have gives : Gives (LineTable.ofText source) false _ _ := gives_behind [] program
      have run := gives _ rfl inside'
      rw [written', Option.map_some, Option.bind_eq_bind, Option.bind_some, run]
      cases moduleContents (LineTable.ofText source) [] program with
      | none => rfl
      | some contents =>
          have same : ((Visitor.start source).noted doc).absorb contents
              = .finished source (.node ⟨⟨0, 0, source.length, RegionKind.module.word, none,
                  contents.terms⟩, doc⟩ contents.below) := by
            cases doc <;> simp [Visitor.start, Visitor.noted, Visitor.absorb, Visitor.finished,
              Visitor.entry, Visitor.docEntry, Visitor.keyed, numbered_eq, Rose.number_node,
              Rose.subtrees,
              Rose.preorder, Rose.value, Rose.children, List.filterMap_cons]
          rw [Option.map_some, same]
          rfl

/-! ### Programs -/

/-- A visit of a program ends with just the region of the module open, and has made the regions of
its skeleton. It fails only where some construct has no place in the text. The regions stand where
the constructs stand that make them: the module, runs of imports and compound statements over several
lines, and all definitions, each with the terms of those words of it that no other region stands
around more closely. So the terms of all regions are those of all words, and what texts say has no
part in them.
-/
theorem visit_skeleton (source : List Char) (program : List Stmt)
    : ((Visiting.visitModule program).run (.start source)
        = (parts? source program).map fun parts => ((), .finished source parts))
      ∧ ((parts? source program).isSome = true
        ↔ ∀ construct ∈ (moduleConstructs program).preorder, construct.Placed source)
      ∧ (∀ parts, parts? source program = some parts
        → regionLineages (parts.lineages [])
            = placedRegions source ((moduleConstructs program).partTree.lineages [])
          ∧ (parts.preorder.flatMap (·.region.terms)).Perm (termsOf (Stmt.wordsOfAll program)))
      ∧ ∀ f : List Char → List Char,
          (parts? source (Stmt.retextAll f program)).map (Rose.map (·.region))
            = (parts? source program).map (Rose.map (·.region)) := by
  have gathered := gather_moduleConstructs source program
  refine ⟨Visiting.run_visitModule source program, ?_, ?_, fun f => parts?_retext f source program⟩
  · rw [← gather_isSome_iff _ false, gathered, Option.isSome_map]
  · intro parts read
    rw [read, Option.map_some] at gathered
    constructor
    · have regions : regionLineages (Rose.lineagesAll [] _)
          = placedRegions source (Rose.lineages [] _) := gather_regions _ gathered rfl rfl
      simpa [Rose.lineagesAll] using regions
    · refine List.perm_iff_count.mpr fun term => ?_
      have count := gather_count _ gathered term
      rw [words_moduleConstructs] at count
      simpa [allTerms, Rose.preorderAll] using count

/-- The decorator of the function is a term of the module, and each branch keeps its own terms. -/
theorem branching_visit
    : ∃ parts,
        parts? branching branchingProgram = some parts
        ∧ parts.preorder.map (·.region.terms)
          = [["cc"], ["aa", "bb"], ["dd"], ["ee", "ff"], ["gg", "hh"]]
        ∧ regionLineages (parts.lineages [])
          = placedRegions branching ((moduleConstructs branchingProgram).partTree.lineages [])
        ∧ (parts.preorder.flatMap (·.region.terms)).Perm
            (termsOf (Stmt.wordsOfAll branchingProgram)) := by
  have terms : (parts? branching branchingProgram).map
      (fun parts => parts.preorder.map (·.region.terms))
      = some [["cc"], ["aa", "bb"], ["dd"], ["ee", "ff"], ["gg", "hh"]] := by
    decide +kernel
  obtain ⟨parts, read, terms⟩ := Option.map_eq_some_iff.mp terms
  exact ⟨parts, read, terms, (visit_skeleton branching branchingProgram).2.2.1 parts read⟩

end FoldTree.Source
