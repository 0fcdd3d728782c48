import FoldTree.Proofs.Source.Regions
import FoldTree.Proofs.Subtrees

/-! Text constants have no part in regions. A change of all texts of a program, doc texts among
them, leaves its regions with their terms as they are.
-/

namespace FoldTree.Source

open Text (LineTable)

mutual

/-- An expression with other texts. -/
def Expr.retext (f : List Char → List Char) : Expr → Expr
  | .name word => .name word
  | .text value => .text (f value)
  | .attribute owner word => .attribute (owner.retext f) word
  | .subscript owner index => .subscript (owner.retext f) (index.retext f)
  | .starred value => .starred (value.retext f)
  | .tuple items => .tuple (retextAll f items)
  | .list items => .list (retextAll f items)
  | .labelled word parts => .labelled word (retextAll f parts)
  | .compound parts => .compound (retextAll f parts)

/-- Expressions with other texts. -/
def Expr.retextAll (f : List Char → List Char) : List Expr → List Expr
  | [] => []
  | part :: rest => part.retext f :: retextAll f rest

end

mutual

/-- A statement with other texts. -/
def Stmt.retext (f : List Char → List Char) : Stmt → Stmt
  | .evaluate extent value => .evaluate extent (value.retext f)
  | .simple extent parts => .simple extent (Expr.retextAll f parts)
  | .importing extent words => .importing extent words
  | .define extent sort name decorators header body trailer =>
    .define extent sort name (Expr.retextAll f decorators) (Expr.retextAll f header)
      (retextAll f body) (Expr.retextAll f trailer)
  | .block extent kind clauses => .block extent kind (retextClauses f clauses)

/-- Statements with other texts. -/
def Stmt.retextAll (f : List Char → List Char) : List Stmt → List Stmt
  | [] => []
  | statement :: rest => statement.retext f :: retextAll f rest

/-- Clauses with other texts. -/
def Stmt.retextClauses (f : List Char → List Char) : List Clause → List Clause
  | [] => []
  | .mk header body :: rest =>
    .mk (Expr.retextAll f header) (retextAll f body) :: retextClauses f rest

end

variable (f : List Char → List Char)

mutual

/-- Texts have no words. -/
@[simp]
theorem Expr.words_retext (expr : Expr) : (expr.retext f).words = expr.words := by
  match expr with
  | .name _ | .text _ => rfl
  | .attribute owner _ | .starred owner => simp only [retext, words, words_retext owner]
  | .subscript owner index => simp only [retext, words, words_retext owner, words_retext index]
  | .tuple items | .list items | .labelled _ items | .compound items =>
      simp only [retext, words, wordsOfAll_retextAll items]

/-- Texts among several expressions have no words. -/
@[simp]
theorem Expr.wordsOfAll_retextAll (parts : List Expr)
    : wordsOfAll (retextAll f parts) = wordsOfAll parts := by
  match parts with
  | [] => rfl
  | part :: rest =>
      simp only [retextAll, wordsOfAll, words_retext part, wordsOfAll_retextAll rest]

end

/-- Texts have no terms. -/
@[simp]
theorem Contents.ofExprs_retextAll (parts : List Expr)
    : ofExprs (Expr.retextAll f parts) = ofExprs parts := by
  rw [ofExprs, Expr.wordsOfAll_retextAll, ofExprs]

namespace Stmt

/-- Statements change one by one. -/
theorem retextAll_eq_map (statements : List Stmt)
    : retextAll f statements = statements.map (retext f) := by
  induction statements with
  | nil => rfl
  | cons statement rest ih => rw [retextAll, List.map_cons, ih]

/-- Other texts take the same place. -/
@[simp]
theorem extent_retext (statement : Stmt) : (statement.retext f).extent = statement.extent := by
  cases statement <;> rfl

/-- Imports stay what they are. -/
@[simp]
theorem isImport_retext (statement : Stmt)
    : (statement.retext f).isImport = statement.isImport := by
  cases statement <;> rfl

end Stmt

/-- The text that a body starts with stays in its place. -/
theorem docText?_retextAll (body : List Stmt)
    : docText? (Stmt.retextAll f body)
      = (docText? body).map fun (extent, text) => (extent, f text) := by
  match body with
  | [] => rfl
  | .evaluate extent value :: rest => cases value <;> rfl
  | .simple .. :: _ | .importing .. :: _ | .define .. :: _ | .block .. :: _ => rfl

/-- A doc text lies in the text of the program whatever it says. -/
@[simp]
theorem isSome_docOf?_retextAll (table : LineTable) (body : List Stmt)
    : (docOf? table (Stmt.retextAll f body)).isSome = (docOf? table body).isSome := by
  rw [docOf?, docOf?, docText?_retextAll]
  cases docText? body <;> simp

/-! ### Contents without doc texts -/

/-- A part without its doc text. -/
def Part.plain (part : Part) : Part := { part with doc := none }

namespace Contents

/-- Contents without doc texts. -/
def plain (contents : Contents) : Contents :=
  ⟨contents.terms, contents.below.map (Rose.map Part.plain)⟩

/-- Doc texts of two stretches go one after the other. -/
@[simp]
theorem plain_append (first second : Contents)
    : (first ++ second).plain = first.plain ++ second.plain :=
  ext rfl (List.map_append)

/-- Words have no doc texts. -/
@[simp]
theorem plain_ofWords (words : List String) : (ofWords words).plain = ofWords words := rfl

/-- Expressions have no doc texts. -/
@[simp]
theorem plain_ofExprs (parts : List Expr) : (ofExprs parts).plain = ofExprs parts := rfl

end Contents

variable (table : LineTable)

/-- A region without doc texts is one around contents without them. -/
theorem map_plain_enclosed (extent : Extent) (kind : RegionKind) (name : Option String)
    (doc : Option Doc) (contents : Contents)
    : (enclosed table extent kind name doc contents).map Contents.plain
      = enclosed table extent kind name none contents.plain := by
  unfold enclosed
  cases span? table extent with
  | none => rfl
  | some span => simp [Contents.plain, Rose.map, Rose.mapAll_eq_map, Part.plain]

/-- What a definition gives without doc texts depends on its body without them, if the doc text that
the body starts with lies in the text of the program.
-/
theorem map_plain_define (inClass : Bool) (extent : Extent) (sort : Definition) (name : String)
    (decorators header : List Expr) (body : List Stmt) (trailer : List Expr)
    : ((Stmt.define extent sort name decorators header body trailer).contents table inClass).map
        Contents.plain
      = if (docOf? table body).isSome then
          ((Stmt.contentsOfAll table (sort == .classDef) body).map Contents.plain).bind
            fun inside => (enclosed table extent (definitionKind inClass sort) (some name) none
              (.ofWords [name] ++ .ofExprs header ++ inside ++ .ofExprs trailer)).map
                (.ofExprs decorators ++ ·)
        else none := by
  rw [Stmt.contents]
  cases docOf? table body with
  | none => rfl
  | some doc =>
      cases Stmt.contentsOfAll table (sort == .classDef) body with
      | none => rfl
      | some inside =>
          have plain := map_plain_enclosed table extent (definitionKind inClass sort) (some name) doc
            (.ofWords [name] ++ .ofExprs header ++ inside ++ .ofExprs trailer)
          simp only [Contents.plain_append, Contents.plain_ofWords, Contents.plain_ofExprs] at plain
          simp only [Option.isSome_some, if_true, Option.map_some, Option.bind_eq_bind,
            Option.bind_some, ← plain]
          cases enclosed table extent (definitionKind inClass sort) (some name) doc
              (.ofWords [name] ++ .ofExprs header ++ inside ++ .ofExprs trailer) <;> rfl

/-- A region around contents without doc texts is one without them. -/
theorem map_plain_bind_enclosed (extent : Extent) (kind : RegionKind) (name : Option String)
    (given : Option Contents)
    : (given.bind (enclosed table extent kind name none)).map Contents.plain
      = (given.map Contents.plain).bind (enclosed table extent kind name none) := by
  cases given with
  | none => rfl
  | some contents => exact map_plain_enclosed table extent kind name none contents

/-- Without doc texts, contents follow each other as with them. -/
theorem map_plain_follow (first second third : Option Contents)
    : (do
        let before ← first
        let here ← second
        return before ++ here ++ (← third)).map Contents.plain
      = do
          let before ← first.map Contents.plain
          let here ← second.map Contents.plain
          return before ++ here ++ (← third.map Contents.plain) := by
  cases first <;> cases second <;> cases third <;> simp

mutual

/-- A statement with other texts gives the same regions. -/
theorem contents_retext (inClass : Bool) (statement : Stmt)
    : ((statement.retext f).contents table inClass).map Contents.plain
      = (statement.contents table inClass).map Contents.plain := by
  match statement with
  | .evaluate _ value =>
      simp only [Stmt.retext, Stmt.contents, Contents.ofExprs, Expr.wordsOfAll, Expr.words_retext]
  | .simple _ parts => simp only [Stmt.retext, Stmt.contents, Contents.ofExprs_retextAll]
  | .importing _ words => rfl
  | .define extent sort name decorators header body trailer =>
      rw [Stmt.retext, map_plain_define, map_plain_define, isSome_docOf?_retextAll,
        contentsOfAll_retext _ body]
      simp only [Contents.ofExprs_retextAll]
  | .block extent kind clauses =>
      rw [Stmt.retext, Stmt.contents, Stmt.contents]
      split
      · rw [map_plain_bind_enclosed, map_plain_bind_enclosed,
          clauseContents_retext false clauses]
      · exact clauseContents_retext inClass clauses

/-- Statements with other texts give the same regions. -/
theorem contentsOfAll_retext (inClass : Bool) (statements : List Stmt)
    : (Stmt.contentsOfAll table inClass (Stmt.retextAll f statements)).map Contents.plain
      = (Stmt.contentsOfAll table inClass statements).map Contents.plain := by
  match statements with
  | [] => rfl
  | statement :: rest =>
      have follow := map_plain_follow (some .empty)
      rw [Stmt.retextAll, Stmt.contentsOfAll, Stmt.contentsOfAll]
      refine (follow _ _).trans (Eq.trans ?_ (follow _ _).symm)
      rw [contents_retext inClass statement, contentsOfAll_retext inClass rest]

/-- Clauses with other texts give the same regions. -/
theorem clauseContents_retext (inClass : Bool) (clauses : List Clause)
    : (Stmt.clauseContents table inClass (Stmt.retextClauses f clauses)).map Contents.plain
      = (Stmt.clauseContents table inClass clauses).map Contents.plain := by
  match clauses with
  | [] => rfl
  | .mk header body :: rest =>
      have follow := map_plain_follow (some (.ofExprs header))
      rw [Stmt.retextClauses, Stmt.clauseContents, Stmt.clauseContents, Contents.ofExprs_retextAll]
      refine (follow _ _).trans (Eq.trans ?_ (follow _ _).symm)
      rw [contentsOfAll_retext inClass body, clauseContents_retext inClass rest]

end

/-! ### Modules -/

/-- A run of imports with other texts makes the same region. -/
theorem importRun_retext (run : List Stmt)
    : (importRun table (Stmt.retextAll f run)).map Contents.plain
      = (importRun table run).map Contents.plain := by
  have same := contentsOfAll_retext f table false run
  unfold importRun
  rw [Stmt.retextAll_eq_map] at same ⊢
  rw [List.head?_map, List.getLast?_map]
  cases run.head? with
  | none => rfl
  | some first =>
      cases run.getLast? with
      | none => rfl
      | some last =>
          simp only [Option.map_some, Stmt.extent_retext, Option.bind_eq_bind]
          split
          · refine (map_plain_bind_enclosed table _ .imports none _).trans (Eq.trans ?_
              (map_plain_bind_enclosed table _ .imports none _).symm)
            rw [same]
          · simpa only [Option.pure_def, Option.bind_fun_some] using same

/-- The statements of a module with other texts make the same regions, by induction on them. -/
theorem moduleContents_retext (run statements : List Stmt)
    : (moduleContents table (Stmt.retextAll f run) (Stmt.retextAll f statements)).map Contents.plain
      = (moduleContents table run statements).map Contents.plain := by
  induction statements generalizing run with
  | nil => exact importRun_retext f table run
  | cons statement rest ih =>
      rw [Stmt.retextAll, moduleContents, moduleContents, Stmt.isImport_retext]
      split
      · have grown := ih (run ++ [statement])
        rwa [Stmt.retextAll_eq_map f (run ++ [statement]), List.map_append, List.map_singleton,
          ← Stmt.retextAll_eq_map] at grown
      · have later : (moduleContents table [] (Stmt.retextAll f rest)).map Contents.plain = _ := ih []
        rw [map_plain_follow, map_plain_follow, importRun_retext, contents_retext, later]

/-- The regions of a program are those of its contents without doc texts, if the doc text that it
starts with lies in the text.
-/
theorem map_region_parts? (source : List Char) (program : List Stmt)
    : (parts? source program).map (Rose.map (·.region))
      = if (docOf? (LineTable.ofText source) program).isSome then
          ((moduleContents (LineTable.ofText source) [] program).map Contents.plain).map
            fun contents => .node ⟨0, 0, source.length, RegionKind.module.word, none, contents.terms⟩
              (contents.below.map (Rose.map (·.region)))
        else none := by
  rw [parts?]
  cases docOf? (LineTable.ofText source) program with
  | none => rfl
  | some doc =>
      cases moduleContents (LineTable.ofText source) [] program with
      | none => rfl
      | some contents =>
          simp only [Option.isSome_some, if_true, Option.map_some, Option.bind_eq_bind,
            Option.bind_some, Option.pure_def, Rose.map, Rose.mapAll_eq_map, Contents.plain,
            List.map_map, Function.comp_def, Rose.map_map, Part.plain]

/-- A program with other texts, doc texts among them, has the same regions with the same terms. -/
theorem parts?_retext (source : List Char) (program : List Stmt)
    : (parts? source (Stmt.retextAll f program)).map (Rose.map (·.region))
      = (parts? source program).map (Rose.map (·.region)) := by
  have same : (moduleContents (LineTable.ofText source) [] (Stmt.retextAll f program)).map
      Contents.plain = _ := moduleContents_retext f (LineTable.ofText source) [] program
  rw [map_region_parts?, map_region_parts?, isSome_docOf?_retextAll, same]

end FoldTree.Source
