import FoldTree.Proofs.Source.Regions
import Mathlib.Data.List.SplitBy

/-! The constructs of a program as one tree, in the order in which its words count. Some constructs
make regions, and what is gathered below one of these, up to the next ones, are the terms of its
region; the skeleton of a program is what its tree gathers.
-/

namespace FoldTree.Source

open Text (LineTable)

/-- What stands at a place of a program: a word, a phrase of whatever kind, or what may make a
region, with the text that it starts with.
-/
inductive Construct where
  | word (word : String)
  | phrase
  | module (text : Option (Extent × List Char))
  | imports (extent : Extent)
  | definition (extent : Extent) (sort : Definition) (name : String)
      (text : Option (Extent × List Char))
  | block (extent : Extent) (kind : BlockKind)

namespace Construct

/-- The words of a construct itself. -/
def words : Construct → List String
  | .word spelling => [spelling]
  | _ => []

/-- Whether a construct makes a region: the module, every definition, and runs of imports and
compound statements of more than one line.
-/
def makesRegion : Construct → Bool
  | .module _ => true
  | .definition .. => true
  | .imports extent => extent.isMultiline
  | .block extent _ => extent.isMultiline
  | _ => false

/-- A construct that makes a region is no word. -/
theorem words_of_makesRegion {construct : Construct} (makes : construct.makesRegion = true)
    : construct.words = [] := by
  cases construct <;> first | rfl | cases makes

/-- Whether a construct is a class. -/
def isClass : Construct → Bool
  | .definition _ sort _ _ => sort == .classDef
  | _ => false

/-- The kind of region that a construct makes. -/
def kind (inClass : Bool) : Construct → RegionKind
  | .definition _ sort _ _ => definitionKind inClass sort
  | .imports _ => .imports
  | .block _ _ => .block
  | _ => .module

/-- The name of the region that a construct makes. -/
def name? : Construct → Option String
  | .definition _ _ name _ => some name
  | .block _ kind => some kind.word
  | _ => none

/-- The offset and length of the region that a construct makes. The module goes all over the text.
-/
def span? (source : List Char) : Construct → Option (Nat × Int)
  | .module _ => some (0, source.length)
  | .definition extent .. => Source.span? (LineTable.ofText source) extent
  | .imports extent => Source.span? (LineTable.ofText source) extent
  | .block extent _ => Source.span? (LineTable.ofText source) extent
  | _ => none

/-- The text that a construct starts with, if that is a module or a definition. -/
def text? : Construct → Option (Extent × List Char)
  | .module text => text
  | .definition _ _ _ text => text
  | _ => none

/-- The doc text of the region that a construct makes; the outer option is for its place. -/
def doc? (source : List Char) (construct : Construct) : Option (Option Doc) :=
  match construct.text? with
  | none => some none
  | some (extent, text) =>
    (Source.span? (LineTable.ofText source) extent).map fun (start, length) =>
      some ⟨start, length, Term.splitText text⟩

/-- The doc text that a body starts with is that of its construct. -/
theorem docOf?_eq {source : List Char} {body : List Stmt} {construct : Construct}
    (same : construct.text? = docText? body)
    : docOf? (LineTable.ofText source) body = construct.doc? source := by
  cases starts : docText? body <;> simp only [docOf?, doc?, same, starts]

end Construct

/-! ### Trees of constructs -/

/-- A word as a tree. -/
def wordConstruct (word : String) : Rose Construct := .node (.word word) []

mutual

/-- The constructs of an expression. -/
def Expr.constructs : Expr → Rose Construct
  | .name word => wordConstruct word
  | .text _ => .node .phrase []
  | .attribute owner word => .node .phrase [owner.constructs, wordConstruct word]
  | .subscript owner index => .node .phrase [owner.constructs, index.constructs]
  | .starred value => .node .phrase [value.constructs]
  | .tuple items => .node .phrase (constructsOfAll items)
  | .list items => .node .phrase (constructsOfAll items)
  | .labelled word parts => .node .phrase (wordConstruct word :: constructsOfAll parts)
  | .compound parts => .node .phrase (constructsOfAll parts)

/-- The constructs of several expressions. -/
def Expr.constructsOfAll : List Expr → List (Rose Construct)
  | [] => []
  | part :: rest => part.constructs :: constructsOfAll rest

end

mutual

/-- The constructs of a statement. The decorators of a definition stand in front of it. -/
def Stmt.constructs : Stmt → Rose Construct
  | .evaluate _ value => value.constructs
  | .simple _ parts => .node .phrase (Expr.constructsOfAll parts)
  | .importing _ words => .node .phrase (words.map wordConstruct)
  | .define extent sort name decorators header body trailer =>
    .node .phrase (Expr.constructsOfAll decorators ++
      [.node (.definition extent sort name (docText? body))
        (wordConstruct name :: Expr.constructsOfAll header ++ constructsOfAll body
          ++ Expr.constructsOfAll trailer)])
  | .block extent kind clauses => .node (.block extent kind) (clauseConstructs clauses)

/-- The constructs of several statements. -/
def Stmt.constructsOfAll : List Stmt → List (Rose Construct)
  | [] => []
  | statement :: rest => statement.constructs :: constructsOfAll rest

/-- The constructs of clauses, whose headers and bodies follow each other. -/
def Stmt.clauseConstructs : List Clause → List (Rose Construct)
  | [] => []
  | .mk header body :: rest =>
    Expr.constructsOfAll header ++ constructsOfAll body ++ clauseConstructs rest

end

/-- The statements of a module in their order, imports that follow each other together and all other
statements by themselves.
-/
def importRuns (program : List Stmt) : List (List Stmt) :=
  program.splitBy fun one other => one.isImport && other.isImport

/-- The constructs of a run of imports, or of a statement that is none. -/
def runConstructs (run : List Stmt) : List (Rose Construct) :=
  match run.head?, run.getLast? with
  | some first, some last =>
    if first.isImport then
      [.node (.imports ⟨first.extent.first, last.extent.behind⟩) (Stmt.constructsOfAll run)]
    else Stmt.constructsOfAll run
  | _, _ => []

/-- The constructs of a program. -/
def moduleConstructs (program : List Stmt) : Rose Construct :=
  .node (.module (docText? program)) ((importRuns program).flatMap runConstructs)

/-! ### Gathering -/

mutual

/-- What a construct gives the region around it, which may be a class: a region, or else its words
and what there is below it.
-/
def gather (source : List Char) (inClass : Bool) : Rose Construct → Option Contents
  | .node construct below =>
    if construct.makesRegion then do
      let (start, length) ← construct.span? source
      let doc ← construct.doc? source
      let inside ← gatherAll source construct.isClass below
      let region : Region :=
        ⟨0, start, length, (construct.kind inClass).word, construct.name?, inside.terms⟩
      return ⟨[], [.node ⟨region, doc⟩ inside.below]⟩
    else (gatherAll source inClass below).map (.ofWords construct.words ++ ·)

/-- What several constructs give the region around them. -/
def gatherAll (source : List Char) (inClass : Bool) : List (Rose Construct) → Option Contents
  | [] => some .empty
  | construct :: rest => do
    let first ← gather source inClass construct
    return first ++ (← gatherAll source inClass rest)

end

section

variable (source : List Char) (inClass : Bool)

/-- Constructs give what those of one stretch do, and then those of the next, by induction. -/
theorem gatherAll_append (constructs rest : List (Rose Construct))
    : gatherAll source inClass (constructs ++ rest)
      = (gatherAll source inClass constructs).bind fun first =>
          (gatherAll source inClass rest).map fun later => first ++ later := by
  induction constructs with
  | nil =>
      simp only [List.nil_append, gatherAll, Option.bind_some, Contents.empty_append]
      exact Option.map_id'.symm
  | cons construct others ih =>
      rw [List.cons_append, gatherAll, gatherAll, ih]
      cases gather source inClass construct <;> cases gatherAll source inClass others
        <;> cases gatherAll source inClass rest
      all_goals simp [Contents.append_assoc]

/-- What a construct gives is its region, or its words and what there is below it. -/
theorem gather_cases {construct : Construct} {below : List (Rose Construct)} {contents : Contents}
    (gathered : gather source inClass (.node construct below) = some contents)
    : (construct.makesRegion = true
        ∧ ∃ span doc inside,
            construct.span? source = some span
            ∧ construct.doc? source = some doc
            ∧ gatherAll source construct.isClass below = some inside
            ∧ contents = ⟨[], [.node ⟨⟨0, span.1, span.2, (construct.kind inClass).word,
                construct.name?, inside.terms⟩, doc⟩ inside.below]⟩)
      ∨ (construct.makesRegion = false
        ∧ ∃ inside,
            gatherAll source inClass below = some inside
            ∧ contents = .ofWords construct.words ++ inside) := by
  rw [gather] at gathered
  split at gathered
  · rename_i makes
    obtain ⟨span, placed, gathered⟩ := Option.bind_eq_some_iff.mp gathered
    obtain ⟨doc, written, gathered⟩ := Option.bind_eq_some_iff.mp gathered
    obtain ⟨inside, inner, gathered⟩ := Option.bind_eq_some_iff.mp gathered
    cases gathered
    exact Or.inl ⟨makes, span, doc, inside, placed, written, inner, rfl⟩
  · rename_i makes
    obtain ⟨inside, inner, rfl⟩ := Option.map_eq_some_iff.mp gathered
    exact Or.inr ⟨Bool.eq_false_iff.mpr makes, inside, inner, rfl⟩

/-- What several constructs give is what the first one does and then what the rest do. -/
theorem gatherAll_cases {construct : Rose Construct} {rest : List (Rose Construct)}
    {contents : Contents} (gathered : gatherAll source inClass (construct :: rest) = some contents)
    : ∃ first later,
        gather source inClass construct = some first
        ∧ gatherAll source inClass rest = some later
        ∧ contents = first ++ later := by
  rw [gatherAll] at gathered
  obtain ⟨first, one, gathered⟩ := Option.bind_eq_some_iff.mp gathered
  obtain ⟨later, others, gathered⟩ := Option.bind_eq_some_iff.mp gathered
  cases gathered
  exact ⟨first, later, one, others, rfl⟩

/-- A construct that makes no region gives its words and what there is below it. -/
theorem gather_of_not_makesRegion {construct : Construct} (none : construct.makesRegion = false)
    (below : List (Rose Construct))
    : gather source inClass (.node construct below)
      = (gatherAll source inClass below).map (.ofWords construct.words ++ ·) := by
  rw [gather, none]
  rfl

/-- A phrase gives what there is below it. -/
theorem gather_phrase (below : List (Rose Construct))
    : gather source inClass (.node .phrase below) = gatherAll source inClass below := by
  rw [gather_of_not_makesRegion source inClass rfl]
  exact congrFun Option.map_id _

/-- One construct gives what it does by itself. -/
theorem gatherAll_singleton (construct : Rose Construct)
    : gatherAll source inClass [construct] = gather source inClass construct := by
  rw [gatherAll]
  cases gather source inClass construct <;> simp [gatherAll]

/-- A word gives its terms. -/
theorem gather_wordConstruct (word : String)
    : gather source inClass (wordConstruct word) = some (.ofWords [word]) := by
  rw [wordConstruct, gather_of_not_makesRegion source inClass rfl, gatherAll]
  exact congrArg some (Contents.append_empty _)

/-- Words give their terms, by induction. -/
theorem gatherAll_words (words : List String)
    : gatherAll source inClass (words.map wordConstruct) = some (.ofWords words) := by
  induction words with
  | nil => rfl
  | cons word rest ih =>
      rw [List.map_cons, gatherAll, gather_wordConstruct, ih]
      exact congrArg some (Contents.ofWords_append [word] rest).symm

mutual

/-- An expression gives the terms of its words. -/
theorem gather_expr (expr : Expr)
    : gather source inClass expr.constructs = some (.ofWords expr.words) := by
  match expr with
  | .name word => exact gather_wordConstruct source inClass word
  | .text value => rw [Expr.constructs, gather_phrase, gatherAll, Expr.words]; rfl
  | .attribute owner word =>
      rw [Expr.constructs, gather_phrase, gatherAll, gather_expr owner, gatherAll_singleton,
        gather_wordConstruct, Expr.words, Contents.ofWords_append]
      rfl
  | .subscript owner index =>
      rw [Expr.constructs, gather_phrase, gatherAll, gather_expr owner, gatherAll_singleton,
        gather_expr index, Expr.words, Contents.ofWords_append]
      rfl
  | .starred value =>
      rw [Expr.constructs, gather_phrase, gatherAll_singleton, gather_expr value, Expr.words]
  | .tuple items | .list items | .compound items =>
      rw [Expr.constructs, gather_phrase, gather_exprs items, Expr.words, Contents.ofExprs]
  | .labelled word parts =>
      have split := Contents.ofWords_append [word] (Expr.wordsOfAll parts)
      rw [List.singleton_append] at split
      rw [Expr.constructs, gather_phrase, gatherAll, gather_wordConstruct, gather_exprs parts,
        Expr.words, split]
      rfl

/-- Several expressions give the terms of their words. -/
theorem gather_exprs (parts : List Expr)
    : gatherAll source inClass (Expr.constructsOfAll parts) = some (.ofExprs parts) := by
  match parts with
  | [] => rw [Expr.constructsOfAll, gatherAll, Contents.ofExprs, Expr.wordsOfAll]; rfl
  | part :: rest =>
      rw [Expr.constructsOfAll, gatherAll, gather_expr part, gather_exprs rest]
      simp only [Contents.ofExprs, Expr.wordsOfAll, Contents.ofWords_append]
      rfl

end

mutual

/-- A statement gives the region around it what its constructs do. -/
theorem gather_stmt (inClass : Bool) (statement : Stmt)
    : gather source inClass statement.constructs
      = statement.contents (LineTable.ofText source) inClass := by
  match statement with
  | .evaluate _ value =>
      rw [Stmt.constructs, Stmt.contents, gather_expr, Contents.ofExprs, Expr.wordsOfAll,
        Expr.wordsOfAll, List.append_nil]
  | .simple _ parts => rw [Stmt.constructs, Stmt.contents, gather_phrase, gather_exprs]
  | .importing _ words => rw [Stmt.constructs, Stmt.contents, gather_phrase, gatherAll_words]
  | .define extent sort name decorators header body trailer =>
      -- decorators give to the region around; name, header, body and trailer to its own
      have below : gatherAll source (sort == .classDef)
          (wordConstruct name :: Expr.constructsOfAll header ++ Stmt.constructsOfAll body
            ++ Expr.constructsOfAll trailer)
          = (Stmt.contentsOfAll (LineTable.ofText source) (sort == .classDef) body).map fun inside =>
              .ofWords [name] ++ .ofExprs header ++ inside ++ .ofExprs trailer := by
        rw [gatherAll_append, gatherAll_append, gatherAll, gather_wordConstruct, gather_exprs,
          gather_exprs, gather_stmts]
        cases Stmt.contentsOfAll (LineTable.ofText source) (sort == .classDef) body <;> rfl
      rw [Stmt.constructs, Stmt.contents, gather_phrase, gatherAll_append, gather_exprs,
        gatherAll_singleton, gather, ← Construct.docOf?_eq rfl]
      simp only [Construct.makesRegion, if_true, Construct.span?, Construct.isClass, below,
        enclosed]
      cases docOf? (LineTable.ofText source) body <;>
        cases span? (LineTable.ofText source) extent <;>
        cases Stmt.contentsOfAll (LineTable.ofText source) (sort == .classDef) body <;> rfl
  | .block extent kind clauses =>
      rw [Stmt.constructs, Stmt.contents, gather]
      simp only [Construct.makesRegion, Construct.span?, Construct.doc?, Construct.text?,
        Construct.isClass, gather_clauses]
      unfold enclosed
      split
      · cases span? (LineTable.ofText source) extent <;>
          cases Stmt.clauseContents (LineTable.ofText source) false clauses <;> rfl
      · exact congrFun Option.map_id _

/-- Several statements give the region around them what their constructs do. -/
theorem gather_stmts (inClass : Bool) (statements : List Stmt)
    : gatherAll source inClass (Stmt.constructsOfAll statements)
      = Stmt.contentsOfAll (LineTable.ofText source) inClass statements := by
  match statements with
  | [] => rw [Stmt.constructsOfAll, Stmt.contentsOfAll, gatherAll]
  | statement :: rest =>
      rw [Stmt.constructsOfAll, Stmt.contentsOfAll, gatherAll, gather_stmt inClass statement,
        gather_stmts inClass rest]

/-- Clauses give the region around them what their constructs do. -/
theorem gather_clauses (inClass : Bool) (clauses : List Clause)
    : gatherAll source inClass (Stmt.clauseConstructs clauses)
      = Stmt.clauseContents (LineTable.ofText source) inClass clauses := by
  match clauses with
  | [] => rw [Stmt.clauseConstructs, Stmt.clauseContents, gatherAll]
  | .mk header body :: rest =>
      rw [Stmt.clauseConstructs, Stmt.clauseContents, gatherAll_append, gatherAll_append,
        gather_exprs, gather_stmts inClass body, gather_clauses inClass rest]
      cases Stmt.contentsOfAll (LineTable.ofText source) inClass body <;>
        cases Stmt.clauseContents (LineTable.ofText source) inClass rest <;> rfl

end

end

/-! ### Modules -/

/-- Imports make one run. -/
theorem flatMap_importRuns {run : List Stmt}
    (imports : ∀ statement ∈ run, statement.isImport = true)
    : (importRuns run).flatMap runConstructs = runConstructs run := by
  by_cases bare : run = []
  · subst bare
    rfl
  · have chain : run.IsChain fun one other => (one.isImport && other.isImport) = true := by
      refine (List.pairwise_of_forall_mem_list fun one member other member' => ?_).isChain
      rw [imports one member, imports other member']
      rfl
    rw [importRuns, List.splitBy_of_isChain bare chain, List.flatMap_singleton]

/-- A statement that is no import stands by itself between the runs before and behind it. -/
theorem importRuns_append_cons {statement : Stmt} (single : statement.isImport = false)
    (run rest : List Stmt)
    : importRuns (run ++ statement :: rest)
      = importRuns run ++ [statement] :: importRuns rest := by
  have before : ∀ one ∈ run.getLast?, (one.isImport && statement.isImport) = false := by
    simp [single]
  have behind : ∀ one ∈ [statement].getLast?, ∀ other ∈ rest.head?,
      (one.isImport && other.isImport) = false := by
    simp [single]
  rw [importRuns, List.splitBy_append_cons rest before, ← List.singleton_append,
    List.splitBy_append behind]
  rfl

/-- A run of imports gives the module what its constructs do. -/
theorem gather_importRun (source : List Char) {run : List Stmt}
    (imports : ∀ statement ∈ run, statement.isImport = true)
    : gatherAll source false (runConstructs run) = importRun (LineTable.ofText source) run := by
  unfold runConstructs importRun
  cases starts : run.head? with
  | none => simp only [gatherAll]
  | some first =>
      cases ends : run.getLast? with
      | none => simp only [gatherAll]
      | some last =>
          simp only [imports first (List.mem_of_mem_head? starts), if_true, gatherAll_singleton,
            gather, Construct.makesRegion, Construct.span?, Construct.doc?, Construct.text?,
            Construct.isClass, gather_stmts]
          unfold enclosed
          split
          · cases span? (LineTable.ofText source) ⟨first.extent.first, last.extent.behind⟩ <;>
              cases Stmt.contentsOfAll (LineTable.ofText source) false run <;> rfl
          · cases Stmt.contentsOfAll (LineTable.ofText source) false run <;> rfl

/-- The statements of a module give it what the constructs do of the runs that they come in. -/
theorem gather_module (source : List Char) (run statements : List Stmt)
    (imports : ∀ statement ∈ run, statement.isImport = true)
    : gatherAll source false ((importRuns (run ++ statements)).flatMap runConstructs)
      = moduleContents (LineTable.ofText source) run statements := by
  induction statements generalizing run with
  | nil =>
      rw [moduleContents, List.append_nil, flatMap_importRuns imports,
        gather_importRun source imports]
  | cons statement rest ih =>
      rw [moduleContents]
      cases isImport : statement.isImport with
      | true =>
          rw [List.append_cons, if_pos rfl]
          refine ih _ fun other member => ?_
          rcases List.mem_append.mp member with member | member
          · exact imports other member
          · rw [List.mem_singleton.mp member]
            exact isImport
      | false =>
          -- the run ends here, and the next one starts behind the statement
          have later := ih [] fun _ absent => absurd absent List.not_mem_nil
          have alone : runConstructs [statement] = [statement.constructs] := by
            simp [runConstructs, isImport, Stmt.constructsOfAll]
          rw [importRuns_append_cons isImport, List.flatMap_append, List.flatMap_cons, alone,
            flatMap_importRuns imports, gatherAll_append, gather_importRun source imports,
            List.singleton_append, gatherAll, gather_stmt]
          rw [List.nil_append] at later
          rw [later]
          cases importRun (LineTable.ofText source) run <;>
            cases statement.contents (LineTable.ofText source) false <;>
            cases moduleContents (LineTable.ofText source) [] rest
          all_goals simp [Contents.append_assoc]

/-- The skeleton of a program is what its constructs gather. -/
theorem gather_moduleConstructs (source : List Char) (program : List Stmt)
    : gather source false (moduleConstructs program)
      = (parts? source program).map fun parts => ⟨[], [parts]⟩ := by
  have all := gather_module source [] program fun _ absent => absurd absent List.not_mem_nil
  rw [List.nil_append] at all
  rw [moduleConstructs, gather, ← Construct.docOf?_eq rfl]
  simp only [Construct.makesRegion, if_true, Construct.span?, Construct.isClass, all, parts?]
  cases docOf? (LineTable.ofText source) program <;>
    cases moduleContents (LineTable.ofText source) [] program <;> rfl

end FoldTree.Source
