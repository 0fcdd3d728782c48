import FoldTree.Proofs.Source.Grammar.Statement
import FoldTree.Source.Skeleton

/-! Where the regions of a program lie in its text. Statements stand in a row, so the regions that
they make lie one behind the other, and the doc text of a region lies before the regions below it.
-/

namespace FoldTree.Source

open Text (placeAt LineTable)

/-- The doc text of a region lies between two offsets, if there is one. -/
def Doc.Lies (text : List Char) (found : List (Nat × Nat)) (doc : Option Doc) (n m : Nat) : Prop :=
  n ≤ m
  ∧ ∀ written ∈ doc, ∃ first behind,
      n ≤ first
      ∧ behind ≤ m
      ∧ Spanned text found first behind
      ∧ written.start = first
      ∧ written.length = (behind : Int) - first

mutual

/-- A region lies between two offsets, with its doc text and then the regions below it inside. -/
def Part.Lies (text : List Char) (found : List (Nat × Nat)) : Rose Part → Nat → Nat → Prop
  | .node part below, n, m =>
    ∃ first behind,
      n ≤ first
      ∧ behind ≤ m
      ∧ Spanned text found first behind
      ∧ part.region.start = first
      ∧ part.region.length = (behind : Int) - first
      ∧ ∃ k, Doc.Lies text found part.doc first k ∧ Part.LieInRow text found below k behind

/-- Regions lie one behind the other between two offsets. -/
def Part.LieInRow (text : List Char) (found : List (Nat × Nat)) :
    List (Rose Part) → Nat → Nat → Prop
  | [], n, m => n ≤ m
  | branch :: rest, n, m =>
    ∃ k, Part.Lies text found branch n k ∧ Part.LieInRow text found rest k m

end

variable {text : List Char} {found : List (Nat × Nat)} {n k m : Nat}

namespace Part

/-- A region may lie behind an earlier offset. -/
theorem Lies.mono_left {branch : Rose Part} (lies : Lies text found branch n m) {n' : Nat}
    (before : n' ≤ n)
    : Lies text found branch n' m := by
  cases branch
  rw [Lies] at lies ⊢
  obtain ⟨first, behind, after, rest⟩ := lies
  exact ⟨first, behind, before.trans after, rest⟩

/-- The offsets of a region are in order. -/
theorem Lies.le {branch : Rose Part} (lies : Lies text found branch n m) : n ≤ m := by
  cases branch
  rw [Lies] at lies
  obtain ⟨first, behind, after, up, spanned, -⟩ := lies
  exact after.trans (spanned.le.trans up)

/-- The offsets of a row are in order, by induction. -/
theorem LieInRow.le {branches : List (Rose Part)} (row : LieInRow text found branches n m)
    : n ≤ m := by
  induction branches generalizing n with
  | nil => simpa only [LieInRow] using row
  | cons branch rest ih =>
      rw [LieInRow] at row
      obtain ⟨k, lies, row⟩ := row
      exact lies.le.trans (ih row)

/-- A row may lie behind an earlier offset. -/
theorem LieInRow.mono_left {branches : List (Rose Part)} (row : LieInRow text found branches n m)
    {n' : Nat} (before : n' ≤ n)
    : LieInRow text found branches n' m := by
  cases branches with
  | nil =>
      rw [LieInRow] at row ⊢
      exact before.trans row
  | cons branch rest =>
      rw [LieInRow] at row ⊢
      obtain ⟨k, lies, row⟩ := row
      exact ⟨k, lies.mono_left before, row⟩

/-- A row may lie before a later offset, by induction. -/
theorem LieInRow.mono_right {branches : List (Rose Part)} (row : LieInRow text found branches n m)
    {m' : Nat} (behind : m ≤ m')
    : LieInRow text found branches n m' := by
  induction branches generalizing n with
  | nil =>
      rw [LieInRow] at row ⊢
      exact row.trans behind
  | cons branch rest ih =>
      rw [LieInRow] at row ⊢
      obtain ⟨k, lies, row⟩ := row
      exact ⟨k, lies, ih row⟩

/-- Two rows of regions one behind the other are a row, by induction on the first. -/
theorem LieInRow.append {first second : List (Rose Part)} (row : LieInRow text found first n k)
    (later : LieInRow text found second k m)
    : LieInRow text found (first ++ second) n m := by
  induction first generalizing n with
  | nil =>
      rw [LieInRow] at row
      exact later.mono_left row
  | cons branch rest ih =>
      rw [LieInRow] at row
      obtain ⟨middle, lies, row⟩ := row
      rw [List.cons_append, LieInRow]
      exact ⟨middle, lies, ih row⟩

/-- No regions lie anywhere. -/
theorem LieInRow.nil (order : n ≤ m) : LieInRow text found [] n m := by
  rwa [LieInRow]

end Part

/-! ### Regions of statements -/

namespace Contents

/-- Words make no regions. -/
@[simp]
theorem below_ofWords (words : List String) : (ofWords words).below = [] := rfl

/-- Expressions make no regions. -/
@[simp]
theorem below_ofExprs (parts : List Expr) : (ofExprs parts).below = [] := rfl

/-- The regions of one stretch come before those of the next. -/
@[simp]
theorem below_append (first second : Contents)
    : (first ++ second).below = first.below ++ second.below := rfl

/-- The terms of one stretch come before those of the next. -/
@[simp]
theorem terms_append (first second : Contents)
    : (first ++ second).terms = first.terms ++ second.terms := rfl

/-- Contents are known by their terms and their regions. -/
theorem ext {first second : Contents} (terms : first.terms = second.terms)
    (below : first.below = second.below)
    : first = second := by
  cases first
  cases second
  cases terms
  cases below
  rfl

/-- Nothing comes before some contents. -/
@[simp]
theorem empty_append (contents : Contents) : empty ++ contents = contents := rfl

/-- Nothing comes behind some contents. -/
@[simp]
theorem append_empty (contents : Contents) : contents ++ empty = contents :=
  ext (List.append_nil _) (List.append_nil _)

/-- How stretches one behind the other are grouped does not count. -/
theorem append_assoc (first second third : Contents)
    : first ++ second ++ third = first ++ (second ++ third) :=
  ext (List.append_assoc _ _ _) (List.append_assoc _ _ _)

/-- The words of two stretches are those of one after those of the other. -/
theorem ofWords_append (first second : List String)
    : ofWords (first ++ second) = ofWords first ++ ofWords second :=
  ext List.flatMap_append rfl

end Contents

/-- The contents of statements are those of one stretch and then those of the next, by induction. -/
theorem Stmt.contentsOfAll_append (table : LineTable) (inClass : Bool)
    (statements rest : List Stmt)
    : contentsOfAll table inClass (statements ++ rest)
      = (contentsOfAll table inClass statements).bind fun first =>
          (contentsOfAll table inClass rest).map fun later => first ++ later := by
  induction statements with
  | nil =>
      simp only [List.nil_append, contentsOfAll, Option.bind_some, Contents.empty_append]
      exact Option.map_id'.symm
  | cons statement others ih =>
      rw [List.cons_append, contentsOfAll, contentsOfAll, ih]
      cases statement.contents table inClass <;> cases contentsOfAll table inClass others
        <;> cases contentsOfAll table inClass rest
      all_goals simp [Contents.append_assoc]

/-- The places of a phrase stand for its offsets. -/
theorem Spans.span? {extent : Extent} {first behind : Nat}
    (spans : Spans text found extent first behind)
    : span? (LineTable.ofText text) extent = some (first, (behind : Int) - first) := by
  have bound := spans.bound
  simp only [Source.span?, spans.place, Option.bind_eq_bind,
    Text.byteOffset?_placeAt bound, Text.byteOffset?_placeAt (spans.le.trans bound)]
  rfl

/-- A region around some contents lies where its phrase stands. -/
theorem enclosed_lies {extent : Extent} {first behind : Nat}
    (spans : Spans text found extent first behind) {kind : RegionKind} {name : Option String}
    {doc : Option Doc} {contents region : Contents} (written : Doc.Lies text found doc first k)
    (inside : Part.LieInRow text found contents.below k behind)
    (read : enclosed (LineTable.ofText text) extent kind name doc contents = some region)
    : Part.LieInRow text found region.below first behind := by
  simp only [enclosed, spans.span?, Option.bind_eq_bind, Option.bind_some] at read
  cases read
  rw [Part.LieInRow]
  refine ⟨behind, ?_, .nil (Nat.le_refl behind)⟩
  rw [Part.Lies]
  exact ⟨first, behind, Nat.le_refl first, Nat.le_refl behind, spans.toSpanned, rfl, rfl, k,
    written, inside⟩

/-- The doc text that a body starts with lies where its first statement stands. -/
theorem docOf?_lies {statement : Stmt} {rest : List Stmt}
    (stands : statement.Stands text found n k) (order : n ≤ k) {doc : Option Doc}
    (read : docOf? (LineTable.ofText text) (statement :: rest) = some doc)
    : Doc.Lies text found doc n k := by
  refine ⟨order, ?_⟩
  unfold docOf? docText? at read
  split at read
  · rename_i none
    cases read
    simp
  · rename_i extent value starts
    split at starts
    · rename_i same
      cases same
      cases starts
      rw [Stmt.Stands] at stands
      obtain ⟨first, behind, after, up, spans⟩ := stands
      rw [spans.span?] at read
      cases read
      rintro written ⟨⟩
      exact ⟨first, behind, after, up, spans.toSpanned, rfl, rfl⟩
    · cases starts

/-- A statement that a doc text is makes no region. -/
theorem contents_of_docText? {statement : Stmt} {rest : List Stmt} {written : Extent × List Char}
    (starts : docText? (statement :: rest) = some written) {inClass : Bool} {contents : Contents}
    (read : statement.contents (LineTable.ofText text) inClass = some contents)
    : contents.below = [] := by
  unfold docText? at starts
  split at starts
  · rename_i same
    cases same
    rw [Stmt.contents] at read
    cases read
    rfl
  · cases starts

mutual

/-- The regions that a statement makes lie where it stands. -/
theorem contents_lie (statement : Stmt) {n m : Nat} (stands : statement.Stands text found n m)
    {inClass : Bool} {contents : Contents}
    (read : statement.contents (LineTable.ofText text) inClass = some contents)
    : Part.LieInRow text found contents.below n m := by
  cases statement with
  | evaluate extent value | simple extent parts | importing extent words =>
      rw [Stmt.contents] at read
      rw [Stmt.Stands] at stands
      cases read
      obtain ⟨first, behind, after, up, spans⟩ := stands
      exact .nil (after.trans (spans.le.trans up))
  | define extent sort name decorators header body trailer =>
      rw [Stmt.contents] at read
      rw [Stmt.Stands] at stands
      obtain ⟨first, behind, after, up, spans, row⟩ := stands
      obtain ⟨doc, written, read⟩ := Option.bind_eq_some_iff.mp read
      obtain ⟨inside, below, read⟩ := Option.bind_eq_some_iff.mp read
      obtain ⟨region, around, read⟩ := Option.bind_eq_some_iff.mp read
      cases read
      obtain ⟨k, order, docs, row⟩ := contentsOfAll_lie body row below
      have lies := enclosed_lies spans (docs doc written) (by simpa using row) around
      simpa using (lies.mono_left after).mono_right up
  | block extent kind clauses =>
      rw [Stmt.contents] at read
      rw [Stmt.Stands] at stands
      obtain ⟨first, behind, after, up, spans, row⟩ := stands
      split at read
      · obtain ⟨contents, below, around⟩ := Option.bind_eq_some_iff.mp read
        have inside := clauseContents_lie clauses row below
        have written : Doc.Lies text found none first first := ⟨Nat.le_refl first, by simp⟩
        exact ((enclosed_lies spans written inside around).mono_left after).mono_right up
      · exact ((clauseContents_lie clauses row read).mono_left after).mono_right up
termination_by sizeOf statement

/-- The regions that statements in a row make lie behind the doc text that these start with. -/
theorem contentsOfAll_lie (statements : List Stmt) {n m : Nat}
    (row : Stmt.Row text found statements n m) {inClass : Bool} {contents : Contents}
    (read : Stmt.contentsOfAll (LineTable.ofText text) inClass statements = some contents)
    : ∃ k,
        n ≤ k
        ∧ (∀ doc, docOf? (LineTable.ofText text) statements = some doc
            → Doc.Lies text found doc n k)
        ∧ Part.LieInRow text found contents.below k m := by
  cases statements with
  | nil =>
      rw [Stmt.contentsOfAll] at read
      rw [Stmt.Row] at row
      cases read
      refine ⟨n, Nat.le_refl n, ?_, .nil row⟩
      rintro doc ⟨⟩
      exact ⟨Nat.le_refl n, by simp⟩
  | cons statement rest =>
      rw [Stmt.contentsOfAll] at read
      rw [Stmt.Row] at row
      obtain ⟨k, stands, row⟩ := row
      obtain ⟨first, one, read⟩ := Option.bind_eq_some_iff.mp read
      obtain ⟨later, others, read⟩ := Option.bind_eq_some_iff.mp read
      cases read
      have front := contents_lie statement stands one
      obtain ⟨k', order, -, behind⟩ := contentsOfAll_lie rest row others
      cases starts : docText? (statement :: rest) with
      | some written =>
          refine ⟨k, front.le, fun doc read => docOf?_lies stands front.le read, ?_⟩
          simpa [contents_of_docText? starts one] using behind.mono_left order
      | none =>
          refine ⟨n, Nat.le_refl n, fun doc read => ?_, front.append (behind.mono_left order)⟩
          simp only [docOf?, starts] at read
          cases read
          exact ⟨Nat.le_refl n, by simp⟩
termination_by sizeOf statements

/-- The regions that clauses in a row make lie where they stand. -/
theorem clauseContents_lie (clauses : List Clause) {n m : Nat}
    (row : Stmt.ClauseRow text found clauses n m) {inClass : Bool} {contents : Contents}
    (read : Stmt.clauseContents (LineTable.ofText text) inClass clauses = some contents)
    : Part.LieInRow text found contents.below n m := by
  cases clauses with
  | nil =>
      rw [Stmt.clauseContents] at read
      rw [Stmt.ClauseRow] at row
      cases read
      exact .nil row
  | cons clause rest =>
      cases clause with
      | mk header body =>
          rw [Stmt.clauseContents] at read
          rw [Stmt.ClauseRow] at row
          obtain ⟨k, stands, row⟩ := row
          obtain ⟨inside, one, read⟩ := Option.bind_eq_some_iff.mp read
          obtain ⟨later, others, read⟩ := Option.bind_eq_some_iff.mp read
          cases read
          obtain ⟨k', order, -, front⟩ := contentsOfAll_lie body stands one
          have behind := clauseContents_lie rest row others
          simpa using (front.mono_left order).append behind
termination_by sizeOf clauses

end

/-! ### Regions of a module -/

/-- Statements in a row reach from the first to the last of them, by induction. -/
theorem row_spans {run : List Stmt} {first last : Stmt} (row : Stmt.Row text found run n m)
    (starts : run.head? = some first) (ends : run.getLast? = some last)
    : ∃ a d, n ≤ a ∧ d ≤ m ∧ Spans text found ⟨first.extent.first, last.extent.behind⟩ a d := by
  induction run generalizing n first with
  | nil => cases starts
  | cons statement rest ih =>
      cases starts
      rw [Stmt.Row] at row
      obtain ⟨k, stands, row⟩ := row
      obtain ⟨a, b, after, up, spans⟩ := stands.spans
      cases rest with
      | nil =>
          cases ends
          exact ⟨a, b, after, up.trans row.le, spans⟩
      | cons next rest =>
          rw [List.getLast?_cons_cons] at ends
          obtain ⟨c, d, between, up', later⟩ := ih row rfl ends
          obtain ⟨stop, opens, inner, fit⟩ := spans.opens
          obtain ⟨start, inner', closes, fit'⟩ := later.closes
          have order := spans.le
          have order' := later.le
          refine ⟨a, d, after, up', ⟨⟨stop, opens, by omega, fit⟩,
            ⟨start, by omega, closes, fit'⟩⟩, ?_⟩
          have ends := later.place
          rw [Extent.mk.injEq] at ends
          rw [spans.place, ends.2]

/-- Imports make no regions of their own, by induction. -/
theorem below_of_imports {run : List Stmt} (imports : ∀ statement ∈ run, statement.isImport = true)
    {inClass : Bool} {contents : Contents}
    (read : Stmt.contentsOfAll (LineTable.ofText text) inClass run = some contents)
    : contents.below = [] := by
  induction run generalizing contents with
  | nil =>
      rw [Stmt.contentsOfAll] at read
      cases read
      rfl
  | cons statement rest ih =>
      rw [Stmt.contentsOfAll] at read
      obtain ⟨first, one, read⟩ := Option.bind_eq_some_iff.mp read
      obtain ⟨later, others, read⟩ := Option.bind_eq_some_iff.mp read
      cases read
      have none := ih (fun other member => imports other (List.mem_cons_of_mem _ member)) others
      have isImport := imports statement List.mem_cons_self
      cases statement with
      | importing extent words =>
          rw [Stmt.contents] at one
          cases one
          simp [none]
      | _ => cases isImport

/-- The region of a run of imports lies where they stand. -/
theorem importRun_lies {run : List Stmt} (row : Stmt.Row text found run n m)
    (imports : ∀ statement ∈ run, statement.isImport = true) {contents : Contents}
    (read : importRun (LineTable.ofText text) run = some contents)
    : Part.LieInRow text found contents.below n m := by
  unfold importRun at read
  split at read
  · rename_i first last starts ends
    obtain ⟨a, d, after, up, spans⟩ := row_spans row starts ends
    obtain ⟨inside, all, read⟩ := Option.bind_eq_some_iff.mp read
    have leaf := below_of_imports imports all
    split at read
    · have written : Doc.Lies text found none a a := ⟨Nat.le_refl a, by simp⟩
      have below : Part.LieInRow text found inside.below a d := leaf ▸ .nil spans.le
      exact ((enclosed_lies spans written below read).mono_left after).mono_right up
    · cases read
      exact leaf ▸ .nil row.le
  · cases read
    exact .nil row.le

/-- The regions of a module lie where its statements stand, by induction on these. -/
theorem moduleContents_lie {run statements : List Stmt} (before : Stmt.Row text found run n k)
    (imports : ∀ statement ∈ run, statement.isImport = true)
    (row : Stmt.Row text found statements k m) {contents : Contents}
    (read : moduleContents (LineTable.ofText text) run statements = some contents)
    : Part.LieInRow text found contents.below n m := by
  induction statements generalizing run n k contents with
  | nil =>
      rw [moduleContents] at read
      exact (importRun_lies before imports read).mono_right row.le
  | cons statement rest ih =>
      rw [moduleContents] at read
      rw [Stmt.Row] at row
      obtain ⟨middle, stands, row⟩ := row
      split at read
      · rename_i isImport
        have single : Stmt.Row text found [statement] k middle := .cons stands (.nil middle)
        refine ih (before.append single) ?_ row read
        intro other member
        rcases List.mem_append.mp member with member | member
        · exact imports other member
        · rw [List.mem_singleton.mp member]
          exact isImport
      · obtain ⟨gathered, imported, read⟩ := Option.bind_eq_some_iff.mp read
        obtain ⟨first, one, read⟩ := Option.bind_eq_some_iff.mp read
        obtain ⟨later, others, read⟩ := Option.bind_eq_some_iff.mp read
        cases read
        have behind := ih (.nil middle) (by simp) row others
        exact ((importRun_lies before imports imported).append
          (contents_lie statement stands one)).append behind

/-- A region goes all over a text, with its doc text first and then the regions below it. -/
def Part.Fills (text : List Char) (found : List (Nat × Nat)) : Rose Part → Prop
  | .node part below =>
    part.region.start = 0
    ∧ part.region.length = text.length
    ∧ ∃ k, Doc.Lies text found part.doc 0 k ∧ Part.LieInRow text found below k text.length

/-- The regions of a program fill its text. -/
theorem parts?_fill {program : List Stmt} (row : Stmt.Row text found program 0 text.length)
    {parts : Rose Part} (read : parts? text program = some parts)
    : Part.Fills text found parts := by
  obtain ⟨doc, written, read⟩ := Option.bind_eq_some_iff.mp read
  obtain ⟨contents, all, read⟩ := Option.bind_eq_some_iff.mp read
  cases read
  refine ⟨rfl, rfl, ?_⟩
  cases starts : docText? program with
  | none =>
      simp only [docOf?, starts] at written
      cases written
      exact ⟨0, ⟨Nat.le_refl 0, by simp⟩, moduleContents_lie (.nil 0) (by simp) row all⟩
  | some value =>
      cases program with
      | nil => cases starts
      | cons statement rest =>
          rw [Stmt.Row] at row
          obtain ⟨k, stands, row⟩ := row
          refine ⟨k, docOf?_lies stands stands.le written, ?_⟩
          -- the doc text is no import and makes no region, so all regions come behind it
          have single : statement.isImport = false := by
            unfold docText? at starts
            split at starts
            · rename_i same
              cases same
              rfl
            · cases starts
          rw [moduleContents, if_neg (by simp [single])] at all
          obtain ⟨gathered, imported, all⟩ := Option.bind_eq_some_iff.mp all
          obtain ⟨first, one, all⟩ := Option.bind_eq_some_iff.mp all
          obtain ⟨later, others, all⟩ := Option.bind_eq_some_iff.mp all
          cases all
          cases imported
          have behind := moduleContents_lie (.nil k) (by simp) row others
          simpa [contents_of_docText? starts one, Contents.empty] using behind

end FoldTree.Source
