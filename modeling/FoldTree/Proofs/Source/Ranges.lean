import FoldTree.Proofs.Source.Regions
import FoldTree.Proofs.Tree.Sharing

/-! Ranges of the regions of any program, read from a text or not. Where statements that belong
together stand one behind the other, and inside of what they belong to, so do the regions that are
made of them.
-/

namespace FoldTree

/-- The offsets that a region starts at and ends before. -/
def Region.range (region : Region) : Int × Int := (region.start, region.stop)

namespace Source

open Text (placeAt LineTable)

/-! ### Places in order -/

/-- One place is no later than another: on an earlier line, or in no later column of the same one.
-/
instance : LE Position where
  le place other := place.line < other.line ∨ place.line = other.line ∧ place.column ≤ other.column

namespace Position

/-- What it means for a place to be no later than another. -/
theorem le_def {place other : Position}
    : place ≤ other
      ↔ place.line < other.line ∨ place.line = other.line ∧ place.column ≤ other.column :=
  Iff.rfl

instance (place other : Position) : Decidable (place ≤ other) :=
  decidable_of_iff _ le_def.symm

/-- A place is no later than itself. -/
theorem le_refl (place : Position) : place ≤ place := Or.inr ⟨rfl, Nat.le_refl _⟩

/-- What is no later than a place that is no later than another is no later than this one. -/
theorem le_trans {first second third : Position} (before : first ≤ second) (after : second ≤ third)
    : first ≤ third := by
  rw [le_def] at *
  omega

/-- Two places that are no later than each other are one. -/
theorem le_antisymm {place other : Position} (before : place ≤ other) (after : other ≤ place)
    : place = other := by
  rw [le_def] at *
  rw [show place = ⟨place.line, place.column⟩ from rfl, Position.mk.injEq]
  omega

/-- Reading on goes to no earlier place, by induction on what is read. -/
theorem le_afterAll (place : Position) (text : List Char) : place ≤ place.afterAll text := by
  induction text generalizing place with
  | nil => exact le_refl place
  | cons c rest ih =>
      refine le_trans ?_ (ih (place.after c))
      rw [after]
      split
      · exact Or.inl (Nat.lt_succ_self _)
      · exact Or.inr ⟨rfl, Nat.le_add_right _ _⟩

/-- Places of a text are in the order of their offsets. -/
theorem placeAt_le_iff {source : List Char} {first behind : Nat} (bound : first ≤ source.length)
    (bound' : behind ≤ source.length)
    : placeAt source first ≤ placeAt source behind ↔ first ≤ behind := by
  have forward {first behind : Nat} (order : first ≤ behind)
      : placeAt source first ≤ placeAt source behind := by
    obtain ⟨count, rfl⟩ := Nat.exists_eq_add_of_le order
    rw [← Text.afterAll_placeAt]
    exact le_afterAll _ _
  refine ⟨fun order => ?_, forward⟩
  by_contra late
  -- then both offsets have one place, which stands for one offset only
  have same := le_antisymm order (forward (Nat.le_of_not_le late))
  have place := Text.byteOffset?_placeAt bound
  rw [same, Text.byteOffset?_placeAt bound'] at place
  exact late (Nat.le_of_eq (Option.some.inj place).symm)

end Position

/-! ### Statements in order -/

/-- The statements that a clause stands over. -/
def Clause.body : Clause → List Stmt
  | .mk _ body => body

namespace Stmt

/-- The statements directly inside of a statement, one body after the other. -/
def bodies : Stmt → List Stmt
  | .define _ _ _ _ _ body _ => body
  | .block _ _ clauses => clauses.flatMap Clause.body
  | _ => []

/-- Statements stand one behind the other. -/
def InOrder (statements : List Stmt) : Prop :=
  statements.Pairwise fun one other => one.extent.behind ≤ other.extent.first

instance (statements : List Stmt) : Decidable (InOrder statements) :=
  inferInstanceAs (Decidable (statements.Pairwise fun one other =>
    one.extent.behind ≤ other.extent.first))

/-- A statement starts and ends between characters of a text, and all statements inside of it do so
within its range and one behind the other.
-/
inductive Ranged (source : List Char) : Stmt → Prop
  | mk {statement : Stmt} {first behind : Nat} (order : first ≤ behind)
    (bound : behind ≤ source.length)
    (extent : statement.extent = ⟨placeAt source first, placeAt source behind⟩)
    (within : ∀ inner ∈ statement.bodies,
      statement.extent.first ≤ inner.extent.first ∧ inner.extent.behind ≤ statement.extent.behind)
    (row : InOrder statement.bodies) (inside : ∀ inner ∈ statement.bodies, Ranged source inner)
    : Ranged source statement

end Stmt

/-! ### Ranges in order -/

/-- The range of a part is that of its region. -/
def Part.range (part : Part) : Int × Int := part.region.range

/-- Ranges go forward, hold those right below them, and have these one behind the other. -/
def Nested (ranges : Rose (Int × Int)) : Prop :=
  ∀ part ∈ ranges.subtrees,
    part.value.1 ≤ part.value.2
    ∧ (∀ branch ∈ part.children, part.value.1 ≤ branch.value.1 ∧ branch.value.2 ≤ part.value.2)
    ∧ part.children.Pairwise fun one other => one.value.2 ≤ other.value.1

/-- Ranges stand one behind the other between two offsets, and hold those below them. -/
structure InRow (ranges : List (Rose (Int × Int))) (n m : Int) : Prop where
  order : n ≤ m
  within : ∀ branch ∈ ranges, n ≤ branch.value.1 ∧ branch.value.2 ≤ m
  row : ranges.Pairwise fun one other => one.value.2 ≤ other.value.1
  nested : ∀ branch ∈ ranges, Nested branch

namespace InRow

variable {ranges : List (Rose (Int × Int))} {n k m : Int}

/-- No ranges stand anywhere. -/
theorem nil (order : n ≤ m) : InRow [] n m :=
  ⟨order, by simp, .nil, by simp⟩

/-- A row of ranges stands between offsets further apart, too. -/
theorem mono (inRow : InRow ranges n m) {n' m' : Int} (before : n' ≤ n) (behind : m ≤ m')
    : InRow ranges n' m' := by
  refine ⟨before.trans (inRow.order.trans behind), fun branch member => ?_, inRow.row,
    inRow.nested⟩
  obtain ⟨after, up⟩ := inRow.within branch member
  exact ⟨before.trans after, up.trans behind⟩

/-- Two rows of ranges one behind the other are a row. -/
theorem append {later : List (Rose (Int × Int))} (inRow : InRow ranges n k)
    (behind : InRow later k m)
    : InRow (ranges ++ later) n m := by
  have front := inRow.mono (Int.le_refl n) behind.order
  have back := behind.mono inRow.order (Int.le_refl m)
  refine ⟨front.order, ?_, List.pairwise_append.mpr ⟨inRow.row, behind.row, ?_⟩, ?_⟩
  · intro branch member
    exact (List.mem_append.mp member).elim (front.within branch) (back.within branch)
  · intro one member other member'
    exact (inRow.within one member).2.trans (behind.within other member').1
  · intro branch member
    exact (List.mem_append.mp member).elim (inRow.nested branch) (behind.nested branch)

/-- A range over a row that it holds is nested. -/
theorem nested_node (inRow : InRow ranges n m) : Nested (.node (n, m) ranges) := by
  intro part member
  rw [Rose.subtrees_node, List.mem_cons, List.mem_flatMap] at member
  rcases member with rfl | ⟨branch, below, member⟩
  · exact ⟨inRow.order, inRow.within, inRow.row⟩
  · exact inRow.nested branch below part member

/-- A range over a row that it holds is a row by itself. -/
theorem single (inRow : InRow ranges n m) : InRow [.node (n, m) ranges] n m := by
  refine ⟨inRow.order, ?_, List.pairwise_singleton _ _, ?_⟩
  · simp [Rose.value]
  · simpa using inRow.nested_node

end InRow

/-! ### Regions in order -/

/-- The ranges of the regions in some contents. -/
def Contents.ranges (contents : Contents) : List (Rose (Int × Int)) :=
  contents.below.map (Rose.map Part.range)

namespace Contents

/-- Words have no ranges. -/
@[simp]
theorem ranges_ofWords (words : List String) : (ofWords words).ranges = [] := rfl

/-- Expressions have no ranges. -/
@[simp]
theorem ranges_ofExprs (parts : List Expr) : (ofExprs parts).ranges = [] := rfl

/-- The ranges of one stretch come before those of the next. -/
@[simp]
theorem ranges_append (first second : Contents)
    : (first ++ second).ranges = first.ranges ++ second.ranges := by
  simp only [ranges, below_append, List.map_append]

end Contents

variable {source : List Char}

/-- The places of two offsets of a text have a range. -/
theorem span?_placeAt {first behind : Nat} (bound : first ≤ source.length)
    (bound' : behind ≤ source.length)
    : span? (LineTable.ofText source) ⟨placeAt source first, placeAt source behind⟩
      = some (first, (behind : Int) - first) := by
  simp only [span?, Option.bind_eq_bind, Text.byteOffset?_placeAt bound,
    Text.byteOffset?_placeAt bound']
  rfl

/-- A region around some contents has its range around theirs. -/
theorem exists_enclosed {first behind : Nat} (bound : behind ≤ source.length) (kind : RegionKind)
    (name : Option String) (doc : Option Doc) {contents : Contents}
    (inside : InRow contents.ranges first behind)
    : ∃ region,
        enclosed (LineTable.ofText source) ⟨placeAt source first, placeAt source behind⟩ kind name
            doc contents
          = some region
        ∧ InRow region.ranges first behind := by
  have order : first ≤ behind := Int.ofNat_le.mp inside.order
  have span := span?_placeAt (order.trans bound) bound
  refine ⟨_, by simp only [enclosed, span, Option.bind_eq_bind, Option.bind_some]; rfl, ?_⟩
  have stop : (first : Int) + ((behind : Int) - first) = behind := by omega
  simpa [Contents.ranges, Rose.map, Rose.mapAll_eq_map, Part.range, Region.range,
    Region.stop, stop]
    using inside.single

namespace Stmt

/-- A statement stands between two offsets of a text, and whatever it is in, so do its regions. -/
structure Makes (source : List Char) (statement : Stmt) (first behind : Nat) : Prop where
  bound : behind ≤ source.length
  extent : statement.extent = ⟨placeAt source first, placeAt source behind⟩
  contents : ∀ inClass, ∃ contents,
    statement.contents (LineTable.ofText source) inClass = some contents
    ∧ InRow contents.ranges first behind

/-- The range of a statement goes forward. -/
theorem Makes.order {statement : Stmt} {first behind : Nat}
    (makes : statement.Makes source first behind)
    : first ≤ behind := by
  obtain ⟨contents, -, inRow⟩ := makes.contents false
  exact Int.ofNat_le.mp inRow.order

/-- Statements make their regions between two offsets. -/
def MakeIn (source : List Char) (statements : List Stmt) (n m : Nat) : Prop :=
  n ≤ m
  ∧ ∀ statement ∈ statements, ∃ first behind,
      n ≤ first ∧ behind ≤ m ∧ statement.Makes source first behind

namespace MakeIn

variable {statements rest : List Stmt} {statement : Stmt} {n m : Nat}

/-- What stands before one statement of a row stands before its start, and what stands behind it
stands behind its end.
-/
theorem split (before : List Stmt) (makes : MakeIn source (before ++ statement :: rest) n m)
    (row : InOrder (before ++ statement :: rest))
    : ∃ first behind,
        n ≤ first
        ∧ first ≤ behind
        ∧ statement.Makes source first behind
        ∧ MakeIn source before n first
        ∧ MakeIn source rest behind m := by
  obtain ⟨-, each⟩ := makes
  obtain ⟨-, row, across⟩ := List.pairwise_append.mp row
  obtain ⟨first, behind, after, up, here⟩ :=
    each statement (List.mem_append_right _ List.mem_cons_self)
  refine ⟨first, behind, after, here.order, here, ⟨after, fun other member => ?_⟩, up,
    fun other member => ?_⟩
  · obtain ⟨first', behind', after', -, there⟩ := each other (List.mem_append_left _ member)
    have order := across other member statement List.mem_cons_self
    rw [here.extent, there.extent,
      Position.placeAt_le_iff there.bound (here.order.trans here.bound)] at order
    exact ⟨first', behind', after', order, there⟩
  · obtain ⟨first', behind', -, up', there⟩ :=
      each other (List.mem_append_right _ (List.mem_cons_of_mem _ member))
    have order := (List.pairwise_cons.mp row).1 other member
    rw [here.extent, there.extent,
      Position.placeAt_le_iff here.bound (there.order.trans there.bound)] at order
    exact ⟨first', behind', order, up', there⟩

/-- Statements in a row have a doc text or none, by their first one. -/
theorem exists_doc (makes : MakeIn source statements n m)
    : ∃ doc, docOf? (LineTable.ofText source) statements = some doc := by
  unfold docOf? docText?
  split
  · exact ⟨none, rfl⟩
  · rename_i extent text starts
    split at starts
    · cases starts
      obtain ⟨first, behind, -, -, here⟩ := makes.2 _ List.mem_cons_self
      have extent := here.extent
      rw [Stmt.extent] at extent
      rw [extent, span?_placeAt (here.order.trans here.bound) here.bound]
      exact ⟨_, rfl⟩
    · cases starts

/-- The regions of statements in a row stand in a row, by induction. -/
theorem exists_contentsOfAll (makes : MakeIn source statements n m) (row : InOrder statements)
    (inClass : Bool)
    : ∃ contents,
        contentsOfAll (LineTable.ofText source) inClass statements = some contents
        ∧ InRow contents.ranges n m := by
  induction statements generalizing n with
  | nil => exact ⟨.empty, by rw [contentsOfAll], .nil (Int.ofNat_le.mpr makes.1)⟩
  | cons statement rest ih =>
      obtain ⟨first, behind, after, -, here, -, later⟩ := makes.split [] row
      obtain ⟨front, one, inRow⟩ := here.contents inClass
      obtain ⟨back, others, inRow'⟩ := ih later (List.pairwise_cons.mp row).2
      refine ⟨front ++ back, by rw [contentsOfAll, one, others]; rfl, ?_⟩
      rw [Contents.ranges_append]
      exact (inRow.append inRow').mono (Int.ofNat_le.mpr after) (Int.le_refl _)

/-- Statements in a row reach from the start of the first to the end of the last, by induction. -/
theorem exists_ends (makes : MakeIn source statements n m) (row : InOrder statements)
    {one last : Stmt} (starts : statements.head? = some one)
    (ends : statements.getLast? = some last)
    : ∃ first behind,
        n ≤ first
        ∧ first ≤ behind
        ∧ behind ≤ m
        ∧ behind ≤ source.length
        ∧ one.extent.first = placeAt source first
        ∧ last.extent.behind = placeAt source behind := by
  induction statements generalizing n one with
  | nil => cases starts
  | cons statement rest ih =>
      cases starts
      obtain ⟨first, behind, after, order, here, -, later⟩ := makes.split [] row
      cases rest with
      | nil =>
          rw [List.getLast?_singleton] at ends
          cases ends
          exact ⟨first, behind, after, order, later.1, here.bound, by rw [here.extent],
            by rw [here.extent]⟩
      | cons next rest =>
          rw [List.getLast?_cons_cons] at ends
          obtain ⟨first', behind', between, order', up, bound, -, closes⟩ :=
            ih later (List.pairwise_cons.mp row).2 rfl ends
          exact ⟨first, behind', after, order.trans (between.trans order'), up, bound,
            by rw [here.extent], closes⟩

end MakeIn

/-- The ranges of clauses are those of all statements that they stand over, by induction. -/
theorem map_ranges_clauseContents (table : LineTable) (inClass : Bool) (clauses : List Clause)
    : (clauseContents table inClass clauses).map Contents.ranges
      = (contentsOfAll table inClass (clauses.flatMap Clause.body)).map Contents.ranges := by
  induction clauses with
  | nil => rfl
  | cons clause rest ih =>
      cases clause with
      | mk header body =>
          rw [clauseContents, List.flatMap_cons, contentsOfAll_append, Clause.body]
          cases contentsOfAll table inClass body with
          | none => rfl
          | some inside =>
              cases others : clauseContents table inClass rest with
              | none =>
                  rw [others, Option.map_none, eq_comm, Option.map_eq_none_iff] at ih
                  simp [ih]
              | some later =>
                  rw [others, Option.map_some, eq_comm, Option.map_eq_some_iff] at ih
                  obtain ⟨rest', same, equal⟩ := ih
                  simp [same, equal]

/-- The regions of clauses stand in a row where the statements do that they stand over. -/
theorem MakeIn.exists_clauseContents {clauses : List Clause} {n m : Nat}
    (makes : MakeIn source (clauses.flatMap Clause.body) n m)
    (row : InOrder (clauses.flatMap Clause.body)) (inClass : Bool)
    : ∃ contents,
        clauseContents (LineTable.ofText source) inClass clauses = some contents
        ∧ InRow contents.ranges n m := by
  obtain ⟨inside, read, inRow⟩ := makes.exists_contentsOfAll row inClass
  have same := map_ranges_clauseContents (LineTable.ofText source) inClass clauses
  rw [read, Option.map_some, Option.map_eq_some_iff] at same
  obtain ⟨contents, made, ranges⟩ := same
  exact ⟨contents, made, ranges ▸ inRow⟩

/-! ### Statements -/

/-- A statement whose parts stand in order makes its regions where it stands. Witness: induction on
the statement; the regions of its bodies stand in a row within its range, which one around them may
go through.
-/
theorem Ranged.exists_makes {statement : Stmt} (ranged : statement.Ranged source)
    : ∃ first behind, statement.Makes source first behind := by
  induction ranged with
  | @mk statement first behind order bound extent within row _ ih =>
      refine ⟨first, behind, bound, extent, fun inClass => ?_⟩
      have makes : MakeIn source statement.bodies first behind := by
        refine ⟨order, fun inner member => ?_⟩
        obtain ⟨first', behind', there⟩ := ih inner member
        obtain ⟨after, up⟩ := within inner member
        rw [extent, there.extent] at after up
        exact ⟨first', behind',
          (Position.placeAt_le_iff (order.trans bound)
            (there.order.trans there.bound)).mp after,
          (Position.placeAt_le_iff there.bound bound).mp up, there⟩
      have proper : (first : Int) ≤ behind := Int.ofNat_le.mpr order
      -- whether regions of the bodies go through to the one around is told by the statement
      cases statement with
      | evaluate _ value | simple _ parts | importing _ words =>
          rw [contents]
          exact ⟨_, rfl, .nil proper⟩
      | define _ sort name decorators header body trailer =>
          -- decorators give terms only, so they stand outside of the region and its range
          obtain ⟨doc, written⟩ := makes.exists_doc
          obtain ⟨inside, read, inRow⟩ := makes.exists_contentsOfAll row (sort == .classDef)
          have inRow : InRow (.ofWords [name] ++ .ofExprs header ++ inside
              ++ .ofExprs trailer : Contents).ranges first behind := by
            simpa using inRow
          obtain ⟨region, around, inRow⟩ :=
            exists_enclosed bound (definitionKind inClass sort) (some name) doc inRow
          rw [bodies] at written read
          rw [Stmt.extent] at extent
          refine ⟨.ofExprs decorators ++ region, ?_, by simpa using inRow⟩
          simp only [contents, written, read, extent, around, Option.bind_eq_bind, Option.bind_some]
          rfl
      | block _ kind clauses =>
          rw [Stmt.extent] at extent
          rw [contents]
          split
          · obtain ⟨inside, read, inRow⟩ := makes.exists_clauseContents row false
            rw [read, extent]
            exact exists_enclosed bound .block (some kind.word) none inRow
          · exact makes.exists_clauseContents row inClass

end Stmt

/-! ### Modules -/

open Stmt (MakeIn InOrder)

/-- The region of a run of imports stands where these do. -/
theorem exists_importRun {run : List Stmt} {n m : Nat} (makes : MakeIn source run n m)
    (row : InOrder run) (imports : ∀ statement ∈ run, statement.isImport = true)
    : ∃ contents,
        importRun (LineTable.ofText source) run = some contents
        ∧ InRow contents.ranges n m := by
  have proper : (n : Int) ≤ m := Int.ofNat_le.mpr makes.1
  unfold importRun
  split
  · rename_i one last starts ends
    obtain ⟨first, behind, after, order, up, bound, opens, closes⟩ :=
      makes.exists_ends row starts ends
    obtain ⟨inside, read, -⟩ := makes.exists_contentsOfAll row false
    -- imports hold no regions, so their run is a leaf wherever it ends
    have leaf : inside.ranges = [] := by
      rw [Contents.ranges, below_of_imports imports read, List.map_nil]
    simp only [read, Option.bind_eq_bind, Option.bind_some, opens, closes]
    split
    · have below : InRow inside.ranges first behind := leaf ▸ .nil (Int.ofNat_le.mpr order)
      obtain ⟨region, around, inRow⟩ := exists_enclosed bound .imports none none below
      exact ⟨region, around, inRow.mono (Int.ofNat_le.mpr after) (Int.ofNat_le.mpr up)⟩
    · exact ⟨inside, rfl, leaf ▸ .nil proper⟩
  · exact ⟨.empty, rfl, .nil proper⟩

/-- The regions of a module stand in a row, by induction on the statements behind a run of imports.
-/
theorem exists_moduleContents {run statements : List Stmt} {n m : Nat}
    (makes : MakeIn source (run ++ statements) n m) (row : InOrder (run ++ statements))
    (imports : ∀ statement ∈ run, statement.isImport = true)
    : ∃ contents,
        moduleContents (LineTable.ofText source) run statements = some contents
        ∧ InRow contents.ranges n m := by
  induction statements generalizing run n with
  | nil =>
      rw [List.append_nil] at makes row
      exact exists_importRun makes row imports
  | cons statement rest ih =>
      rw [moduleContents]
      split
      · rename_i isImport
        rw [List.append_cons] at makes row
        refine ih makes row fun other member => ?_
        rcases List.mem_append.mp member with member | member
        · exact imports other member
        · rw [List.mem_singleton.mp member]
          exact isImport
      · obtain ⟨first, behind, -, -, here, before, later⟩ := makes.split run row
        obtain ⟨row, row', -⟩ := List.pairwise_append.mp row
        obtain ⟨imported, read, inRow⟩ := exists_importRun before row imports
        obtain ⟨contents, one, inRow'⟩ := here.contents false
        have behind : MakeIn source ([] ++ rest) behind m := later
        obtain ⟨others, read', inRow''⟩ :=
          ih behind (List.pairwise_cons.mp row').2 (fun _ absent => absurd absent List.not_mem_nil)
        refine ⟨imported ++ contents ++ others, by rw [read, one, read']; rfl, ?_⟩
        rw [Contents.ranges_append, Contents.ranges_append]
        exact (inRow.append inRow').append inRow''

/-- Ranges of a tree are nested where each part holds the ranges right below it, in a row. -/
theorem nested_map_iff {α : Type} (range : α → Int × Int) (t : Rose α)
    : Nested (t.map range)
      ↔ ∀ part ∈ t.subtrees,
          (range part.value).1 ≤ (range part.value).2
          ∧ (∀ branch ∈ part.children,
              (range part.value).1 ≤ (range branch.value).1
              ∧ (range branch.value).2 ≤ (range part.value).2)
          ∧ part.children.Pairwise fun one other =>
              (range one.value).2 ≤ (range other.value).1 := by
  simp only [Nested, Rose.subtrees_map, List.forall_mem_map, Rose.value_map, Rose.children_map,
    List.pairwise_map]

/-- Keys have no part in ranges. -/
theorem map_range_numbered (parts : Rose Part)
    : ((numbered parts).map (·.region)).map Region.range = parts.map Part.range := by
  rw [Rose.map_map, numbered]
  refine Rose.map_number ?_ 0 parts
  intro key part
  rfl

/-- A program whose statements stand in order has a skeleton, in which every region holds those
right below it, and has these one behind the other.
-/
theorem exists_parts?_nested {program : List Stmt}
    (ranged : ∀ statement ∈ program, statement.Ranged source) (row : InOrder program)
    : ∃ parts,
        parts? source program = some parts
        ∧ ∀ part ∈ ((numbered parts).map (·.region)).subtrees,
            part.value.start ≤ part.value.stop
            ∧ (∀ branch ∈ part.children, branch.value.Within part.value)
            ∧ part.children.Pairwise fun one other => one.value.stop ≤ other.value.start := by
  have makes : MakeIn source ([] ++ program) 0 source.length := by
    refine ⟨Nat.zero_le _, fun statement member => ?_⟩
    obtain ⟨first, behind, here⟩ := (ranged statement member).exists_makes
    exact ⟨first, behind, Nat.zero_le _, here.bound, here⟩
  obtain ⟨doc, written⟩ := makes.exists_doc
  obtain ⟨contents, read, inRow⟩ := exists_moduleContents makes row (by simp)
  rw [List.nil_append] at written
  refine ⟨_, by simp only [parts?, written, read, Option.bind_eq_bind, Option.bind_some]; rfl, ?_⟩
  refine (nested_map_iff Region.range _).mp ?_
  rw [map_range_numbered, Rose.map, Rose.mapAll_eq_map]
  simpa [Part.range, Region.range, Region.stop, Contents.ranges] using inRow.nested_node

/-- A decorated function behind two imports, whose body is a statement of two branches. -/
def branching : List Char :=
  "import aa\nimport bb\n@cc\ndef dd():\n if ee: ff\n elif gg:\n  hh".toList

/-- The statements of the text. -/
def branchingProgram : List Stmt :=
  let second : Stmt := .block ⟨⟨6, 1⟩, ⟨7, 4⟩⟩ .conditional
    [.mk [.name "gg"] [.evaluate ⟨⟨7, 2⟩, ⟨7, 4⟩⟩ (.name "hh")]]
  let first : Stmt := .block ⟨⟨5, 1⟩, ⟨7, 4⟩⟩ .conditional
    [.mk [.name "ee"] [.evaluate ⟨⟨5, 8⟩, ⟨5, 10⟩⟩ (.name "ff")], .mk [] [second]]
  [.importing ⟨⟨1, 0⟩, ⟨1, 9⟩⟩ ["aa"], .importing ⟨⟨2, 0⟩, ⟨2, 9⟩⟩ ["bb"],
    .define ⟨⟨4, 0⟩, ⟨7, 4⟩⟩ .function "dd" [.name "cc"] [] [first] []]

/-- The imports and the function are regions of the module, one behind the other, and the branches
are regions of the function, one inside of the other.
-/
theorem branching_nested
    : (∀ statement ∈ branchingProgram, statement.Ranged branching)
      ∧ InOrder branchingProgram
      ∧ ∃ parts,
          parts? branching branchingProgram = some parts
          ∧ ∀ part ∈ ((numbered parts).map (·.region)).subtrees,
              part.value.start ≤ part.value.stop
              ∧ (∀ branch ∈ part.children, branch.value.Within part.value)
              ∧ part.children.Pairwise fun one other => one.value.stop ≤ other.value.start := by
  -- all about places is computed, so only the statements inside of a statement are left
  have step (statement : Stmt) (first behind : Nat)
      (places : (first ≤ behind ∧ behind ≤ branching.length)
        ∧ statement.extent = ⟨placeAt branching first, placeAt branching behind⟩
        ∧ (∀ inner ∈ statement.bodies,
            statement.extent.first ≤ inner.extent.first
            ∧ inner.extent.behind ≤ statement.extent.behind)
        ∧ InOrder statement.bodies)
      (inside : ∀ inner ∈ statement.bodies, inner.Ranged branching)
      : statement.Ranged branching :=
    .mk places.1.1 places.1.2 places.2.1 places.2.2.1 places.2.2.2 inside
  have ranged : ∀ statement ∈ branchingProgram, statement.Ranged branching := by
    simp only [branchingProgram, List.forall_mem_cons]
    refine ⟨step _ 0 9 (by decide) (by simp [Stmt.bodies]),
      step _ 10 19 (by decide) (by simp [Stmt.bodies]),
      step _ 24 59 (by decide) ?_, by simp⟩
    simp only [Stmt.bodies, List.forall_mem_cons]
    refine ⟨step _ 35 59 (by decide) ?_, by simp⟩
    simp only [Stmt.bodies, Clause.body, List.flatMap_cons, List.flatMap_nil, List.append_nil,
      List.cons_append, List.nil_append, List.forall_mem_cons]
    refine ⟨step _ 42 44 (by decide) (by simp [Stmt.bodies]), step _ 46 59 (by decide) ?_, by simp⟩
    simp only [Stmt.bodies, Clause.body, List.flatMap_cons, List.flatMap_nil, List.append_nil,
      List.forall_mem_cons]
    exact ⟨step _ 57 59 (by decide) (by simp [Stmt.bodies]), by simp⟩
  have row : InOrder branchingProgram := by decide
  exact ⟨ranged, row, exists_parts?_nested ranged row⟩

end Source

end FoldTree
