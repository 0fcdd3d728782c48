import FoldTree.Proofs.Source.Grammar.Leading
import FoldTree.Proofs.Source.Lexing

/-! Where statements stand in a text. Each goes from the start of one token to the end of another;
the statements of a body stand one behind the other inside of what they belong to.
-/

namespace FoldTree.Source

open Grammar (Rule Stream)
open Text (placeAt)

/-- Tokens fill a text from an offset on to another: one starts at the first and one ends at the
second.
-/
structure Spanned (text : List Char) (found : List (Nat × Nat)) (first behind : Nat) : Prop where
  opens : ∃ stop, first ≤ stop ∧ stop ≤ behind ∧ Fits text found first stop
  closes : ∃ start, first ≤ start ∧ start ≤ behind ∧ Fits text found start behind

/-- A phrase has its first token at an offset and its last one before another. -/
structure Spans (text : List Char) (found : List (Nat × Nat)) (extent : Extent)
    (first behind : Nat) : Prop extends Spanned text found first behind where
  place : extent = ⟨placeAt text first, placeAt text behind⟩

mutual

/-- A statement stands between two offsets of a text, with all that it holds inside of it. -/
def Stmt.Stands (text : List Char) (found : List (Nat × Nat)) : Stmt → Nat → Nat → Prop
  | .evaluate extent _, n, m
  | .simple extent _, n, m
  | .importing extent _, n, m =>
    ∃ first behind, n ≤ first ∧ behind ≤ m ∧ Spans text found extent first behind
  | .define extent _ _ _ _ body _, n, m =>
    ∃ first behind,
      n ≤ first
      ∧ behind ≤ m
      ∧ Spans text found extent first behind
      ∧ Stmt.Row text found body first behind
  | .block extent _ clauses, n, m =>
    ∃ first behind,
      n ≤ first
      ∧ behind ≤ m
      ∧ Spans text found extent first behind
      ∧ Stmt.ClauseRow text found clauses first behind

/-- Statements stand one behind the other between two offsets. -/
def Stmt.Row (text : List Char) (found : List (Nat × Nat)) : List Stmt → Nat → Nat → Prop
  | [], n, m => n ≤ m
  | statement :: rest, n, m =>
    ∃ k, statement.Stands text found n k ∧ Stmt.Row text found rest k m

/-- Clauses stand one behind the other between two offsets. -/
def Stmt.ClauseRow (text : List Char) (found : List (Nat × Nat)) : List Clause → Nat → Nat → Prop
  | [], n, m => n ≤ m
  | .mk _ body :: rest, n, m =>
    ∃ k, Stmt.Row text found body n k ∧ Stmt.ClauseRow text found rest k m

end

variable {text : List Char} {found : List (Nat × Nat)}

/-- The first offset is no later than the second. -/
theorem Spanned.le {first behind : Nat} (spanned : Spanned text found first behind)
    : first ≤ behind := by
  obtain ⟨stop, after, before, -⟩ := spanned.opens
  exact after.trans before

/-- Tokens reach up to the end of the text at most. -/
theorem Spanned.bound {first behind : Nat} (spanned : Spanned text found first behind)
    : behind ≤ text.length := by
  obtain ⟨start, -, -, fit⟩ := spanned.closes
  exact fit.bounded

/-- One more token goes on from where the last one ended. -/
theorem Spanned.token {first behind start stop : Nat} (spanned : Spanned text found first behind)
    (after : behind ≤ start) (proper : start ≤ stop) (fit : Fits text found start stop)
    : Spanned text found first stop := by
  obtain ⟨other, begins, ends, opens⟩ := spanned.opens
  exact ⟨⟨other, begins, ends.trans (after.trans proper), opens⟩,
    ⟨start, spanned.le.trans after, proper, fit⟩⟩

namespace Stmt

/-- A statement stands between offsets further apart, too. -/
theorem Stands.mono {statement : Stmt} {n m n' m' : Nat} (stands : statement.Stands text found n m)
    (before : n' ≤ n) (behind : m ≤ m')
    : statement.Stands text found n' m' := by
  cases statement <;> simp only [Stands] at stands ⊢
  all_goals
    obtain ⟨first, stop, after, up, rest⟩ := stands
    exact ⟨first, stop, before.trans after, up.trans behind, rest⟩

/-- A statement stands from the start of a token to the end of another. -/
theorem Stands.spans {statement : Stmt} {n m : Nat} (stands : statement.Stands text found n m)
    : ∃ first behind, n ≤ first ∧ behind ≤ m ∧ Spans text found statement.extent first behind := by
  cases statement <;> simp only [Stands] at stands
  all_goals
    obtain ⟨first, behind, after, up, inside⟩ := stands
  case define => exact ⟨first, behind, after, up, inside.1⟩
  case block => exact ⟨first, behind, after, up, inside.1⟩
  all_goals exact ⟨first, behind, after, up, inside⟩

/-- The offsets of a statement are in order. -/
theorem Stands.le {statement : Stmt} {n m : Nat} (stands : statement.Stands text found n m)
    : n ≤ m := by
  obtain ⟨first, behind, after, up, spans⟩ := stands.spans
  exact after.trans (spans.le.trans up)

/-- Where offsets are in order, no statements stand between them. -/
theorem row_nil {n m : Nat} : Row text found [] n m ↔ n ≤ m := by
  rw [Row]

/-- A row starts with a statement, and goes on behind it. -/
theorem row_cons {statement : Stmt} {rest : List Stmt} {n m : Nat}
    : Row text found (statement :: rest) n m
      ↔ ∃ k, statement.Stands text found n k ∧ Row text found rest k m := by
  rw [Row]

/-- Where offsets are in order, no clauses stand between them. -/
theorem clauseRow_nil {n m : Nat} : ClauseRow text found [] n m ↔ n ≤ m := by
  rw [ClauseRow]

/-- A row of clauses starts with the body of one, and goes on behind it. -/
theorem clauseRow_cons {header : List Expr} {body : List Stmt} {rest : List Clause} {n m : Nat}
    : ClauseRow text found (.mk header body :: rest) n m
      ↔ ∃ k, Row text found body n k ∧ ClauseRow text found rest k m := by
  rw [ClauseRow]

/-- Statements in a row stand between offsets in order, by induction. -/
theorem Row.le {statements : List Stmt} {n m : Nat} (row : Row text found statements n m)
    : n ≤ m := by
  induction statements generalizing n with
  | nil => simpa only [row_nil] using row
  | cons statement rest ih =>
      rw [row_cons] at row
      obtain ⟨k, stands, row⟩ := row
      exact stands.le.trans (ih row)

/-- A row may start earlier. -/
theorem Row.mono_left {statements : List Stmt} {n m n' : Nat} (row : Row text found statements n m)
    (before : n' ≤ n)
    : Row text found statements n' m := by
  cases statements with
  | nil =>
      rw [row_nil] at row ⊢
      exact before.trans row
  | cons statement rest =>
      rw [row_cons] at row ⊢
      obtain ⟨k, stands, row⟩ := row
      exact ⟨k, stands.mono before (Nat.le_refl k), row⟩

/-- A row may end later, by induction. -/
theorem Row.mono_right {statements : List Stmt} {n m m' : Nat}
    (row : Row text found statements n m) (behind : m ≤ m')
    : Row text found statements n m' := by
  induction statements generalizing n with
  | nil =>
      rw [row_nil] at row ⊢
      exact row.trans behind
  | cons statement rest ih =>
      rw [row_cons] at row ⊢
      obtain ⟨k, stands, row⟩ := row
      exact ⟨k, stands, ih row⟩

/-- Two rows one behind the other are a row, by induction on the first. -/
theorem Row.append {first second : List Stmt} {n k m : Nat} (row : Row text found first n k)
    (later : Row text found second k m)
    : Row text found (first ++ second) n m := by
  induction first generalizing n with
  | nil =>
      rw [row_nil] at row
      exact later.mono_left row
  | cons statement rest ih =>
      rw [row_cons] at row
      obtain ⟨middle, stands, row⟩ := row
      rw [List.cons_append, row_cons]
      exact ⟨middle, stands, ih row⟩

/-- No statements stand anywhere. -/
theorem Row.nil (n : Nat) : Row text found [] n n := by
  rw [row_nil]

/-- A statement in front of a row is a row with it. -/
theorem Row.cons {statement : Stmt} {rest : List Stmt} {n k m : Nat}
    (stands : statement.Stands text found n k) (row : Row text found rest k m)
    : Row text found (statement :: rest) n m := by
  rw [row_cons]
  exact ⟨k, stands, row⟩

/-- No clauses stand anywhere. -/
theorem ClauseRow.nil (n : Nat) : ClauseRow text found [] n n := by
  rw [clauseRow_nil]

/-- A clause in front of a row is a row with it. -/
theorem ClauseRow.cons {header : List Expr} {body : List Stmt} {rest : List Clause} {n k m : Nat}
    (row : Row text found body n k) (later : ClauseRow text found rest k m)
    : ClauseRow text found (.mk header body :: rest) n m := by
  rw [clauseRow_cons]
  exact ⟨k, row, later⟩

/-- A row of clauses may start earlier. -/
theorem ClauseRow.mono_left {clauses : List Clause} {n m n' : Nat}
    (row : ClauseRow text found clauses n m) (before : n' ≤ n)
    : ClauseRow text found clauses n' m := by
  cases clauses with
  | nil =>
      rw [clauseRow_nil] at row ⊢
      exact before.trans row
  | cons clause rest =>
      cases clause
      rw [clauseRow_cons] at row ⊢
      obtain ⟨k, body, row⟩ := row
      exact ⟨k, body.mono_left before, row⟩

/-- A row of clauses may end later, by induction. -/
theorem ClauseRow.mono_right {clauses : List Clause} {n m m' : Nat}
    (row : ClauseRow text found clauses n m) (behind : m ≤ m')
    : ClauseRow text found clauses n m' := by
  induction clauses generalizing n with
  | nil =>
      rw [clauseRow_nil] at row ⊢
      exact row.trans behind
  | cons clause rest ih =>
      cases clause
      rw [clauseRow_cons] at row ⊢
      obtain ⟨k, body, row⟩ := row
      exact ⟨k, body, ih row⟩

/-- Two rows of clauses one behind the other are a row, by induction on the first. -/
theorem ClauseRow.append {first second : List Clause} {n k m : Nat}
    (row : ClauseRow text found first n k) (later : ClauseRow text found second k m)
    : ClauseRow text found (first ++ second) n m := by
  induction first generalizing n with
  | nil =>
      rw [clauseRow_nil] at row
      exact later.mono_left row
  | cons clause rest ih =>
      cases clause
      rw [clauseRow_cons] at row
      obtain ⟨middle, body, row⟩ := row
      rw [List.cons_append, clauseRow_cons]
      exact ⟨middle, body, ih row⟩

end Stmt

end FoldTree.Source
