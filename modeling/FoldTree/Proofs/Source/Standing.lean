import FoldTree.Proofs.Lineage
import FoldTree.Proofs.Source.Constructs

/-! Where the constructs of a program stand in its text. A construct that may make a region stands
for a stretch of the text, and so does the text that it starts with; each stretch goes from the
start of one token to the end of another.
-/

namespace FoldTree.Source

/-- The stretches that a construct stands for: its own, and that of the text that it starts with. -/
def Construct.extents : Construct → List Extent
  | .module text => (text.map Prod.fst).toList
  | .definition extent _ _ text => extent :: (text.map Prod.fst).toList
  | .imports extent => [extent]
  | .block extent _ => [extent]
  | _ => []

/-- All stretches of some constructs go from the start of a token to the end of another. -/
def StandIn (text : List Char) (found : List (Nat × Nat)) (constructs : List Construct) : Prop :=
  ∀ construct ∈ constructs,
    ∀ extent ∈ construct.extents,
      ∃ first behind, Spans text found extent first behind

variable {text : List Char} {found : List (Nat × Nat)} {n m : Nat}

namespace StandIn

/-- Constructs of two stretches stand in the text if those of both do. -/
theorem append {first second : List Construct} (one : StandIn text found first)
    (other : StandIn text found second)
    : StandIn text found (first ++ second) := by
  intro construct member
  rcases List.mem_append.mp member with member | member
  · exact one construct member
  · exact other construct member

/-- A construct in front of others stands in the text with them. -/
theorem cons {construct : Construct} {rest : List Construct}
    (here : ∀ extent ∈ construct.extents, ∃ first behind, Spans text found extent first behind)
    (later : StandIn text found rest)
    : StandIn text found (construct :: rest) := by
  rintro other (_ | ⟨_, member⟩)
  · exact here
  · exact later other member

/-- A construct that stands for no stretch adds none. -/
theorem bare {construct : Construct} {rest : List Construct} (none : construct.extents = [])
    (later : StandIn text found rest)
    : StandIn text found (construct :: rest) :=
  .cons (by rw [none]; nofun) later

/-- No constructs stand for no stretches. -/
theorem nil (text : List Char) (found : List (Nat × Nat)) : StandIn text found [] := nofun

end StandIn

mutual

/-- An expression stands for no stretches. -/
theorem standIn_expr (expr : Expr) : StandIn text found expr.constructs.preorder := by
  match expr with
  | .name word => exact .bare rfl (.nil _ _)
  | .text value => exact .bare rfl (.nil _ _)
  | .attribute owner word =>
      rw [Expr.constructs, Rose.preorder, Rose.preorderAll]
      exact .bare rfl ((standIn_expr owner).append (.bare rfl (.nil _ _)))
  | .subscript owner index =>
      rw [Expr.constructs, Rose.preorder, Rose.preorderAll, Rose.preorderAll, Rose.preorderAll,
        List.append_nil]
      exact .bare rfl ((standIn_expr owner).append (standIn_expr index))
  | .starred value =>
      rw [Expr.constructs, Rose.preorder, Rose.preorderAll, Rose.preorderAll, List.append_nil]
      exact .bare rfl (standIn_expr value)
  | .tuple items | .list items | .compound items =>
      rw [Expr.constructs, Rose.preorder]
      exact .bare rfl (standIn_exprs items)
  | .labelled word parts =>
      rw [Expr.constructs, Rose.preorder, Rose.preorderAll]
      exact .bare rfl (.bare rfl (standIn_exprs parts))

/-- Several expressions stand for no stretches. -/
theorem standIn_exprs (parts : List Expr)
    : StandIn text found (Rose.preorderAll (Expr.constructsOfAll parts)) := by
  match parts with
  | [] => exact .nil _ _
  | part :: rest =>
      rw [Expr.constructsOfAll, Rose.preorderAll]
      exact (standIn_expr part).append (standIn_exprs rest)

end

/-- The text that a body starts with is a statement of it. -/
theorem spans_of_docText? {body : List Stmt} (row : Stmt.Row text found body n m)
    : ∀ extent ∈ ((docText? body).map Prod.fst).toList,
        ∃ first behind, Spans text found extent first behind := by
  intro extent member
  unfold docText? at member
  split at member
  · rw [Stmt.row_cons] at row
    obtain ⟨k, stands, -⟩ := row
    obtain ⟨first, behind, -, -, spans⟩ := stands.spans
    obtain rfl : extent = _ := by simpa using member
    exact ⟨first, behind, spans⟩
  · simp at member

mutual

/-- The constructs of a statement stand where it does. -/
theorem standIn_stmt (statement : Stmt) {n m : Nat} (stands : statement.Stands text found n m)
    : StandIn text found statement.constructs.preorder := by
  match statement with
  | .evaluate _ value => exact standIn_expr value
  | .simple _ parts =>
      rw [Stmt.constructs, Rose.preorder]
      exact .bare rfl (standIn_exprs parts)
  | .importing _ words =>
      rw [Stmt.constructs, Rose.preorder, Rose.preorderAll_eq_flatMap, List.flatMap_map]
      refine .bare rfl fun construct member => ?_
      obtain ⟨word, -, inside⟩ := List.mem_flatMap.mp member
      rw [List.mem_singleton.mp inside]
      nofun
  | .define extent sort name decorators header body trailer =>
      rw [Stmt.Stands] at stands
      obtain ⟨first, behind, -, -, spans, row⟩ := stands
      have below : StandIn text found (Rose.preorderAll
          (wordConstruct name :: Expr.constructsOfAll header ++ Stmt.constructsOfAll body
            ++ Expr.constructsOfAll trailer)) := by
        rw [Rose.preorderAll_append, Rose.preorderAll_append, Rose.preorderAll]
        exact ((StandIn.bare rfl (standIn_exprs header)).append (standIn_stmts body row)).append
          (standIn_exprs trailer)
      rw [Stmt.constructs, Rose.preorder, Rose.preorderAll_append, Rose.preorderAll,
        Rose.preorderAll, List.append_nil, Rose.preorder]
      refine .bare rfl ((standIn_exprs decorators).append (.cons ?_ below))
      -- the doc text of a definition has an extent as well, that of the first statement inside
      rintro other (_ | ⟨_, member⟩)
      · exact ⟨first, behind, spans⟩
      · exact spans_of_docText? row other member
  | .block extent kind clauses =>
      rw [Stmt.Stands] at stands
      obtain ⟨first, behind, -, -, spans, row⟩ := stands
      rw [Stmt.constructs, Rose.preorder]
      refine .cons (fun other member => ?_) (standIn_clauses clauses row)
      rw [List.mem_singleton.mp member]
      exact ⟨first, behind, spans⟩

/-- The constructs of statements in a row stand where these do. -/
theorem standIn_stmts (statements : List Stmt) {n m : Nat}
    (row : Stmt.Row text found statements n m)
    : StandIn text found (Rose.preorderAll (Stmt.constructsOfAll statements)) := by
  match statements with
  | [] => exact .nil _ _
  | statement :: rest =>
      rw [Stmt.row_cons] at row
      obtain ⟨k, stands, row⟩ := row
      rw [Stmt.constructsOfAll, Rose.preorderAll]
      exact (standIn_stmt statement stands).append (standIn_stmts rest row)

/-- The constructs of clauses in a row stand where these do. -/
theorem standIn_clauses (clauses : List Clause) {n m : Nat}
    (row : Stmt.ClauseRow text found clauses n m)
    : StandIn text found (Rose.preorderAll (Stmt.clauseConstructs clauses)) := by
  match clauses with
  | [] => exact .nil _ _
  | .mk header body :: rest =>
      rw [Stmt.clauseRow_cons] at row
      obtain ⟨k, inside, row⟩ := row
      rw [Stmt.clauseConstructs, Rose.preorderAll_append, Rose.preorderAll_append]
      exact ((standIn_exprs header).append (standIn_stmts body inside)).append
        (standIn_clauses rest row)

end

/-- The constructs of a run of imports, or of another statement, stand where the run does. -/
theorem standIn_run {run : List Stmt} (row : Stmt.Row text found run n m)
    : StandIn text found (Rose.preorderAll (runConstructs run)) := by
  unfold runConstructs
  split
  · rename_i first last starts ends
    have inside := standIn_stmts run row
    split
    · rw [Rose.preorderAll, Rose.preorderAll, List.append_nil, Rose.preorder]
      refine .cons (fun extent member => ?_) inside
      obtain ⟨a, d, -, -, spans⟩ := row_spans row starts ends
      rw [List.mem_singleton.mp member]
      exact ⟨a, d, spans⟩
    · exact inside
  · exact .nil _ _

/-- Statements in a row that come in two stretches are two rows, by induction on the first. -/
theorem Stmt.Row.split {first second : List Stmt} (row : Row text found (first ++ second) n m)
    : ∃ k, Row text found first n k ∧ Row text found second k m := by
  induction first generalizing n with
  | nil => exact ⟨n, .nil n, row⟩
  | cons statement rest ih =>
      rw [List.cons_append, row_cons] at row
      obtain ⟨k, stands, row⟩ := row
      obtain ⟨k', front, back⟩ := ih row
      exact ⟨k', .cons stands front, back⟩

/-- The constructs of a program stand in its text where the statements stand in it. -/
theorem standIn_moduleConstructs {program : List Stmt} (row : Stmt.Row text found program n m)
    : StandIn text found (moduleConstructs program).preorder := by
  have all (runs : List (List Stmt)) {n : Nat} (row : Stmt.Row text found runs.flatten n m)
      : StandIn text found (Rose.preorderAll (runs.flatMap runConstructs)) := by
    induction runs generalizing n with
    | nil => exact .nil _ _
    | cons run rest ih =>
        obtain ⟨k, front, back⟩ := row.split
        rw [List.flatMap_cons, Rose.preorderAll_append]
        exact (standIn_run front).append (ih back)
  have flat : (importRuns program).flatten = program := List.flatten_splitBy _ _
  rw [moduleConstructs, Rose.preorder]
  exact .cons (spans_of_docText? row) (all (importRuns program) (flat.symm ▸ row))

end FoldTree.Source
