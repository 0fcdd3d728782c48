import FoldTree.Proofs.Source.Grammar.Simple

/-! Compound statements start with a visible token, read their bodies one behind the other inside of
themselves, and end with the last token that was read. By induction on the depth of nesting, all
statements of a program stand in the order in which they are read.
-/

namespace FoldTree.Source.Grammar

open Rule (Leading collect here extentFrom of_bind of_pure of_peek of_peekSecond of_next of_sees
  of_skips of_expect of_orElse)
open Text (placeAt)

variable {text : List Char} {found : List (Nat × Nat)} {stream after : Stream} {n m first : Nat}
  {place : Position}

/-! ### Parts of compound statements -/

/-- A block stands where all its clauses do. -/
theorem block_stands {statement : Stmt} {kind : BlockKind} {clauses : List Clause}
    (row : Stmt.ClauseRow text found clauses first m) (before : n ≤ first)
    (same : place = placeAt text first) (within : stream.Within text found first m)
    (read : (extentFrom place >>= fun extent => pure (Stmt.block extent kind clauses)).run stream
      = some (statement, after))
    : ∃ m, statement.Stands text found n m ∧ after.At text found m := by
  refine ended_stands same within read fun extent behind order spans => ?_
  rw [Stmt.Stands]
  exact ⟨first, behind, before, Nat.le_refl behind, spans, row.mono_right order⟩

/-- A definition stands where its body does. -/
theorem define_stands {statement : Stmt} {sort : Definition} {name : String}
    {decorators header trailer : List Expr} {body : List Stmt}
    (row : Stmt.Row text found body first m) (before : n ≤ first)
    (same : place = placeAt text first) (within : stream.Within text found first m)
    (read : (extentFrom place >>= fun extent =>
        pure (Stmt.define extent sort name decorators header body trailer)).run stream
      = some (statement, after))
    : ∃ m, statement.Stands text found n m ∧ after.At text found m := by
  refine ended_stands same within read fun extent behind order spans => ?_
  rw [Stmt.Stands]
  exact ⟨first, behind, before, Nat.le_refl behind, spans, row.mono_right order⟩

/-- Statements that are laid out one by one up to a sign are laid out in a row. -/
theorem collect_lays {statement : Rule (List Stmt)} (lays : Lays text found statement)
    (closes : Rule Bool) {bound : Nat} {all : List (List Stmt)} (stands : stream.At text found n)
    (read : (collect (do if ← closes then return none else return some (← statement)) bound).run
      stream = some (all, after))
    : ∃ m, Stmt.Row text found all.flatten n m ∧ after.At text found m := by
  refine collect_order (fun all => Stmt.Row text found all.flatten) (Stream.At text found)
    ?_ ?_ stands read
  · intro stream after n stands read
    obtain ⟨m, order, stands⟩ := stands.later (Rule.reaches _ read)
    refine ⟨m, ?_, stands⟩
    rwa [List.flatten_nil, Stmt.Row]
  · intro stream after n statements stands read
    obtain ⟨closed, middle, m, -, order, stands, read⟩ := stands.bind read
    split at read
    · cases read
    · obtain ⟨others, last, one, read⟩ := of_bind read
      cases read
      obtain ⟨k, row, stands⟩ := lays stands one
      refine ⟨k, stands, fun later m behind => ?_⟩
      rw [List.flatten_cons]
      exact (row.mono_left order).append behind

section

variable {self : Phrases} (leads : Leading self.expression)

include leads in
/-- A body behind a colon lays its statements out. -/
theorem block_lays {statement : Rule (List Stmt)} (lays : Lays text found statement)
    : Lays text found (block self statement) := by
  intro stream n statements after stands read
  obtain ⟨_, s1, m1, -, order1, stands, read⟩ := stands.bind read
  obtain ⟨indented, s2, m2, -, order2, stands, read⟩ := stands.bind read
  split at read
  · obtain ⟨_, s3, m3, -, order3, stands, read⟩ := stands.bind read
    obtain ⟨first, s4, one, read⟩ := of_bind read
    obtain ⟨k, row, stands⟩ := lays stands one
    obtain ⟨later, s5, collected, read⟩ := of_bind read
    cases read
    obtain ⟨m, others, stands⟩ := collect_lays lays _ stands collected
    exact ⟨m, (row.mono_left (by omega)).append others, stands⟩
  · obtain ⟨m, row, stands⟩ := simpleStatements_lays leads stands read
    exact ⟨m, row.mono_left (by omega), stands⟩

variable {body : Rule (List Stmt)} (lays : Lays text found body)

include lays

/-- A clause that a keyword alone starts stands behind what was read before it. -/
theorem wordClause_order {spelling : String} (within : stream.Within text found first n)
    {clauses : List Clause}
    (read : (wordClause body spelling).run stream = some (clauses, after))
    : ∃ k, Stmt.ClauseRow text found clauses n k ∧ after.Within text found first k := by
  obtain ⟨present, middle, -, within, read⟩ := within.bind read
  split at read
  · obtain ⟨statements, last, one, read⟩ := of_bind read
    cases read
    obtain ⟨k, row, within⟩ := lays.within within one
    exact ⟨k, .cons row (.nil k), within⟩
  · cases read
    exact ⟨n, .nil n, within⟩

/-! ### Compound statements -/

/-- A condition stands from its keyword on, by induction on the rounds. -/
theorem conditional_places (spelling : String) (rounds : Nat)
    : Places text found (conditional self body spelling rounds) := by
  induction rounds generalizing spelling with
  | zero =>
      intro stream n statement after stands read
      cases read
  | succ rounds ih =>
      intro stream n statement after stands read
      obtain ⟨place, s1, begins, read⟩ := of_bind read
      have begun := begun_of_here stands begins
      obtain ⟨_, s2, first, -, before, same, within, read⟩ := begun.bind (.keyword _) read
      obtain ⟨test, s3, -, within, read⟩ := within.bind read
      obtain ⟨chosen, s4, one, read⟩ := of_bind read
      obtain ⟨k, row, within⟩ := lays.within within one
      obtain ⟨seen, s5, sight, read⟩ := of_bind read
      obtain ⟨rfl, -⟩ := of_sees sight
      dsimp only at read
      split at read
      · obtain ⟨nested, s6, further, read⟩ := of_bind read
        obtain ⟨m, placed, within⟩ := (ih "elif").within within further
        exact block_stands (.cons row (.cons (.cons placed (.nil m)) (.nil m))) before same within
          read
      · obtain ⟨other, s6, otherwise, read⟩ := of_bind read
        obtain ⟨m, behind, within⟩ := wordClause_order lays within otherwise
        exact block_stands (.cons row behind) before same within read

/-- A loop with a condition stands from its keyword on. -/
theorem whileLoop_places : Places text found (whileLoop self body) := by
  intro stream n statement after stands read
  obtain ⟨place, s1, begins, read⟩ := of_bind read
  have begun := begun_of_here stands begins
  obtain ⟨_, s2, first, -, before, same, within, read⟩ := begun.bind (.keyword _) read
  obtain ⟨test, s3, -, within, read⟩ := within.bind read
  obtain ⟨repeated, s4, one, read⟩ := of_bind read
  obtain ⟨k, row, within⟩ := lays.within within one
  obtain ⟨other, s5, otherwise, read⟩ := of_bind read
  obtain ⟨m, behind, within⟩ := wordClause_order lays within otherwise
  exact block_stands (.cons row behind) before same within read

/-- A loop over values stands from where it began. -/
theorem forLoop_places (kind : BlockKind)
    : PlacesFrom text found (forLoop self body kind) := by
  intro stream n place statement after begun read
  obtain ⟨_, s1, first, -, before, same, within, read⟩ := begun.bind (.keyword _) read
  obtain ⟨targets, s2, -, within, read⟩ := within.bind read
  obtain ⟨_, s3, -, within, read⟩ := within.bind read
  obtain ⟨values, s4, -, within, read⟩ := within.bind read
  obtain ⟨repeated, s5, one, read⟩ := of_bind read
  obtain ⟨k, row, within⟩ := lays.within within one
  obtain ⟨other, s6, otherwise, read⟩ := of_bind read
  obtain ⟨m, behind, within⟩ := wordClause_order lays within otherwise
  exact block_stands (.cons row behind) before same within read

/-- A statement over contexts stands from where it began. -/
theorem contextBlock_places (kind : BlockKind)
    : PlacesFrom text found (contextBlock self body kind) := by
  intro stream n place statement after begun read
  obtain ⟨_, s1, first, -, before, same, within, read⟩ := begun.bind (.keyword _) read
  obtain ⟨items, s2, -, within, read⟩ := within.bind read
  obtain ⟨statements, s3, one, read⟩ := of_bind read
  obtain ⟨k, row, within⟩ := lays.within within one
  exact block_stands (.cons row (.nil k)) before same within read

/-- A guarded body and its handlers stand from the keyword on. -/
theorem guarded_places : Places text found (guarded self body) := by
  intro stream n statement after stands read
  obtain ⟨place, s1, begins, read⟩ := of_bind read
  have begun := begun_of_here stands begins
  obtain ⟨_, s2, first, -, before, same, within, read⟩ := begun.bind (.keyword _) read
  obtain ⟨tried, s3, one, read⟩ := of_bind read
  obtain ⟨k, row, within⟩ := lays.within within one
  obtain ⟨seen, s4, sight, read⟩ := of_bind read
  obtain ⟨rfl, -⟩ := of_sees sight
  obtain ⟨second, s5, sight', read⟩ := of_bind read
  obtain rfl := of_peekSecond sight'
  dsimp only at read
  generalize (seen && second == some (.mark "*")) = isGroups at read
  obtain ⟨handlers, s6, collected, read⟩ := of_bind read
  obtain ⟨k', handled, within⟩ : ∃ k',
      Stmt.ClauseRow text found handlers k k' ∧ s6.Within text found first k' := by
    refine collect_order (Stmt.ClauseRow text found)
      (fun stream n => stream.Within text found first n) ?_ ?_ within collected
    · intro stream after n within read
      exact ⟨n, .nil n, within.later (Rule.reaches _ read)⟩
    · intro stream after n clause within read
      obtain ⟨present, s7, -, within, read⟩ := within.bind read
      split at read
      · obtain ⟨header, s8, -, within, read⟩ := within.bind read
        obtain ⟨statements, s9, one, read⟩ := of_bind read
        cases read
        obtain ⟨k, row, within⟩ := lays.within within one
        exact ⟨k, within, fun later m behind => .cons row behind⟩
      · cases read
  have otherwise (other : List Clause) (s7 : Stream)
      (read : (pure [] : Rule (List Clause)).run s6 = some (other, s7)
        ∨ (wordClause body "else").run s6 = some (other, s7))
      : ∃ k, Stmt.ClauseRow text found other k' k ∧ s7.Within text found first k := by
    rcases read with none | some
    · cases none
      exact ⟨k', .nil k', within⟩
    · exact wordClause_order lays within some
  split at read
  all_goals
    obtain ⟨other, s7, given, read⟩ := of_bind read
    obtain ⟨k'', others, within⟩ := otherwise other s7 (by simp [given])
    obtain ⟨last, s8, final, read⟩ := of_bind read
    obtain ⟨m, ended, within⟩ := wordClause_order lays within final
    split at read
    · cases read
    · exact block_stands (((Stmt.ClauseRow.cons row handled).append others).append ended) before
        same within read

/-- One clause of a choice stands behind what was read before it. -/
theorem choiceClause_order (within : stream.Within text found first n) {clause : Clause}
    (read : (choiceClause self body).run stream = some (clause, after))
    : ∃ k,
        after.Within text found first k
        ∧ ∀ later m, Stmt.ClauseRow text found later k m
          → Stmt.ClauseRow text found (clause :: later) n m := by
  obtain ⟨_, s1, -, within, read⟩ := within.bind read
  obtain ⟨pattern, s2, -, within, read⟩ := within.bind read
  obtain ⟨seen, s3, -, within, read⟩ := within.bind read
  dsimp only at read
  split at read
  all_goals
    obtain ⟨guard, s4, -, within, read⟩ := within.bind read
  · obtain ⟨guard, s5, -, within, read⟩ := within.bind read
    obtain ⟨statements, s6, one, read⟩ := of_bind read
    cases read
    obtain ⟨k, row, within⟩ := lays.within within one
    exact ⟨k, within, fun later m behind => .cons row behind⟩
  · obtain ⟨statements, s6, one, read⟩ := of_bind read
    cases read
    obtain ⟨k, row, within⟩ := lays.within within one
    exact ⟨k, within, fun later m behind => .cons row behind⟩

/-- A choice stands from its keyword on. -/
theorem choice_places : Places text found (choice self body) := by
  intro stream n statement after stands read
  obtain ⟨place, s1, begins, read⟩ := of_bind read
  have begun := begun_of_here stands begins
  obtain ⟨_, s2, first, -, before, same, within, read⟩ := begun.bind (.expect rfl) read
  obtain ⟨⟨items, comma⟩, s3, -, within, read⟩ := within.bind read
  dsimp only at read
  split at read
  · cases read
  · obtain ⟨_, s4, -, within, read⟩ := within.bind read
    obtain ⟨_, s5, -, within, read⟩ := within.bind read
    obtain ⟨_, s6, -, within, read⟩ := within.bind read
    obtain ⟨clause, s7, one, read⟩ := of_bind read
    obtain ⟨k, within, front⟩ := choiceClause_order lays within one
    obtain ⟨later, s8, collected, read⟩ := of_bind read
    obtain ⟨m, others, within⟩ : ∃ m,
        Stmt.ClauseRow text found later k m ∧ s8.Within text found first m := by
      refine collect_order (Stmt.ClauseRow text found)
        (fun stream n => stream.Within text found first n) ?_ ?_ within collected
      · intro stream after n within read
        exact ⟨n, .nil n, within.later (Rule.reaches _ read)⟩
      · intro stream after n clause within read
        obtain ⟨closed, s9, -, within, read⟩ := within.bind read
        split at read
        · cases read
        · obtain ⟨clause, s10, one, read⟩ := of_bind read
          cases read
          exact choiceClause_order lays within one
    exact block_stands (.cons (.nil first) (front later m others)) before same within read

/-- A function stands from where it began. -/
theorem function_places (decorators : List Expr)
    : PlacesFrom text found (function self body decorators) := by
  intro stream n place statement after begun read
  obtain ⟨_, s1, first, -, before, same, within, read⟩ := begun.bind (.keyword _) read
  obtain ⟨name, s2, -, within, read⟩ := within.bind read
  obtain ⟨_, s3, -, within, read⟩ := within.bind read
  obtain ⟨given, s4, -, within, read⟩ := within.bind read
  obtain ⟨_, s5, -, within, read⟩ := within.bind read
  obtain ⟨arrow, s6, -, within, read⟩ := within.bind read
  dsimp only at read
  split at read
  · obtain ⟨type, s7, -, within, read⟩ := within.bind read
    obtain ⟨result, s8, -, within, read⟩ := within.bind read
    obtain ⟨statements, s9, one, read⟩ := of_bind read
    obtain ⟨k, row, within⟩ := lays.within within one
    exact define_stands row before same within read
  · obtain ⟨result, s7, -, within, read⟩ := within.bind read
    obtain ⟨statements, s8, one, read⟩ := of_bind read
    obtain ⟨k, row, within⟩ := lays.within within one
    exact define_stands row before same within read

/-- A class stands from where it began. -/
theorem classDefinition_places (decorators : List Expr)
    : PlacesFrom text found (classDefinition self body decorators) := by
  intro stream n place statement after begun read
  obtain ⟨_, s1, first, -, before, same, within, read⟩ := begun.bind (.keyword _) read
  obtain ⟨name, s2, -, within, read⟩ := within.bind read
  obtain ⟨bracket, s3, -, within, read⟩ := within.bind read
  dsimp only at read
  split at read
  · obtain ⟨given, s4, -, within, read⟩ := within.bind read
    obtain ⟨_, s5, -, within, read⟩ := within.bind read
    obtain ⟨header, s6, -, within, read⟩ := within.bind read
    obtain ⟨statements, s7, one, read⟩ := of_bind read
    obtain ⟨k, row, within⟩ := lays.within within one
    exact define_stands row before same within read
  · obtain ⟨header, s4, -, within, read⟩ := within.bind read
    obtain ⟨statements, s5, one, read⟩ := of_bind read
    obtain ⟨k, row, within⟩ := lays.within within one
    exact define_stands row before same within read

/-- A definition stands from its keyword on, behind its decorators. -/
theorem definition_places : Places text found (definition self body) := by
  intro stream n statement after stands read
  obtain ⟨decorators, s1, m1, -, order, stands, read⟩ := stands.bind read
  obtain ⟨place, s2, begins, read⟩ := of_bind read
  have begun := begun_of_here stands begins
  obtain ⟨seen, s3, sight, read⟩ := of_bind read
  obtain ⟨rfl, -⟩ := of_sees sight
  obtain ⟨m, placed, behind⟩ : ∃ m, statement.Stands text found m1 m ∧ after.At text found m := by
    split at read
    · exact classDefinition_places lays decorators begun read
    · obtain ⟨_, s4, skip, read⟩ := of_bind read
      exact function_places lays decorators (begun.skips rfl skip) read
  exact ⟨m, placed.mono order (Nat.le_refl m), behind⟩

/-- A statement that goes on while others do stands from its keyword on. -/
theorem asynchronous_places : Places text found (asynchronous self body) := by
  intro stream n statement after stands read
  obtain ⟨place, s1, begins, read⟩ := of_bind read
  have begun := begun_of_here stands begins
  obtain ⟨_, s2, first, -, before, same, within, read⟩ := begun.bind (.keyword _) read
  have begun : s2.Begun text found n place := .within before same within
  obtain ⟨loop, s3, sight, read⟩ := of_bind read
  obtain ⟨rfl, -⟩ := of_sees sight
  split at read
  · exact forLoop_places lays _ begun read
  · obtain ⟨context, s4, sight, read⟩ := of_bind read
    obtain ⟨rfl, -⟩ := of_sees sight
    split at read
    · exact contextBlock_places lays _ begun read
    · exact function_places lays _ begun read

/-- Every compound statement stands from its first token on. -/
theorem keywordBlock_places (spelling : String)
    : Places text found (keywordBlock self body spelling) := by
  intro stream n statement after stands read
  obtain ⟨place, s1, begins, read⟩ := of_bind read
  have begun := begun_of_here stands begins
  obtain rfl := of_here begins
  split at read
  · exact conditional_places lays _ _ stands read
  · exact whileLoop_places lays stands read
  · exact forLoop_places lays _ begun read
  · exact contextBlock_places lays _ begun read
  · exact guarded_places lays stands read
  · exact definition_places lays stands read
  · exact definition_places lays stands read
  · exact asynchronous_places lays stands read
  · cases read

end

/-- A rule for one statement lays out a row of one. -/
theorem Places.lays {rule : Rule Stmt} (places : Places text found rule)
    : Lays text found (do return [← rule]) := by
  intro stream n statements after stands read
  obtain ⟨statement, middle, one, read⟩ := of_bind read
  cases read
  obtain ⟨m, placed, behind⟩ := places stands one
  exact ⟨m, .cons placed (.nil m), behind⟩

/-- All statements are laid out in the order in which they are read, by induction on the depth to
which their bodies nest.
-/
theorem statement_lays {self : Phrases} (leads : Leading self.expression) (depth : Nat)
    : Lays text found (statement self depth) := by
  induction depth with
  | zero =>
      intro stream n statements after stands read
      cases read
  | succ depth ih =>
      intro stream n statements after stands read
      have body := block_lays leads ih
      obtain ⟨token, middle, peeked, read⟩ := of_bind read
      obtain ⟨rfl, -⟩ := of_peek peeked
      split at read
      · split at read
        · exact (keywordBlock_places body _).lays stands read
        · exact simpleStatements_lays leads stands read
      · exact (definition_places body).lays stands read
      · rcases of_orElse read with chosen | simple
        · exact (choice_places body).lays stands chosen
        · exact simpleStatements_lays leads stands simple
      · exact simpleStatements_lays leads stands read

/-- The statements of a program are laid out in the order in which they are read. -/
theorem program_lays {self : Phrases} (leads : Leading self.expression)
    : Lays text found (program self) := by
  intro stream n statements after stands read
  obtain ⟨all, middle, collected, read⟩ := of_bind read
  cases read
  exact collect_lays (statement_lays leads self.bound) _ stands collected

end FoldTree.Source.Grammar

namespace FoldTree.Source

/-- The statements of a text stand one behind the other in it with unified line ends, each with all
that it holds inside of it.
-/
theorem statements?_row {text : List Char} {statements : List Stmt}
    (read : statements? text = some statements)
    : ∃ found,
        Comment.stretches .code 0 0 (unifyLineEnds text) = some found
        ∧ Stmt.Row (unifyLineEnds text) found statements 0 (unifyLineEnds text).length := by
  obtain ⟨all, lexed, read⟩ := Option.bind_eq_some_iff.mp read
  obtain ⟨⟨others, after⟩, parsed, same⟩ := Option.map_eq_some_iff.mp read
  cases same
  obtain ⟨found, same, placed⟩ := tokens_placed lexed
  have start : Grammar.Stream.At (unifyLineEnds text) found ⟨all, .start⟩ 0 := ⟨Nat.zero_le _, rfl, placed⟩
  obtain ⟨m, row, behind⟩ := Grammar.program_lays (Grammar.phrases_lead _) start parsed
  exact ⟨found, same, row.mono_right behind.bound⟩

end FoldTree.Source
