import FoldTree.Proofs.Source.Grammar.Reading

/-! Simple statements are read in the order in which they stand. Each starts with a visible token
and ends with the last token that was read.
-/

namespace FoldTree.Source.Grammar

open Rule (Leading collect here extentFrom of_bind of_pure of_peek of_peekSecond of_next of_sees
  of_skips of_expect of_orElse)
open Text (placeAt)

variable {text : List Char} {found : List (Nat × Nat)} {stream after : Stream} {n m first : Nat}
  {place : Position}

/-- A rule for statements lays them out one behind the other from where it starts. -/
def Lays (text : List Char) (found : List (Nat × Nat)) (rule : Rule (List Stmt)) : Prop :=
  ∀ ⦃stream : Stream⦄ ⦃n : Nat⦄ ⦃statements : List Stmt⦄ ⦃after : Stream⦄,
    stream.At text found n
    → rule.run stream = some (statements, after)
    → ∃ m, Stmt.Row text found statements n m ∧ after.At text found m

/-- A rule for one statement places it behind where the rule starts. -/
def Places (text : List Char) (found : List (Nat × Nat)) (rule : Rule Stmt) : Prop :=
  ∀ ⦃stream : Stream⦄ ⦃n : Nat⦄ ⦃statement : Stmt⦄ ⦃after : Stream⦄,
    stream.At text found n
    → rule.run stream = some (statement, after)
    → ∃ m, statement.Stands text found n m ∧ after.At text found m

/-- A rule for the rest of a statement places it from where the statement began. -/
def PlacesFrom (text : List Char) (found : List (Nat × Nat)) (rule : Position → Rule Stmt) : Prop :=
  ∀ ⦃stream : Stream⦄ ⦃n : Nat⦄ ⦃place : Position⦄ ⦃statement : Stmt⦄ ⦃after : Stream⦄,
    stream.Begun text found n place
    → (rule place).run stream = some (statement, after)
    → ∃ m, statement.Stands text found n m ∧ after.At text found m

/-! ### Parts of statements -/

/-- Asking for the place of the next token begins a phrase there. -/
theorem begun_of_here (stands : stream.At text found n)
    (read : here.run stream = some (place, after))
    : after.Begun text found n place := by
  obtain ⟨token, middle, peeked, given⟩ := of_bind read
  obtain ⟨rfl, rest, next⟩ := of_peek peeked
  obtain ⟨rfl, rfl⟩ := of_pure given
  exact .next stands next rfl

/-- It reads nothing. -/
theorem of_here (read : here.run stream = some (place, after)) : stream = after := by
  obtain ⟨token, middle, peeked, given⟩ := of_bind read
  obtain ⟨rfl, -⟩ := of_peek peeked
  exact (of_pure given).2

/-- A statement that begins and reads all its parts ends behind the last token that was read. -/
theorem spans_of_extentFrom (within : stream.Within text found first n)
    (same : place = placeAt text first) {extent : Extent}
    (read : (extentFrom place).run stream = some (extent, after))
    : ∃ behind, n ≤ behind ∧ Spans text found extent first behind ∧ after.At text found behind := by
  obtain ⟨_, _, here, given⟩ := of_bind read
  cases here
  obtain ⟨rfl, rfl⟩ := of_pure given
  obtain ⟨behind, order, stands, spanned⟩ := within
  exact ⟨behind, order, ⟨spanned, by rw [stands.behind, same]⟩, stands⟩

/-- Where a rule leads from inside of a phrase to an offset, the phrase goes on to it. -/
theorem Stream.Within.upto (within : stream.Within text found first n)
    (reaches : stream.Reaches after) (stands : after.At text found m)
    : after.Within text found first m := by
  obtain ⟨k, -, behind, spanned⟩ := within.later reaches
  obtain rfl := behind.unique stands
  exact ⟨k, Nat.le_refl k, behind, spanned⟩

/-- A body lays its statements out behind what was read before it. -/
theorem Lays.within {body : Rule (List Stmt)} (lays : Lays text found body)
    (within : stream.Within text found first n) {statements : List Stmt}
    (read : body.run stream = some (statements, after))
    : ∃ k, Stmt.Row text found statements n k ∧ after.Within text found first k := by
  obtain ⟨m, order, stands, -⟩ := id within
  obtain ⟨k, row, behind⟩ := lays stands read
  exact ⟨k, row.mono_left order, within.upto (body.reaches read) behind⟩

/-- A statement inside of another stands behind what was read before it. -/
theorem Places.within {rule : Rule Stmt} (places : Places text found rule)
    (within : stream.Within text found first n) {statement : Stmt}
    (read : rule.run stream = some (statement, after))
    : ∃ k, statement.Stands text found n k ∧ after.Within text found first k := by
  obtain ⟨m, order, stands, -⟩ := id within
  obtain ⟨k, placed, behind⟩ := places stands read
  exact ⟨k, placed.mono order (Nat.le_refl k), within.upto (rule.reaches read) behind⟩

/-- Repeating a step collects what stands in order, by induction on the rounds. The order of all
that is collected is that of what a step gives and of all that comes behind it.
-/
theorem collect_order {α : Type} {step : Rule (Option α)} (order : List α → Nat → Nat → Prop)
    (stands : Stream → Nat → Prop)
    (ends : ∀ stream after n, stands stream n → step.run stream = some (none, after)
      → ∃ m, order [] n m ∧ stands after m)
    (goes : ∀ stream after n a, stands stream n → step.run stream = some (some a, after)
      → ∃ k, stands after k ∧ ∀ later m, order later k m → order (a :: later) n m)
    {bound : Nat} {all : List α} (start : stands stream n)
    (read : (collect step bound).run stream = some (all, after))
    : ∃ m, order all n m ∧ stands after m := by
  induction bound generalizing stream n all with
  | zero => cases read
  | succ bound ih =>
      obtain ⟨given, middle, first, rest⟩ := of_bind read
      cases given with
      | none =>
          obtain ⟨rfl, rfl⟩ := of_pure rest
          exact ends _ _ _ start first
      | some a =>
          obtain ⟨later, last, collected, final⟩ := of_bind rest
          obtain ⟨rfl, rfl⟩ := of_pure final
          obtain ⟨k, stands, front⟩ := goes _ _ _ _ start first
          obtain ⟨m, behind, stands⟩ := ih stands collected
          exact ⟨m, front _ _ behind, stands⟩

/-- A statement ends with the last token that was read, behind all that it is made of. -/
theorem ended_stands {statement : Stmt} {ended : Extent → Stmt} (same : place = placeAt text first)
    (within : stream.Within text found first m)
    (read : (extentFrom place >>= fun extent => pure (ended extent)).run stream
      = some (statement, after))
    (fits : ∀ extent behind,
      m ≤ behind → Spans text found extent first behind
      → (ended extent).Stands text found n behind)
    : ∃ m, statement.Stands text found n m ∧ after.At text found m := by
  obtain ⟨extent, middle, ends, given⟩ := of_bind read
  obtain ⟨rfl, rfl⟩ := of_pure given
  obtain ⟨behind, order, spans, stands⟩ := spans_of_extentFrom within same ends
  exact ⟨behind, fits extent behind order spans, stands⟩

/-! ### Simple statements -/

/-- A statement that holds no others stands where its extent does. -/
theorem leaf_stands {statement : Stmt} {leaf : Extent → Stmt}
    (flat : ∀ extent n m, (leaf extent).Stands text found n m
      ↔ ∃ first behind, n ≤ first ∧ behind ≤ m ∧ Spans text found extent first behind)
    (before : n ≤ first) (same : place = placeAt text first)
    (within : stream.Within text found first m)
    (read : (extentFrom place >>= fun extent => pure (leaf extent)).run stream
      = some (statement, after))
    : ∃ m, statement.Stands text found n m ∧ after.At text found m := by
  refine ended_stands same within read fun extent behind _ spans => ?_
  exact (flat ..).mpr ⟨first, behind, before, Nat.le_refl behind, spans⟩

section

variable {self : Phrases} (leads : Leading self.expression)

include leads

/-- An expression as a statement stands from its first token on. -/
theorem expressionStatement_places : Places text found (expressionStatement self) := by
  intro stream n statement after stands read
  obtain ⟨place, middle, begins, read⟩ := of_bind read
  have begun := begun_of_here stands begins
  obtain ⟨seen, same, sight, read⟩ := of_bind read
  obtain ⟨rfl, -⟩ := of_sees sight
  split at read
  · have leading : Leading (yieldExpression self) := (Leading.keyword _).bind _
    obtain ⟨given, last, first, -, before, same, within, read⟩ := begun.bind leading read
    exact leaf_stands (fun _ _ _ => by rw [Stmt.Stands]) before same within read
  · have leading := starExpressions_leads leads
    obtain ⟨value, last, first, -, before, same, within, read⟩ := begun.bind leading read
    obtain ⟨parts, final, -, within, read⟩ := within.bind read
    split at read
    · exact leaf_stands (fun _ _ _ => by rw [Stmt.Stands]) before same within read
    · exact leaf_stands (fun _ _ _ => by rw [Stmt.Stands]) before same within read

/-- A simple statement stands from its first token on. -/
theorem simpleStatement_places : Places text found (simpleStatement self) := by
  intro stream n statement after stands read
  obtain ⟨place, middle, begins, read⟩ := of_bind read
  have begun := begun_of_here stands begins
  obtain rfl := of_here begins
  obtain ⟨token, same, peeked, read⟩ := of_bind read
  obtain ⟨rfl, -⟩ := of_peek peeked
  split at read
  · rename_i spelling _
    split_ifs at read
    · exact expressionStatement_places leads stands read
    · have leading : Leading (importedModules self) := (Leading.keyword _).bind _
      obtain ⟨words, last, first, -, before, same, within, read⟩ := begun.bind leading read
      exact leaf_stands (fun _ _ _ => by rw [Stmt.Stands]) before same within read
    · have leading : Leading (importedFrom self) := (Leading.keyword _).bind _
      obtain ⟨words, last, first, -, before, same, within, read⟩ := begun.bind leading read
      exact leaf_stands (fun _ _ _ => by rw [Stmt.Stands]) before same within read
    · have leading : Leading (keywordParts self spelling) := (Leading.keyword _).bind _
      obtain ⟨parts, last, first, -, before, same, within, read⟩ := begun.bind leading read
      exact leaf_stands (fun _ _ _ => by rw [Stmt.Stands]) before same within read
  · exact expressionStatement_places leads stands read

/-- Simple statements of a line stand one behind the other. -/
theorem simpleStatements_lays : Lays text found (simpleStatements self) := by
  intro stream n statements after stands read
  obtain ⟨statement, middle, one, read⟩ := of_bind read
  obtain ⟨k, placed, stands⟩ := simpleStatement_places leads stands one
  obtain ⟨later, last, collected, read⟩ := of_bind read
  cases read
  refine (collect_order (Stmt.Row text found) (Stream.At text found) ?_ ?_ stands collected).imp
    fun m => fun ⟨row, behind⟩ => ⟨by rw [Stmt.Row]; exact ⟨k, placed, row⟩, behind⟩
  · intro stream after n stands read
    obtain ⟨m, order, stands⟩ := stands.later (Rule.reaches _ read)
    exact ⟨m, by rwa [Stmt.Row], stands⟩
  · intro stream after n statement stands read
    obtain ⟨skipped, middle, m, -, order, stands, read⟩ := stands.bind read
    split at read
    · cases read
    · obtain ⟨_, last, m', -, order', stands, read⟩ := stands.bind read
      obtain ⟨skipped', last', m'', -, order'', stands, read⟩ := stands.bind read
      split at read
      · cases read
      · obtain ⟨statement, final, one, read⟩ := of_bind read
        cases read
        obtain ⟨k, placed, stands⟩ := simpleStatement_places leads stands one
        refine ⟨k, stands, fun later m row => ?_⟩
        rw [Stmt.Row]
        exact ⟨k, placed.mono (order.trans (order'.trans order'')) (Nat.le_refl k), row⟩

end

end FoldTree.Source.Grammar
