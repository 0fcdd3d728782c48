import FoldTree.Source.Grammar.Statement

/-! Rules that read at least one visible token, and read it first. Looking at tokens reads nothing,
so a rule leads with a visible token if what it reads first does. Every expression leads with one,
since every atom does.
-/

namespace FoldTree.Source.Grammar

variable {α β : Type}

/-- A visible token comes first and is read on the way to another stream. -/
def Stream.Leads (stream after : Stream) : Prop :=
  ∃ token rest,
    stream.rest = token :: rest
    ∧ token.lexeme.isVisible = true
    ∧ (past stream.behind token rest).Reaches after

/-- Reading on keeps what came first. -/
theorem Stream.Leads.trans {first second third : Stream} (leads : first.Leads second)
    (later : second.Reaches third)
    : first.Leads third := by
  obtain ⟨token, rest, next, visible, reaches⟩ := leads
  exact ⟨token, rest, next, visible, reaches.trans later⟩

/-- What leads with a token is reached. -/
theorem Stream.Leads.reaches {stream after : Stream} (leads : stream.Leads after)
    : stream.Reaches after := by
  obtain ⟨token, rest, next, -, reaches⟩ := leads
  rcases stream with ⟨_, behind⟩
  cases next
  exact .next reaches

namespace Rule

/-! ### What rules do -/

variable {rule : Rule α} {later : α → Rule β} {stream after : Stream}

/-- A rule and then another run one after the other. -/
theorem of_bind {b : β} (read : (rule >>= later).run stream = some (b, after))
    : ∃ a middle, rule.run stream = some (a, middle) ∧ (later a).run middle = some (b, after) := by
  obtain ⟨⟨a, middle⟩, first, second⟩ := Option.bind_eq_some_iff.mp read
  exact ⟨a, middle, first, second⟩

/-- A rule that reads nothing gives what it was given. -/
theorem of_pure {a b : α} (read : (pure a : Rule α).run stream = some (b, after))
    : a = b ∧ stream = after := by
  cases read
  exact ⟨rfl, rfl⟩

/-- Of a rule and another in its place one has run. -/
theorem of_orElse {other : Rule α} {a : α} (read : (rule <|> other).run stream = some (a, after))
    : rule.run stream = some (a, after) ∨ other.run stream = some (a, after) := by
  rcases Option.or_eq_some_iff.mp read with first | ⟨-, second⟩
  · exact Or.inl first
  · exact Or.inr second

/-- Looking at the next token leaves it there. -/
theorem of_peek {token : Token} (read : peek.run stream = some (token, after))
    : stream = after ∧ ∃ rest, stream.rest = token :: rest := by
  obtain ⟨_, _, here, read⟩ := of_bind read
  cases here
  split at read
  · rename_i next
    cases read
    exact ⟨rfl, _, next⟩
  · cases read

/-- Looking at the token after the next one reads nothing. -/
theorem of_peekSecond {lexeme : Option Lexeme}
    (read : peekSecond.run stream = some (lexeme, after))
    : stream = after := by
  obtain ⟨_, _, here, read⟩ := of_bind read
  cases here
  split at read <;> exact (of_pure read).2

/-- Reading a token goes past it. -/
theorem of_next {token : Token} (read : next.run stream = some (token, after))
    : ∃ rest, stream.rest = token :: rest ∧ after = .past stream.behind token rest := by
  rcases stream with ⟨_ | ⟨first, rest⟩, behind⟩
  · cases read
  · cases read
    exact ⟨rest, rfl, rfl⟩

/-- Asking for a token reads nothing, and says whether it comes next. -/
theorem of_sees {lexeme : Lexeme} {seen : Bool}
    (read : (sees lexeme).run stream = some (seen, after))
    : stream = after
      ∧ ∃ token rest, stream.rest = token :: rest ∧ seen = decide (token.lexeme = lexeme) := by
  obtain ⟨token, middle, peeked, given⟩ := of_bind read
  obtain ⟨rfl, rest, next⟩ := of_peek peeked
  obtain ⟨rfl, rfl⟩ := of_pure given
  exact ⟨rfl, token, rest, next, rfl⟩

/-- A token is read if it comes next, and otherwise nothing is. -/
theorem of_skips {lexeme : Lexeme} {skipped : Bool}
    (read : (skips lexeme).run stream = some (skipped, after))
    : (true = skipped ∧ ∃ token rest,
          stream.rest = token :: rest
          ∧ token.lexeme = lexeme
          ∧ after = .past stream.behind token rest)
      ∨ (false = skipped ∧ stream = after) := by
  obtain ⟨seen, middle, sight, given⟩ := of_bind read
  obtain ⟨rfl, token, rest, next, rfl⟩ := of_sees sight
  split at given
  · rename_i same
    obtain ⟨_, _, taken, given⟩ := of_bind given
    obtain ⟨other, next', rfl⟩ := of_next taken
    obtain ⟨rfl, rfl⟩ := of_pure given
    rw [next] at next'
    cases next'
    exact Or.inl ⟨rfl, token, rest, next, of_decide_eq_true same, rfl⟩
  · exact Or.inr (of_pure given)

/-- A token that is expected comes next and is read. -/
theorem of_expect {lexeme : Lexeme} {u : Unit}
    (read : (expect lexeme).run stream = some (u, after))
    : ∃ token rest,
        stream.rest = token :: rest
        ∧ token.lexeme = lexeme
        ∧ after = .past stream.behind token rest := by
  obtain ⟨skipped, middle, skip, given⟩ := of_bind read
  rcases of_skips skip with ⟨rfl, found⟩ | ⟨rfl, rfl⟩
  · obtain ⟨-, rfl⟩ := of_pure given
    exact found
  · cases given

/-! ### Rules that lead with a visible token -/

/-- Wherever a rule fits, it reads a visible token first. -/
def Leading (rule : Rule α) : Prop :=
  ∀ ⦃stream : Stream⦄ ⦃a : α⦄ ⦃after : Stream⦄,
    rule.run stream = some (a, after) → stream.Leads after

namespace Leading

/-- A rule leads if its first part does. -/
theorem bind (leads : Leading rule) (later : α → Rule β) : Leading (rule >>= later) := by
  intro stream b after read
  obtain ⟨a, middle, first, second⟩ := of_bind read
  exact (leads first).trans ((later a).reaches second)

/-- A rule that never fits leads. -/
theorem failure : Leading (failure : Rule α) := by
  intro stream a after read
  cases read

/-- A choice leads if both sides do. -/
theorem ite {p : Prop} [Decidable p] {other : Rule α} (leads : Leading rule)
    (leads' : Leading other)
    : Leading (if p then rule else other) := by
  split
  · exact leads
  · exact leads'

/-- Behind a look at the next token, what follows leads. -/
theorem peek {later : Token → Rule α}
    (leads : ∀ token rest behind ⦃a after⦄,
      (later token).run ⟨token :: rest, behind⟩ = some (a, after)
        → Stream.Leads ⟨token :: rest, behind⟩ after)
    : Leading (peek >>= later) := by
  intro stream a after read
  obtain ⟨token, middle, peeked, given⟩ := of_bind read
  obtain ⟨rfl, rest, next⟩ := of_peek peeked
  obtain ⟨rest, behind⟩ := stream
  cases next
  exact leads _ _ _ given

/-- Whether a token comes next or not, what follows leads. -/
theorem sees (lexeme : Lexeme) {later : Bool → Rule α} (leads : ∀ seen, Leading (later seen))
    : Leading (sees lexeme >>= later) := by
  intro stream a after read
  obtain ⟨seen, middle, sight, given⟩ := of_bind read
  obtain ⟨rfl, -⟩ := of_sees sight
  exact leads seen given

/-- Where a visible token does not come next, what follows has to lead. -/
theorem skips {lexeme : Lexeme} (visible : lexeme.isVisible = true) {later : Bool → Rule α}
    (leads : Leading (later false))
    : Leading (skips lexeme >>= later) := by
  intro stream a after read
  obtain ⟨skipped, middle, skip, given⟩ := of_bind read
  rcases of_skips skip with ⟨rfl, token, rest, next, rfl, rfl⟩ | ⟨rfl, rfl⟩
  · exact ⟨token, rest, next, visible, (later true).reaches given⟩
  · exact leads given

/-- Reading a visible token that is expected leads. -/
theorem expect {lexeme : Lexeme} (visible : lexeme.isVisible = true) : Leading (expect lexeme) := by
  intro stream a after read
  obtain ⟨token, rest, next, rfl, rfl⟩ := of_expect read
  exact ⟨token, rest, next, visible, .refl⟩

/-- Signs are visible. -/
theorem mark (spelling : String) : Leading (mark spelling) := expect rfl

/-- Keywords are visible. -/
theorem keyword (spelling : String) : Leading (keyword spelling) := expect rfl

end Leading

end Rule

/-! ### Expressions -/

open Rule (Leading of_bind of_pure of_peek of_next)

/-- A name is visible. -/
theorem anyName_leads : Leading anyName := by
  intro stream word after read
  obtain ⟨token, middle, taken, given⟩ := of_bind read
  obtain ⟨rest, next, rfl⟩ := of_next taken
  split at given
  · rename_i spelling same
    obtain ⟨-, rfl⟩ := of_pure given
    exact ⟨token, rest, next, by rw [same]; rfl, .refl⟩
  · cases given

/-- One of some signs is read, and is visible, or nothing is. -/
theorem of_skipsAnyMark {spellings : List String} {stream after : Stream} {skipped : Bool}
    (read : (skipsAnyMark spellings).run stream = some (skipped, after))
    : (true = skipped ∧ stream.Leads after) ∨ (false = skipped ∧ stream = after) := by
  obtain ⟨seen, before, sight, taken⟩ := of_bind read
  obtain ⟨token, same, peeked, given⟩ := of_bind sight
  obtain ⟨rfl, rest, next⟩ := of_peek peeked
  split at given
  · rename_i spelling visible
    obtain ⟨rfl, rfl⟩ := of_pure given
    split at taken
    · obtain ⟨_, _, first, final⟩ := of_bind taken
      obtain ⟨others, here, rfl⟩ := of_next first
      obtain ⟨rfl, rfl⟩ := of_pure final
      rw [next] at here
      cases here
      exact Or.inl ⟨rfl, token, rest, next, by rw [visible]; rfl, .refl⟩
    · exact Or.inr (of_pure taken)
  · obtain ⟨rfl, rfl⟩ := of_pure given
    exact Or.inr (of_pure taken)

/-- Where none of some signs comes next, what follows has to lead. -/
theorem skipsAnyMark_leads (spellings : List String) {α : Type} {later : Bool → Rule α}
    (leads : Leading (later false))
    : Leading (skipsAnyMark spellings >>= later) := by
  intro stream a after read
  obtain ⟨skipped, middle, skip, given⟩ := of_bind read
  rcases of_skipsAnyMark skip with ⟨rfl, first⟩ | ⟨rfl, rfl⟩
  · exact first.trans ((later true).reaches given)
  · exact leads given

section

variable (self : Phrases)

/-- A text literal that comes next is read. -/
theorem literals_leads {token : Token} {literal : Literal}
    (spelled : token.lexeme = .literal literal) {rest : List Token} {behind : Position}
    {read : Expr} {after : Stream}
    (fits : (literals self).run ⟨token :: rest, behind⟩ = some (read, after))
    : Stream.Leads ⟨token :: rest, behind⟩ after := by
  obtain ⟨all, middle, collected, given⟩ := of_bind fits
  refine Stream.Leads.trans ?_ (Rule.reaches _ given)
  cases bound : self.bound with
  | zero =>
      rw [bound] at collected
      cases collected
  | succ rounds =>
      rw [bound, Rule.collect] at collected
      obtain ⟨first, second, step, later⟩ := of_bind collected
      refine Stream.Leads.trans ?_ (Rule.reaches _ later)
      obtain ⟨_, _, peeked, step⟩ := of_bind step
      obtain ⟨rfl, _, next⟩ := of_peek peeked
      cases next
      rw [spelled] at step
      obtain ⟨_, _, taken, step⟩ := of_bind step
      obtain ⟨_, next, rfl⟩ := of_next taken
      obtain ⟨-, rfl⟩ := of_pure step
      cases next
      exact ⟨token, rest, rfl, by rw [spelled]; rfl, .refl⟩

/-- A visible token that comes next is read by reading the next token. -/
theorem next_leads {token : Token} (visible : token.lexeme.isVisible = true)
    {rest : List Token} {behind : Position} {α : Type} {later : Token → Rule α} {a : α}
    {after : Stream}
    (fits : (Rule.next >>= later).run ⟨token :: rest, behind⟩ = some (a, after))
    : Stream.Leads ⟨token :: rest, behind⟩ after := by
  obtain ⟨_, _, taken, given⟩ := of_bind fits
  obtain ⟨_, next, rfl⟩ := of_next taken
  cases next
  exact ⟨token, rest, rfl, visible, Rule.reaches _ given⟩

/-- Every atom starts with a visible token. -/
theorem atom_leads : Leading (atom self) := by
  refine .peek fun token rest behind read after fits => ?_
  split at fits
  · exact (anyName_leads.bind _) fits
  · rename_i spelled
    exact literals_leads self spelled fits
  · rename_i spelled
    exact next_leads (by rw [spelled]; rfl) fits
  · rename_i spelled
    exact next_leads (by rw [spelled]; rfl) fits
  · refine Leading.ite ?_ (.ite ?_ (.ite ?_ ?_)) fits
    · exact (Leading.mark _).bind _
    · exact (Leading.mark _).bind _
    · exact (Leading.mark _).bind _
    · exact (Leading.mark _).bind _
  · cases fits

/-- Operands with operators between them start as the first operand does. -/
theorem operation_leads {operand : Rule Expr} (leads : Leading operand) (bound : Nat)
    (operator : Rule Bool)
    : Leading (operation bound operator operand) :=
  leads.bind _

/-- Every expression without operators and signs starts with a visible token. -/
theorem awaited_leads : Leading (awaited self) := by
  have primary : Leading (primary self) := (atom_leads self).bind _
  exact .skips rfl primary

/-- A sign or what it stands before starts with a visible token. -/
theorem factor_leads : Leading (factor self) :=
  skipsAnyMark_leads _ ((awaited_leads self).bind _)

/-- Operators come behind their first operands. -/
theorem bitwise_leads : Leading (bitwise self) := by
  have sum : Leading (sum self) :=
    operation_leads (operation_leads (factor_leads self) _ _) _ _
  exact operation_leads (operation_leads (operation_leads (operation_leads sum _ _) _ _) _ _) _ _

/-- An expression without a condition starts with a visible token. -/
theorem disjunction_leads : Leading (disjunction self) := by
  have inversion : Leading (inversion self) :=
    .skips rfl (operation_leads (bitwise_leads self) _ _)
  exact operation_leads (operation_leads inversion _ _) _ _

/-- Every expression starts with a visible token. -/
theorem expression_leads : Leading (expression self) := by
  refine .sees _ fun seen => ?_
  cases seen with
  | true => exact (Leading.keyword _).bind _
  | false => exact (disjunction_leads self).bind _

end

/-- At every depth of nesting, expressions start with visible tokens. -/
theorem phrases_lead (depth : Nat) : Leading (phrases depth).expression := by
  cases depth with
  | zero => exact .failure
  | succ depth => exact expression_leads (phrases depth)

/-- Expressions with commas start with a visible token if each expression does. -/
theorem starExpressions_leads {self : Phrases} (leads : Leading self.expression)
    : Leading (starExpressions self) := by
  have first : Leading (starExpression self) := .skips rfl leads
  have items : Leading (Rule.commaList self.bound startsStarred (starExpression self)) :=
    (first.bind _).bind _
  exact items.bind _

end FoldTree.Source.Grammar
