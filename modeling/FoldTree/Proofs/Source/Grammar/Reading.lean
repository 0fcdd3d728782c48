import FoldTree.Proofs.Source.Layout

/-! Streams that stand in a text. Rules read on, so from wherever a stream stands they lead to a
place behind it, and the tokens that they read fill the text in between.
-/

namespace FoldTree.Source.Grammar

open Rule (of_bind of_pure of_peek of_next of_sees of_skips of_expect)
open Text (placeAt)

/-- A stream stands at an offset of a text: the last token that was read ends there, and the tokens
to come stand behind it.
-/
structure Stream.At (text : List Char) (found : List (Nat × Nat)) (stream : Stream) (n : Nat) :
    Prop where
  bound : n ≤ text.length
  behind : stream.behind = placeAt text n
  placed : Placed text (Fits text found) n stream.rest

/-- A stream stands behind an offset, and the tokens from a first one on have been read. -/
def Stream.Within (text : List Char) (found : List (Nat × Nat)) (stream : Stream)
    (first n : Nat) : Prop :=
  ∃ m, n ≤ m ∧ stream.At text found m ∧ Spanned text found first m

/-- A phrase starts at a place: its first token has been read, or is the next one. -/
inductive Stream.Begun (text : List Char) (found : List (Nat × Nat)) (stream : Stream) (n : Nat)
    (place : Position) : Prop
  | next {token : Token} {rest : List Token} (stands : stream.At text found n)
    (ahead : stream.rest = token :: rest) (same : place = token.extent.first)
  | within {first : Nat} (after : n ≤ first) (same : place = placeAt text first)
    (inside : stream.Within text found first first)

variable {text : List Char} {found : List (Nat × Nat)} {stream after : Stream} {n m first : Nat}

namespace Stream

/-- A stream stands at one offset only. -/
theorem At.unique (stands : stream.At text found n) (other : stream.At text found m) : n = m := by
  have same : placeAt text n = placeAt text m := by rw [← stands.behind, other.behind]
  have place := Text.byteOffset?_placeAt stands.bound
  rw [same, Text.byteOffset?_placeAt other.bound] at place
  exact (Option.some.inj place).symm

/-- Going past a token that has no characters stays at the offset. -/
theorem At.past_hidden {token : Token} {rest : List Token}
    (stands : stream.At text found n) (next : stream.rest = token :: rest)
    (hidden : token.lexeme.isVisible = false)
    : (past stream.behind token rest).At text found n := by
  have placed := stands.placed
  rw [next] at placed
  cases placed with
  | hidden _ later => exact ⟨stands.bound, by simp [past, hidden, stands.behind], later⟩
  | visible visible => simp [hidden] at visible

/-- Going past a visible token goes to its end. -/
theorem At.past_visible {token : Token} {rest : List Token}
    (stands : stream.At text found n) (next : stream.rest = token :: rest)
    (visible : token.lexeme.isVisible = true)
    : ∃ start stop,
        n ≤ start
        ∧ start ≤ stop
        ∧ Fits text found start stop
        ∧ token.extent.first = placeAt text start
        ∧ (past stream.behind token rest).At text found stop := by
  have placed := stands.placed
  rw [next] at placed
  cases placed with
  | hidden hidden => simp [hidden] at visible
  | @visible _ start stop _ _ _ after proper extent fit later =>
      refine ⟨start, stop, after, proper, fit, by rw [extent], fit.bounded, ?_, later⟩
      simp [past, visible, extent]

/-- Reading on leads behind, with all tokens since a first one, by induction on what is read. -/
theorem Within.later (within : stream.Within text found first n) (reaches : stream.Reaches after)
    : after.Within text found first n := by
  induction reaches with
  | refl => exact within
  | @next behind token rest _ _ ih =>
      obtain ⟨m, order, stands, spanned⟩ := within
      apply ih
      cases visible : token.lexeme.isVisible with
      | false => exact ⟨m, order, stands.past_hidden rfl visible, spanned⟩
      | true =>
          obtain ⟨start, stop, before, proper, fit, -, stands⟩ := stands.past_visible rfl visible
          exact ⟨stop, order.trans (before.trans proper), stands, spanned.token before proper fit⟩

/-- Reading on leads to an offset behind, by induction on what is read. -/
theorem At.later (stands : stream.At text found n) (reaches : stream.Reaches after)
    : ∃ m, n ≤ m ∧ after.At text found m := by
  induction reaches generalizing n with
  | refl => exact ⟨n, Nat.le_refl n, stands⟩
  | @next behind token rest _ _ ih =>
      cases visible : token.lexeme.isVisible with
      | false => exact ih (stands.past_hidden rfl visible)
      | true =>
          obtain ⟨start, stop, before, proper, fit, -, stands⟩ := stands.past_visible rfl visible
          obtain ⟨m, order, stands⟩ := ih stands
          exact ⟨m, before.trans (proper.trans order), stands⟩

/-- A rule goes on to an offset behind, and the next one from there. -/
theorem At.bind {α β : Type} {rule : Rule α} {later : α → Rule β} {b : β}
    (stands : stream.At text found n) (read : (rule >>= later).run stream = some (b, after))
    : ∃ a middle m,
        rule.run stream = some (a, middle)
        ∧ n ≤ m
        ∧ middle.At text found m
        ∧ (later a).run middle = some (b, after) := by
  obtain ⟨a, middle, first, second⟩ := of_bind read
  obtain ⟨m, order, stands⟩ := stands.later (rule.reaches first)
  exact ⟨a, middle, m, first, order, stands, second⟩

/-- A rule goes on with all tokens since a first one, and the next one from there. -/
theorem Within.bind {α β : Type} {rule : Rule α} {later : α → Rule β} {b : β}
    (within : stream.Within text found first n)
    (read : (rule >>= later).run stream = some (b, after))
    : ∃ a middle,
        rule.run stream = some (a, middle)
        ∧ middle.Within text found first n
        ∧ (later a).run middle = some (b, after) := by
  obtain ⟨a, middle, front, second⟩ := of_bind read
  exact ⟨a, middle, front, within.later (rule.reaches front), second⟩

/-- A visible token that is read first is the first one since its start. -/
theorem At.leads (stands : stream.At text found n) (leads : stream.Leads after)
    : ∃ first token rest,
        n ≤ first
        ∧ stream.rest = token :: rest
        ∧ token.extent.first = placeAt text first
        ∧ after.Within text found first first := by
  obtain ⟨token, rest, next, visible, reaches⟩ := leads
  obtain ⟨start, stop, before, proper, fit, place, stands⟩ := stands.past_visible next visible
  have begun : (past stream.behind token rest).Within text found start start :=
    ⟨stop, proper, stands, ⟨stop, proper, Nat.le_refl stop, fit⟩,
      ⟨start, Nat.le_refl start, proper, fit⟩⟩
  exact ⟨start, token, rest, before, next, place, begun.later reaches⟩

/-- A phrase whose first token is visible stands from there on. -/
theorem Begun.leads {place : Position} (begun : stream.Begun text found n place)
    (leads : stream.Leads after)
    : ∃ first, n ≤ first ∧ place = placeAt text first ∧ after.Within text found first first := by
  cases begun with
  | next stands ahead same =>
      obtain ⟨first, token, rest, before, next, start, within⟩ := stands.leads leads
      rw [ahead] at next
      cases next
      exact ⟨first, before, same.trans start, within⟩
  | @within first before same inside =>
      exact ⟨first, before, same, inside.later leads.reaches⟩

/-- A phrase goes on when a visible token is read if it comes next. -/
theorem Begun.skips {place : Position} {lexeme : Lexeme} {skipped : Bool}
    (begun : stream.Begun text found n place) (visible : lexeme.isVisible = true)
    (read : (Rule.skips lexeme).run stream = some (skipped, after))
    : after.Begun text found n place := by
  rcases of_skips read with ⟨-, token, rest, next, rfl, rfl⟩ | ⟨-, rfl⟩
  · obtain ⟨first, before, same, within⟩ := begun.leads ⟨token, rest, next, visible, .refl⟩
    exact .within before same within
  · exact begun

/-- A rule that leads begins a phrase, and the next one goes on with it. -/
theorem Begun.bind {α β : Type} {rule : Rule α} {later : α → Rule β} {b : β} {place : Position}
    (begun : stream.Begun text found n place) (leads : rule.Leading)
    (read : (rule >>= later).run stream = some (b, after))
    : ∃ a middle first,
        rule.run stream = some (a, middle)
        ∧ n ≤ first
        ∧ place = placeAt text first
        ∧ middle.Within text found first first
        ∧ (later a).run middle = some (b, after) := by
  obtain ⟨a, middle, front, second⟩ := of_bind read
  obtain ⟨first, before, same, within⟩ := begun.leads (leads front)
  exact ⟨a, middle, first, front, before, same, within, second⟩

end Stream

end FoldTree.Source.Grammar
