import FoldTree.Proofs.Source.Spelling
import FoldTree.Proofs.Text.Offset

/-! Where the tokens of a text are. Visible tokens come one behind the other, and each of them lies
before or behind every comment: the lexer passes over the comments between two tokens and finds none
inside of a token.
-/

namespace FoldTree.Source

open Comment (stretches isInert InOrder inOrder_of_stretches)
open Text (placeAt)

/-- A stretch of a text that a visible token may fill, given the comments of the text. -/
structure Fits (text : List Char) (found : List (Nat × Nat)) (first behind : Nat) : Prop where
  bounded : behind ≤ text.length
  solid : ∃ c, text[first]? = some c ∧ Text.isBlank c = false ∧ c ≠ '#'
  last : ((text.drop first).take (behind - first)).getLast? ≠ some '\n'
  clear : ∀ stretch ∈ found, behind ≤ stretch.1 ∨ stretch.2 ≤ first

/-- Tokens that stand in a text from an offset on, where the visible ones fill stretches that fit.
-/
inductive Placed (text : List Char) (fits : Nat → Nat → Prop) : Nat → List Token → Prop
  | nil {n : Nat} : Placed text fits n []
  | hidden {n : Nat} {token : Token} {rest : List Token}
    (hidden : token.lexeme.isVisible = false) (later : Placed text fits n rest)
    : Placed text fits n (token :: rest)
  | visible {n first behind : Nat} {token : Token} {rest : List Token}
    (visible : token.lexeme.isVisible = true) (after : n ≤ first) (proper : first ≤ behind)
    (extent : token.extent = ⟨placeAt text first, placeAt text behind⟩)
    (fit : fits first behind) (later : Placed text fits behind rest)
    : Placed text fits n (token :: rest)

/-- Tokens that stand behind an offset stand behind an earlier one, and their stretches may fit
more loosely.
-/
theorem Placed.mono {text : List Char} {fits others : Nat → Nat → Prop} {n m : Nat}
    {tokens : List Token} (placed : Placed text fits m tokens) (order : n ≤ m)
    (loosen : ∀ first behind, m ≤ first → fits first behind → others first behind)
    : Placed text others n tokens := by
  induction placed generalizing n with
  | nil => exact .nil
  | hidden hidden _ ih => exact .hidden hidden (ih order loosen)
  | @visible m first behind token rest visible after proper extent fit _ ih =>
      refine .visible visible (order.trans after) proper extent (loosen first behind after fit) ?_
      exact ih (Nat.le_refl _) fun other stop later =>
        loosen other stop (after.trans (proper.trans later))

/-- Every visible token among those that stand in a text fills a stretch that fits, by induction. -/
theorem Placed.fits {text : List Char} {fits : Nat → Nat → Prop} {n : Nat} {tokens : List Token}
    (placed : Placed text fits n tokens) {token : Token} (member : token ∈ tokens)
    (visible : token.lexeme.isVisible = true)
    : ∃ first behind,
        token.extent = ⟨placeAt text first, placeAt text behind⟩ ∧ fits first behind := by
  induction placed with
  | nil => cases member
  | hidden hidden _ ih =>
      rcases List.mem_cons.mp member with rfl | member
      · rw [hidden] at visible
        cases visible
      · exact ih member
  | visible _ _ _ extent fit _ ih =>
      rcases List.mem_cons.mp member with rfl | member
      · exact ⟨_, _, extent, fit⟩
      · exact ih member

/-- Tokens without characters can stand anywhere. -/
theorem Placed.append_hidden {text : List Char} {fits : Nat → Nat → Prop} {n : Nat}
    {tokens later : List Token} (hidden : ∀ token ∈ tokens, token.lexeme.isVisible = false)
    (placed : Placed text fits n later)
    : Placed text fits n (tokens ++ later) := by
  induction tokens with
  | nil => exact placed
  | cons token rest ih =>
      exact .hidden (hidden token List.mem_cons_self)
        (ih fun other member => hidden other (List.mem_cons_of_mem _ member))

/-- Tokens cover a text between two offsets if a reading of the text from the second offset on
extends to one from the first offset on, with the tokens in front and all that comes later in its
place.
-/
def Covers (text : List Char) (n : Nat) (read : List Token) (m : Nat) : Prop :=
  ∀ found later,
    stretches .code 0 m (text.drop m) = some found
    → Placed text (Fits text found) m later
    → ∃ all,
        stretches .code 0 n (text.drop n) = some all
        ∧ Placed text (Fits text all) n (read ++ later)

namespace Covers

variable {text : List Char} {n m k : Nat} {read : List Token}

/-- Nothing is covered by no tokens. -/
theorem refl (text : List Char) (n : Nat) : Covers text n [] n :=
  fun found _ same placed => ⟨found, same, placed⟩

/-- What is covered in two parts is covered as a whole. -/
theorem trans {first second : List Token} (before : Covers text n first m)
    (behind : Covers text m second k)
    : Covers text n (first ++ second) k := by
  intro found later same placed
  obtain ⟨middle, sameMiddle, placedMiddle⟩ := behind found later same placed
  rw [List.append_assoc]
  exact before middle (second ++ later) sameMiddle placedMiddle

/-- Tokens without characters cover nothing. -/
theorem hidden (text : List Char) (n : Nat) {tokens : List Token}
    (hidden : ∀ token ∈ tokens, token.lexeme.isVisible = false)
    : Covers text n tokens n :=
  fun found _ same placed => ⟨found, same, placed.append_hidden hidden⟩

/-- Characters that start no comment or literal are covered without a token. -/
theorem inert {count : Nat} (bound : n + count ≤ text.length)
    (inert : ((text.drop n).take count).all isInert = true)
    : Covers text n [] (n + count) := by
  intro found later same placed
  refine ⟨found, ?_, placed.mono (Nat.le_add_right n count) fun _ _ _ fit => fit⟩
  have passed := Comment.stretches_inert n inert ((text.drop n).drop count)
  have length : ((text.drop n).take count).length = count := by
    simp only [List.length_take, List.length_drop]
    omega
  rwa [List.take_append_drop, length, List.drop_drop, same] at passed

/-- A comment is covered without a token. Later tokens stand behind it. -/
theorem comment {body rest : List Char} (split : text.drop n = '#' :: body ++ rest)
    (inside : '\n' ∉ body) (ends : ∀ c ∈ rest.head?, c = '\n')
    : Covers text n [] (n + 1 + body.length) := by
  intro found later same placed
  have behind : text.drop (n + 1 + body.length) = rest := by
    rw [Nat.add_assoc, ← List.drop_drop, split, List.drop_left' (by simp [Nat.add_comm])]
  refine ⟨(n, n + 1 + body.length) :: found, ?_, placed.mono (by omega) ?_⟩
  · rw [split, Comment.stretches_hash n inside ends, ← behind, same, Option.map_some]
  · intro first stop after fit
    refine ⟨fit.bounded, fit.solid, fit.last, ?_⟩
    rintro stretch (_ | ⟨_, member⟩)
    · exact Or.inr after
    · exact fit.clear stretch member

/-- A visible token covers its own characters. All comments that come later start behind it. -/
theorem token {lexeme : Lexeme} {count : Nat} (visible : lexeme.isVisible = true)
    (spelled : Spelled (text.drop n) count)
    : Covers text n [⟨lexeme, ⟨placeAt text n, placeAt text (n + count)⟩⟩] (n + count) := by
  intro found later same placed
  have bound := spelled.bound
  obtain ⟨c, head, nonblank⟩ := spelled.head
  have inside : n < text.length := by
    by_contra beyond
    rw [List.drop_eq_nil_of_le (Nat.le_of_not_lt beyond)] at head
    cases head
  rw [List.length_drop] at bound
  refine ⟨found, ?_, .visible visible (Nat.le_refl n) (Nat.le_add_right n count) rfl ?_ placed⟩
  · rw [spelled.passes, List.drop_drop, same]
  · refine ⟨by omega, ⟨c, ?_, nonblank⟩, ?_, fun stretch member => Or.inl ?_⟩
    · rwa [List.head?_drop] at head
    · rw [Nat.add_sub_cancel_left]
      exact spelled.last
    · exact ((inOrder_of_stretches same).bounded stretch member).1

end Covers

/-- A cursor that stands at an offset of a text. -/
structure Cursor.At (text : List Char) (n : Nat) (cursor : Cursor) : Prop where
  rest : cursor.rest = text.drop n
  place : cursor.place = placeAt text n
  bound : n ≤ text.length

namespace Cursor.At

variable {text : List Char} {n count : Nat} {cursor : Cursor}

/-- A cursor that skips characters that are there stands behind them. -/
theorem skip (stands : cursor.At text n) (there : count ≤ cursor.rest.length)
    : (cursor.skip count).At text (n + count) where
  rest := by simp only [Cursor.skip, stands.rest, List.drop_drop]
  place := by simp only [Cursor.skip, stands.rest, stands.place, Text.afterAll_placeAt]
  bound := by
    rw [stands.rest, List.length_drop] at there
    have bound := stands.bound
    omega

/-- Skipping characters without comments and literals covers them. -/
theorem covers_skip (stands : cursor.At text n) (count : Nat)
    (there : count ≤ cursor.rest.length)
    (inert : (cursor.rest.take count).all isInert = true)
    : (cursor.skip count).At text (n + count) ∧ Covers text n [] (n + count) :=
  ⟨stands.skip there, .inert (stands.skip there).bound (stands.rest ▸ inert)⟩

/-- The same holds of the characters that a test selects, where these are none that comments and
literals start with.
-/
theorem covers_skipWhile (stands : cursor.At text n) {p : Char → Bool}
    (inert : ∀ c, p c = true → isInert c = true)
    : ∃ m, (cursor.skipWhile p).At text m ∧ Covers text n [] m := by
  refine ⟨_, stands.covers_skip _ (List.takeWhile_prefix p).length_le ?_⟩
  rw [take_length_takeWhile]
  exact List.all_eq_true.mpr fun c member => inert c (List.mem_takeWhile_imp member)

/-- Skipping a comment covers it. -/
theorem covers_skipComment (stands : cursor.At text n)
    : ∃ m, cursor.skipComment.At text m ∧ Covers text n [] m := by
  unfold skipComment
  split
  · rename_i hash
    have there : (cursor.rest.takeWhile (· != '\n')).length ≤ cursor.rest.length :=
      (List.takeWhile_prefix _).length_le
    refine ⟨_, stands.skip there, ?_⟩
    obtain ⟨body, starts⟩ : ∃ body, cursor.rest = '#' :: body :=
      List.head?_eq_some_iff.mp hash
    have split : text.drop n = '#' :: body.takeWhile (· != '\n') ++ body.dropWhile (· != '\n') := by
      rw [← stands.rest, starts, List.cons_append, List.takeWhile_append_dropWhile]
    have inside : '\n' ∉ body.takeWhile (· != '\n') := fun member => by
      simpa using List.mem_takeWhile_imp member
    have ends : ∀ c ∈ (body.dropWhile (· != '\n')).head?, c = '\n' := by
      intro c head
      have stops := List.head?_dropWhile_not (· != '\n') body
      rw [Option.mem_def.mp head] at stops
      simpa using stops
    have covered := Covers.comment split inside ends
    simpa [starts, Nat.add_assoc, Nat.add_comm 1] using covered
  · exact ⟨n, stands, .refl text n⟩

/-- Skipping to the next token of a line, or to its end, covers the blanks and the comment between. -/
theorem covers_gap (stands : cursor.At text n)
    : ∃ m,
        (cursor.skipWhile fun c => c == ' ' || c == '\t' || c == '\x0c').skipComment.At text m
        ∧ Covers text n [] m := by
  have blank (c : Char) (passes : (c == ' ' || c == '\t' || c == '\x0c') = true)
      : isInert c = true := by
    simp only [Bool.or_eq_true, beq_iff_eq] at passes
    rcases passes with (rfl | rfl) | rfl <;> decide
  obtain ⟨_, skipped, blanks⟩ := stands.covers_skipWhile blank
  obtain ⟨m, commented, comment⟩ := skipped.covers_skipComment
  exact ⟨m, commented, blanks.trans comment⟩

end Cursor.At

/-- The characters that an indentation is measured by are no comments or literals, by induction. -/
theorem measure_spec {indent measured : Indent} {joined count total : Nat} {chars : List Char}
    (read : measure indent joined count chars = some (measured, total))
    : ∃ more,
        total = count + more
        ∧ more ≤ chars.length
        ∧ (chars.take more).all isInert = true := by
  fun_induction measure indent joined count chars with
  | case1 indent joined count rest ih =>
      obtain ⟨more, rfl, bound, inert⟩ := ih read
      exact ⟨more + 1, by omega, by simpa using bound, by simp [inert, isInert]⟩
  | case2 indent joined count rest ih =>
      obtain ⟨more, rfl, bound, inert⟩ := ih read
      exact ⟨more + 1, by omega, by simpa using bound, by simp [inert, isInert]⟩
  | case3 indent joined count rest ih =>
      obtain ⟨more, rfl, bound, inert⟩ := ih read
      exact ⟨more + 1, by omega, by simpa using bound, by simp [inert, isInert]⟩
  | case4 indent joined count c rest ih =>
      obtain ⟨more, rfl, bound, inert⟩ := ih read
      exact ⟨more + 2, by omega, by simpa using bound, by simpa [isInert] using inert⟩
  | case5 => cases read
  | case6 =>
      cases read
      exact ⟨0, rfl, Nat.zero_le _, rfl⟩

/-- The start of a line has tokens for indentations only, by induction on the open ones. -/
theorem openIndents_hidden {indent : Indent} {opened indents : List Indent}
    {lexemes : List Lexeme} (read : openIndents indent opened = some (indents, lexemes))
    : ∀ lexeme ∈ lexemes, lexeme.isVisible = false := by
  induction opened generalizing indents lexemes with
  | nil => cases read
  | cons top below ih =>
      simp only [openIndents] at read
      split_ifs at read
      · cases read
        simp
      · cases read
        simp [Lexeme.isVisible]
      · obtain ⟨⟨outer, inner⟩, found, same⟩ := Option.bind_eq_some_iff.mp read
        dsimp only at same
        split at same
        · cases same
        · cases same
          rintro lexeme (_ | ⟨_, member⟩)
          · rfl
          · exact ih found lexeme member

section

variable {text : List Char} {n : Nat} {state next : LexerState} {tokens : List Token}

/-- Reading the start of a line covers what it skips. -/
theorem lineStart_covers (stands : state.cursor.At text n)
    (read : lineStart state = some (tokens, next))
    : ∃ m, next.cursor.At text m ∧ Covers text n tokens m := by
  simp only [lineStart, Option.bind_eq_bind, Option.bind_eq_some_iff] at read
  obtain ⟨⟨indent, count⟩, measured, read⟩ := read
  obtain ⟨more, same, there, inert⟩ := measure_spec measured
  rw [Nat.zero_add] at same
  subst same
  obtain ⟨behind, covered⟩ := stands.covers_skip _ there inert
  dsimp only at read
  split at read
  · rename_i newline
    cases read
    obtain ⟨m, commented, comment⟩ := behind.covers_skipComment
    obtain ⟨rest, starts⟩ := List.head?_eq_some_iff.mp newline
    obtain ⟨final, ended⟩ := commented.covers_skip 1 (by simp [starts])
      (by simp [starts, isInert])
    exact ⟨m + 1, final, covered.trans (comment.trans ended)⟩
  · obtain ⟨⟨indents, lexemes⟩, opened, same⟩ := Option.bind_eq_some_iff.mp read
    cases same
    refine ⟨n + count, behind, covered.trans (.hidden text _ ?_)⟩
    intro token member
    obtain ⟨lexeme, inside, rfl⟩ := List.mem_map.mp member
    exact openIndents_hidden opened lexeme inside

/-- Reading on inside a line covers what it skips and the token that it reads. -/
theorem lineStep_covers (stands : state.cursor.At text n)
    (read : lineStep state = some (tokens, next))
    : ∃ m, next.cursor.At text m ∧ Covers text n tokens m := by
  obtain ⟨m, commented, before⟩ := stands.covers_gap
  simp only [lineStep] at read
  generalize (state.cursor.skipWhile _).skipComment = cursor at read commented
  split at read
  · cases read
  · rename_i rest starts
    obtain ⟨final, ended⟩ := commented.covers_skip 1 (by simp [starts])
      (by simp [starts, isInert])
    split at read
    · cases read
      exact ⟨m + 1, final, before.trans (ended.trans (.hidden text _ (by simp [Lexeme.isVisible])))⟩
    · cases read
      exact ⟨m + 1, final, before.trans ended⟩
  · cases read
  · rename_i rest _ starts
    cases read
    obtain ⟨final, ended⟩ := commented.covers_skip 2 (by simp [starts])
      (by simp [starts, isInert])
    exact ⟨m + 2, final, before.trans ended⟩
  · obtain ⟨⟨lexeme, count⟩, found, read⟩ := Option.bind_eq_some_iff.mp read
    obtain ⟨brackets, opened, same⟩ := Option.bind_eq_some_iff.mp read
    cases same
    obtain ⟨visible, spelled⟩ := spelled_of_readLexeme found
    have final := commented.skip spelled.bound
    rw [commented.rest] at spelled
    refine ⟨m + count, final, before.trans ?_⟩
    rw [commented.place, final.place]
    exact .token visible spelled

/-- The tokens from a state on stand in the text from its offset on, by induction on the rounds. -/
theorem tokensFrom_covers {rounds : Nat} (stands : state.cursor.At text n)
    (read : tokensFrom rounds state = some tokens)
    : ∃ found,
        stretches .code 0 n (text.drop n) = some found
        ∧ Placed text (Fits text found) n tokens := by
  induction rounds generalizing n state tokens with
  | zero => cases read
  | succ rounds ih =>
      simp only [tokensFrom] at read
      split at read
      · rename_i ended
        split at read
        · cases read
          refine ⟨[], ?_, .append_hidden ?_ (.hidden rfl .nil)⟩
          · rw [← stands.rest, List.isEmpty_iff.mp ended, stretches]
          · intro token member
            obtain ⟨_, -, rfl⟩ := List.mem_map.mp member
            rfl
        · cases read
      · obtain ⟨first, next, rest, ⟨m, behind, covered⟩, later, rfl⟩ : ∃ first next rest,
            (∃ m, next.cursor.At text m ∧ Covers text n first m)
            ∧ tokensFrom rounds next = some rest
            ∧ tokens = first ++ rest := by
          split at read <;>
            obtain ⟨⟨first, next⟩, step, read⟩ := Option.bind_eq_some_iff.mp read <;>
            obtain ⟨rest, later, same⟩ := Option.bind_eq_some_iff.mp read <;>
            cases same
          · exact ⟨first, next, rest, lineStart_covers stands step, later, rfl⟩
          · exact ⟨first, next, rest, lineStep_covers stands step, later, rfl⟩
        obtain ⟨found, same, placed⟩ := ih behind later
        exact covered found rest same placed

end

/-- A text without carriage returns has its line ends unified, by induction. -/
theorem unifyLineEnds_eq {text : List Char} (plain : '\r' ∉ text)
    : unifyLineEnds text = text := by
  fun_induction unifyLineEnds text with
  | case1 => rfl
  | case2 rest ih => simp at plain
  | case3 c rest _ ih =>
      rw [List.mem_cons, not_or] at plain
      rw [ih plain.2, if_neg (Ne.symm plain.1)]

/-- A text is read with unified line ends, and at most one newline more than it then has. -/
theorem readable_eq (text : List Char)
    : readable text = unifyLineEnds text ∨ readable text = unifyLineEnds text ++ ['\n'] := by
  rw [readable]
  split
  · exact Or.inl (List.append_nil _)
  · exact Or.inr rfl

/-- A token never reaches into a newline behind the text. -/
theorem Fits.within {text : List Char} {found : List (Nat × Nat)} {first behind : Nat}
    (fit : Fits (text ++ ['\n']) found first behind)
    : Fits text found first behind := by
  obtain ⟨c, solid, nonblank, other⟩ := fit.solid
  have start : first < text.length := by
    by_contra beyond
    rw [List.getElem?_append_right (Nat.le_of_not_lt beyond)] at solid
    obtain rfl := List.mem_singleton.mp (List.mem_of_getElem? solid)
    exact absurd nonblank (by decide)
  have dropped : (text ++ ['\n']).drop first = text.drop first ++ ['\n'] :=
    List.drop_append_of_le_length (Nat.le_of_lt start)
  have bound : behind ≤ text.length := by
    by_contra beyond
    have whole : ((text ++ ['\n']).drop first).take (behind - first)
        = text.drop first ++ ['\n'] := by
      rw [dropped]
      refine List.take_of_length_le ?_
      simp only [List.length_append, List.length_drop, List.length_singleton]
      omega
    exact fit.last (by rw [whole, List.getLast?_append]; rfl)
  refine ⟨bound, ⟨c, ?_, nonblank, other⟩, ?_, fit.clear⟩
  · rwa [List.getElem?_append_left start] at solid
  · have last := fit.last
    rwa [dropped, List.take_append_of_le_length (by rw [List.length_drop]; omega)] at last

/-- Tokens of a text with a newline behind it stand in the text itself, by induction. -/
theorem Placed.within {text : List Char} {found : List (Nat × Nat)} {n : Nat}
    {tokens : List Token}
    (placed : Placed (text ++ ['\n']) (Fits (text ++ ['\n']) found) n tokens)
    : Placed text (Fits text found) n tokens := by
  induction placed with
  | nil => exact .nil
  | hidden hidden _ ih => exact .hidden hidden ih
  | visible visible after proper extent fit _ ih =>
      have inside := fit.within
      refine .visible visible after proper ?_ inside ih
      rw [extent, Text.placeAt_append inside.bounded,
        Text.placeAt_append (proper.trans inside.bounded)]

/-- The tokens of a text stand in it with unified line ends, each before or behind every comment. -/
theorem tokens_placed {text : List Char} {all : List Token} (read : tokens text = some all)
    : ∃ found,
        stretches .code 0 0 (unifyLineEnds text) = some found
        ∧ Placed (unifyLineEnds text) (Fits (unifyLineEnds text) found) 0 all := by
  have stands : Cursor.At (readable text) 0 ⟨readable text, .start⟩ :=
    ⟨rfl, rfl, Nat.zero_le _⟩
  obtain ⟨found, same, placed⟩ := tokensFrom_covers stands read
  rw [List.drop_zero] at same
  rcases readable_eq text with whole | whole <;> rw [whole] at same placed
  · exact ⟨found, same, placed⟩
  · exact ⟨found, Comment.stretches_of_append_newline nofun same, placed.within⟩

end FoldTree.Source
