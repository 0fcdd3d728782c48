import FoldTree.Proofs.Source.Lexing

/-! The rounds of the lexer. Every round takes characters or stands at the start of a line for the
last time, so twice as many rounds as there are characters, and one more to stop, are enough: which
tokens a text has does not depend on the number of rounds.
-/

namespace FoldTree.Source

namespace Number

variable {chars behind : List Char} {imaginary : Bool}

/-- Digits leave no more than there was, by induction. -/
theorem digitTail_le {accept : Char → Bool} (read : digitTail accept chars = some behind)
    : behind.length ≤ chars.length := by
  fun_induction digitTail accept chars <;> grind

/-- Digits behind a base mark leave no more than there was. -/
theorem basedDigits_le {accept : Char → Bool} (read : basedDigits accept chars = some behind)
    : behind.length ≤ chars.length := by
  unfold basedDigits at read
  grind [→ digitTail_le]

/-- The end of a number leaves all that follows. -/
theorem finish_le {unit : Bool} (read : finish unit chars = some (imaginary, behind))
    : behind.length ≤ chars.length := by
  grind [finish]

/-- The end of a number with its unit leaves no more than there was. -/
theorem unitOrEnd_le (read : unitOrEnd chars = some (imaginary, behind))
    : behind.length ≤ chars.length := by
  unfold unitOrEnd at read
  grind [→ finish_le]

/-- An exponent leaves no more than there was. -/
theorem exponentOn_le (read : exponentOn chars = some (imaginary, behind))
    : behind.length ≤ chars.length := by
  unfold exponentOn at read
  grind [→ finish_le, → unitOrEnd_le, → digitTail_le, = Option.bind_eq_some_iff,
    = Option.bind_eq_bind]

/-- A fraction leaves no more than there was. -/
theorem fractionOn_le (read : fractionOn chars = some (imaginary, behind))
    : behind.length ≤ chars.length := by
  unfold fractionOn at read
  grind [→ finish_le, → exponentOn_le, → digitTail_le, = Option.bind_eq_some_iff,
    = Option.bind_eq_bind]

/-- The rest of a decimal number leaves no more than there was. -/
theorem decimalOn_le (read : decimalOn chars = some (imaginary, behind))
    : behind.length ≤ chars.length := by
  unfold decimalOn at read
  grind [→ fractionOn_le, → exponentOn_le]

/-- Zeros leave no more than there was, by induction. -/
theorem zerosOn_le (read : zerosOn chars = some behind)
    : behind.length ≤ chars.length := by
  fun_induction zerosOn chars <;> grind

/-- The rest of a number behind zeros leaves no more than there was. -/
theorem behindZeros_le (read : behindZeros chars = some (imaginary, behind))
    : behind.length ≤ chars.length := by
  unfold behindZeros at read
  grind [→ finish_le, → decimalOn_le, → digitTail_le, = Option.bind_eq_some_iff,
    = Option.bind_eq_bind]

/-- The rest of a number that starts with a zero leaves no more than there was. -/
theorem afterZero_le (read : afterZero chars = some (imaginary, behind))
    : behind.length ≤ chars.length := by
  unfold afterZero afterZero.finishBased at read
  grind [→ finish_le, → basedDigits_le, → zerosOn_le, → behindZeros_le, = Option.bind_eq_some_iff,
    = Option.bind_eq_bind]

/-- A number takes its first character at least. -/
theorem read_lt (found : Number.read chars = some (imaginary, behind))
    : behind.length < chars.length := by
  unfold Number.read at found
  grind [→ fractionOn_le, → afterZero_le, → decimalOn_le, → digitTail_le,
    = Option.bind_eq_some_iff, = Option.bind_eq_bind]

end Number

/-- Every token takes a character at least. -/
theorem readLexeme_pos {text : List Char} {lexeme : Lexeme} {count : Nat}
    (read : readLexeme text = some (lexeme, count))
    : 0 < count := by
  unfold readLexeme at read
  split at read
  · rename_i literal
    subst read
    simp only [readLiteral?] at literal
    split at literal
    · rename_i quoted
      obtain ⟨flags, -, body⟩ := Option.map_eq_some_iff.mp literal
      obtain ⟨⟨body, after⟩, -, same⟩ := Option.map_eq_some_iff.mp body
      -- a literal has its quote at least, behind the letters in front of it
      obtain ⟨quote, rest, spelled⟩ : ∃ quote rest,
          text.drop ((text.take 3).takeWhile fun c => !isQuote c).length = quote :: rest := by
        cases starts : text.drop ((text.take 3).takeWhile fun c => !isQuote c).length with
        | nil => simp [starts] at quoted
        | cons quote rest => exact ⟨quote, rest, rfl⟩
      have length := (Prod.mk.inj same).2
      rw [spelled, quotedLength] at length
      split at length <;> omega
    · cases literal
  · cases text with
    | nil => cases read
    | cons c rest =>
        dsimp only at read
        split_ifs at read with number word
        · obtain ⟨⟨imaginary, after⟩, found, same⟩ := Option.map_eq_some_iff.mp read
          have less := Number.read_lt found
          have length := (Prod.mk.inj same).2
          omega
        · simp only [readWord, List.takeWhile_cons_of_pos word] at read
          split at read
          · cases read
          · have length := (Prod.mk.inj (Option.some.inj read)).2
            rw [List.length_cons] at length
            omega
        · obtain ⟨mark, found, same⟩ := Option.map_eq_some_iff.mp read
          obtain ⟨-, head⟩ := marks_plain mark (List.mem_of_find?_eq_some found)
          have length := (Prod.mk.inj same).2
          rw [← length, ← String.length_toList]
          exact List.length_pos_of_ne_nil fun none => by simp [none] at head

/-! ### Rounds -/

/-- One round of the lexer: the start of a line, or a token inside of it. -/
def LexerState.step (state : LexerState) : Option (List Token × LexerState) :=
  if state.atLineStart then lineStart state else lineStep state

/-- A round covers what it skips and the tokens that it reads. -/
theorem step_covers {text : List Char} {n : Nat} {state next : LexerState} {tokens : List Token}
    (stands : state.cursor.At text n) (step : state.step = some (tokens, next))
    : ∃ m, next.cursor.At text m ∧ Covers text n tokens m := by
  unfold LexerState.step at step
  split at step
  · exact lineStart_covers stands step
  · exact lineStep_covers stands step

/-- The tokens that close the open indentations at the end of a text. -/
def LexerState.closing (state : LexerState) : List Token :=
  (state.indents.drop 1).map (fun _ => emptyToken .dedent) ++ [emptyToken .finish]

/-- The tokens that the lexer reads from a state on, however many rounds that takes. -/
inductive Reads : LexerState → List Token → Prop
  | finish {state : LexerState} (none : state.cursor.rest = []) (closed : state.brackets = [])
    : Reads state state.closing
  | round {state next : LexerState} {tokens later : List Token} (more : state.cursor.rest ≠ [])
    (step : state.step = some (tokens, next)) (reads : Reads next later)
    : Reads state (tokens ++ later)

/-- How many rounds are left at most until the lexer has read its text. -/
def LexerState.left (state : LexerState) : Nat :=
  2 * state.cursor.rest.length + if state.atLineStart then 1 else 0

/-- A cursor that skips characters has less left. -/
theorem Cursor.length_skip (cursor : Cursor) (count : Nat)
    : (cursor.skip count).rest.length = cursor.rest.length - count :=
  List.length_drop

/-- A cursor has no more left behind a comment. -/
theorem Cursor.length_skipComment_le (cursor : Cursor)
    : cursor.skipComment.rest.length ≤ cursor.rest.length := by
  unfold skipComment skipWhile
  split
  · rw [length_skip]
    exact Nat.sub_le _ _
  · exact Nat.le_refl _

/-- Each round leaves fewer rounds. -/
theorem LexerState.left_lt_of_step {state next : LexerState} {tokens : List Token}
    (step : state.step = some (tokens, next))
    : next.left < state.left := by
  unfold LexerState.step at step
  split at step
  · rename_i start
    simp only [lineStart, Option.bind_eq_bind, Option.bind_eq_some_iff] at step
    obtain ⟨⟨indent, count⟩, -, step⟩ := step
    have first := state.cursor.length_skip count
    dsimp only at step
    split at step
    · rename_i newline
      cases step
      have behind := (state.cursor.skip count).length_skipComment_le
      obtain ⟨rest, starts⟩ := List.head?_eq_some_iff.mp newline
      rw [starts, List.length_cons] at behind
      simp only [LexerState.left, Cursor.length_skip, starts, List.length_cons, start]
      omega
    -- this round may take no character, but it leaves the start of the line
    · obtain ⟨opened, -, same⟩ := Option.bind_eq_some_iff.mp step
      cases same
      simp only [LexerState.left, first, start, if_true, Bool.false_eq_true, if_false]
      omega
  · rename_i start
    simp only [lineStep] at step
    have first := state.cursor.length_skip
      (state.cursor.rest.takeWhile fun c => c == ' ' || c == '\t' || c == '\x0c').length
    have behind := (state.cursor.skipWhile fun c =>
      c == ' ' || c == '\t' || c == '\x0c').length_skipComment_le
    rw [Cursor.skipWhile, first] at behind
    rw [Cursor.skipWhile] at step
    generalize (state.cursor.skip _).skipComment = cursor at step behind
    split at step
    · cases step
    · rename_i rest starts
      rw [starts, List.length_cons] at behind
      split at step <;> cases step <;>
        simp only [LexerState.left, Cursor.length_skip, starts, List.length_cons, start, if_true,
          Bool.false_eq_true, if_false] <;>
        omega
    · cases step
    · rename_i rest _ starts
      cases step
      rw [starts, List.length_cons, List.length_cons] at behind
      simp only [LexerState.left, Cursor.length_skip, starts, List.length_cons, start,
        Bool.false_eq_true, if_false]
      omega
    · obtain ⟨⟨lexeme, count⟩, found, step⟩ := Option.bind_eq_some_iff.mp step
      obtain ⟨brackets, -, same⟩ := Option.bind_eq_some_iff.mp step
      cases same
      have some_ := readLexeme_pos found
      have bound := (spelled_of_readLexeme found).2.bound
      simp only [LexerState.left, Cursor.length_skip, start, Bool.false_eq_true, if_false]
      omega

/-- As long as there is text, tokens are read by one round and then by the rounds behind it. -/
theorem tokensFrom_succ {state : LexerState} (more : state.cursor.rest ≠ []) (rounds : Nat)
    : tokensFrom (rounds + 1) state
      = state.step.bind fun read => (tokensFrom rounds read.2).map (read.1 ++ ·) := by
  have some_ : state.cursor.rest.isEmpty = false := by simpa using more
  rw [tokensFrom, some_, LexerState.step]
  cases state.atLineStart <;> simp only [Option.map_eq_bind] <;> rfl

/-- Tokens that are read in some number of rounds are read, by induction on the rounds. -/
theorem reads_of_tokensFrom {rounds : Nat} {state : LexerState} {all : List Token}
    (read : tokensFrom rounds state = some all)
    : Reads state all := by
  induction rounds generalizing state all with
  | zero => cases read
  | succ rounds ih =>
      by_cases none : state.cursor.rest = []
      · rw [tokensFrom, if_pos (List.isEmpty_iff.mpr none)] at read
        split at read
        · rename_i closed
          cases read
          exact .finish none (List.isEmpty_iff.mp closed)
        · cases read
      · rw [tokensFrom_succ none] at read
        obtain ⟨⟨tokens, next⟩, step, read⟩ := Option.bind_eq_some_iff.mp read
        obtain ⟨later, reads, rfl⟩ := Option.map_eq_some_iff.mp read
        exact .round none step (ih reads)

/-- Tokens that are read at all are read in any number of rounds that is large enough. Witness:
induction along the rounds, each of which leaves fewer.
-/
theorem tokensFrom_of_reads {state : LexerState} {all : List Token} (reads : Reads state all)
    {rounds : Nat} (enough : state.left < rounds)
    : tokensFrom rounds state = some all := by
  obtain ⟨rounds, rfl⟩ := Nat.exists_eq_succ_of_ne_zero (Nat.ne_zero_of_lt enough)
  induction reads generalizing rounds with
  | finish none closed => simp [tokensFrom, none, closed, LexerState.closing]
  | @round state next tokens later more step _ ih =>
      have fewer := LexerState.left_lt_of_step step
      obtain ⟨fewerRounds, rfl⟩ : ∃ before, rounds = before + 1 :=
        Nat.exists_eq_succ_of_ne_zero (by omega)
      have read := ih fewerRounds (by omega)
      rw [tokensFrom_succ more, step, Option.bind_some, read, Option.map_some]

/-- The lexer at the start of a text that is ready to be read. -/
def LexerState.start (prepared : List Char) : LexerState :=
  ⟨⟨prepared, .start⟩, [⟨0, 0⟩], [], true⟩

/-- The tokens of a text are those that are read from its start. -/
theorem tokens_iff (text : List Char) (all : List Token)
    : tokens text = some all ↔ Reads (.start (readable text)) all := by
  refine ⟨reads_of_tokensFrom, fun reads => tokensFrom_of_reads reads ?_⟩
  simp only [LexerState.left, LexerState.start, if_true]
  omega

end FoldTree.Source
