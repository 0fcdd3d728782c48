import FoldTree.Source.Lexer
import FoldTree.Proofs.Source.Stretches
import Mathlib.Data.List.TakeWhile

/-! How tokens are spelled. No token starts with white space or a hash or ends with a newline, and a
reading of the comments passes over it, quotes and hashes in a text literal included.
-/

namespace FoldTree.Source

open Comment (OpenText stretches isInert follows)

/-- A character of words, numbers and signs is none that a comment or literal starts with, and none
that ends a line.
-/
def isPlain (c : Char) : Bool :=
  isInert c && c != '\n'

/-- What the first characters of a text are like that spell a token. -/
structure Spelled (text : List Char) (count : Nat) : Prop where
  head : ∃ c, text.head? = some c ∧ Text.isBlank c = false ∧ c ≠ '#'
  bound : count ≤ text.length
  last : (text.take count).getLast? ≠ some '\n'
  passes : ∀ n, stretches .code 0 n text = stretches .code 0 (n + count) (text.drop count)

/-- Plain characters that do not start with white space spell a token. -/
theorem Spelled.of_plain {text : List Char} {count : Nat} (bound : count ≤ text.length)
    (plain : (text.take count).all isPlain = true)
    (head : ∃ c, text.head? = some c ∧ Text.isBlank c = false ∧ c ≠ '#')
    : Spelled text count where
  head := head
  bound := bound
  last ends := by
    have newline := List.all_eq_true.mp plain '\n' (List.mem_of_getLast? ends)
    simp [isPlain] at newline
  passes n := by
    have inert : (text.take count).all isInert = true := by
      refine List.all_eq_true.mpr fun c member => ?_
      have both := List.all_eq_true.mp plain c member
      simp only [isPlain, Bool.and_eq_true] at both
      exact both.1
    have passed := Comment.stretches_inert n inert (text.drop count)
    rwa [List.take_append_drop, List.length_take_of_le bound] at passed

/-- Characters that go on with a word are plain. -/
theorem isPlain_of_continuesWord {c : Char} (word : Number.continuesWord c = true)
    : isPlain c = true := by
  have other (d : Char) (none : Number.continuesWord d = false) : c ≠ d := by
    rintro rfl
    simp [none] at word
  simp [isPlain, isInert, other '#' (by decide), other '"' (by decide), other '\'' (by decide),
    other '\n' (by decide)]

/-- Characters of a number are plain. -/
theorem isPlain_of_number {c : Char}
    (number : (Number.continuesWord c || c == '.' || c == '+' || c == '-') = true)
    : isPlain c = true := by
  simp only [Bool.or_eq_true, beq_iff_eq] at number
  rcases number with ((word | rfl) | rfl) | rfl
  · exact isPlain_of_continuesWord word
  · rfl
  · rfl
  · rfl

/-- A letter, digit or point of ASCII is no white space. -/
theorem isBlank_of_range {c : Char} (low : 0x21 ≤ c.toNat) (high : c.toNat < 0x7f)
    : Text.isBlank c = false := by
  simp only [Text.isBlank, Bool.or_eq_false_iff, Bool.and_eq_false_iff, decide_eq_false_iff_not,
    beq_eq_false_iff_ne, ne_eq]
  omega

/-- A range of characters is a range of code points. -/
theorem toNat_le_of_le {first last : Char} (order : first ≤ last) : first.toNat ≤ last.toNat :=
  UInt32.le_iff_toNat_le.mp order

/-- The first character of an identifier is no white space. -/
theorem isBlank_of_isIdentifierStart {c : Char} (start : Text.isIdentifierStart c = true)
    : Text.isBlank c = false := by
  unfold Text.isIdentifierStart at start
  split at start
  · simp only [Text.isAsciiWordStart, Bool.or_eq_true, Bool.and_eq_true, decide_eq_true_eq,
      beq_iff_eq] at start
    rcases start with (⟨low, high⟩ | ⟨low, high⟩) | rfl
    · exact isBlank_of_range (le_trans (by decide) (toNat_le_of_le low))
        (lt_of_le_of_lt (toNat_le_of_le high) (by decide))
    · exact isBlank_of_range (le_trans (by decide) (toNat_le_of_le low))
        (lt_of_le_of_lt (toNat_le_of_le high) (by decide))
    · decide
  · simp only [Bool.and_eq_true, Bool.not_eq_true'] at start
    exact start.1

/-- A digit is no white space. -/
theorem isBlank_of_isDigit {c : Char} (digit : Number.isDigit c = true)
    : Text.isBlank c = false := by
  simp only [Number.isDigit, Bool.and_eq_true, decide_eq_true_eq] at digit
  exact isBlank_of_range (le_trans (by decide) (toNat_le_of_le digit.1))
    (lt_of_le_of_lt (toNat_le_of_le digit.2) (by decide))

/-- The characters that a test selects from the front are those of its length. -/
theorem take_length_takeWhile (p : Char → Bool) (text : List Char)
    : text.take (text.takeWhile p).length = text.takeWhile p :=
  (List.prefix_iff_eq_take.mp (List.takeWhile_prefix p)).symm

/-- A word or keyword is spelled by the characters that go on with it. -/
theorem spelled_of_readWord {text : List Char} {lexeme : Lexeme} {count : Nat}
    (read : readWord text = some (lexeme, count))
    : lexeme.isVisible = true ∧ Spelled text count := by
  simp only [readWord] at read
  split at read
  · cases read
  · rename_i identifier
    simp only [Option.some.injEq, Prod.mk.injEq] at read
    obtain ⟨rfl, rfl⟩ := read
    refine ⟨by split <;> rfl, .of_plain ((List.takeWhile_prefix _).length_le) ?_ ?_⟩
    · rw [take_length_takeWhile]
      exact List.all_eq_true.mpr fun c member =>
        isPlain_of_continuesWord (List.mem_takeWhile_imp member)
    · cases text with
      | nil => simp [Text.isIdentifier] at identifier
      | cons c rest =>
          have word : Number.continuesWord c = true := by
            by_contra other
            simp [other, Text.isIdentifier] at identifier
          rw [List.takeWhile_cons_of_pos word] at identifier
          have start : Text.isIdentifierStart c = true := by
            by_contra other
            simp [other, Text.isIdentifier] at identifier
          refine ⟨c, rfl, isBlank_of_isIdentifierStart start, ?_⟩
          rintro rfl
          exact absurd word (by decide)

/-- A number is spelled by characters of words, points and signs. -/
theorem spelled_of_readNumber {text : List Char} {lexeme : Lexeme} {count : Nat}
    (starts : ∃ c, text.head? = some c ∧ (Number.isDigit c = true ∨ c = '.'))
    (read : readNumber text = some (lexeme, count))
    : lexeme.isVisible = true ∧ Spelled text count := by
  unfold readNumber at read
  obtain ⟨⟨imaginary, after⟩, -, same⟩ := Option.map_eq_some_iff.mp read
  simp only [Prod.mk.injEq] at same
  obtain ⟨rfl, rfl⟩ := same
  refine ⟨rfl, .of_plain ?_ ?_ ?_⟩
  · exact le_trans (Nat.sub_le _ _) (List.takeWhile_prefix _).length_le
  · refine List.all_eq_true.mpr fun c member => ?_
    have inside := List.take_subset_take_left text (Nat.sub_le _ _) member
    rw [take_length_takeWhile] at inside
    have number := List.mem_takeWhile_imp inside
    exact isPlain_of_number number
  · obtain ⟨c, head, digit | rfl⟩ := starts
    · refine ⟨c, head, isBlank_of_isDigit digit, ?_⟩
      rintro rfl
      exact absurd digit (by decide)
    · exact ⟨'.', head, by decide, by decide⟩

/-- All signs are spelled by plain characters. -/
theorem marks_plain
    : ∀ mark ∈ marks.flatten,
        mark.toList.all isPlain = true
        ∧ mark.toList.head?.any (fun c => !Text.isBlank c && c != '#') = true := by
  decide +kernel

/-- A sign is spelled by its own characters. -/
theorem spelled_of_readMark {text : List Char} {lexeme : Lexeme} {count : Nat}
    (read : readMark text = some (lexeme, count))
    : lexeme.isVisible = true ∧ Spelled text count := by
  unfold readMark at read
  obtain ⟨mark, found, same⟩ := Option.map_eq_some_iff.mp read
  simp only [Prod.mk.injEq] at same
  obtain ⟨rfl, rfl⟩ := same
  obtain ⟨plain, head⟩ := marks_plain mark (List.mem_of_find?_eq_some found)
  have starts := List.find?_some found
  obtain ⟨rest, rfl⟩ := List.isPrefixOf_iff_prefix.mp starts
  have length : mark.length = mark.toList.length := String.length_toList.symm
  refine ⟨rfl, .of_plain ?_ ?_ ?_⟩
  · simp [length]
  · simpa [length] using plain
  · cases spelling : mark.toList with
    | nil => simp [spelling] at head
    | cons c more =>
        simp only [spelling, List.head?_cons, Option.any_some, Bool.and_eq_true, Bool.not_eq_true',
          bne_iff_ne, ne_eq] at head
        exact ⟨c, rfl, head⟩

/-- Characters are a text with the marks that close it and what stands behind them, and the reading of
comments passes over the text and its marks.
-/
structure Closes (opened : OpenText) (marks chars body after : List Char) : Prop where
  split : chars = body ++ (marks ++ after)
  passes : ∀ n,
    stretches (.text opened) 0 n chars
    = stretches .code 0 (n + (body.length + marks.length)) after

section

variable {opened : OpenText} {marks chars body after : List Char}

/-- An escaped character goes in front of a text that closes. -/
theorem Closes.escape (closes : Closes opened marks chars body after) (c : Char)
    : Closes opened marks ('\\' :: c :: chars) ('\\' :: c :: body) after := by
  obtain ⟨split, passes⟩ := closes
  refine ⟨by simp [split], fun n => ?_⟩
  rw [Comment.stretches_escape, passes, List.length_cons, List.length_cons]
  congr 1
  omega

/-- A character that the reading of comments passes over in a text goes in front of one that closes. -/
theorem Closes.cons (closes : Closes opened marks chars body after) {c : Char}
    (passed : ∀ n, stretches (.text opened) 0 n (c :: chars)
      = stretches (.text opened) 0 (n + 1) chars)
    : Closes opened marks (c :: chars) (c :: body) after := by
  obtain ⟨split, passes⟩ := closes
  refine ⟨by simp [split], fun n => ?_⟩
  rw [passed, passes, List.length_cons]
  congr 1
  omega

end

/-- A literal between single quotes ends at its quote, and so does the reading of its text, by
induction.
-/
theorem shortBody_closes {quote : Char} (plain : quote ≠ '\\') {chars body after : List Char}
    (read : shortBody quote chars = some (body, after))
    : Closes ⟨quote, false⟩ [quote] chars body after := by
  fun_induction shortBody quote chars generalizing body with
  | case1 => cases read
  | case2 => cases read
  | case3 c rest ih =>
      obtain ⟨⟨inner, left⟩, found, same⟩ := Option.map_eq_some_iff.mp read
      cases same
      exact (ih found).escape c
  | case4 rest _ _ =>
      cases read
      exact ⟨rfl, fun n => by simp [stretches, plain]⟩
  | case5 => cases read
  | case6 c rest single escape other newline ih =>
      obtain ⟨⟨inner, left⟩, found, same⟩ := Option.map_eq_some_iff.mp read
      cases same
      have unescaped := Comment.ne_backslash single escape
      refine (ih found).cons fun n => ?_
      simp [stretches, unescaped, other, newline]

/-- A literal between triple quotes ends at its quotes, and so does the reading of its text, by
induction.
-/
theorem longBody_closes {quote : Char} (plain : quote ≠ '\\') {chars body after : List Char}
    (read : longBody quote chars = some (body, after))
    : Closes ⟨quote, true⟩ [quote, quote, quote] chars body after := by
  fun_induction longBody quote chars generalizing body with
  | case1 => cases read
  | case2 => cases read
  | case3 c rest ih =>
      obtain ⟨⟨inner, left⟩, found, same⟩ := Option.map_eq_some_iff.mp read
      cases same
      exact (ih found).escape c
  | case4 c rest single escape ends =>
      obtain ⟨rfl, quotes⟩ := ends
      cases read
      have split := List.take_append_drop 2 rest
      rw [quotes] at split
      refine ⟨by simpa using congrArg (c :: ·) split.symm, fun n => ?_⟩
      have passed := Comment.stretches_passed .code (n + 1) [c, c] (rest.drop 2)
      rw [show [c, c] ++ rest.drop 2 = rest from split, List.length_cons, List.length_singleton,
        Nat.add_assoc] at passed
      simpa [stretches, plain, follows, quotes, Nat.add_comm] using passed
  | case5 c rest single escape ends ih =>
      obtain ⟨⟨inner, left⟩, found, same⟩ := Option.map_eq_some_iff.mp read
      cases same
      have unescaped := Comment.ne_backslash single escape
      refine (ih found).cons fun n => ?_
      by_cases same : c = quote
      · subst same
        have lone : follows c rest = false := by simpa [follows] using ends
        simp [stretches, unescaped, lone]
      · simp [stretches, unescaped, same]

/-- A text literal ends with the quote that it starts with, and the reading of comments passes over
all of it.
-/
theorem readBody_spec {quote : Char} (isQuote : isQuote quote = true)
    {rest body after : List Char} (read : readBody (quote :: rest) = some (body, after))
    : ∃ literal,
        quote :: rest = literal ++ after
        ∧ literal.length = quotedLength (quote :: rest) body
        ∧ literal.getLast? = some quote
        ∧ ∀ n,
            stretches .code 0 n (quote :: rest)
            = stretches .code 0 (n + literal.length) after := by
  have double : quote = '"' ∨ quote = '\'' := by simpa [Source.isQuote] using isQuote
  have plain : quote ≠ '\\' := by rcases double with rfl | rfl <;> decide
  have hash : quote ≠ '#' := by rcases double with rfl | rfl <;> decide
  rw [readBody] at read
  split at read <;> rename_i three
  · obtain ⟨split, passes⟩ := longBody_closes plain read
    obtain ⟨inner, rfl⟩ : ∃ inner, rest = quote :: quote :: inner :=
      ⟨rest.drop 2, by simpa [three] using (List.take_append_drop 2 rest).symm⟩
    simp only [List.drop_succ_cons, List.drop_zero] at split passes
    refine ⟨quote :: quote :: quote :: (body ++ [quote, quote, quote]), ?_, ?_, ?_, fun n => ?_⟩
    · simp [split]
    · simp [quotedLength]
    · simp [List.getLast?_cons]
    · simp only [stretches, hash, double, follows, List.take_succ_cons, List.take_zero,
        beq_self_eq_true, if_true, if_false, passes, List.length_cons, List.length_append,
        List.length_nil]
      congr 1
      omega
  · obtain ⟨split, passes⟩ := shortBody_closes plain read
    refine ⟨quote :: (body ++ [quote]), ?_, ?_, ?_, fun n => ?_⟩
    · simp [split]
    · simp [quotedLength, three]
    · simp [List.getLast?_cons]
    · have single : follows quote rest = false := by simpa [follows] using three
      simp only [stretches, hash, double, single, if_true, if_false, passes, Bool.false_eq_true,
        List.length_cons, List.length_append, List.length_nil]
      congr 1
      omega

/-- The letters that may stand in front of a literal. -/
theorem mem_of_literalFlags? {letters : List Char} {flags : Literal}
    (read : literalFlags? letters = some flags)
    : ∀ c ∈ letters, c ∈ ['r', 'R', 'b', 'B', 'f', 'F', 'u', 'U'] := by
  rcases letters with _ | ⟨d, _ | ⟨e, _ | ⟨f, rest⟩⟩⟩
  · simp
  · simp only [literalFlags?] at read
    grind
  · simp only [literalFlags?] at read
    grind
  · cases read

/-- The letters in front of a literal are plain, and none is white space. -/
theorem literalFlags?_plain {letters : List Char} {flags : Literal}
    (read : literalFlags? letters = some flags)
    : ∀ c ∈ letters, isPlain c = true ∧ Text.isBlank c = false ∧ c ≠ '#' := by
  have known : (['r', 'R', 'b', 'B', 'f', 'F', 'u', 'U'].all fun c =>
      isPlain c && !Text.isBlank c && c != '#') = true := by
    decide
  intro c member
  have letter := List.all_eq_true.mp known c (mem_of_literalFlags? read c member)
  simpa [and_assoc] using letter

/-- A text literal is spelled by the letters in front of it, its quotes, and what is between. -/
theorem spelled_of_readLiteral? {text : List Char} {lexeme : Lexeme} {count : Nat}
    (read : readLiteral? text = some (some (lexeme, count)))
    : lexeme.isVisible = true ∧ Spelled text count := by
  simp only [readLiteral?] at read
  generalize prefixed : (text.take 3).takeWhile (fun c => !isQuote c) = letters at read
  have starts : letters <+: text := by
    rw [← prefixed]
    exact (List.takeWhile_prefix _).trans (List.take_prefix 3 text)
  obtain ⟨spelled, rfl⟩ := starts
  rw [List.drop_left] at read
  split at read
  · rename_i quoted
    obtain ⟨flags, known, bodyRead⟩ := Option.map_eq_some_iff.mp read
    obtain ⟨⟨body, after⟩, found, same⟩ := Option.map_eq_some_iff.mp bodyRead
    simp only [Prod.mk.injEq] at same
    obtain ⟨rfl, rfl⟩ := same
    cases spelled with
    | nil => simp at quoted
    | cons quote rest =>
        have isQuote : isQuote quote = true := by simpa using quoted
        obtain ⟨literal, split, length, last, passes⟩ := readBody_spec isQuote found
        have plain := literalFlags?_plain known
        have taken : (letters ++ (literal ++ after)).take (letters.length + literal.length)
            = letters ++ literal := by
          rw [← List.append_assoc, List.take_left' (by simp)]
        rw [← length, split]
        rw [split] at passes
        refine ⟨rfl, ?_, by simp, ?_, fun n => ?_⟩
        · cases letters with
          | nil =>
              have double : quote = '"' ∨ quote = '\'' := by simpa [Source.isQuote] using isQuote
              refine ⟨quote, by rw [List.nil_append, ← split]; rfl, ?_⟩
              rcases double with rfl | rfl <;> decide
          | cons c letters => exact ⟨c, rfl, (plain c List.mem_cons_self).2⟩
        · -- a literal ends in its quote, which is no newline
          rw [taken, List.getLast?_append, last]
          rintro ⟨⟩
          exact absurd isQuote (by decide)
        · have inert : letters.all isInert = true := by
            refine List.all_eq_true.mpr fun c member => ?_
            have both := (plain c member).1
            simp only [isPlain, Bool.and_eq_true] at both
            exact both.1
          rw [Comment.stretches_inert n inert, passes, ← List.append_assoc,
            List.drop_left' (by simp), Nat.add_assoc]
  · cases read

/-- What is read as a token is spelled by the characters that are read. -/
theorem spelled_of_readLexeme {text : List Char} {lexeme : Lexeme} {count : Nat}
    (read : readLexeme text = some (lexeme, count))
    : lexeme.isVisible = true ∧ Spelled text count := by
  unfold readLexeme at read
  split at read
  · rename_i literal
    subst read
    exact spelled_of_readLiteral? literal
  · cases text with
    | nil => cases read
    | cons c rest =>
        dsimp only at read
        split_ifs at read with number word
        · exact spelled_of_readNumber ⟨c, rfl, number.imp_right And.left⟩ read
        · exact spelled_of_readWord read
        · exact spelled_of_readMark read

end FoldTree.Source
