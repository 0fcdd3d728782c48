import FoldTree.Proofs.Source.LineByLine
import FoldTree.Proofs.Source.Progress

/-! One more newline at the end of a text. Behind a newline it is a blank line, which has no tokens;
only a backslash before the two of them joins the blank line to the last one, where without it the
text would break off.
-/

namespace FoldTree.Source

open Comment (stretches isInert ne_backslash takeWhile_append_singleton)

/-! ### Reading one token -/

/-- Two characters of a text are two quotes before one more newline just if they are without it. -/
theorem take_two_longer {quote : Char} (other : quote ≠ '\n') (text : List Char)
    : (text ++ ['\n']).take 2 = [quote, quote] ↔ text.take 2 = [quote, quote] := by
  rcases text with _ | ⟨d, _ | ⟨e, rest⟩⟩ <;> simp [Ne.symm other]

/-- A text is no lone backslash if it ends in a newline or is empty. -/
def Unescaped (text : List Char) : Prop :=
  text.getLast? ≠ some '\\'

/-- What is left of such a text is such a text. -/
theorem Unescaped.drop {text : List Char} (unescaped : Unescaped text) (count : Nat)
    : Unescaped (text.drop count) := by
  rw [Unescaped, List.getLast?_drop]
  split
  · nofun
  · exact unescaped

/-- What is left of such a text behind its first character is such a text. -/
theorem Unescaped.tail {c : Char} {rest : List Char} (unescaped : Unescaped (c :: rest))
    : Unescaped rest :=
  unescaped.drop 1

/-- What is read before one more newline, which is left behind it. -/
def behindLonger (read : List Char × List Char) : List Char × List Char :=
  (read.1, read.2 ++ ['\n'])

/-- A literal between single quotes reads the same before one more newline, by induction. -/
theorem shortBody_longer {quote : Char} (other : quote ≠ '\n') {text : List Char}
    (unescaped : Unescaped text)
    : shortBody quote (text ++ ['\n']) = (shortBody quote text).map behindLonger := by
  fun_induction shortBody quote text with
  | case1 => simp [shortBody, Ne.symm other]
  | case2 => exact absurd rfl unescaped
  | case3 c rest ih =>
      simp only [List.cons_append, shortBody, ih unescaped.tail.tail, Option.map_map]
      rfl
  | case4 rest single escape =>
      have plain := ne_backslash single escape
      simp [shortBody, plain, behindLonger]
  | case5 => simp [shortBody, Ne.symm other]
  | case6 c rest single escape differ newline ih =>
      have plain := ne_backslash single escape
      simp only [List.cons_append, shortBody, plain, differ, newline, ih unescaped.tail,
        Option.map_map, if_false, false_imp_iff, implies_true]
      rfl

/-- A literal between triple quotes reads the same before one more newline, by induction. -/
theorem longBody_longer {quote : Char} (other : quote ≠ '\n') {text : List Char}
    (unescaped : Unescaped text)
    : longBody quote (text ++ ['\n']) = (longBody quote text).map behindLonger := by
  fun_induction longBody quote text with
  | case1 => simp [longBody, Ne.symm other]
  | case2 => exact absurd rfl unescaped
  | case3 c rest ih =>
      simp only [List.cons_append, longBody, ih unescaped.tail.tail, Option.map_map]
      rfl
  | case4 c rest single escape ends =>
      have plain := ne_backslash single escape
      obtain ⟨rfl, quotes⟩ := ends
      have long : 2 ≤ rest.length := by
        have length := congrArg List.length quotes
        simp only [List.length_take, List.length_cons, List.length_nil] at length
        omega
      simp [longBody, plain, behindLonger, take_two_longer other, quotes,
        List.drop_append_of_le_length long]
  | case5 c rest single escape differ ih =>
      have plain := ne_backslash single escape
      rw [← take_two_longer other] at differ
      simp only [List.cons_append, longBody, plain, differ, ih unescaped.tail,
        Option.map_map, if_false, false_imp_iff, implies_true]
      rfl

/-- A text literal reads the same before one more newline. -/
theorem readBody_longer {quote : Char} (other : quote ≠ '\n') {rest : List Char}
    (unescaped : Unescaped rest)
    : readBody (quote :: rest ++ ['\n']) = (readBody (quote :: rest)).map behindLonger
      ∧ quotedLength (quote :: rest ++ ['\n']) = quotedLength (quote :: rest) := by
  refine ⟨?_, ?_⟩
  · rw [List.cons_append, readBody, readBody]
    simp only [take_two_longer other]
    split
    · rename_i quotes
      obtain ⟨inner, rfl⟩ : ∃ inner, rest = quote :: quote :: inner :=
        ⟨rest.drop 2, by simpa [quotes] using (List.take_append_drop 2 rest).symm⟩
      exact longBody_longer other unescaped.tail.tail
    · exact shortBody_longer other unescaped
  · funext body
    simp only [List.cons_append, quotedLength, take_two_longer other]

/-- A sign is in front of a text before one more newline just if it is there without it. -/
theorem isPrefixOf_longer {mark : List Char} (inside : '\n' ∉ mark) (text : List Char)
    : mark.isPrefixOf (text ++ ['\n']) = mark.isPrefixOf text := by
  induction mark generalizing text with
  | nil => cases text <;> rfl
  | cons c mark ih =>
      rw [List.mem_cons, not_or] at inside
      cases text with
      | nil => simp [List.isPrefixOf, Ne.symm inside.1]
      | cons d text => simp only [List.cons_append, List.isPrefixOf, ih inside.2]

/-- A sign reads the same before one more newline. -/
theorem readMark_longer (text : List Char) : readMark (text ++ ['\n']) = readMark text := by
  have plain : ∀ mark ∈ marks.flatten, '\n' ∉ mark.toList := by decide +kernel
  have same (marks : List String) (plain : ∀ mark ∈ marks, '\n' ∉ mark.toList)
      : (marks.find? fun mark => mark.toList.isPrefixOf (text ++ ['\n']))
        = marks.find? fun mark => mark.toList.isPrefixOf text := by
    induction marks with
    | nil => rfl
    | cons mark rest ih =>
        rw [List.find?_cons, List.find?_cons, isPrefixOf_longer (plain mark List.mem_cons_self),
          ih fun other member => plain other (List.mem_cons_of_mem _ member)]
  rw [readMark, readMark, same _ plain]

/-- The letters that a literal may have in front of it. -/
def lettersOf (text : List Char) : List Char :=
  (text.take 3).takeWhile fun c => !isQuote c

/-- The letters in front of a literal are the same before one more newline, unless there is nothing
behind them.
-/
theorem lettersOf_longer (text : List Char)
    : lettersOf (text ++ ['\n']) = lettersOf text
      ∨ text.drop (lettersOf text).length = []
        ∧ (text ++ ['\n']).drop (lettersOf (text ++ ['\n'])).length = [] := by
  unfold lettersOf
  by_cases long : 3 ≤ text.length
  · exact Or.inl (by rw [List.take_append_of_le_length long])
  · have whole : text.take 3 = text := List.take_of_length_le (by omega)
    have longer : (text ++ ['\n']).take 3 = text ++ ['\n'] :=
      List.take_of_length_le (by rw [List.length_append, List.length_singleton]; omega)
    rw [whole, longer, List.takeWhile_append]
    split
    · rename_i all
      refine Or.inr ⟨by rw [all, List.drop_length], ?_⟩
      exact List.drop_length
    · exact Or.inl rfl

/-- A text literal with letters in front of it reads the same before one more newline. -/
theorem readLiteral?_longer {text : List Char} (unescaped : Unescaped text)
    : readLiteral? (text ++ ['\n']) = readLiteral? text := by
  have drops : (text ++ ['\n']).drop (lettersOf text).length
      = text.drop (lettersOf text).length ++ ['\n'] := by
    refine List.drop_append_of_le_length ?_
    exact ((List.takeWhile_prefix _).trans (List.take_prefix 3 text)).length_le
  have kept := unescaped.drop (lettersOf text).length
  simp only [readLiteral?]
  rcases lettersOf_longer text with same | ⟨none, none'⟩
  · unfold lettersOf at same drops kept
    rw [same, drops]
    generalize text.drop _ = spelled at kept
    cases spelled with
    | nil => rfl
    | cons quote rest =>
        rw [List.cons_append, List.head?_cons, List.head?_cons]
        by_cases isQuote : isQuote quote = true
        · have other : quote ≠ '\n' := by
            rintro rfl
            exact absurd isQuote (by decide)
          obtain ⟨body, length⟩ := readBody_longer other kept.tail
          rw [← List.cons_append, body, length]
          simp only [Option.map_map]
          rfl
        · simp [isQuote]
  · unfold lettersOf at none none'
    rw [none, none']
    rfl

/-- A token reads the same before one more newline. -/
theorem readLexeme_longer {text : List Char} (some_ : text ≠ []) (unescaped : Unescaped text)
    : readLexeme (text ++ ['\n']) = readLexeme text := by
  obtain ⟨c, rest, rfl⟩ := List.exists_cons_of_ne_nil some_
  have second : (rest ++ ['\n']).head?.any Number.isDigit = rest.head?.any Number.isDigit := by
    cases rest <;> rfl
  rw [readLexeme.eq_def, readLexeme.eq_def, readLiteral?_longer unescaped]
  split
  · rfl
  · dsimp only [List.cons_append]
    rw [second, ← List.cons_append, readMark_longer, readWord, readWord, readNumber, readNumber,
      takeWhile_append_singleton (by decide), takeWhile_append_singleton (by decide)]

/-! ### Rounds -/

/-- A cursor over a text with one more newline at its end. -/
def Cursor.longer (cursor : Cursor) : Cursor :=
  ⟨cursor.rest ++ ['\n'], cursor.place⟩

namespace Cursor

variable (cursor : Cursor)

/-- What is left behind the first characters. -/
theorem rest_skip (count : Nat) : (cursor.skip count).rest = cursor.rest.drop count := rfl

/-- Characters that are there are skipped in the longer text too. -/
theorem skip_longer {count : Nat} (there : count ≤ cursor.rest.length)
    : cursor.longer.skip count = (cursor.skip count).longer := by
  simp only [skip, longer, List.drop_append_of_le_length there, List.take_append_of_le_length there]

/-- What a test selects is skipped in the longer text too, if it selects no newline. -/
theorem skipWhile_longer {p : Char → Bool} (stops : p '\n' = false)
    : cursor.longer.skipWhile p = (cursor.skipWhile p).longer := by
  rw [skipWhile, longer, takeWhile_append_singleton stops]
  exact cursor.skip_longer (List.takeWhile_prefix p).length_le

/-- A comment is skipped in the longer text too. -/
theorem skipComment_longer : cursor.longer.skipComment = cursor.skipComment.longer := by
  have head : cursor.longer.rest.head? = some '#' ↔ cursor.rest.head? = some '#' := by
    rw [longer]
    cases cursor.rest <;> simp
  rw [skipComment, skipComment]
  simp only [head]
  split
  · exact cursor.skipWhile_longer (by decide)
  · rfl

end Cursor

variable {text : List Char} {n : Nat}

/-- A text that ends in a newline does so behind its first character, unless that is all of it. -/
theorem ends_of_cons {c : Char} {rest : List Char} (ends : (c :: rest).getLast? = some '\n')
    : rest.getLast? = some '\n' ∨ rest = [] := by
  cases rest with
  | nil => exact Or.inr rfl
  | cons d rest => exact Or.inl (by rwa [List.getLast?_cons_cons] at ends)

/-- A text that ends in a newline does so behind a first character that is none. -/
theorem getLast?_of_cons {c : Char} {rest : List Char} (ends : (c :: rest).getLast? = some '\n')
    (other : c ≠ '\n')
    : rest.getLast? = some '\n' := by
  refine (ends_of_cons ends).resolve_right fun none => other ?_
  subst none
  exact Option.some.inj ends

/-- An indentation measures the same before one more newline, and ends before the text does. -/
def MeasuresLonger (indent : Indent) (joined count : Nat) (chars : List Char) : Prop :=
  measure indent joined count (chars ++ ['\n']) = measure indent joined count chars
  ∧ ∀ measured total,
      measure indent joined count chars = some (measured, total) → total < count + chars.length

/-- A text breaks off behind some characters that are no comment or literal: a backslash before the
last newline joins nothing.
-/
def Breaks (chars : List Char) : Prop :=
  ∃ more, (chars.take more).all isInert = true ∧ chars.drop more = ['\\', '\n']

/-- A text that breaks off does so behind more characters too. -/
theorem Breaks.append {front chars : List Char} (inert : front.all isInert = true)
    (breaks : Breaks chars)
    : Breaks (front ++ chars) := by
  obtain ⟨more, blank, rest⟩ := breaks
  refine ⟨front.length + more, ?_, ?_⟩
  · rw [List.take_length_add_append, List.all_append, inert, blank]
    rfl
  · rw [List.drop_length_add_append, rest]

/-- Where a text ends in a newline, an indentation measures the same before one more, unless the text
breaks off there. Witness: induction along the measure.
-/
theorem measure_longer {indent : Indent} {joined count : Nat} {chars : List Char}
    (ends : chars.getLast? = some '\n')
    : MeasuresLonger indent joined count chars ∨ Breaks chars := by
  -- what is measured in front of a rest is measured before one more newline as well
  have onward {indent indent' : Indent} {joined joined' count : Nat} (front : List Char)
      {rest : List Char} (step : ∀ rest, rest ≠ [] → measure indent joined count (front ++ rest)
        = measure indent' joined' (count + front.length) rest)
      (inert : front.all isInert = true) (some_ : rest ≠ [])
      (later : MeasuresLonger indent' joined' (count + front.length) rest ∨ Breaks rest)
      : MeasuresLonger indent joined count (front ++ rest) ∨ Breaks (front ++ rest) := by
    refine later.imp (fun ⟨same, less⟩ => ⟨?_, ?_⟩) (.append inert)
    · rw [List.append_assoc, step _ (by simp), step _ some_, same]
    · intro measured total read
      rw [step _ some_] at read
      have bound := less measured total read
      rw [List.length_append]
      omega
  fun_induction measure indent joined count chars with
  | case1 indent joined count rest ih =>
      have rest' := getLast?_of_cons ends (by decide)
      exact onward [' '] (fun _ _ => rfl) rfl (List.getLast?_isSome.mp (by simp [rest'])) (ih rest')
  | case2 indent joined count rest ih =>
      have rest' := getLast?_of_cons ends (by decide)
      exact onward ['\t'] (fun _ _ => rfl) rfl (List.getLast?_isSome.mp (by simp [rest'])) (ih rest')
  | case3 indent joined count rest ih =>
      have rest' := getLast?_of_cons ends (by decide)
      exact onward ['\x0c'] (fun _ _ => rfl) rfl (List.getLast?_isSome.mp (by simp [rest']))
        (ih rest')
  | case4 indent joined count c rest ih =>
      refine onward ['\\', '\n'] (fun rest some_ => ?_) rfl (List.cons_ne_nil c rest) (ih ?_)
      · obtain ⟨d, rest, rfl⟩ := List.exists_cons_of_ne_nil some_
        rfl
      · rwa [List.getLast?_cons_cons, List.getLast?_cons_cons] at ends
  | case5 indent joined count rest blank tab feed escape head =>
      -- only a backslash in front of the last newline makes a difference
      obtain ⟨rest, rfl⟩ := List.head?_eq_some_iff.mp head
      cases rest with
      | nil => simp at ends
      | cons d rest =>
          by_cases newline : d = '\n'
          · subst newline
            cases rest with
            | nil => exact Or.inr ⟨0, rfl, rfl⟩
            | cons c rest => exact absurd rfl (escape c rest)
          · exact Or.inl ⟨by simp [measure, newline], by simp [measure]⟩
  | case6 indent joined count rest blank tab feed escape head =>
      cases rest with
      | nil => simp at ends
      | cons c rest =>
          have other : c ≠ '\\' := by simpa using head
          have space : c ≠ ' ' := fun same => blank rest (by rw [same])
          have tab : c ≠ '\t' := fun same => tab rest (by rw [same])
          have feed : c ≠ '\x0c' := fun same => feed rest (by rw [same])
          refine Or.inl ⟨by simp [measure, other, space, tab, feed], fun measured total read => ?_⟩
          simp only [measure] at read
          rw [if_neg head] at read
          cases read
          simp

/-- A text breaks off behind an offset, which no tokens are read from up to there. -/
def BreaksOff (text : List Char) (n : Nat) : Prop :=
  ∃ read m, Covers text n read m ∧ text.drop m = ['\\', '\n']

/-- A text breaks off behind an offset if it does so behind a later one. -/
theorem BreaksOff.before {m : Nat} {read : List Token} (covers : Covers text n read m)
    (later : BreaksOff text m)
    : BreaksOff text n := by
  obtain ⟨more, k, behind, rest⟩ := later
  exact ⟨read ++ more, k, covers.trans behind, rest⟩

/-- A text that breaks off behind white space breaks off. -/
theorem Cursor.At.breaksOff {cursor : Cursor} (stands : cursor.At text n)
    (breaks : Breaks cursor.rest)
    : BreaksOff text n := by
  obtain ⟨more, inert, rest⟩ := breaks
  have length := congrArg List.length rest
  simp only [List.length_drop, List.length_cons, List.length_nil] at length
  obtain ⟨-, covers⟩ := stands.covers_skip more (by omega) inert
  rw [stands.rest, List.drop_drop] at rest
  exact ⟨[], n + more, covers, rest⟩

/-- What is left behind the characters that a test selects ends in a newline, if the text does and the
test selects none.
-/
theorem Cursor.getLast?_skipWhile {cursor : Cursor} (ends : cursor.rest.getLast? = some '\n')
    {p : Char → Bool} (stops : p '\n' = false)
    : (cursor.skipWhile p).rest.getLast? = some '\n' := by
  have less : (cursor.rest.takeWhile p).length < cursor.rest.length := by
    refine lt_of_le_of_ne (List.takeWhile_prefix p).length_le fun all => ?_
    have whole := (List.takeWhile_prefix (l := cursor.rest) p).eq_of_length all
    have selected := List.mem_takeWhile_imp (whole.symm ▸ List.mem_of_getLast? ends)
    exact Bool.false_ne_true (stops.symm.trans selected)
  rw [skipWhile, skip, List.getLast?_drop, if_neg (Nat.not_le.mpr less), ends]

/-- What is left behind a comment ends in a newline, if the text does. -/
theorem Cursor.getLast?_skipComment {cursor : Cursor} (ends : cursor.rest.getLast? = some '\n')
    : cursor.skipComment.rest.getLast? = some '\n' := by
  unfold skipComment
  split
  · exact getLast?_skipWhile ends (by decide)
  · exact ends

/-- A lexer over a text with one more newline at its end. -/
def LexerState.longer (state : LexerState) : LexerState :=
  { state with cursor := state.cursor.longer }

/-- What is left of a lexer's text ends in a newline, or nothing is left and the lexer stands at the
start of a line or inside of brackets.
-/
def LexerState.Ended (state : LexerState) : Prop :=
  state.cursor.rest.getLast? = some '\n'
  ∨ state.cursor.rest = [] ∧ (state.atLineStart = true ∨ state.brackets ≠ [])

/-- A lexer makes the same step over the longer text, and ends as it should. -/
def LexerState.StepsLonger (state : LexerState)
    (step : LexerState → Option (List Token × LexerState)) : Prop :=
  step state.longer = (step state).map (Prod.map id longer)
  ∧ ∀ tokens next, step state = some (tokens, next) → next.Ended

/-- A line that is blank or holds a comment alone is passed over as a whole. -/
theorem lineStart_blank {state : LexerState} {indent : Indent} {count : Nat}
    (measured : measure ⟨0, 0⟩ 0 0 state.cursor.rest = some (indent, count)) {rest : List Char}
    (newline : (state.cursor.skip count).skipComment.rest = '\n' :: rest)
    : lineStart state
      = some ([], { state with cursor := (state.cursor.skip count).skipComment.skip 1 }) := by
  simp [lineStart, measured, newline]

/-- Any other line opens or closes indentations at its start. -/
theorem lineStart_indented {state : LexerState} {indent : Indent} {count : Nat}
    (measured : measure ⟨0, 0⟩ 0 0 state.cursor.rest = some (indent, count))
    (other : (state.cursor.skip count).skipComment.rest.head? ≠ some '\n')
    : lineStart state
      = (openIndents indent state.indents).map fun opened =>
          (opened.2.map emptyToken,
            { state with
              cursor := state.cursor.skip count, indents := opened.1, atLineStart := false }) := by
  simp only [lineStart, measured, Option.bind_eq_bind, Option.bind_some, other, if_false,
    Option.map_eq_bind]
  rfl

/-- Where the next token of a line starts, or its end. -/
def LexerState.inside (state : LexerState) : Cursor :=
  (state.cursor.skipWhile fun c => c == ' ' || c == '\t' || c == '\x0c').skipComment

/-- A newline ends a line. -/
theorem lineStep_newline {state : LexerState} {rest : List Char}
    (newline : state.inside.rest = '\n' :: rest)
    : lineStep state
      = some (if state.brackets.isEmpty then
          ([⟨.newline, state.inside.place, (state.inside.skip 1).place⟩],
            { state with cursor := state.inside.skip 1, atLineStart := true })
        else ([], { state with cursor := state.inside.skip 1 })) := by
  unfold LexerState.inside at newline ⊢
  simp only [lineStep, newline]
  split <;> rfl

/-- A backslash before a newline joins the next line. -/
theorem lineStep_joined {state : LexerState} {c : Char} {rest : List Char}
    (joined : state.inside.rest = '\\' :: '\n' :: c :: rest)
    : lineStep state = some ([], { state with cursor := state.inside.skip 2 }) := by
  unfold LexerState.inside at joined ⊢
  simp only [lineStep, joined]

/-- Anything else is a token. -/
theorem lineStep_token {state : LexerState} {c : Char} {rest : List Char}
    (starts : state.inside.rest = c :: rest) (other : c ≠ '\n')
    (unjoined : c = '\\' → rest.head? ≠ some '\n')
    : lineStep state
      = (readLexeme (c :: rest)).bind fun read =>
          (openBrackets state.brackets read.1).map fun brackets =>
            ([⟨read.1, state.inside.place, (state.inside.skip read.2).place⟩],
              { state with cursor := state.inside.skip read.2, brackets }) := by
  unfold LexerState.inside at starts ⊢
  simp only [lineStep, starts]
  split
  · rename_i none
    cases none
  · rename_i newline
    exact absurd (List.cons.inj newline).1 other
  · rename_i breaks
    cases breaks
    exact absurd rfl (unjoined rfl)
  · rename_i joined
    cases joined
    exact absurd rfl (unjoined rfl)
  · simp only [Option.map_eq_bind]
    rfl

/-- The next token of a line starts at the same place in the longer text. -/
theorem LexerState.inside_longer (state : LexerState)
    : state.longer.inside = state.inside.longer := by
  rw [inside, longer, Cursor.skipWhile_longer _ (by decide), Cursor.skipComment_longer]
  rfl

section

variable {state : LexerState} {c : Char} {rest : List Char}

/-- What is left of the longer text from there on is longer by a newline. -/
theorem LexerState.rest_inside_longer (starts : state.inside.rest = c :: rest)
    : state.longer.inside.rest = c :: (rest ++ ['\n']) := by
  rw [inside_longer, Cursor.longer, starts, List.cons_append]

/-- Characters of the text are passed over in the longer text. -/
theorem LexerState.skip_inside_longer (starts : state.inside.rest = c :: rest) {count : Nat}
    (there : count ≤ (c :: rest).length)
    : state.longer.inside.skip count = (state.inside.skip count).longer := by
  rw [inside_longer, Cursor.skip_longer _ (by rwa [starts])]

/-- What is left behind some characters from there on. -/
theorem LexerState.rest_skip_inside (starts : state.inside.rest = c :: rest) (count : Nat)
    : (state.inside.skip count).rest = (c :: rest).drop count := by
  rw [Cursor.rest_skip, starts]

/-- The end of a line is the same in the longer text. -/
theorem stepsLonger_newline (starts : state.inside.rest = '\n' :: rest)
    (left : ('\n' :: rest).getLast? = some '\n')
    : state.StepsLonger lineStep := by
  have brackets : state.longer.brackets = state.brackets := rfl
  rw [LexerState.StepsLonger, lineStep_newline (LexerState.rest_inside_longer starts),
    lineStep_newline starts, LexerState.skip_inside_longer starts (by simp), brackets,
    LexerState.inside_longer]
  split
  · refine ⟨rfl, fun tokens next read => ?_⟩
    cases read
    rw [LexerState.Ended, LexerState.rest_skip_inside starts]
    exact (ends_of_cons left).imp_right fun none => ⟨none, Or.inl rfl⟩
  · rename_i opened
    refine ⟨rfl, fun tokens next read => ?_⟩
    cases read
    rw [LexerState.Ended, LexerState.rest_skip_inside starts]
    exact (ends_of_cons left).imp_right fun none => ⟨none, Or.inr (by simpa using opened)⟩

/-- Lines that a backslash joins are joined in the longer text. -/
theorem stepsLonger_joined (starts : state.inside.rest = '\\' :: '\n' :: c :: rest)
    (left : ('\\' :: '\n' :: c :: rest).getLast? = some '\n')
    : state.StepsLonger lineStep := by
  rw [LexerState.StepsLonger, lineStep_joined (LexerState.rest_inside_longer starts),
    lineStep_joined starts, LexerState.skip_inside_longer starts (by simp)]
  refine ⟨rfl, fun tokens next read => ?_⟩
  cases read
  rw [List.getLast?_cons_cons, List.getLast?_cons_cons] at left
  rw [LexerState.Ended, LexerState.rest_skip_inside starts]
  exact Or.inl left

/-- A token of the text is one of the longer text, and never reaches to the newline at the end. -/
theorem stepsLonger_token (starts : state.inside.rest = c :: rest)
    (left : (c :: rest).getLast? = some '\n') (other : c ≠ '\n')
    (unjoined : c = '\\' → rest.head? ≠ some '\n')
    : state.StepsLonger lineStep := by
  have unjoined' : c = '\\' → (rest ++ ['\n']).head? ≠ some '\n' := by
    intro same
    obtain ⟨d, rest, rfl⟩ := List.exists_cons_of_ne_nil (show rest ≠ [] from fun none => by
      subst none
      exact other (Option.some.inj left))
    exact unjoined same
  have unescaped : Unescaped (c :: rest) := by
    rw [Unescaped, left]
    decide
  rw [LexerState.StepsLonger,
    lineStep_token (LexerState.rest_inside_longer starts) other unjoined',
    lineStep_token starts other unjoined, ← List.cons_append,
    readLexeme_longer (List.cons_ne_nil c rest) unescaped]
  refine ⟨?_, fun tokens next step => ?_⟩
  · rw [Option.map_bind]
    refine Option.bind_congr fun ⟨lexeme, count⟩ found => ?_
    have bound := (spelled_of_readLexeme found).2.bound
    simp only [Function.comp_apply, Option.map_map]
    rw [LexerState.skip_inside_longer starts bound, LexerState.inside_longer]
    rfl
  · obtain ⟨⟨lexeme, count⟩, found, step⟩ := Option.bind_eq_some_iff.mp step
    obtain ⟨brackets, -, same⟩ := Option.map_eq_some_iff.mp step
    cases same
    have spelled := (spelled_of_readLexeme found).2
    refine Or.inl ?_
    rw [LexerState.rest_skip_inside starts, List.getLast?_drop, left, if_neg]
    -- a lexeme of all that is left would end in a newline
    intro all
    refine spelled.last ?_
    rw [List.take_of_length_le all, left]

end

section

variable {state : LexerState} (stands : state.cursor.At text n)
  (ends : state.cursor.rest.getLast? = some '\n')

include stands ends

/-- The start of a line is read in the longer text as it is in the text, unless that breaks off. -/
theorem lineStart_longer (start : state.atLineStart = true)
    : state.StepsLonger lineStart ∨ BreaksOff text n := by
  -- only a backslash before the newline at the end lets blanks be measured on behind it
  have measures : MeasuresLonger ⟨0, 0⟩ 0 0 state.cursor.rest ∨ Breaks state.cursor.rest :=
    measure_longer ends
  refine measures.imp (fun ⟨same, less⟩ => ?_) stands.breaksOff
  cases measured : measure ⟨0, 0⟩ 0 0 state.cursor.rest with
  | none =>
      rw [measured] at same
      refine ⟨?_, ?_⟩ <;>
      simp [lineStart, LexerState.longer, Cursor.longer, same, measured]
  | some read =>
      obtain ⟨indent, count⟩ := read
      have bound := less indent count measured
      have left : (state.cursor.skip count).rest.getLast? = some '\n' := by
        rw [Cursor.skip, List.getLast?_drop, if_neg (by omega), ends]
      have skipped : state.longer.cursor.skip count = (state.cursor.skip count).longer :=
        state.cursor.skip_longer (by omega)
      have behind := Cursor.getLast?_skipComment left
      have same' : measure ⟨0, 0⟩ 0 0 state.longer.cursor.rest = some (indent, count) :=
        same.trans measured
      obtain ⟨c, rest, starts⟩ := List.exists_cons_of_ne_nil
        (List.getLast?_isSome.mp (Option.isSome_of_mem behind))
      have behind' : (state.longer.cursor.skip count).skipComment.rest = c :: (rest ++ ['\n']) := by
        rw [skipped, Cursor.skipComment_longer, Cursor.longer, starts, List.cons_append]
      by_cases newline : c = '\n'
      · subst newline
        have next : (state.longer.cursor.skip count).skipComment.skip 1
            = ((state.cursor.skip count).skipComment.skip 1).longer := by
          rw [skipped, Cursor.skipComment_longer, Cursor.skip_longer _ (by simp [starts])]
        rw [LexerState.StepsLonger, lineStart_blank same' behind', lineStart_blank measured starts,
          next]
        refine ⟨rfl, fun tokens next read => ?_⟩
        cases read
        have rest' : ((state.cursor.skip count).skipComment.skip 1).rest = rest := by
          rw [Cursor.rest_skip, starts, List.drop_one, List.tail_cons]
        rw [starts] at behind
        rw [LexerState.Ended, rest']
        exact (ends_of_cons behind).imp_right fun none => ⟨none, Or.inl start⟩
      · rw [LexerState.StepsLonger, lineStart_indented same' (by simpa [behind'] using newline),
          lineStart_indented measured (by simpa [starts] using newline), skipped, Option.map_map]
        refine ⟨rfl, fun tokens next read => ?_⟩
        obtain ⟨opened, -, same⟩ := Option.map_eq_some_iff.mp read
        cases same
        exact Or.inl left

/-- A line is read on in the longer text as it is in the text, unless that breaks off. -/
theorem lineStep_longer : state.StepsLonger lineStep ∨ BreaksOff text n := by
  obtain ⟨m, commented, before⟩ := stands.covers_gap
  have left : state.inside.rest.getLast? = some '\n' :=
    Cursor.getLast?_skipComment (Cursor.getLast?_skipWhile ends (by decide))
  obtain ⟨c, rest, starts⟩ := List.exists_cons_of_ne_nil
    (List.getLast?_isSome.mp (Option.isSome_of_mem left))
  rw [starts] at left
  by_cases newline : c = '\n'
  · subst newline
    exact Or.inl (stepsLonger_newline starts left)
  · by_cases joined : c = '\\' ∧ rest.head? = some '\n'
    · obtain ⟨rfl, head⟩ := joined
      obtain ⟨rest, rfl⟩ := List.head?_eq_some_iff.mp head
      cases rest with
      | nil =>
          have drop : text.drop m = ['\\', '\n'] := by
            rw [← commented.rest]
            exact starts
          exact Or.inr ⟨_, m, before, drop⟩
      | cons c rest => exact Or.inl (stepsLonger_joined starts left)
    · exact Or.inl (stepsLonger_token starts left newline fun same head => joined ⟨same, head⟩)

/-- A round over the longer text is as it is over the text, unless that breaks off. -/
theorem step_longer : state.StepsLonger LexerState.step ∨ BreaksOff text n := by
  have kept : state.longer.atLineStart = state.atLineStart := rfl
  cases start : state.atLineStart with
  | true =>
      refine (lineStart_longer stands ends start).imp_left fun steps => ?_
      simpa [LexerState.StepsLonger, LexerState.step, kept, start] using steps
  | false =>
      refine (lineStep_longer stands ends).imp_left fun steps => ?_
      simpa [LexerState.StepsLonger, LexerState.step, kept, start] using steps

end

/-- At the end of a text one more newline is passed over. -/
theorem step_longer_at_end {state : LexerState} (ended : state.Ended) (empty : state.cursor.rest = [])
    : ∃ next,
        state.longer.step = some ([], next)
        ∧ next.cursor.rest = []
        ∧ next.indents = state.indents
        ∧ next.brackets = state.brackets := by
  obtain ⟨⟨rest, place⟩, indents, brackets, start⟩ := state
  obtain rfl : rest = [] := empty
  cases start with
  | true =>
      have measured : measure ⟨0, 0⟩ 0 0 ['\n'] = some (⟨0, 0⟩, 0) := rfl
      have newline : ((Cursor.mk ['\n'] place).skip 0).skipComment.rest = ['\n'] := rfl
      exact ⟨_, lineStart_blank measured newline, rfl, rfl, rfl⟩
  | false =>
      have opened : brackets.isEmpty = false := by
        simpa [LexerState.Ended] using ended
      have newline : (LexerState.mk ⟨['\n'], place⟩ indents brackets false).inside.rest = ['\n'] := rfl
      have step := lineStep_newline newline
      rw [if_neg (Bool.eq_false_iff.mp opened)] at step
      exact ⟨_, step, rfl, rfl, rfl⟩

/-- Nothing more than the end is read where no text is left. -/
theorem reads_end_iff {state : LexerState} (empty : state.cursor.rest = []) (all : List Token)
    : Reads state all ↔ state.brackets = [] ∧ all = state.closing := by
  constructor
  · intro reads
    cases reads with
    | finish _ closed => exact ⟨closed, rfl⟩
    | round more => exact absurd empty more
  · rintro ⟨closed, rfl⟩
    exact .finish empty closed

/-- At the end of a text nothing more is read of the longer text. -/
theorem reads_longer_at_end {state : LexerState} (ended : state.Ended)
    (empty : state.cursor.rest = []) (all : List Token)
    : Reads state.longer all ↔ Reads state all := by
  obtain ⟨next, step, empty', indents, brackets⟩ := step_longer_at_end ended empty
  have closing : next.closing = state.closing := by rw [LexerState.closing, indents]; rfl
  have more : state.longer.cursor.rest ≠ [] := List.append_ne_nil_of_right_ne_nil _ (by simp)
  rw [reads_end_iff empty]
  constructor
  · intro reads
    cases reads with
    | finish empty => exact absurd empty more
    | round _ step' reads =>
        rw [step] at step'
        cases step'
        rw [reads_end_iff empty', brackets, closing] at reads
        exact reads
  · rintro ⟨closed, rfl⟩
    have reads : Reads next state.closing :=
      (reads_end_iff empty' _).mpr ⟨brackets.trans closed, closing.symm⟩
    have round : Reads state.longer ([] ++ state.closing) := .round more step reads
    exact round

/-- What is read of a text is read of the longer text, by induction on the rounds. -/
theorem Reads.longer {state : LexerState} {all : List Token} (reads : Reads state all) {n : Nat}
    (stands : state.cursor.At text n) (ended : state.Ended)
    : Reads state.longer all ∨ BreaksOff text n := by
  induction reads generalizing n with
  | finish empty closed =>
      exact Or.inl ((reads_longer_at_end ended empty _).mpr (.finish empty closed))
  | @round state next tokens later more step reads ih =>
      have ends : state.cursor.rest.getLast? = some '\n' :=
        ended.resolve_right fun ⟨empty, _⟩ => more empty
      rcases step_longer stands ends with ⟨same, kept⟩ | breaks
      · obtain ⟨m, behind, covers⟩ := step_covers stands step
        rw [step, Option.map_some] at same
        refine (ih behind (kept tokens next step)).imp (fun later => ?_) (.before covers)
        exact .round (List.append_ne_nil_of_left_ne_nil more _) same later
      · exact Or.inr breaks

/-- What is read of the longer text is read of the text, unless that breaks off. Witness: induction on
the rounds.
-/
theorem Reads.shorter {longer : LexerState} {all : List Token} (reads : Reads longer all)
    {state : LexerState} (same : longer = state.longer) {n : Nat} (stands : state.cursor.At text n)
    (ended : state.Ended)
    : Reads state all ∨ BreaksOff text n := by
  induction reads generalizing state n with
  | finish empty =>
      subst same
      exact absurd empty (List.append_ne_nil_of_right_ne_nil _ (by simp))
  | @round longer next tokens later more step reads ih =>
      subst same
      -- the rounds are those of the longer text, which has one more when the text is at its end
      by_cases empty : state.cursor.rest = []
      · exact Or.inl ((reads_longer_at_end ended empty _).mp (.round more step reads))
      · have ends : state.cursor.rest.getLast? = some '\n' :=
          ended.resolve_right fun ⟨empty', _⟩ => empty empty'
        rcases step_longer stands ends with ⟨same, kept⟩ | breaks
        · rw [same] at step
          obtain ⟨⟨tokens, next⟩, shorter, same⟩ := Option.map_eq_some_iff.mp step
          cases same
          obtain ⟨m, behind, covers⟩ := step_covers stands shorter
          exact (ih rfl behind (kept tokens next shorter)).imp (.round empty shorter)
            (.before covers)
        · exact Or.inr breaks

/-- A text that ends in a newline has the tokens that it has with one more newline, unless it breaks
off.
-/
theorem reads_longer_iff {text : List Char} (ends : text.getLast? = some '\n')
    : BreaksOff text 0 ∨ ∀ all, Reads (.start (text ++ ['\n'])) all ↔ Reads (.start text) all := by
  by_cases breaks : BreaksOff text 0
  · exact Or.inl breaks
  · have stands : (LexerState.start text).cursor.At text 0 := ⟨rfl, rfl, Nat.zero_le _⟩
    have longer : LexerState.start (text ++ ['\n']) = (LexerState.start text).longer := rfl
    refine Or.inr fun all => ⟨fun reads => ?_, fun reads => ?_⟩
    · exact (reads.shorter longer stands (Or.inl ends)).resolve_right breaks
    · exact (reads.longer stands (Or.inl ends)).resolve_right breaks

end FoldTree.Source
