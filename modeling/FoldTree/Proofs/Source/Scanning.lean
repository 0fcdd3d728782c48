import FoldTree.Proofs.Source.Stretches
import FoldTree.Proofs.Text.Offset
import Mathlib.Data.List.Forall2

/-! The comments that are found line by line. Where all literals of a text close, what carries over
from line to line is what a reading of the whole text has come to, so every comment found stands
where that reading has one.
-/

namespace FoldTree.Source.Comment

/-- The rest of a line, with what comes behind it: a newline ends the line, and without one nothing
comes behind it.
-/
inductive LineRest (later : List Char) : List Char → Prop
  | last (none : later = []) : LineRest later []
  | newline : LineRest later ['\n']
  | cons {c : Char} {rest : List Char} (inside : c ≠ '\n') (ends : LineRest later rest)
    : LineRest later (c :: rest)

/-- A mode whose text, if it is one, is between quotes. -/
def Mode.Quoted (mode : Mode) : Prop :=
  ∀ opened, mode = .text opened → opened.quote = '"' ∨ opened.quote = '\''

/-- Code is no text. -/
theorem Mode.Quoted.code : Mode.code.Quoted := nofun

/-- A comment is no text. -/
theorem Mode.Quoted.comment : Mode.comment.Quoted := nofun

/-- The text behind a quote is between quotes. -/
theorem Mode.Quoted.of_quote {c : Char} (quote : c = '"' ∨ c = '\'') {isLong : Bool}
    : (Mode.text ⟨c, isLong⟩).Quoted := by
  rintro opened ⟨⟩
  exact quote

/-- A quote is no newline. -/
theorem Mode.Quoted.quote_ne {mode : Mode} {opened : OpenText} (quoted : mode.Quoted)
    (text : mode = .text opened)
    : opened.quote ≠ '\n' := by
  rcases quoted opened text with same | same <;> rw [same] <;> decide

/-- What a whole reading of the text is in at the end of a line. -/
def Carry.mode (carry : Carry) : Mode :=
  match carry.opened with
  | some opened => .text opened
  | none => .code

/-- What is found in a line from an offset on is what a reading of the text finds there, and what
carries over is what the reading has come to at the line's end.
-/
def Agrees (n stop : Nat) (later : List Char) (all : List (Nat × Nat))
    (result : List (Nat × List Char) × Carry) : Prop :=
  result.2.mode.Quoted
  ∧ ∃ kept rest,
      all = kept ++ rest
      ∧ List.Forall₂ (fun found stretch =>
          stretch.1 = n + found.1 ∧ stretch.2 = stretch.1 + found.2.length) result.1 kept
      ∧ stretches result.2.mode 0 stop later = some rest

/-- Where nothing is found, the reading goes on as it is. -/
theorem Agrees.none {n stop : Nat} {later : List Char} {all : List (Nat × Nat)} {carry : Carry}
    (quoted : carry.mode.Quoted) (same : stretches carry.mode 0 stop later = some all)
    : Agrees n stop later all ([], carry) :=
  ⟨quoted, [], all, rfl, .nil, same⟩

/-- A newline at most one character away is no quote that goes on with others. -/
theorem follows_append_later {c : Char} {later : List Char} (other : c ≠ '\n') {rest : List Char}
    (ends : LineRest later rest)
    : follows c (rest ++ later) = follows c rest := by
  cases ends with
  | last none => simp [none]
  | newline => simp [follows, Ne.symm other]
  | @cons d rest inside ends =>
      cases ends with
      | last none => simp [none]
      | newline => simp [follows]
      | cons => simp [follows]

/-- What stands before the first newline stands in the rest of the line. -/
theorem takeWhile_append_later {later rest : List Char} (ends : LineRest later rest)
    : (rest ++ later).takeWhile (· != '\n') = rest.takeWhile (· != '\n') := by
  induction ends with
  | last none => simp [none]
  | newline => simp
  | cons inside _ ih => simp [inside, ih]

/-- A line that ends in a backslash is joined to the next. -/
theorem endsJoined_of_suffix {line : List Char} (ends : ['\\', '\n'] <:+ line)
    : endsJoined line = true := by
  obtain ⟨before, rfl⟩ := ends
  simp [endsJoined]

/-- A literal between single quotes that closes somewhere does not miss its quote in the rest of a
line: it closes there, or the line is joined to the next, which the literal goes on in. Witness:
induction along the search for the quote.
-/
theorem endingOf_spec {quote : Char} (other : quote ≠ '\n') {later rest : List Char}
    (ends : LineRest later rest) {n : Nat} {all : List (Nat × Nat)}
    (read : stretches (.text ⟨quote, false⟩) 0 n (rest ++ later) = some all)
    : endingOf quote rest = .closed
      ∨ endingOf quote rest = .joined
        ∧ ['\\', '\n'] <:+ rest
        ∧ stretches (.text ⟨quote, false⟩) 0 (n + rest.length) later = some all := by
  fun_induction endingOf quote rest generalizing n with
  | case1 =>
      cases ends with
      | last none => simp [none, stretches] at read
  | case2 =>
      cases ends with
      | cons _ ends =>
          cases ends with
          | last none => simp [none, stretches] at read
  | case3 behind =>
      cases ends with
      -- the backslash stands in front of the newline that ends the line
      | cons _ ends =>
          cases ends with
          | newline => exact Or.inr ⟨rfl, List.suffix_refl _, by simpa [stretches] using read⟩
          | cons inside => exact absurd rfl inside
  | case4 => simp [stretches, Ne.symm other] at read
  | case5 c rest _ _ ih =>
      cases ends with
      | cons _ ends =>
          cases ends with
          | newline => simp_all
          | cons inside ends =>
              have passed : stretches (.text ⟨quote, false⟩) 0 (n + 2) (rest ++ later)
                  = some all := by
                simpa [stretches] using read
              rcases ih ends passed with closed | ⟨joined, suffix, same⟩
              · exact Or.inl closed
              · refine Or.inr ⟨joined, suffix.trans (List.suffix_append ['\\', c] rest), ?_⟩
                rw [← same, List.length_cons, List.length_cons]
                congr 1
                omega
  | case6 => exact Or.inl rfl
  | case7 rest _ _ _ _ differ =>
      simp [stretches, differ] at read
  | case8 c rest single joined _ escape differ newline ih =>
      have unescaped := ne_backslash single escape
      cases ends with
      | newline => exact absurd rfl newline
      | cons inside ends =>
          have passed : stretches (.text ⟨quote, false⟩) 0 (n + 1) (rest ++ later)
              = some all := by
            simpa [stretches, unescaped, differ, newline] using read
          rcases ih ends passed with closed | ⟨joined, suffix, same⟩
          · exact Or.inl closed
          · refine Or.inr ⟨joined, suffix.trans (List.suffix_cons c rest), ?_⟩
            rw [← same, List.length_cons]
            congr 1
            omega

/-- So the search for its quote in the line does not fail. -/
theorem endingOf_ne_missing {quote : Char} (other : quote ≠ '\n') {later rest : List Char}
    (ends : LineRest later rest) {n : Nat} {all : List (Nat × Nat)}
    (read : stretches (.text ⟨quote, false⟩) 0 n (rest ++ later) = some all)
    : endingOf quote rest ≠ .missing := by
  rcases endingOf_spec other ends read with closed | ⟨joined, -⟩
  · simp [closed]
  · simp [joined]

/-- At the end of a line the mode carries over, where it is no comment. -/
theorem agrees_at_end {mode : Mode} {n stop : Nat} {carry : Carry}
    {later : List Char} {all : List (Nat × Nat)} (quoted : mode.Quoted) (code : mode ≠ .comment)
    (read : stretches mode 0 stop later = some all)
    : Agrees n stop later all ([], { carry with opened := mode.opened? }) := by
  have same : Carry.mode { carry with opened := mode.opened? } = mode := by
    cases mode with
    | text opened => rfl
    | code => rfl
    | comment => exact absurd rfl code
  refine .none ?_ ?_ <;> rw [same]
  · exact quoted
  · exact read

/-- Behind a newline there is nothing more of a line. -/
theorem LineRest.eq_nil {later rest : List Char} (ends : LineRest later ('\n' :: rest))
    : rest = [] := by
  cases ends with
  | newline => rfl
  | cons inside _ => exact absurd rfl inside

/-- Behind any other character the line goes on. -/
theorem LineRest.tail {later rest : List Char} {c : Char} (ends : LineRest later (c :: rest))
    (inside : c ≠ '\n')
    : LineRest later rest := by
  cases ends with
  | newline => exact absurd rfl inside
  | cons _ ends => exact ends

/-- A quote that comes two more times is there twice. -/
theorem eq_of_follows {c : Char} {rest : List Char} (three : follows c rest = true)
    : rest = c :: c :: rest.drop 2 := by
  rw [follows, beq_iff_eq] at three
  calc rest
      = rest.take 2 ++ rest.drop 2 := (List.take_append_drop 2 rest).symm
    _ = c :: c :: rest.drop 2 := by rw [three]; rfl

/-- A character behind a backslash belongs to a text. -/
theorem readLine_escaped {opened : OpenText} (column : Nat) (carry : Carry) {d : Char}
    (inside : d ≠ '\n') (after : List Char)
    : readLine (.text opened) column carry ('\\' :: d :: after)
      = readLine (.text opened) (column + 2) carry after := by
  rw [readLine.eq_def]
  dsimp only
  rw [if_pos rfl, if_neg inside]

/-- A character that is no backslash and no quote of a text belongs to it. -/
theorem readLine_in_text {opened : OpenText} (column : Nat) (carry : Carry) {c : Char}
    (unescaped : ¬c = '\\') (differ : c ≠ opened.quote) (rest : List Char)
    : readLine (.text opened) column carry (c :: rest)
      = readLine (.text opened) (column + 1) carry rest := by
  rw [readLine.eq_def]
  dsimp only
  rw [if_neg unescaped, if_pos differ]

/-- The quote of a short text closes it. -/
theorem readLine_closing_short {opened : OpenText} (column : Nat) (carry : Carry) {c : Char}
    (unescaped : ¬c = '\\') (same : ¬c ≠ opened.quote) (short : opened.isLong = false)
    (rest : List Char)
    : readLine (.text opened) column carry (c :: rest) = readLine .code (column + 1) carry rest := by
  rw [readLine.eq_def]
  dsimp only
  rw [if_neg unescaped, if_neg same, if_pos (by simpa using short)]

/-- A comment is found at its hash. -/
theorem readLine_hash (column : Nat) (carry : Carry) (rest : List Char)
    : readLine .code column carry ('#' :: rest)
      = let (found, after) := readLine .comment (column + 1) carry rest
        ((column, textWithin ('#' :: rest)) :: found, after) := by
  rw [readLine.eq_def]
  dsimp only
  rw [if_pos rfl]

/-- Any other character of code opens or closes a bracket or does nothing, unless it joins lines. -/
theorem readLine_in_code (column : Nat) (carry : Carry) {c : Char} (hash : ¬c = '#')
    (quote : ¬(c = '"' ∨ c = '\'')) (rest : List Char)
    : readLine .code column carry (c :: rest)
      = if c = '\\' ∧ (rest = ['\n'] ∨ rest = ['\r', '\n']) then
          ([], { carry with joined := true, opened := none })
        else
          readLine .code (column + 1) { carry with level := carry.level + bracketStep c } rest := by
  rw [readLine.eq_def]
  dsimp only
  rw [if_neg hash, if_neg quote]

/-- A quote in a long text closes it if it comes two more times. -/
theorem readLine_closing {opened : OpenText} (column : Nat) (carry : Carry) {c : Char}
    (unescaped : ¬c = '\\') (same : ¬c ≠ opened.quote) (long : ¬opened.isLong = false)
    (rest : List Char)
    : readLine (.text opened) column carry (c :: rest)
      = if follows c rest then readLine .code (column + 3) carry (rest.drop 2)
        else readLine (.text opened) (column + 1) carry rest := by
  rw [readLine.eq_def]
  dsimp only
  rw [if_neg unescaped, if_neg same, if_neg (by simpa using long)]
  rcases rest with _ | ⟨d, _ | ⟨e, after⟩⟩
  · simp [follows]
  · simp [follows]
  · simp [follows]

/-- A quote in code opens a long text if it comes two more times, and a short one otherwise that has
to go on.
-/
theorem readLine_opening (column : Nat) (carry : Carry) {c : Char} (hash : ¬c = '#')
    (quote : c = '"' ∨ c = '\'') (rest : List Char)
    : readLine .code column carry (c :: rest)
      = if follows c rest then readLine (.text ⟨c, true⟩) (column + 3) carry (rest.drop 2)
        else readLine (if endingOf c rest = .missing then .code else .text ⟨c, false⟩) (column + 1)
          carry rest := by
  rw [readLine.eq_def]
  dsimp only
  rw [if_neg hash, if_pos quote]
  rcases rest with _ | ⟨d, _ | ⟨e, after⟩⟩
  · simp [follows]
  · simp [follows]
  · simp [follows]

/-- The text of a comment behind code goes up to the newline. -/
theorem textWithin_eq {text : List Char} (plain : '\r' ∉ text)
    : textWithin text = text.takeWhile (· != '\n') := by
  induction text with
  | nil => rfl
  | cons c rest ih =>
      rw [List.mem_cons, not_or] at plain
      have rest := ih plain.2
      rw [textWithin] at rest ⊢
      simp only [List.takeWhile_cons, rest, bne_iff_ne, ne_eq, Ne.symm plain.1, not_false_eq_true,
        Bool.and_eq_true, true_and]

/-- Whatever is left of a line behind some character of it is read as the text is. -/
def ShorterAgree (n stop : Nat) (later chars : List Char) : Prop :=
  ∀ ⦃mode : Mode⦄ ⦃column : Nat⦄ ⦃carry : Carry⦄ ⦃left : List Char⦄ ⦃all : List (Nat × Nat)⦄,
    left.length < chars.length
    → mode.Quoted
    → LineRest later left
    → '\r' ∉ left
    → n + column + left.length = stop
    → stretches mode 0 (n + column) (left ++ later) = some all
    → Agrees n stop later all (readLine mode column carry left)

section

variable {column n stop : Nat} {carry : Carry} {later rest : List Char} {c : Char}
  {all : List (Nat × Nat)}
  (shorter : ShorterAgree n stop later (c :: rest))
  (ends : LineRest later (c :: rest)) (plain : '\r' ∉ c :: rest)
  (behind : n + column + (c :: rest).length = stop)

include shorter ends plain behind

/-- One character is read as the text is if the line is read so behind it. A newline leaves the mode
as it is.
-/
theorem agrees_behind {mode : Mode} (quoted : mode.Quoted) (code : mode ≠ .comment)
    (read : stretches mode 0 (n + (column + 1)) (rest ++ later) = some all)
    : Agrees n stop later all (readLine mode (column + 1) carry rest) := by
  rw [List.mem_cons, not_or] at plain
  rw [List.length_cons] at behind
  by_cases newline : c = '\n'
  · subst newline
    obtain rfl := ends.eq_nil
    subst behind
    exact agrees_at_end quoted code read
  · exact shorter (Nat.lt_succ_self rest.length) quoted (ends.tail newline) plain.2 (by omega) read

/-- A character of a comment is read as the text is. -/
theorem agrees_in_comment
    (read : stretches .comment 0 (n + column) (c :: rest ++ later) = some all)
    : Agrees n stop later all (readLine .comment column carry (c :: rest)) := by
  rw [List.cons_append, stretches] at read
  rw [readLine]
  by_cases newline : c = '\n'
  · rw [if_pos newline] at read
    rw [if_pos (Or.inr newline)]
    exact agrees_behind shorter ends plain behind .code (by decide) read
  · rw [List.mem_cons, not_or] at plain
    rw [List.length_cons] at behind
    rw [if_neg newline] at read
    rw [if_neg (by simp [newline, Ne.symm plain.1])]
    exact shorter (Nat.lt_succ_self rest.length) .comment (ends.tail newline) plain.2 (by omega) read

/-- A character behind a backslash in a literal is read as the text is. -/
theorem agrees_escaped {opened : OpenText} (quoted : (Mode.text opened).Quoted)
    (escape : c = '\\')
    (read : stretches (.text opened) 0 (n + column) (c :: rest ++ later) = some all)
    : Agrees n stop later all (readLine (.text opened) column carry (c :: rest)) := by
  subst escape
  have inner := ends.tail (by decide)
  rcases rest with _ | ⟨d, after⟩
  · have none : later = [] := by cases inner; assumption
    simp [none, stretches] at read
  · by_cases newline : d = '\n'
    · subst newline
      obtain rfl := inner.eq_nil
      have other : '\n' ≠ opened.quote := (quoted.quote_ne rfl).symm
      subst behind
      simp only [readLine, other, ite_self, ne_eq, not_false_eq_true, if_true]
      exact agrees_at_end quoted (by simp) (by simpa [stretches] using read)
    · simp only [List.mem_cons, not_or] at plain
      simp only [List.length_cons] at behind
      rw [List.cons_append, List.cons_append, stretches_escape] at read
      rw [readLine_escaped column carry newline]
      exact shorter (by simp only [List.length_cons]; omega) quoted (inner.tail newline)
        plain.2.2 (by omega) read

/-- The quote of a literal is read as the text is: it closes a short literal, and a long one if it
comes two more times.
-/
theorem agrees_closing {opened : OpenText} (quoted : (Mode.text opened).Quoted)
    (unescaped : ¬c = '\\') (same : ¬c ≠ opened.quote)
    (read : stretches (.text opened) 0 (n + column) (c :: rest ++ later) = some all)
    : Agrees n stop later all (readLine (.text opened) column carry (c :: rest)) := by
  have inside : c ≠ '\n' := not_not.mp same ▸ quoted.quote_ne rfl
  rw [List.cons_append, stretches, if_neg unescaped, if_neg same,
    follows_append_later inside (ends.tail inside)] at read
  by_cases short : opened.isLong = false
  · rw [if_pos short] at read
    rw [readLine_closing_short column carry unescaped same short]
    exact agrees_behind shorter ends plain behind .code (by decide) read
  · rw [if_neg short] at read
    rw [readLine_closing column carry unescaped same short]
    by_cases three : follows c rest = true
    · rw [if_pos three] at read ⊢
      have twice := eq_of_follows three
      generalize rest.drop 2 = after at twice ⊢
      subst twice
      simp only [List.mem_cons, not_or] at plain
      simp only [List.length_cons] at behind
      simp only [List.cons_append, stretches] at read
      exact shorter (by simp only [List.length_cons]; omega) .code
        (((ends.tail inside).tail inside).tail inside) plain.2.2.2 (by omega) read
    · rw [if_neg three] at read ⊢
      exact agrees_behind shorter ends plain behind quoted (by simp) read

/-- A character of a literal is read as the text is. -/
theorem agrees_in_text {opened : OpenText} (quoted : (Mode.text opened).Quoted)
    (read : stretches (.text opened) 0 (n + column) (c :: rest ++ later) = some all)
    : Agrees n stop later all (readLine (.text opened) column carry (c :: rest)) := by
  by_cases escape : c = '\\'
  · exact agrees_escaped shorter ends plain behind quoted escape read
  · by_cases other : c ≠ opened.quote
    · rw [List.cons_append, stretches, if_neg escape, if_pos other] at read
      split_ifs at read
      rw [readLine_in_text column carry escape other]
      exact agrees_behind shorter ends plain behind quoted (by simp) read
    · exact agrees_closing shorter ends plain behind quoted escape other read

/-- The hash of a comment is read as the text is, and the comment goes up to the newline. -/
theorem agrees_at_hash (hash : c = '#')
    (read : stretches .code 0 (n + column) (c :: rest ++ later) = some all)
    : Agrees n stop later all (readLine .code column carry (c :: rest)) := by
  subst hash
  have inner := ends.tail (by decide)
  simp only [List.mem_cons, not_or] at plain
  rw [List.length_cons] at behind
  rw [List.cons_append, stretches, if_pos rfl, takeWhile_append_later inner] at read
  obtain ⟨others, found, rfl⟩ := Option.map_eq_some_iff.mp read
  have agrees : Agrees n stop later others (readLine .comment (column + 1) carry rest) :=
    shorter (Nat.lt_succ_self rest.length) .comment inner plain.2 (by omega) found
  obtain ⟨carried, kept, left, rfl, same, goes⟩ := agrees
  rw [readLine_hash]
  refine ⟨carried, _ :: kept, left, rfl, .cons ⟨rfl, ?_⟩ same, goes⟩
  rw [textWithin_eq (by simp [plain.2]), List.takeWhile_cons_of_pos (by decide),
    List.length_cons]
  omega

/-- A quote in code is read as the text is: it opens a literal, a long one if it comes two more
times.
-/
theorem agrees_opening (hash : ¬c = '#') (quote : c = '"' ∨ c = '\'')
    (read : stretches .code 0 (n + column) (c :: rest ++ later) = some all)
    : Agrees n stop later all (readLine .code column carry (c :: rest)) := by
  have inside : c ≠ '\n' := by rcases quote with rfl | rfl <;> decide
  rw [List.cons_append, stretches, if_neg hash, if_pos quote,
    follows_append_later inside (ends.tail inside)] at read
  rw [readLine_opening column carry hash quote]
  by_cases three : follows c rest = true
  · rw [if_pos three] at read ⊢
    have twice := eq_of_follows three
    generalize rest.drop 2 = after at twice ⊢
    subst twice
    simp only [List.mem_cons, not_or] at plain
    simp only [List.length_cons] at behind
    simp only [List.cons_append, stretches] at read
    exact shorter (by simp only [List.length_cons]; omega) (.of_quote quote)
      (((ends.tail inside).tail inside).tail inside) plain.2.2.2 (by omega) read
  · rw [if_neg three] at read ⊢
    rw [if_neg (endingOf_ne_missing inside (ends.tail inside) read)]
    exact agrees_behind shorter ends plain behind (.of_quote quote) (by simp) read

/-- A character of code is read as the text is. -/
theorem agrees_in_code
    (read : stretches .code 0 (n + column) (c :: rest ++ later) = some all)
    : Agrees n stop later all (readLine .code column carry (c :: rest)) := by
  by_cases hash : c = '#'
  · exact agrees_at_hash shorter ends plain behind hash read
  · by_cases quote : c = '"' ∨ c = '\''
    · exact agrees_opening shorter ends plain behind hash quote read
    · rw [List.cons_append, stretches, if_neg hash, if_neg quote] at read
      rw [readLine_in_code column carry hash quote]
      split_ifs with joined
      · obtain ⟨rfl, rfl | rfl⟩ := joined
        · subst behind
          exact .none .code (by simpa [Carry.mode, stretches] using read)
        · simp at plain
      · exact agrees_behind shorter ends plain behind .code (by decide) read

end

/-- Reading the rest of a line agrees with a reading of the text, by induction along the line. -/
theorem readLine_agrees {mode : Mode} {column n stop : Nat} {carry : Carry}
    {later chars : List Char} {all : List (Nat × Nat)} (quoted : mode.Quoted)
    (ends : LineRest later chars) (plain : '\r' ∉ chars)
    (behind : n + column + chars.length = stop)
    (read : stretches mode 0 (n + column) (chars ++ later) = some all)
    : Agrees n stop later all (readLine mode column carry chars) := by
  cases chars with
  | nil =>
      have none : later = [] := by cases ends; assumption
      subst behind none
      cases mode with
      | text opened => simp [stretches] at read
      | code => exact agrees_at_end quoted (by decide) read
      | comment => exact .none .code (by simpa [Carry.mode, Mode.opened?, stretches] using read)
  | cons c rest =>
      have shorter : ShorterAgree n stop later (c :: rest) :=
        fun _ _ _ _ _ shorter quoted ends plain behind read =>
          readLine_agrees quoted ends plain behind read
      cases mode with
      | comment => exact agrees_in_comment shorter ends plain behind read
      | text opened => exact agrees_in_text shorter ends plain behind quoted read
      | code => exact agrees_in_code shorter ends plain behind read
termination_by chars.length

end FoldTree.Source.Comment
