import FoldTree.Proofs.Source.LineByLine
import FoldTree.Proofs.Text.Returns

/-! Comments of a text with carriage returns before its newlines. A line with a carriage return at its
end has the comments that it has without: none of the places where a line is looked at tells the two
ends apart.
-/

namespace FoldTree.Source.Comment

open Text (returned)

/-! ### Within a line -/

/-- A line as it ends in a newline. -/
def ended (body : List Char) : List Char :=
  body ++ ['\n']

/-- A line as it ends in a carriage return and a newline. -/
def returnEnded (body : List Char) : List Char :=
  body ++ ['\r', '\n']

/-- A text between single quotes stands to both ends of a line alike, by induction. -/
theorem endingOf_returned {quote : Char} (other : quote ≠ '\r') (other' : quote ≠ '\n')
    {body : List Char} (plain : '\r' ∉ body)
    : endingOf quote (returnEnded body) = endingOf quote (ended body) := by
  cases body with
  | nil => simp [returnEnded, ended, endingOf, Ne.symm other, Ne.symm other']
  | cons c rest =>
      by_cases escape : c = '\\'
      · subst escape
        cases rest with
        | nil => rfl
        | cons d after =>
            simp only [List.mem_cons, not_or] at plain
            have later := endingOf_returned other other' plain.2.2
            by_cases newline : d = '\n'
            · subst newline
              rfl
            · have return_ : d ≠ '\r' := Ne.symm plain.2.1
              simpa [returnEnded, ended, endingOf, newline, return_] using later
      · rw [List.mem_cons, not_or] at plain
        have later := endingOf_returned other other' plain.2
        simp only [returnEnded, ended, List.cons_append] at later ⊢
        simp only [endingOf, escape, later, false_imp_iff, implies_true]
termination_by body.length

/-- The text of a comment goes up to both ends alike, by induction. -/
theorem textWithin_returned (body : List Char)
    : textWithin (returnEnded body) = textWithin (ended body) := by
  induction body with
  | nil => rfl
  | cons c rest ih =>
      simp only [textWithin, returnEnded, ended, List.cons_append, List.takeWhile_cons] at ih ⊢
      rw [ih]

/-- A quote comes two more times before both ends alike. -/
theorem follows_returned {c : Char} (quote : c = '"' ∨ c = '\'') (body : List Char)
    : follows c (returnEnded body) = follows c body ∧ follows c (ended body) = follows c body := by
  rcases body with _ | ⟨d, _ | ⟨e, rest⟩⟩ <;> rcases quote with rfl | rfl <;>
    simp [follows, returnEnded, ended]

/-- Whatever is left of a line reads alike before both ends. -/
def ShorterAlike (chars : List Char) : Prop :=
  ∀ ⦃mode : Mode⦄ ⦃column : Nat⦄ ⦃carry : Carry⦄ ⦃left : List Char⦄,
    left.length < chars.length
    → '\r' ∉ left
    → '\n' ∉ left
    → mode.Quoted
    → readLine mode column carry (returnEnded left) = readLine mode column carry (ended left)

section

variable {column : Nat} {carry : Carry} {c : Char} {rest : List Char}
  (shorter : ShorterAlike (c :: rest)) (plain : '\r' ∉ c :: rest) (inside : '\n' ∉ c :: rest)

include shorter plain inside

/-- A line reads alike behind its first character. -/
theorem alike_behind {mode : Mode} (quoted : mode.Quoted)
    : readLine mode column carry (returnEnded rest) = readLine mode column carry (ended rest) := by
  rw [List.mem_cons, not_or] at plain inside
  exact shorter (Nat.lt_succ_self _) plain.2 inside.2 quoted

/-- A line reads alike behind three quotes. -/
theorem alike_behind_three {mode : Mode} (quoted : mode.Quoted) (three : follows c rest = true)
    : readLine mode column carry ((returnEnded rest).drop 2)
      = readLine mode column carry ((ended rest).drop 2) := by
  have twice := eq_of_follows three
  generalize rest.drop 2 = after at twice
  subst twice
  simp only [List.mem_cons, not_or] at plain inside
  exact shorter (by simp only [List.length_cons]; omega) plain.2.2.2 inside.2.2.2 quoted

/-- A line reads alike inside of a text. -/
theorem alike_in_text {opened : OpenText} (quoted : (Mode.text opened).Quoted)
    : readLine (.text opened) column carry (returnEnded (c :: rest))
      = readLine (.text opened) column carry (ended (c :: rest)) := by
  have newline : '\n' ≠ opened.quote := (quoted.quote_ne rfl).symm
  rw [returnEnded, ended, List.cons_append, List.cons_append, ← returnEnded, ← ended]
  by_cases escape : c = '\\'
  · subst escape
    cases rest with
    | nil => simp [returnEnded, ended, readLine, newline]
    | cons d after =>
        simp only [List.mem_cons, not_or] at plain inside
        have other : d ≠ '\n' := Ne.symm inside.2.1
        rw [returnEnded, ended, List.cons_append, List.cons_append, readLine_escaped column carry other,
          readLine_escaped column carry other]
        exact shorter (by simp only [List.length_cons]; omega) plain.2.2 inside.2.2 quoted
  · by_cases differ : c ≠ opened.quote
    · rw [readLine_in_text column carry escape differ, readLine_in_text column carry escape differ]
      exact alike_behind shorter plain inside quoted
    · by_cases short : opened.isLong = false
      · rw [readLine_closing_short column carry escape differ short,
          readLine_closing_short column carry escape differ short]
        exact alike_behind shorter plain inside .code
      · have quote : c = '"' ∨ c = '\'' := not_not.mp differ ▸ quoted opened rfl
        obtain ⟨three, three'⟩ := follows_returned quote rest
        rw [readLine_closing column carry escape differ short,
          readLine_closing column carry escape differ short, three, three']
        split
        · rename_i three
          exact alike_behind_three shorter plain inside .code three
        · exact alike_behind shorter plain inside quoted

/-- A line reads alike in code. -/
theorem alike_in_code
    : readLine .code column carry (returnEnded (c :: rest))
      = readLine .code column carry (ended (c :: rest)) := by
  have text := textWithin_returned (c :: rest)
  rw [returnEnded, ended, List.cons_append, List.cons_append, ← returnEnded, ← ended] at text ⊢
  by_cases hash : c = '#'
  · subst hash
    rw [readLine_hash, readLine_hash, text, alike_behind shorter plain inside .comment]
  · by_cases quote : c = '"' ∨ c = '\''
    · obtain ⟨three, three'⟩ := follows_returned quote rest
      have other : c ≠ '\r' ∧ c ≠ '\n' := by rcases quote with rfl | rfl <;> decide
      have ending := endingOf_returned other.1 other.2 fun member =>
        plain (List.mem_cons_of_mem c member)
      rw [readLine_opening column carry hash quote, readLine_opening column carry hash quote, three,
        three', ending]
      split
      · rename_i three
        exact alike_behind_three shorter plain inside (.of_quote quote) three
      · refine alike_behind shorter plain inside ?_
        split
        · exact .code
        · exact .of_quote quote
    · rw [readLine_in_code column carry hash quote, readLine_in_code column carry hash quote,
        alike_behind shorter plain inside .code]
      cases rest with
      | nil => simp [returnEnded, ended]
      | cons d after =>
          simp only [List.mem_cons, not_or] at plain inside
          have other : d ≠ '\n' ∧ d ≠ '\r' := ⟨Ne.symm inside.2.1, Ne.symm plain.2.1⟩
          simp [returnEnded, ended, other]

end

/-- The rest of a line reads alike before both ends. Witness: induction along the line. -/
theorem readLine_returned {mode : Mode} (column : Nat) (carry : Carry) {body : List Char}
    (plain : '\r' ∉ body) (inside : '\n' ∉ body) (quoted : mode.Quoted)
    : readLine mode column carry (returnEnded body) = readLine mode column carry (ended body) := by
  cases body with
  | nil =>
      cases mode with
      | comment => simp [returnEnded, ended, readLine, bracketStep]
      | code => simp [returnEnded, ended, readLine, bracketStep]
      | text opened =>
          have newline : '\n' ≠ opened.quote := (quoted.quote_ne rfl).symm
          have return_ : '\r' ≠ opened.quote := by
            rcases quoted opened rfl with same | same <;> rw [same] <;> decide
          simp [returnEnded, ended, readLine, newline, return_]
  | cons c rest =>
      have shorter : ShorterAlike (c :: rest) := fun _ column carry _ shorter plain inside =>
        readLine_returned column carry plain inside
      cases mode with
      | comment =>
          simp only [List.mem_cons, not_or] at plain inside
          have other : ¬(c = '\r' ∨ c = '\n') := not_or.mpr ⟨Ne.symm plain.1, Ne.symm inside.1⟩
          simp only [returnEnded, ended, List.cons_append, readLine, if_neg other]
          exact shorter (Nat.lt_succ_self _) plain.2 inside.2 quoted
      | text opened => exact alike_in_text shorter plain inside quoted
      | code => exact alike_in_code shorter plain inside
termination_by body.length

/-! ### Whole lines -/

/-- A comment of a line is the same before both ends. -/
theorem inLine_returned (row : Nat) {body : List Char} {found : Nat × List Char}
    (inside : found.1 ≤ body.length)
    : inLine row (returnEnded body) found = inLine row (ended body) found := by
  rw [inLine, inLine, returnEnded, ended, List.take_append_of_le_length inside,
    List.take_append_of_le_length inside]

/-- The comments of a line are the same before both ends. -/
theorem map_inLine_returned (row column : Nat) (mode : Mode) (carry : Carry) {body chars : List Char}
    (length : column + chars.length = (ended body).length)
    : (readLine mode column carry chars).1.map (inLine row (returnEnded body))
      = (readLine mode column carry chars).1.map (inLine row (ended body)) := by
  refine List.map_congr_left fun found member => inLine_returned row ?_
  have bound := column_lt_of_readLine found member
  rw [length, ended, List.length_append, List.length_singleton] at bound
  exact Nat.le_of_lt_succ bound

/-- The blanks at the start of a line are the same before both ends, by induction. -/
theorem indentation_returned (column count : Nat) (body : List Char)
    : indentation column count (returnEnded body) = indentation column count (ended body) := by
  induction body generalizing column count with
  | nil => rfl
  | cons c rest ih =>
      simp only [returnEnded, ended, List.cons_append] at ih ⊢
      by_cases space : c = ' '
      · subst space
        exact ih _ _
      · by_cases tab : c = '\t'
        · subst tab
          exact ih _ _
        · by_cases feed : c = '\x0c'
          · subst feed
            exact ih _ _
          · simp [indentation, space, tab, feed]

/-- The blanks at the start of a line end before its newline. -/
theorem indentation_le (body : List Char) : (indentation 0 0 (ended body)).2 ≤ body.length := by
  obtain ⟨count, counted, blanks⟩ := indentation_spec 0 0 (ended body)
  rw [counted, Nat.zero_add]
  exact blanks.before rfl

/-- A whole line reads alike with both ends. -/
theorem readWholeLine_returned {row : Nat} {carry : Carry} {body : List Char} (plain : '\r' ∉ body)
    (inside : '\n' ∉ body) (quoted : carry.mode.Quoted)
    : readWholeLine row carry (returnEnded body) = readWholeLine row carry (ended body) := by
  have joined : endsJoined (returnEnded body) = endsJoined (ended body) := by
    rw [endsJoined, endsJoined, returnEnded, ended, List.reverse_append, List.reverse_append]
    rcases List.eq_nil_or_concat body with rfl | ⟨front, c, rfl⟩
    · rfl
    · have other : c ≠ '\r' := fun same => plain (by simp [same])
      by_cases escape : c = '\\'
      · simp [escape]
      · simp [escape, other]
  rw [readWholeLine.eq_def, readWholeLine.eq_def _ _ (ended body)]
  cases carried : carry.opened with
  | some opened =>
      simp only [Carry.mode, carried] at quoted
      have return_ : opened.quote ≠ '\r' := by
        rcases quoted opened rfl with same | same <;> rw [same] <;> decide
      simp only [joined, endingOf_returned return_ (quoted.quote_ne rfl) plain,
        readLine_returned 0 carry plain inside quoted,
        map_inLine_returned row 0 _ carry (Nat.zero_add (ended body).length)]
  | none =>
      simp only [readLine_returned 0 _ plain inside .code, indentation_returned,
        map_inLine_returned row 0 _ _ (Nat.zero_add (ended body).length)]
      split
      · rfl
      · have bound := indentation_le body
        generalize (indentation 0 0 (ended body)).2 = count at bound
        -- the blanks stop before the newline, so what is left has the same two ends
        have left : (ended body).drop count = ended (body.drop count) :=
          List.drop_append_of_le_length bound
        have left' : (returnEnded body).drop count = returnEnded (body.drop count) :=
          List.drop_append_of_le_length bound
        have plain' : '\r' ∉ body.drop count := fun member => plain (List.mem_of_mem_drop member)
        have inside' : '\n' ∉ body.drop count := fun member => inside (List.mem_of_mem_drop member)
        have length : count + (ended (body.drop count)).length = (ended body).length := by
          simp only [ended, List.length_append, List.length_drop, List.length_singleton]
          omega
        rw [left, left']
        generalize body.drop count = chars at plain' inside' length
        cases chars with
        | nil => rfl
        | cons c rest =>
            have whole : wholeText (returnEnded (c :: rest)) = wholeText (ended (c :: rest)) := by
              simp [wholeText, returnEnded, ended]
            have alone (text : List Char)
                : inLine row (returnEnded body) (count, text) = inLine row (ended body) (count, text) :=
              inLine_returned row bound
            simp only [whole, alone, readLine_returned count _ plain' inside' .code,
              map_inLine_returned row count _ _ length]
            rfl

/-- What a whole line leaves open is between quotes. -/
theorem readWholeLine_quoted {row : Nat} {carry after : Carry} {line : List Char}
    {found : List Comment} (quoted : carry.mode.Quoted)
    (read : readWholeLine row carry line = some (found, some after))
    : after.mode.Quoted := by
  generalize same : (found, some after) = result at read
  cases lineRead_of_readWholeLine read with
  | @text opened carried =>
      cases same
      refine readLine_quoted 0 carry line ?_
      rwa [Carry.mode, carried] at quoted
  | joined => cases same; exact quoted
  | broken => cases same; exact .code
  | code => cases same; exact readLine_quoted _ _ _ .code
  | ending => cases same
  | comment | blank => cases same; exact quoted

/-! ### Whole texts -/

/-- A newline in front of a text is a whole line. -/
theorem wholeLines_newline (rest : List Char)
    : wholeLines ('\n' :: rest) = ['\n'] :: wholeLines rest := by
  obtain ⟨before, last, split, -⟩ := lines_split rest
  simp [wholeLines, Text.lines_newline, split]

/-- Any other character goes to the front of the first line. -/
theorem wholeLines_cons {c : Char} (other : c ≠ '\n') (rest : List Char)
    : wholeLines (c :: rest)
      = match wholeLines rest with
        | [] => [[c]]
        | line :: later => (c :: line) :: later := by
  obtain ⟨before, last, split, -⟩ := lines_split rest
  cases before with
  | nil =>
      have front := Text.lines_cons other (split.trans (List.nil_append _))
      cases last <;> simp [wholeLines, front, split]
  | cons line before =>
      have front := Text.lines_cons other (split.trans (List.cons_append ..))
      simp [wholeLines, front, split]

/-- The whole lines of a text get their carriage returns one by one, by induction. -/
theorem wholeLines_returned (text : List Char)
    : wholeLines (returned text) = (wholeLines text).map returned := by
  induction text with
  | nil => rfl
  | cons c rest ih =>
      by_cases newline : c = '\n'
      · subst newline
        rw [Text.returned_newline, wholeLines_cons (by decide), wholeLines_newline,
          wholeLines_newline, ih]
        rfl
      · rw [Text.returned_cons newline, wholeLines_cons newline, wholeLines_cons newline, ih]
        cases wholeLines rest with
        | nil => exact congrArg (fun line => [line]) (Text.returned_eq (by simp [Ne.symm newline])).symm
        | cons line later => exact congrArg (· :: _) (Text.returned_cons newline line).symm

/-- Lines read alike when they have got their carriage returns, by induction on them. -/
theorem ofLines_returned {lines : List (List Char)} (lined : Lined lines) {row : Nat}
    {carry : Carry} (plain : '\r' ∉ lines.flatten) (quoted : carry.mode.Quoted)
    : ofLines row carry (lines.map returned) = ofLines row carry lines := by
  induction lined generalizing row carry with
  | nil => rfl
  | @cons line later full ends lined ih =>
      rw [List.flatten_cons, List.mem_append, not_or] at plain
      have same : readWholeLine row carry (returned line) = readWholeLine row carry line := by
        obtain ⟨body, inside, rfl | ⟨rfl, -⟩⟩ := ends.split
        · have body' : '\r' ∉ body := fun member => plain.1 (List.mem_append_left _ member)
          rw [Text.returned_append, Text.returned_eq inside]
          exact readWholeLine_returned body' inside quoted
        · rw [Text.returned_eq inside]
      rw [List.map_cons, ofLines, ofLines, same]
      split
      · rfl
      · rfl
      · rename_i found after read
        rw [ih plain.2 (readWholeLine_quoted quoted read)]

/-- A text without carriage returns has the comments that it has with one before each newline. -/
theorem ofText_returned {text : List Char} (plain : '\r' ∉ text)
    : ofText (returned text) = ofText text := by
  obtain ⟨lined, whole⟩ := wholeLines_spec text
  rw [ofText, wholeLines_returned]
  exact ofLines_returned lined (whole.symm ▸ plain) nofun

end FoldTree.Source.Comment
