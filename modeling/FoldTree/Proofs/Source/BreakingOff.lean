import FoldTree.Proofs.Source.FinalNewline
import FoldTree.Proofs.Tree.Grafting

/-! Texts that break off. The reader of comments finds that the last line is joined to one that is not
there, unless the backslash at its end belongs to a comment; and it belongs to none where the lexer
comes to it between two tokens.
-/

namespace FoldTree.Source.Comment

/-- What a line that ends in a backslash before its newline leaves to the next line: it is joined to
it, a text goes on in it, or else the backslash belongs to a comment that was found.
-/
def Joins (column : Nat) (chars : List Char) (result : List (Nat × List Char) × Carry) : Prop :=
  result.2.joined = true
  ∨ result.2.opened.isSome = true
  ∨ ∃ found ∈ result.1, found.1 + found.2.length + 1 = column + chars.length

/-- The characters before a backslash and a newline, which end a line. -/
def escaped (body : List Char) : List Char :=
  body ++ ['\\', '\n']

/-- A line that joins behind some of its characters joins. -/
theorem Joins.moved {column moved : Nat} {chars rest : List Char}
    {result : List (Nat × List Char) × Carry} (joins : Joins moved rest result)
    (same : moved + rest.length = column + chars.length)
    : Joins column chars result := by
  refine joins.imp_right (.imp_right fun ⟨found, member, ends⟩ => ⟨found, member, ?_⟩)
  rw [ends, same]

/-- A quote comes two more times before the backslash just if it does so before the line ends. -/
theorem follows_escaped {c : Char} (quote : c = '"' ∨ c = '\'') (body : List Char)
    : follows c (escaped body) = follows c body := by
  rcases body with _ | ⟨d, _ | ⟨e, rest⟩⟩ <;> rcases quote with rfl | rfl <;>
    simp [follows, escaped]

/-- The text of a comment goes up to the newline behind the backslash. -/
theorem textWithin_escaped {body : List Char} (plain : '\r' ∉ body) (inside : '\n' ∉ body)
    : textWithin (escaped body) = body ++ ['\\'] := by
  have front : (body ++ ['\\']).takeWhile (fun c => c != '\r' && c != '\n') = body ++ ['\\'] := by
    refine List.takeWhile_eq_self_iff.mpr fun c member => ?_
    have other : c ≠ '\r' ∧ c ≠ '\n' := by
      rcases List.mem_append.mp member with member | member
      · exact ⟨fun same => plain (same ▸ member), fun same => inside (same ▸ member)⟩
      · rw [List.mem_singleton.mp member]
        decide
    simp [other]
  rw [escaped, textWithin, List.append_cons, takeWhile_append_singleton (by decide), front]

/-- Whatever is left of a line joins the next one, outside of comments. -/
def ShorterJoin (chars : List Char) : Prop :=
  ∀ ⦃mode : Mode⦄ ⦃column : Nat⦄ ⦃carry : Carry⦄ ⦃left : List Char⦄,
    left.length < chars.length
    → '\r' ∉ left
    → '\n' ∉ left
    → mode.Quoted
    → mode ≠ .comment
    → Joins column (escaped left) (readLine mode column carry (escaped left))

section

variable {column : Nat} {carry : Carry} {c : Char} {rest : List Char}
  (shorter : ShorterJoin (c :: rest)) (plain : '\r' ∉ c :: rest) (inside : '\n' ∉ c :: rest)

include shorter plain inside

/-- A line joins if it does behind its first character. -/
theorem joins_behind {mode : Mode} (quoted : mode.Quoted) (code : mode ≠ .comment)
    : Joins column (escaped (c :: rest)) (readLine mode (column + 1) carry (escaped rest)) := by
  rw [List.mem_cons, not_or] at plain inside
  refine (shorter (Nat.lt_succ_self _) plain.2 inside.2 quoted code).moved ?_
  simp only [escaped, List.cons_append, List.length_cons]
  omega

/-- A line joins if it does behind three quotes. -/
theorem joins_behind_three {mode : Mode} (quoted : mode.Quoted) (code : mode ≠ .comment)
    (three : follows c rest = true)
    : Joins column (escaped (c :: rest))
        (readLine mode (column + 3) carry ((escaped rest).drop 2)) := by
  have twice := eq_of_follows three
  generalize rest.drop 2 = after at twice
  subst twice
  simp only [List.mem_cons, not_or] at plain inside
  refine (shorter ?_ plain.2.2.2 inside.2.2.2 quoted code).moved ?_
  · simp only [List.length_cons]
    omega
  · simp only [escaped, List.cons_append, List.length_cons]
    omega

/-- A line joins inside of a text. -/
theorem joins_in_text {opened : OpenText} (quoted : (Mode.text opened).Quoted)
    : Joins column (escaped (c :: rest))
        (readLine (.text opened) column carry (escaped (c :: rest))) := by
  have other : '\n' ≠ opened.quote := (quoted.quote_ne rfl).symm
  rw [escaped, List.cons_append, ← escaped]
  by_cases escape : c = '\\'
  · subst escape
    cases rest with
    | nil => exact Or.inr (Or.inl (by simp [escaped, readLine, other, Mode.opened?]))
    | cons d after =>
        simp only [List.mem_cons, not_or] at plain inside
        have newline : d ≠ '\n' := Ne.symm inside.2.1
        rw [escaped, List.cons_append, ← escaped, readLine_escaped column carry newline]
        refine (shorter ?_ plain.2.2 inside.2.2 quoted (by simp)).moved ?_
        · simp only [List.length_cons]
          omega
        · simp only [List.length_cons]
          omega
  · by_cases differ : c ≠ opened.quote
    · rw [readLine_in_text column carry escape differ]
      exact joins_behind shorter plain inside quoted (by simp)
    · by_cases short : opened.isLong = false
      · rw [readLine_closing_short column carry escape differ short]
        exact joins_behind shorter plain inside .code (by decide)
      · have quote : c = '"' ∨ c = '\'' := not_not.mp differ ▸ quoted opened rfl
        rw [readLine_closing column carry escape differ short, follows_escaped quote]
        split
        · rename_i three
          exact joins_behind_three shorter plain inside .code (by decide) three
        · exact joins_behind shorter plain inside quoted (by simp)

/-- A line joins in code. -/
theorem joins_in_code
    : Joins column (escaped (c :: rest)) (readLine .code column carry (escaped (c :: rest))) := by
  have text := textWithin_escaped plain inside
  rw [escaped, List.cons_append, ← escaped] at text ⊢
  by_cases hash : c = '#'
  · subst hash
    rw [readLine_hash]
    refine Or.inr (Or.inr ⟨_, List.mem_cons_self, ?_⟩)
    rw [text]
    simp [escaped]
    omega
  · by_cases quote : c = '"' ∨ c = '\''
    · rw [readLine_opening column carry hash quote, follows_escaped quote]
      split
      · rename_i three
        exact joins_behind_three shorter plain inside (.of_quote quote) (by simp) three
      · split
        · exact joins_behind shorter plain inside .code (by decide)
        · exact joins_behind shorter plain inside (.of_quote quote) (by simp)
    · rw [readLine_in_code column carry hash quote]
      split
      · exact Or.inl rfl
      · exact joins_behind shorter plain inside .code (by decide)

end

/-- A line that ends in a backslash joins the next one, outside of comments. Witness: induction along
the line.
-/
theorem readLine_joins {mode : Mode} (column : Nat) (carry : Carry) {body : List Char}
    (plain : '\r' ∉ body) (inside : '\n' ∉ body) (quoted : mode.Quoted) (code : mode ≠ .comment)
    : Joins column (escaped body) (readLine mode column carry (escaped body)) := by
  cases body with
  | nil =>
      cases mode with
      | comment => exact absurd rfl code
      | code => exact Or.inl (by simp [escaped, readLine])
      | text opened =>
          have other : '\n' ≠ opened.quote := (quoted.quote_ne rfl).symm
          exact Or.inr (Or.inl (by simp [escaped, readLine, other, Mode.opened?]))
  | cons c rest =>
      have shorter : ShorterJoin (c :: rest) := fun _ column carry _ shorter plain inside =>
        readLine_joins column carry plain inside
      cases mode with
      | comment => exact absurd rfl code
      | text opened => exact joins_in_text shorter plain inside quoted
      | code => exact joins_in_code shorter plain inside
termination_by body.length

/-! ### The last line -/

/-- What the last line leaves: it joins a line behind it, a text goes on there, or a comment of it goes
up to its newline.
-/
def EndsJoined (row : Nat) (line : List Char) (result : List Comment × Option Carry) : Prop :=
  ∃ after,
    result.2 = some after
    ∧ (after.joined = true
      ∨ after.opened.isSome = true
      ∨ ∃ comment ∈ result.1,
          comment.row = row ∧ comment.column + comment.text.length + 1 = line.length)

/-- What joins behind a column of a line ends joined with the line. -/
theorem Joins.whole {row column : Nat} {line chars : List Char}
    {result : List (Nat × List Char) × Carry} (joins : Joins column chars result)
    (length : column + chars.length = line.length)
    : EndsJoined row line (result.1.map (inLine row line), some result.2) := by
  refine ⟨result.2, rfl, joins.imp_right (.imp_right ?_)⟩
  rintro ⟨found, member, ends⟩
  exact ⟨_, List.mem_map_of_mem member, rfl, ends.trans length⟩

/-- A whole line that ends in a backslash joins the next one, or the backslash belongs to a comment. -/
theorem readWholeLine_joins {row : Nat} {carry : Carry} {body : List Char}
    (plain : '\r' ∉ body) (inside : '\n' ∉ body) (quoted : carry.mode.Quoted)
    {result : List Comment × Option Carry}
    (read : readWholeLine row carry (escaped body) = some result)
    : EndsJoined row (escaped body) result := by
  have joined : endsJoined (escaped body) = true := endsJoined_of_suffix (List.suffix_append _ _)
  -- the backslash is no blank, so the line goes on before it
  have behind {count : Nat} (blanks : Blanks (escaped body) count)
      : count + ((escaped body).drop count).length = (escaped body).length
        ∧ (escaped body).drop count = escaped (body.drop count) := by
    have bound := blanks.bound
    refine ⟨?_, List.drop_append_of_le_length (blanks.before rfl)⟩
    rw [List.length_drop]
    omega
  have plain' (count : Nat) : '\r' ∉ body.drop count := fun member =>
    plain (List.mem_of_mem_drop member)
  have inside' (count : Nat) : '\n' ∉ body.drop count := fun member =>
    inside (List.mem_of_mem_drop member)
  cases lineRead_of_readWholeLine read with
  | @text opened carried =>
      rw [Carry.mode, carried] at quoted
      exact (readLine_joins 0 carry plain inside quoted (by simp)).whole (Nat.zero_add _)
  | joined carried => exact ⟨carry, rfl, Or.inr (Or.inl (by rw [carried]; rfl))⟩
  | broken carried short missing stops => cases stops.symm.trans joined
  | @code count after carried blanks starts =>
      obtain ⟨length, left⟩ := behind blanks
      rw [left] at length ⊢
      exact (readLine_joins count after (plain' count) (inside' count) .code (by decide)).whole
        length
  | ending carried blanks =>
      have before := blanks.before rfl
      simp only [escaped, List.length_append, List.length_cons, List.length_nil] at before
      omega
  | @comment count rest carried blanks starts =>
      obtain ⟨length, left⟩ := behind blanks
      rw [left] at length ⊢
      have kept : wholeText (body.drop count ++ ['\\'] ++ ['\n']) = body.drop count ++ ['\\'] :=
        (wholeText_eq (by simpa using plain' count) (by simpa using inside' count)).2
      rw [List.append_assoc, List.singleton_append, ← escaped] at kept
      refine ⟨carry, rfl, Or.inr (Or.inr ⟨_, List.mem_cons_self, rfl, ?_⟩)⟩
      rw [← length, inLine, kept]
      simp [escaped, Nat.add_assoc]
  | @blank count c rest carried blanks starts ends =>
      rw [(behind blanks).2] at starts
      have member : c ∈ body.drop count ++ ['\\'] := by
        cases left : body.drop count with
        | nil =>
            rw [left] at starts
            cases starts
            exact List.mem_cons_self
        | cons d others =>
            rw [left] at starts
            cases starts
            exact List.mem_cons_self
      rcases ends with rfl | rfl
      · exact absurd member (by simpa using plain' count)
      · exact absurd member (by simpa using inside' count)

/-- Only a line without a newline leaves nothing. -/
theorem newline_of_readWholeLine {row : Nat} {carry : Carry} {line : List Char}
    {found : List Comment} (read : readWholeLine row carry line = some (found, none))
    : '\n' ∉ line := by
  generalize same : (found, none) = result at read
  cases lineRead_of_readWholeLine read with
  | ending carried blanks =>
      have blank := blanks.blank
      rw [List.take_length] at blank
      intro newline
      simpa using List.all_eq_true.mp blank _ newline
  | text | joined | broken | code | comment | blank => cases same

/-- A line that ends in a backslash has no newline before it. -/
theorem not_mem_of_escaped {body later : List Char} (ends : LineRest later (escaped body))
    : '\n' ∉ body := by
  obtain ⟨front, inside, same | ⟨same, -⟩⟩ := ends.split
  · have whole : body ++ ['\\'] ++ ['\n'] = front ++ ['\n'] := by
      rw [← same, escaped, List.append_assoc, List.singleton_append]
    obtain rfl := List.append_cancel_right whole
    exact fun member => inside (List.mem_append_left _ member)
  · exact absurd (by simp [escaped]) (same ▸ inside)

/-- If the comments of lines can be read whose last one ends in a backslash, then a comment goes up to
the last newline. Witness: induction on the lines.
-/
theorem exists_last_of_ofLines {lines : List (List Char)} (lined : Lined lines) {n row : Nat}
    {carry : Carry} {all : List (Nat × Nat)} {comments : List Comment} {body : List Char}
    (last : lines.getLast? = some (escaped body)) (plain : '\r' ∉ lines.flatten)
    (quoted : carry.mode.Quoted) (same : stretches carry.mode 0 n lines.flatten = some all)
    (read : ofLines row carry lines = some comments)
    : ∃ stretch ∈ all, stretch.2 + 1 = n + lines.flatten.length := by
  induction lined generalizing n row carry all comments with
  | nil => cases last
  | @cons line later full ends lined ih =>
      rw [List.flatten_cons] at plain same ⊢
      rw [List.mem_append, not_or] at plain
      have agrees (result : List Comment × Option Carry)
          (read : readWholeLine row carry line = some result)
          : WholeAgrees row n line later.flatten all result :=
        readWholeLine_agrees quoted ends plain.1 same read
      simp only [ofLines] at read
      split at read
      · cases read
      · rename_i found step
        -- reading would stop at this line, but every line up to the last one has its newline
        refine absurd ?_ (newline_of_readWholeLine step)
        obtain ⟨front, -, rfl | ⟨rfl, none⟩⟩ := ends.split
        · simp
        · rw [lined.eq_nil none, List.getLast?_singleton, Option.some.injEq] at last
          simp [last, escaped]
      · rename_i found carry step
        obtain ⟨others, behind, rfl⟩ := Option.map_eq_some_iff.mp read
        obtain ⟨kept, rest, rfl, filled, quoted', goes⟩ := agrees _ step
        cases later with
        | nil =>
            rw [List.getLast?_singleton, Option.some.injEq] at last
            subst last
            have plain' : '\r' ∉ body := fun member => plain.1 (List.mem_append_left _ member)
            obtain ⟨after, kept', joins⟩ :=
              readWholeLine_joins plain' (not_mem_of_escaped ends) quoted step
            cases kept'
            simp only [ofLines] at behind
            split_ifs at behind with unfinished
            rw [not_or, not_or] at unfinished
            obtain ⟨comment, member, -, reaches⟩ :=
              (joins.resolve_left unfinished.2.2).resolve_left unfinished.1
            obtain ⟨stretch, here, place⟩ := Tree.exists_of_forall₂ filled comment member
            obtain ⟨text, rfl, -, first, stop⟩ := place
            refine ⟨stretch, List.mem_append_left _ here, ?_⟩
            rw [List.flatten_nil, List.append_nil, ← reaches, stop, first]
            simp only [inLine]
            omega
        | cons next later =>
            rw [List.getLast?_cons_cons] at last
            obtain ⟨stretch, member, reaches⟩ := ih last plain.2 quoted' goes behind
            refine ⟨stretch, List.mem_append_right _ member, ?_⟩
            rw [reaches, List.length_append]
            omega

/-- The last whole line of a text that ends in a backslash and a newline ends so too. -/
theorem getLast?_wholeLines {text front : List Char} (ends : text = escaped front)
    : ∃ body, (wholeLines text).getLast? = some (escaped body) := by
  obtain ⟨before, last, split, whole, -, inside⟩ := lines_split text
  rw [ends, escaped] at whole
  -- the text ends in a newline, so the last line is empty
  have none : last = [] := by
    by_contra some_
    have final := congrArg List.getLast? whole
    rw [List.getLast?_append_of_ne_nil _ (by simp), List.getLast?_append_of_ne_nil _ some_] at final
    exact inside (List.mem_of_getLast? final.symm)
  subst none
  rcases List.eq_nil_or_concat before with rfl | ⟨others, line, rfl⟩
  · simp at whole
  · have front' : (others.map (· ++ ['\n'])).flatten ++ line = front ++ ['\\'] := by
      have same : (others.map (· ++ ['\n'])).flatten ++ line ++ ['\n'] = front ++ ['\\'] ++ ['\n'] := by
        simpa using whole.symm
      exact List.append_cancel_right same
    have some_ : line ≠ [] := by
      rintro rfl
      rw [List.append_nil] at front'
      have final := congrArg List.getLast? front'
      rw [List.getLast?_append_of_ne_nil _ (by simp)] at final
      rcases List.eq_nil_or_concat others with rfl | ⟨others, line, rfl⟩ <;> simp at final
    have final := congrArg List.getLast? front'
    rw [List.getLast?_append_of_ne_nil _ some_, List.getLast?_append_of_ne_nil _ (by simp)] at final
    obtain ⟨body, rfl⟩ := List.getLast?_eq_some_iff.mp final
    refine ⟨body, ?_⟩
    simp [wholeLines, split, escaped]

end FoldTree.Source.Comment

namespace FoldTree.Source

open Comment (stretches escaped)

/-- A text that breaks off has no comments, and is no text for the reader of comments. -/
theorem BreaksOff.comments {text : List Char} (breaks : BreaksOff text 0) (plain : '\r' ∉ text)
    : Comment.ofText text = none := by
  obtain ⟨read, m, covers, rest⟩ := breaks
  have ends : text = escaped (text.take m) := by
    rw [escaped, ← rest, List.take_append_drop]
  have length : m + 2 = text.length := by
    have dropped := congrArg List.length rest
    simp only [List.length_drop, List.length_cons, List.length_nil] at dropped
    omega
  -- a token could stand at the backslash, so that belongs to no comment
  let token : Token := ⟨.name "", ⟨Text.placeAt text m, Text.placeAt text (m + 1)⟩⟩
  have fits : Fits text [] m (m + 1) := by
    refine ⟨by omega, ⟨'\\', ?_, by decide, by decide⟩, ?_, by simp⟩
    · rw [← List.head?_drop, rest]
      rfl
    · rw [rest, Nat.add_sub_cancel_left]
      decide
  have code : stretches .code 0 m (text.drop m) = some [] := by
    rw [rest]
    rfl
  obtain ⟨all, same, placed⟩ := covers [] [token] code
    (.visible rfl (Nat.le_refl m) (Nat.le_succ m) rfl fits .nil)
  have clear : ∀ stretch ∈ all, m + 1 ≤ stretch.1 ∨ stretch.2 ≤ m := by
    obtain ⟨first, behind, extent, fit⟩ := placed.fits (List.mem_append_right _ List.mem_cons_self) rfl
    obtain ⟨opens, closes⟩ := Extent.mk.inj extent
    obtain ⟨c, solid, -⟩ := fit.solid
    have bound := (List.getElem?_eq_some_iff.mp solid).1
    rw [Text.placeAt_inj (by omega) (by omega)] at opens
    rw [Text.placeAt_inj (by omega) fit.bounded] at closes
    subst opens closes
    exact fit.clear
  by_contra some_
  obtain ⟨comments, found⟩ := Option.ne_none_iff_exists'.mp some_
  obtain ⟨body, last⟩ := Comment.getLast?_wholeLines ends
  obtain ⟨lined, whole⟩ := Comment.wholeLines_spec text
  rw [List.drop_zero] at same
  have plain' : '\r' ∉ (Comment.wholeLines text).flatten := whole.symm ▸ plain
  let fresh : Comment.Carry := ⟨0, false, none, [0]⟩
  have same' : stretches fresh.mode 0 0 (Comment.wholeLines text).flatten = some all :=
    whole.symm ▸ same
  obtain ⟨stretch, member, reaches⟩ :=
    Comment.exists_last_of_ofLines lined last plain' (by nofun) same' found
  rw [whole] at reaches
  have proper := (Comment.inOrder_of_stretches same).bounded stretch member
  rcases clear stretch member with later | earlier <;> omega

end FoldTree.Source
