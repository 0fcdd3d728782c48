import FoldTree.Proofs.Source.Scanning

/-! The comments of a whole text, collected over its lines. Each line hands on what the next one
starts in, so the lines together find every comment that a reading of the whole text has, with the
line and the column at which it starts.
-/

namespace FoldTree.Source.Comment

open Text (lastLine)

/-! ### One line -/

/-- A comment of a line that starts at an offset, and the stretch that it fills in the text. -/
def InLine (row n : Nat) (line : List Char) (comment : Comment) (stretch : Nat × Nat) : Prop :=
  ∃ found,
    comment = inLine row line found
    ∧ found.1 < line.length
    ∧ stretch.1 = n + found.1
    ∧ stretch.2 = stretch.1 + found.2.length

/-- What a line finds is what a reading of the text finds in it. The lines behind it go on with
what is left; the last line of blanks leaves nothing.
-/
def WholeAgrees (row n : Nat) (line later : List Char) (all : List (Nat × Nat))
    (result : List Comment × Option Carry) : Prop :=
  ∃ kept rest,
    all = kept ++ rest
    ∧ List.Forall₂ (InLine row n line) result.1 kept
    ∧ match result.2 with
      | none => rest = []
      | some carry =>
        carry.mode.Quoted ∧ stretches carry.mode 0 (n + line.length) later = some rest

/-- What is found in a line between two columns, from left to right. -/
structure Ascending (first behind : Nat) (found : List (Nat × List Char)) : Prop where
  columns : ∀ one ∈ found, first ≤ one.1 ∧ one.1 < behind
  ordered : found.Pairwise fun one other => one.1 < other.1

section

variable {first behind : Nat} {found : List (Nat × List Char)}

/-- Nothing at all is found between any columns. -/
theorem Ascending.nil (first behind : Nat) : Ascending first behind [] := ⟨by simp, .nil⟩

/-- What is found between two columns is found between others around them. -/
theorem Ascending.mono (ascending : Ascending first behind found) {earlier later : Nat}
    (before : earlier ≤ first) (after : behind ≤ later)
    : Ascending earlier later found := by
  refine ⟨fun one member => ?_, ascending.ordered⟩
  have columns := ascending.columns one member
  omega

/-- A comment goes in front of those behind its column. -/
theorem Ascending.cons (ascending : Ascending (first + 1) behind found) (inside : first < behind)
    (text : List Char)
    : Ascending first behind ((first, text) :: found) :=
  ⟨List.forall_mem_cons.mpr
    ⟨⟨Nat.le_refl first, inside⟩, (ascending.mono (Nat.le_succ first) (Nat.le_refl behind)).columns⟩,
    .cons (fun one member => (ascending.columns one member).1) ascending.ordered⟩

end

/-- What is read of a line that is not at its end: it ends at a backslash, or it is read on behind some
characters, the first of which may start a comment. A text that is entered is between quotes.
-/
def GoesOn (mode : Mode) (column : Nat) (chars : List Char)
    (result : List (Nat × List Char) × Carry) : Prop :=
  (result.1 = [] ∧ result.2.opened = none)
  ∨ ∃ next carry count found,
      0 < count
      ∧ count ≤ chars.length
      ∧ (mode.Quoted → next.Quoted)
      ∧ (found = [] ∨ ∃ content, found = [(column, content)])
      ∧ result.1 = found ++ (readLine next (column + count) carry (chars.drop count)).1
      ∧ result.2 = (readLine next (column + count) carry (chars.drop count)).2

/-- A line is read character by character, with more at once at three quotes and behind a backslash. -/
theorem readLine_goesOn (mode : Mode) (column : Nat) (carry : Carry) (c : Char) (rest : List Char)
    : GoesOn mode column (c :: rest) (readLine mode column carry (c :: rest)) := by
  have behind {next : Mode} {carry : Carry} (count : Nat) (some : 0 < count)
      (inside : count ≤ (c :: rest).length) (quoted : mode.Quoted → next.Quoted)
      : GoesOn mode column (c :: rest)
          (readLine next (column + count) carry ((c :: rest).drop count)) :=
    Or.inr ⟨next, carry, count, [], some, inside, quoted, Or.inl rfl, rfl, rfl⟩
  have next {next : Mode} {carry : Carry} (quoted : mode.Quoted → next.Quoted)
      : GoesOn mode column (c :: rest) (readLine next (column + 1) carry rest) :=
    behind 1 Nat.one_pos (Nat.succ_pos rest.length) quoted
  rw [readLine.eq_def]
  cases mode with
  | comment =>
      refine next fun _ => ?_
      split
      · exact .code
      · exact .comment
  | text opened =>
      dsimp only
      split_ifs
      · -- a backslash takes the next character along, if there is one
        rcases rest with _ | ⟨d, after⟩
        · exact next id
        · dsimp only
          split_ifs
          · exact next id
          · exact behind 2 (by omega) (by simp) id
      · exact next id
      · exact next fun _ => .code
      · -- only three quotes together close a literal between three
        rcases rest with _ | ⟨d, _ | ⟨e, after⟩⟩
        · exact next id
        · exact next id
        · dsimp only
          split_ifs
          · exact behind 3 (by omega) (by simp) fun _ => .code
          · exact next id
  | code =>
      dsimp only
      split_ifs with hash quote
      · exact Or.inr ⟨.comment, carry, 1, [(column, _)], Nat.one_pos, Nat.succ_pos rest.length,
          fun _ => .comment, Or.inr ⟨_, rfl⟩, rfl, rfl⟩
      · -- a quote that nothing closes leaves the line in code, any other opens a text
        have short (ending : Prop) [Decidable ending]
            : (if ending then Mode.code else .text ⟨c, false⟩).Quoted := by
          split
          · exact .code
          · exact .of_quote quote
        rcases rest with _ | ⟨d, _ | ⟨e, after⟩⟩
        · exact next fun _ => short _
        · exact next fun _ => short _
        · dsimp only
          by_cases three : d = c ∧ e = c
          · rw [if_pos three]
            exact behind 3 (by omega) (by simp) fun _ => .of_quote quote
          · rw [if_neg three]
            exact next fun _ => short _
      · exact Or.inl ⟨rfl, rfl⟩
      · exact next fun _ => .code

/-- The comments of a line are found from left to right, by induction along it. -/
theorem readLine_ascending (mode : Mode) (column : Nat) (carry : Carry) (chars : List Char)
    : Ascending column (column + chars.length) (readLine mode column carry chars).1 := by
  cases chars with
  | nil => exact readLine.eq_def .. ▸ .nil _ _
  | cons c rest =>
      rcases readLine_goesOn mode column carry c rest with
        ⟨none, -⟩ | ⟨next, carry', count, found, some, inside, -, once, same, -⟩
      · rw [none]
        exact .nil _ _
      · have later := readLine_ascending next (column + count) carry' ((c :: rest).drop count)
        have reach : column + count + ((c :: rest).drop count).length
            = column + (c :: rest).length := by
          rw [List.length_drop]
          omega
        rw [reach] at later
        rw [same]
        rcases once with rfl | ⟨content, rfl⟩
        · exact later.mono (Nat.le_add_right column count) (Nat.le_refl _)
        · exact (later.mono (Nat.add_le_add_left some column) (Nat.le_refl _)).cons
            (Nat.lt_add_of_pos_right (Nat.succ_pos rest.length)) content
termination_by chars.length
decreasing_by
  rw [List.length_drop]
  omega

/-- What a line leaves open is between quotes, by induction along the line. -/
theorem readLine_quoted {mode : Mode} (column : Nat) (carry : Carry) (chars : List Char)
    (quoted : mode.Quoted)
    : (readLine mode column carry chars).2.mode.Quoted := by
  cases chars with
  | nil =>
      cases mode with
      | text opened => exact quoted
      | code => exact .code
      | comment => exact .code
  | cons c rest =>
      rcases readLine_goesOn mode column carry c rest with
        ⟨-, none⟩ | ⟨next, carry', count, found, some, inside, kept, -, -, same⟩
      · rw [Carry.mode, none]
        exact .code
      · rw [same]
        exact readLine_quoted (column + count) carry' ((c :: rest).drop count) (kept quoted)
termination_by chars.length
decreasing_by
  rw [List.length_drop]
  omega

/-- Comments are found inside of their line. -/
theorem column_lt_of_readLine {mode : Mode} {column : Nat} {carry : Carry} {chars : List Char}
    : ∀ found ∈ (readLine mode column carry chars).1, found.1 < column + chars.length :=
  fun found member => ((readLine_ascending mode column carry chars).columns found member).2

/-- What stands in a line before its last character has no newline, by induction. -/
theorem LineRest.take {later line : List Char} (ends : LineRest later line) {k : Nat}
    (inside : k < line.length)
    : '\n' ∉ line.take k := by
  induction ends generalizing k with
  | last none => simp
  | newline => simp_all
  | cons other _ ih =>
      cases k with
      | zero => simp
      | succ k =>
          have shorter := ih (Nat.lt_of_succ_lt_succ inside)
          simp [shorter, Ne.symm other]

/-- A line ends in its only newline, or nothing comes behind it, by induction. -/
theorem LineRest.split {later line : List Char} (ends : LineRest later line)
    : ∃ body, '\n' ∉ body ∧ (line = body ++ ['\n'] ∨ line = body ∧ later = []) := by
  induction ends with
  | last none => exact ⟨[], by simp, Or.inr ⟨rfl, none⟩⟩
  | newline => exact ⟨[], by simp, Or.inl rfl⟩
  | @cons c rest inside _ ih =>
      obtain ⟨body, plain, rfl | ⟨rfl, none⟩⟩ := ih
      · exact ⟨c :: body, by simp [plain, Ne.symm inside], Or.inl rfl⟩
      · exact ⟨c :: rest, by simp [plain, Ne.symm inside], Or.inr ⟨rfl, none⟩⟩

/-- What is left of a line goes up to its end too, by induction. -/
theorem LineRest.drop {later line : List Char} (ends : LineRest later line) (count : Nat)
    : LineRest later (line.drop count) ∨ line.drop count = [] := by
  induction ends generalizing count with
  | last none => simp
  | newline => cases count <;> simp [LineRest.newline]
  | cons inside ends ih =>
      cases count with
      | zero => exact Or.inl (.cons inside ends)
      | succ count => exact ih count

/-- Some characters at the start of a line are blanks, which start no comment or literal and end or
join no line.
-/
structure Blanks (line : List Char) (count : Nat) : Prop where
  bound : count ≤ line.length
  blank : (line.take count).all (fun c => isInert c && c != '\n' && c != '\\') = true

/-- Blanks end before any other character. -/
theorem Blanks.before {front behind : List Char} {c : Char} {count : Nat}
    (blanks : Blanks (front ++ c :: behind) count)
    (solid : (isInert c && c != '\n' && c != '\\') = false)
    : count ≤ front.length := by
  by_contra beyond
  obtain ⟨more, same⟩ := Nat.exists_eq_add_of_lt (Nat.lt_of_not_le beyond)
  have member : c ∈ (front ++ c :: behind).take count := by
    rw [List.take_append, same, show front.length + more + 1 - front.length = more + 1 by omega]
    exact List.mem_append_right _ List.mem_cons_self
  exact Bool.false_ne_true (solid.symm.trans (List.all_eq_true.mp blanks.blank c member))

/-- The characters that an indentation consists of are blanks, by induction. -/
theorem indentation_spec (column count : Nat) (chars : List Char)
    : ∃ more, (indentation column count chars).2 = count + more ∧ Blanks chars more := by
  fun_induction indentation column count chars with
  | case4 => exact ⟨0, rfl, Nat.zero_le _, rfl⟩
  | _ =>
      rename_i ih
      obtain ⟨more, same, bound, blank⟩ := ih
      exact ⟨more + 1, by omega, by simpa using bound, by simpa [isInert] using blank⟩

/-- The text of a comment on a line of its own goes up to the newline. -/
theorem wholeText_eq {body : List Char} (plain : '\r' ∉ body) (inside : '\n' ∉ body)
    : wholeText body = body ∧ wholeText (body ++ ['\n']) = body := by
  have kept : body.reverse.dropWhile (fun c => c == '\r' || c == '\n') = body.reverse := by
    cases same : body.reverse with
    | nil => rfl
    | cons c rest =>
        have member : c ∈ body := by
          rw [← List.mem_reverse, same]
          exact List.mem_cons_self
        have other : c ≠ '\r' ∧ c ≠ '\n' :=
          ⟨fun same => plain (same ▸ member), fun same => inside (same ▸ member)⟩
        simp [other]
  simp [wholeText, kept]

/-- The comments of a line and what carries over, of what was read in it. -/
def finished (row : Nat) (line : List Char) (read : List (Nat × List Char) × Carry) :
    List Comment × Option Carry :=
  (read.1.map (inLine row line), some read.2)

/-- The ways in which a line is read. In an open text it is read from its start on, or it belongs to
the text as a whole, which goes on behind it or breaks off. Otherwise it is read behind its blanks, if
it is more than blanks with a line end or a comment.
-/
inductive LineRead (row : Nat) (carry : Carry) (line : List Char) :
    List Comment × Option Carry → Prop
  | text {opened : OpenText} (carried : carry.opened = some opened)
    : LineRead row carry line (finished row line (readLine (.text opened) 0 carry line))
  | joined {opened : OpenText} (carried : carry.opened = some opened)
    (short : opened.isLong = false) (missing : endingOf opened.quote line ≠ .closed)
    (goes : endsJoined line = true)
    : LineRead row carry line ([], some carry)
  | broken {opened : OpenText} (carried : carry.opened = some opened)
    (short : opened.isLong = false) (missing : endingOf opened.quote line ≠ .closed)
    (stops : endsJoined line = false)
    : LineRead row carry line ([], some { carry with opened := none })
  | code {count : Nat} (after : Carry) (carried : carry.opened = none) (blanks : Blanks line count)
    (starts : count = 0 ∨ line.drop count ≠ [])
    : LineRead row carry line (finished row line (readLine .code count after (line.drop count)))
  | ending (carried : carry.opened = none) (blanks : Blanks line line.length)
    : LineRead row carry line ([], none)
  | comment {count : Nat} {rest : List Char} (carried : carry.opened = none)
    (blanks : Blanks line count) (starts : line.drop count = '#' :: rest)
    : LineRead row carry line ([inLine row line (count, wholeText (line.drop count))], some carry)
  | blank {count : Nat} {c : Char} {rest : List Char} (carried : carry.opened = none)
    (blanks : Blanks line count) (starts : line.drop count = c :: rest)
    (ends : c = '\r' ∨ c = '\n')
    : LineRead row carry line ([], some carry)

/-- Every line is read in one of these ways. -/
theorem lineRead_of_readWholeLine {row : Nat} {carry : Carry} {line : List Char}
    {result : List Comment × Option Carry} (read : readWholeLine row carry line = some result)
    : LineRead row carry line result := by
  rw [readWholeLine.eq_def] at read
  cases carried : carry.opened with
  | some opened =>
      simp only [carried] at read
      split_ifs at read with closes joined
      · cases read
        exact .text carried
      all_goals
        cases read
        obtain ⟨short, missing⟩ := not_or.mp closes
      · exact .joined carried (Bool.eq_false_iff.mpr short) missing joined
      · exact .broken carried (Bool.eq_false_iff.mpr short) missing (Bool.eq_false_iff.mpr joined)
  | none =>
      obtain ⟨count, counted, blanks⟩ := indentation_spec 0 0 line
      rw [Nat.zero_add] at counted
      simp only [carried, counted] at read
      split at read
      · cases read
        exact .code _ carried ⟨Nat.zero_le _, rfl⟩ (Or.inl rfl)
      · split at read
        · rename_i none
          cases read
          refine .ending carried ?_
          rwa [← Nat.le_antisymm blanks.bound (List.drop_eq_nil_iff.mp none)]
        · rename_i c rest starts
          split_ifs at read with hash newline
          · cases read
            exact .comment carried blanks (hash ▸ starts)
          · cases read
            exact .blank carried blanks starts newline
          · obtain ⟨indents, -, same⟩ := Option.bind_eq_some_iff.mp read
            cases same
            refine .code _ carried blanks (Or.inr ?_)
            rw [starts]
            exact List.cons_ne_nil c rest

section

variable {row n : Nat} {line later : List Char} {all : List (Nat × Nat)} {carry : Carry}

/-- Reading the rest of a line finds comments of the line. -/
theorem Agrees.whole {result : List (Nat × List Char) × Carry}
    (agrees : Agrees n (n + line.length) later all result)
    (inside : ∀ found ∈ result.1, found.1 < line.length)
    : WholeAgrees row n line later all (result.1.map (inLine row line), some result.2) := by
  obtain ⟨quoted, kept, rest, split, same, goes⟩ := agrees
  refine ⟨kept, rest, split, ?_, quoted, goes⟩
  rw [List.forall₂_map_left_iff]
  refine (List.forall₂_and_left _ _ |>.mpr ⟨inside, same⟩).imp ?_
  rintro found stretch ⟨bound, first, behind⟩
  exact ⟨found, rfl, bound, first, behind⟩

/-- A comment alone on its line goes up to the end of the line. -/
theorem wholeComment_agrees (ends : LineRest later line) (plain : '\r' ∉ line) {count : Nat}
    {rest : List Char} (starts : line.drop count = '#' :: rest)
    (same : stretches .code 0 (n + count) (line.drop count ++ later) = some all)
    (code : carry.mode = .code)
    : WholeAgrees row n line later all
        ([inLine row line (count, wholeText (line.drop count))], some carry) := by
  have length : line.length = count + 1 + rest.length := by
    have dropped := congrArg List.length starts
    simp only [List.length_drop, List.length_cons] at dropped
    omega
  have plain : '\r' ∉ '#' :: rest := starts ▸ fun member => plain (List.mem_of_mem_drop member)
  have ends : LineRest later ('#' :: rest) := by
    rcases ends.drop count with ends | none
    · exact starts ▸ ends
    · simp [none] at starts
  rw [starts] at same ⊢
  obtain ⟨body, inside, whole⟩ := (ends.tail (by decide)).split
  -- behind the body comes a newline with the later lines, or nothing at all
  obtain ⟨tail, passed, spelled, stops⟩ : ∃ tail,
      rest ++ later = body ++ tail
      ∧ wholeText ('#' :: rest) = '#' :: body
      ∧ ((tail = '\n' :: later ∧ rest.length = body.length + 1)
        ∨ (tail = [] ∧ later = [] ∧ rest.length = body.length)) := by
    have hashed : '\n' ∉ '#' :: body := by simp [inside]
    rcases whole with rfl | ⟨rfl, none⟩
    · have spelled := (wholeText_eq (by simp_all) hashed).2
      exact ⟨'\n' :: later, by simp, spelled, Or.inl ⟨rfl, by simp⟩⟩
    · exact ⟨[], by simp [none], (wholeText_eq plain hashed).1, Or.inr ⟨rfl, none, rfl⟩⟩
  rw [List.cons_append, passed, ← List.cons_append, stretches_hash _ inside] at same
  · obtain ⟨others, behind, rfl⟩ := Option.map_eq_some_iff.mp same
    refine ⟨[_], others, rfl, ?_, ?_⟩
    · refine .cons ⟨_, rfl, by simp [length]; omega, rfl, ?_⟩ .nil
      simp [spelled, Nat.add_assoc, Nat.add_comm 1]
    · refine ⟨code ▸ .code, ?_⟩
      rw [code, length]
      rcases stops with ⟨rfl, longer⟩ | ⟨rfl, rfl, longer⟩
      · rw [stretches, if_neg (by decide), if_neg (by decide)] at behind
        rw [← behind]
        congr 1
        omega
      · simpa [stretches] using behind
  · rcases stops with ⟨rfl, -⟩ | ⟨rfl, -⟩ <;> simp

/-- A reading of the text passes over the blanks of a line. -/
theorem Blanks.stretches_eq {count : Nat} (blanks : Blanks line count)
    : stretches .code 0 n (line ++ later)
      = stretches .code 0 (n + count) (line.drop count ++ later) := by
  have inert : (line.take count).all isInert = true := by
    have blank := blanks.blank
    simp only [List.all_eq_true, Bool.and_eq_true] at blank ⊢
    exact fun c member => (blank c member).1.1
  have passed := stretches_inert n inert (line.drop count ++ later)
  rwa [← List.append_assoc, List.take_append_drop, List.length_take_of_le blanks.bound] at passed

/-- Reading a line agrees with a reading of the text, in whatever way it is read. -/
theorem readWholeLine_agrees (quoted : carry.mode.Quoted) (ends : LineRest later line)
    (plain : '\r' ∉ line) (same : stretches carry.mode 0 n (line ++ later) = some all)
    {result : List Comment × Option Carry} (read : readWholeLine row carry line = some result)
    : WholeAgrees row n line later all result := by
  have text {opened : OpenText} (carried : carry.opened = some opened)
      : carry.mode = .text opened := by
    simp [Carry.mode, carried]
  have code (carried : carry.opened = none) : carry.mode = .code := by simp [Carry.mode, carried]
  have behind {count : Nat} (blanks : Blanks line count)
      : n + count + (line.drop count).length = n + line.length := by
    have bound := blanks.bound
    rw [List.length_drop]
    omega
  cases lineRead_of_readWholeLine read with
  | text carried =>
      rw [text carried] at quoted same
      refine Agrees.whole (readLine_agrees quoted ends plain (by omega) same) fun found member => ?_
      simpa using column_lt_of_readLine found member
  | @joined opened carried short missing goes =>
      rw [text carried] at quoted same
      rcases opened with ⟨quote, isLong⟩
      obtain rfl : isLong = false := short
      rcases endingOf_spec (quoted.quote_ne rfl) ends same with closed | ⟨-, -, goes⟩
      · exact absurd closed missing
      · exact ⟨[], all, rfl, .nil, by rwa [text carried], by rwa [text carried]⟩
  | @broken opened carried short missing stops =>
      -- a text that a reading of the text does not close in the line goes on behind it
      rw [text carried] at quoted same
      rcases opened with ⟨quote, isLong⟩
      obtain rfl : isLong = false := short
      rcases endingOf_spec (quoted.quote_ne rfl) ends same with closed | ⟨-, suffix, -⟩
      · exact absurd closed missing
      · exact absurd (stops.symm.trans (endsJoined_of_suffix suffix)) Bool.false_ne_true
  | @code count after carried blanks starts =>
      rw [code carried, blanks.stretches_eq] at same
      have last : LineRest later (line.drop count) := by
        rcases starts with rfl | some_
        · exact ends
        · exact (ends.drop count).resolve_right some_
      refine Agrees.whole (readLine_agrees .code last ?_ (behind blanks) same)
        fun found member => ?_
      · exact fun member => plain (List.mem_of_mem_drop member)
      · have inside := column_lt_of_readLine found member
        have bound := blanks.bound
        rw [List.length_drop] at inside
        omega
  | ending carried blanks =>
      obtain ⟨body, inside, rfl | ⟨rfl, rfl⟩⟩ := ends.split
      · -- a newline would be one of the blanks
        have before := blanks.before rfl
        rw [List.length_append, List.length_singleton] at before
        omega
      · rw [code carried, blanks.stretches_eq, List.drop_length] at same
        exact ⟨[], all, rfl, .nil, by simpa [stretches] using same.symm⟩
  | comment carried blanks starts =>
      rw [code carried, blanks.stretches_eq] at same
      exact wholeComment_agrees ends plain starts same (code carried)
  | @blank count c rest carried blanks starts newline =>
      rw [code carried, blanks.stretches_eq] at same
      have newline : c = '\n' := by
        refine newline.resolve_left fun same => plain (List.mem_of_mem_drop (i := count) ?_)
        rw [starts, same]
        exact List.mem_cons_self
      have last : LineRest later (line.drop count) :=
        (ends.drop count).resolve_right (by simp [starts])
      have behind := behind blanks
      rw [starts, newline] at last
      rw [starts, newline, last.eq_nil] at same behind
      refine ⟨[], all, rfl, .nil, code carried ▸ .code, ?_⟩
      rw [code carried, ← behind, ← same]
      simp [stretches]

end

/-! ### All lines -/

/-- Lines that make up a text when they are put together: all but the last end in their only
newline.
-/
inductive Lined : List (List Char) → Prop
  | nil : Lined []
  | cons {line : List Char} {later : List (List Char)} (full : line ≠ [])
    (ends : LineRest later.flatten line) (lined : Lined later)
    : Lined (line :: later)

/-- Characters without a newline are the rest of a last line, by induction. -/
theorem LineRest.of_last {body : List Char} (inside : '\n' ∉ body) : LineRest [] body := by
  induction body with
  | nil => exact .last rfl
  | cons c rest ih =>
      rw [List.mem_cons, not_or] at inside
      exact .cons (Ne.symm inside.1) (ih inside.2)

/-- Characters without a newline, and then one, are the rest of a line, by induction. -/
theorem LineRest.of_newline (later : List Char) {body : List Char} (inside : '\n' ∉ body)
    : LineRest later (body ++ ['\n']) := by
  induction body with
  | nil => exact .newline
  | cons c rest ih =>
      rw [List.mem_cons, not_or] at inside
      exact .cons (Ne.symm inside.1) (ih inside.2)

/-- Lines that make up nothing are no lines. -/
theorem Lined.eq_nil {lines : List (List Char)} (lined : Lined lines) (none : lines.flatten = [])
    : lines = [] := by
  cases lined with
  | nil => rfl
  | cons full => simp [full] at none

/-- A text falls at its newlines into lines without any, by induction. -/
theorem lines_split (text : List Char)
    : ∃ before last,
        Text.lines text = before ++ [last]
        ∧ text = (before.map (· ++ ['\n'])).flatten ++ last
        ∧ (∀ line ∈ before, '\n' ∉ line)
        ∧ '\n' ∉ last := by
  induction text with
  | nil => exact ⟨[], [], rfl, rfl, by simp, by simp⟩
  | cons c rest ih =>
      obtain ⟨before, last, split, whole, plain, inside⟩ := ih
      by_cases newline : c = '\n'
      · subst newline
        refine ⟨[] :: before, last, by simp [Text.lines, split], ?_, by simpa using plain, inside⟩
        simpa using whole
      · cases before with
        | nil =>
            refine ⟨[], c :: last, Text.lines_cons newline split, by simpa using whole, plain, ?_⟩
            simp [inside, Ne.symm newline]
        | cons line before =>
            refine ⟨(c :: line) :: before, last, Text.lines_cons newline split, ?_, ?_, inside⟩
            · simpa using whole
            · rintro other (_ | ⟨_, member⟩)
              · simp [plain line List.mem_cons_self, Ne.symm newline]
              · exact plain other (List.mem_cons_of_mem _ member)

/-- The whole lines of a text make it up. -/
theorem wholeLines_spec (text : List Char)
    : Lined (wholeLines text) ∧ (wholeLines text).flatten = text := by
  obtain ⟨before, last, split, whole, plain, inside⟩ := lines_split text
  have lines : wholeLines text
      = before.map (· ++ ['\n']) ++ if last.isEmpty then [] else [last] := by
    simp [wholeLines, split]
  rw [lines]
  refine ⟨?_, ?_⟩
  · clear split whole lines
    induction before with
    | nil =>
        cases last with
        | nil => exact .nil
        | cons c rest => exact .cons (by simp) (.of_last inside) .nil
    | cons line before ih =>
        refine .cons (by simp) (.of_newline _ (plain line List.mem_cons_self)) (ih ?_)
        exact fun other member => plain other (List.mem_cons_of_mem _ member)
  · rw [whole, List.flatten_append]
    cases last <;> simp

/-- A comment fills a stretch of a text: it starts in the line and the column of the stretch, has
its length, and is alone on its line if only blanks stand before it.
-/
structure Fills (text : List Char) (comment : Comment) (stretch : Nat × Nat) : Prop where
  row : comment.row = 1 + (text.take stretch.1).count '\n'
  column : comment.column = (lastLine (text.take stretch.1)).length
  behind : stretch.2 = stretch.1 + comment.text.length
  alone : comment.alone = Text.isAllBlank (lastLine (text.take stretch.1))

/-- A comment of a line fills its stretch of the text that the line stands in. -/
theorem InLine.fills {text line later : List Char} {row n : Nat} {comment : Comment}
    {stretch : Nat × Nat} (found : InLine row n line comment stretch)
    (ends : LineRest later line) (starts : text.drop n = line ++ later)
    (fresh : lastLine (text.take n) = []) (rows : row = 1 + (text.take n).count '\n')
    : Fills text comment stretch := by
  obtain ⟨⟨column, content⟩, rfl, inside, first, behind⟩ := found
  have plain := ends.take inside
  have before : text.take stretch.1 = text.take n ++ line.take column := by
    rw [first, List.take_add, starts, List.take_append_of_le_length (Nat.le_of_lt inside)]
  have last : lastLine (text.take stretch.1) = line.take column := by
    rw [before, Text.lastLine_append plain, fresh, List.nil_append]
  refine ⟨?_, ?_, behind, ?_⟩
  · simp [inLine, rows, before, List.count_eq_zero.mpr plain]
  · rw [last, List.length_take_of_le (Nat.le_of_lt inside)]
    rfl
  · rw [last]
    rfl

/-- Reading lines finds the comments of the text that they make up, by induction on the lines. -/
theorem ofLines_fills {text : List Char} {lines : List (List Char)} (lined : Lined lines)
    {n row : Nat} {carry : Carry} {all : List (Nat × Nat)} {comments : List Comment}
    (starts : text.drop n = lines.flatten)
    (fresh : lines ≠ [] → lastLine (text.take n) = [] ∧ row = 1 + (text.take n).count '\n')
    (plain : '\r' ∉ lines.flatten) (quoted : carry.mode.Quoted)
    (same : stretches carry.mode 0 n lines.flatten = some all)
    (read : ofLines row carry lines = some comments)
    : List.Forall₂ (Fills text) comments all := by
  induction lined generalizing n row carry all comments with
  | nil =>
      simp only [ofLines] at read
      split_ifs at read with unfinished
      cases read
      have code : carry.mode = .code := by
        rw [not_or] at unfinished
        simp [Carry.mode, Option.not_isSome_iff_eq_none.mp unfinished.1]
      rw [code, List.flatten_nil] at same
      cases same
      exact .nil
  | @cons line later full ends lined ih =>
      obtain ⟨fresh, rows⟩ := fresh (by simp)
      rw [List.flatten_cons] at starts plain same
      rw [List.mem_append, not_or] at plain
      simp only [ofLines] at read
      have agrees (result : List Comment × Option Carry)
          (read : readWholeLine row carry line = some result)
          : WholeAgrees row n line later.flatten all result :=
        readWholeLine_agrees quoted ends plain.1 same read
      split at read
      · cases read
      · rename_i step
        cases read
        obtain ⟨kept, rest, rfl, filled, rfl⟩ := agrees _ step
        rw [List.append_nil]
        exact filled.imp fun _ _ inside => inside.fills ends starts fresh rows
      · rename_i found carry step
        obtain ⟨others, behind, rfl⟩ := Option.map_eq_some_iff.mp read
        obtain ⟨kept, rest, rfl, filled, quoted, goes⟩ := agrees _ step
        refine List.rel_append (filled.imp fun _ _ inside => inside.fills ends starts fresh rows) ?_
        refine ih ?_ (fun more => ?_) plain.2 quoted goes behind
        · rw [← List.drop_drop, starts, List.drop_left]
        · -- a line that others follow ends in a newline, behind which the next one is fresh
          obtain ⟨body, inside, newline | ⟨-, none⟩⟩ := ends.split
          · have before : text.take (n + line.length) = text.take n ++ body ++ ['\n'] := by
              rw [List.take_add, starts, List.take_left, newline, List.append_assoc]
            rw [before, Text.lastLine_append_newline]
            refine ⟨rfl, ?_⟩
            simp [rows, List.count_eq_zero.mpr inside, Nat.add_assoc]
          · exact absurd (lined.eq_nil none) more

/-- The comments of a text fill the stretches that a reading of the text finds. -/
theorem ofText_fills {text : List Char} (plain : '\r' ∉ text) {comments : List Comment}
    {all : List (Nat × Nat)} (read : ofText text = some comments)
    (same : stretches .code 0 0 text = some all)
    : List.Forall₂ (Fills text) comments all := by
  obtain ⟨lined, whole⟩ := wholeLines_spec text
  refine ofLines_fills lined (n := 0) (by rw [whole, List.drop_zero]) (fun _ => ⟨rfl, rfl⟩) ?_
    (by nofun) (by rwa [whole]) read
  rwa [whole]

end FoldTree.Source.Comment
