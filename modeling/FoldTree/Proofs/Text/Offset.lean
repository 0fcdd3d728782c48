import FoldTree.Source.Position
import FoldTree.Text.Lines
import Mathlib.Algebra.GroupWithZero.Nat
import Mathlib.Data.List.Induction

/-! Offsets, lines and columns of one text. The place behind a stretch at the start of a text is its
number of newlines and the width of what follows the last of them; the table of the text's lines
takes every such place back to the length of the stretch.
-/

namespace FoldTree.Text

open Source (Position)

/-- What follows the last newline of a text. -/
def lastLine (text : List Char) : List Char :=
  text.foldl (fun line c => if c = '\n' then [] else line ++ [c]) []

/-- The number of bytes of some characters. -/
def width (chars : List Char) : Nat :=
  (chars.map Char.utf8Size).sum

/-- A newline leaves nothing behind it. -/
theorem lastLine_append_newline (text : List Char) : lastLine (text ++ ['\n']) = [] := by
  simp [lastLine]

/-- Any other character goes on with the last line. -/
theorem lastLine_append_singleton {c : Char} (inside : c ≠ '\n') (text : List Char)
    : lastLine (text ++ [c]) = lastLine text ++ [c] := by
  simp [lastLine, inside]

/-- Characters without a newline go on with the last line, by induction. -/
theorem lastLine_append {more : List Char} (inside : '\n' ∉ more) (text : List Char)
    : lastLine (text ++ more) = lastLine text ++ more := by
  induction more generalizing text with
  | nil => simp
  | cons c rest ih =>
      rw [List.mem_cons, not_or] at inside
      rw [List.append_cons, ih inside.2, lastLine_append_singleton (Ne.symm inside.1),
        ← List.append_cons]

/-- The last line is part of the text, by induction from the end. -/
theorem length_lastLine_le (text : List Char) : (lastLine text).length ≤ text.length := by
  induction text using List.reverseRecOn with
  | nil => exact Nat.le_refl 0
  | append_singleton text c ih =>
      by_cases newline : c = '\n'
      · subst newline
        simp [lastLine_append_newline]
      · rw [lastLine_append_singleton newline]
        simpa using ih

/-- A stretch at the start of a text puts its newlines into the line of its end, and the width of
its last line into the column. Witness: induction from the end, one character at a time.
-/
theorem afterAll_start (text : List Char)
    : Position.start.afterAll text = ⟨1 + text.count '\n', width (lastLine text)⟩ := by
  induction text using List.reverseRecOn with
  | nil => rfl
  | append_singleton text c ih =>
      have step : Position.start.afterAll (text ++ [c])
          = (Position.start.afterAll text).after c := by
        simp [Position.afterAll]
      rw [step, ih]
      by_cases newline : c = '\n'
      · subst newline
        simp [Position.after, lastLine_append_newline, width, Nat.add_assoc]
      · simp [Position.after, newline, lastLine_append_singleton newline, width]

/-- A text has at least one line. -/
theorem exists_lines_eq_cons (text : List Char) : ∃ line later, lines text = line :: later := by
  cases text with
  | nil => exact ⟨[], [], rfl⟩
  | cons c rest =>
      simp only [lines]
      split
      · exact ⟨_, _, rfl⟩
      · split <;> exact ⟨_, _, rfl⟩

/-- A newline ends a line of nothing before it. -/
theorem lines_newline (text : List Char) : lines ('\n' :: text) = [] :: lines text := by
  simp [lines]

/-- Any other character goes to the front of the first line. -/
theorem lines_cons {c : Char} (inside : c ≠ '\n') {text line : List Char}
    {later : List (List Char)} (split : lines text = line :: later)
    : lines (c :: text) = (c :: line) :: later := by
  simp [lines, inside, split]

/-- A text has one line more than newlines, by induction. -/
theorem length_lines (text : List Char) : (lines text).length = 1 + text.count '\n' := by
  induction text with
  | nil => rfl
  | cons c rest ih =>
      by_cases newline : c = '\n'
      · subst newline
        rw [lines_newline, List.length_cons, ih, List.count_cons_self]
        omega
      · obtain ⟨line, later, split⟩ := exists_lines_eq_cons rest
        rw [lines_cons newline split, List.count_cons_of_ne newline, ← ih, split]
        rfl

/-- Lines get a place each, by induction. -/
theorem length_placedLines (start : Nat) (lines : List (List Char))
    : (placedLines start lines).length = lines.length := by
  induction lines generalizing start with
  | nil => rfl
  | cons line later ih => rw [placedLines, List.length_cons, ih, List.length_cons]

/-- Each line is placed behind all lines before it and their newlines, by induction on the lines. -/
theorem getElem?_placedLines (start : Nat) (lines : List (List Char)) (index : Nat)
    : (placedLines start lines)[index]?
      = lines[index]?.map fun line =>
          (start + ((lines.take index).map fun before => before.length + 1).sum, line) := by
  induction lines generalizing start index with
  | nil => rfl
  | cons line later ih =>
      cases index with
      | zero => rfl
      | succ index => simp [placedLines, ih, Nat.add_assoc]

/-- The table of a text has all lines of it. -/
theorem size_placed (text : List Char)
    : (LineTable.ofText text).placed.size = (lines text).length := by
  rw [LineTable.ofText, List.size_toArray, length_placedLines]

/-- The offset of the first character of a line: how many characters the lines before it have, with
their newlines.
-/
def lineStart (text : List Char) (row : Nat) : Nat :=
  (((lines text).take (row - 1)).map fun line => line.length + 1).sum

/-- A column of a line of a text is counted from the start of the line. -/
theorem charOffset?_eq {text : List Char} {row : Nat} (first : 1 ≤ row)
    (last : row ≤ (lines text).length) (column : Nat)
    : (LineTable.ofText text).charOffset? row column = some (lineStart text row + column) := by
  obtain ⟨index, rfl⟩ : ∃ index, row = index + 1 := ⟨row - 1, by omega⟩
  simp [LineTable.charOffset?, LineTable.ofText, getElem?_placedLines, lineStart,
    List.getElem?_eq_getElem last]

/-- A line has offsets just if it is one of the text, which has one more than newlines. -/
theorem byteOffset?_isSome_iff (text : List Char) (line column : Nat)
    : ((LineTable.ofText text).byteOffset? line column).isSome = true
      ↔ 1 ≤ line ∧ line ≤ 1 + text.count '\n' := by
  cases line with
  | zero => simp [LineTable.byteOffset?]
  | succ index =>
      have size := size_placed text
      rw [length_lines] at size
      rw [LineTable.byteOffset?, Option.isSome_map]
      by_cases known : index < (LineTable.ofText text).placed.size
      · rw [Array.getElem?_eq_getElem known]
        exact iff_of_true rfl (by omega)
      · rw [Array.getElem?_eq_none (Nat.le_of_not_lt known)]
        exact iff_of_false Bool.false_ne_true (by omega)

/-- Behind as many lines as a stretch has newlines comes the line that the stretch ends in: what
stands after its last newline, and then what comes up to the next one. Witness: induction on the
stretch from its end, for all that may follow.
-/
theorem placedLines_drop (start : Nat) (before behind : List Char) {line : List Char}
    {later : List (List Char)} (split : lines behind = line :: later)
    : (placedLines start (lines (before ++ behind))).drop (before.count '\n')
      = placedLines (start + (before.length - (lastLine before).length))
          ((lastLine before ++ line) :: later) := by
  induction before using List.reverseRecOn generalizing behind line later with
  | nil => simp [split, lastLine]
  | append_singleton before c ih =>
      have bound := length_lastLine_le before
      rw [List.append_assoc, List.singleton_append]
      by_cases newline : c = '\n'
      · subst newline
        have here := ih ('\n' :: behind) (lines_newline behind)
        have count : (before ++ ['\n']).count '\n' = before.count '\n' + 1 := by simp
        have places : start + (before.length - (lastLine before).length)
            + (lastLine before).length + 1 = start + (before.length + 1) := by
          omega
        rw [count, List.drop_add_one_eq_tail_drop, here]
        simp [placedLines, lastLine_append_newline, split, places]
      · have here := ih (c :: behind) (lines_cons newline split)
        have count : (before ++ [c]).count '\n' = before.count '\n' := by
          simp [newline]
        rw [count, here, lastLine_append_singleton newline]
        simp

/-- The line that a stretch ends in, with the offset at which it starts. -/
theorem ofText_placed (before behind : List Char) {line : List Char} {later : List (List Char)}
    (split : lines behind = line :: later)
    : (LineTable.ofText (before ++ behind)).placed[before.count '\n']?
      = some (before.length - (lastLine before).length, lastLine before ++ line) := by
  have rest := placedLines_drop 0 before behind split
  have head := congrArg List.head? rest
  rw [List.head?_drop] at head
  simpa [LineTable.ofText, placedLines] using head

/-- A stretch of characters lies wholly within its width and some bytes more, and no further
character does if they are fewer than it has, by induction on the stretch.
-/
theorem charsWithin_width_add (chars : List Char) {more : List Char} {bytes : Nat}
    (short : ∀ c ∈ more.head?, bytes < c.utf8Size)
    : charsWithin (width chars + bytes) (chars ++ more) = chars.length := by
  induction chars with
  | nil =>
      cases more with
      | nil => rfl
      | cons c rest =>
          have narrow := short c rfl
          simp only [width, List.map_nil, List.sum_nil, List.nil_append, charsWithin,
            List.length_nil]
          rw [if_neg (by omega)]
  | cons c rest ih =>
      have wide : c.utf8Size ≤ width (c :: rest) + bytes := by
        simp only [width, List.map_cons, List.sum_cons]
        omega
      have left : width (c :: rest) + bytes - c.utf8Size = width rest + bytes := by
        simp only [width, List.map_cons, List.sum_cons]
        omega
      simp only [List.cons_append, charsWithin, wide, if_true, left, ih, List.length_cons]
      omega

/-- A stretch of characters lies wholly within its width, and no further character does. -/
theorem charsWithin_width (chars more : List Char)
    : charsWithin (width chars) (chars ++ more) = chars.length :=
  charsWithin_width_add chars fun c _ => c.utf8Size_pos

/-- The table of a text takes the place behind a stretch at its start to the stretch's length. -/
theorem byteOffset?_afterAll (before behind : List Char)
    : (LineTable.ofText (before ++ behind)).byteOffset? (Position.start.afterAll before).line
        (Position.start.afterAll before).column
      = some before.length := by
  obtain ⟨line, later, split⟩ := exists_lines_eq_cons behind
  have bound := length_lastLine_le before
  simp only [afterAll_start, LineTable.byteOffset?, Nat.add_comm 1,
    ofText_placed before behind split, Option.map_some, charsWithin_width]
  congr 1
  omega

/-- The place of an offset in a text. -/
def placeAt (text : List Char) (offset : Nat) : Position :=
  Position.start.afterAll (text.take offset)

/-- Reading on from an offset goes to the place of a later one. -/
theorem afterAll_placeAt (text : List Char) (offset count : Nat)
    : (placeAt text offset).afterAll ((text.drop offset).take count)
      = placeAt text (offset + count) := by
  simp only [placeAt, Position.afterAll, List.take_add, List.foldl_append]

/-- Places in a text stay where they are when more text follows. -/
theorem placeAt_append {text : List Char} {offset : Nat} (bound : offset ≤ text.length)
    (more : List Char)
    : placeAt (text ++ more) offset = placeAt text offset := by
  rw [placeAt, placeAt, List.take_append_of_le_length bound]

/-- The table of a text takes the place of every offset back to the offset. -/
theorem byteOffset?_placeAt {text : List Char} {offset : Nat} (bound : offset ≤ text.length)
    : (LineTable.ofText text).byteOffset? (placeAt text offset).line (placeAt text offset).column
      = some offset := by
  have place := byteOffset?_afterAll (text.take offset) (text.drop offset)
  rw [List.take_append_drop, List.length_take_of_le bound] at place
  exact place

/-- Offsets in a text have the same place just if they are the same. -/
theorem placeAt_inj {text : List Char} {first second : Nat} (bound : first ≤ text.length)
    (bound' : second ≤ text.length)
    : placeAt text first = placeAt text second ↔ first = second := by
  refine ⟨fun same => ?_, congrArg _⟩
  have place := byteOffset?_placeAt bound
  rw [same, byteOffset?_placeAt bound', Option.some.injEq] at place
  exact place.symm

/-- What an offset has before it on its line is no longer than all that it has before it. -/
theorem length_lastLine_take_le (text : List Char) (offset : Nat)
    : (lastLine (text.take offset)).length ≤ offset :=
  Nat.le_trans (length_lastLine_le _) (List.length_take_le offset text)

/-- The line of an offset, with the offset at which it starts. -/
theorem placed_take {text : List Char} {offset : Nat} (bound : offset ≤ text.length)
    {line : List Char} {later : List (List Char)} (split : lines (text.drop offset) = line :: later)
    : (LineTable.ofText text).placed[(text.take offset).count '\n']?
      = some (offset - (lastLine (text.take offset)).length,
          lastLine (text.take offset) ++ line) := by
  have placed := ofText_placed (text.take offset) (text.drop offset) split
  rwa [List.take_append_drop, List.length_take_of_le bound] at placed

/-- Characters counted from the start of a line on are found behind it. -/
theorem charOffset?_lastLine {text : List Char} {offset : Nat} (bound : offset ≤ text.length)
    (more : Nat)
    : (LineTable.ofText text).charOffset? (1 + (text.take offset).count '\n')
        ((lastLine (text.take offset)).length + more)
      = some (offset + more) := by
  obtain ⟨line, later, split⟩ := exists_lines_eq_cons (text.drop offset)
  have shorter := length_lastLine_take_le text offset
  simp only [LineTable.charOffset?, Nat.add_comm 1, placed_take bound split, Option.map_some]
  congr 1
  omega

end FoldTree.Text
