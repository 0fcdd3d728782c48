import FoldTree.Proofs.Text.Offset

/-! Texts with a carriage return before each newline. Offsets move on by the number of newlines before
them; lines and columns stay what they are.
-/

namespace FoldTree.Text

open Source (Position)

/-- A text with a carriage return before each newline. -/
def returned (text : List Char) : List Char :=
  text.flatMap fun c => if c = '\n' then ['\r', '\n'] else [c]

/-- Carriage returns come before the newlines of two stretches. -/
theorem returned_append (first second : List Char)
    : returned (first ++ second) = returned first ++ returned second :=
  List.flatMap_append

/-- A newline gets a carriage return. -/
theorem returned_newline (rest : List Char)
    : returned ('\n' :: rest) = '\r' :: '\n' :: returned rest := rfl

/-- Any other character stays alone. -/
theorem returned_cons {c : Char} (other : c ≠ '\n') (rest : List Char)
    : returned (c :: rest) = c :: returned rest := by
  rw [returned, List.flatMap_cons, if_neg other]
  rfl

/-- A text without newlines gets no carriage returns, by induction. -/
theorem returned_eq {text : List Char} (inside : '\n' ∉ text) : returned text = text := by
  induction text with
  | nil => rfl
  | cons c rest ih =>
      rw [List.mem_cons, not_or] at inside
      rw [returned_cons (Ne.symm inside.1), ih inside.2]

/-- No other characters come in than carriage returns. -/
theorem mem_returned {c : Char} (other : c ≠ '\r') (text : List Char)
    : c ∈ returned text ↔ c ∈ text := by
  have each (d : Char) : c ∈ (if d = '\n' then ['\r', '\n'] else [d]) ↔ d = c := by
    split
    · rename_i newline
      simp [other, newline, eq_comm]
    · simp [eq_comm]
  rw [returned, List.mem_flatMap]
  simp [each]

/-- No newlines come in, by induction. -/
@[simp]
theorem count_returned (text : List Char) : (returned text).count '\n' = text.count '\n' := by
  induction text with
  | nil => rfl
  | cons c rest ih =>
      by_cases newline : c = '\n'
      · subst newline
        rw [returned_newline]
        simp [ih]
      · rw [returned_cons newline]
        simp [newline, ih]

/-- One character comes in for each newline, by induction. -/
theorem length_returned (text : List Char)
    : (returned text).length = text.length + text.count '\n' := by
  induction text with
  | nil => rfl
  | cons c rest ih =>
      by_cases newline : c = '\n'
      · subst newline
        rw [returned_newline, List.length_cons, List.length_cons, ih, List.length_cons,
          List.count_cons_self]
        omega
      · rw [returned_cons newline, List.length_cons, ih, List.length_cons,
          List.count_cons_of_ne newline]
        omega

/-- The last line keeps what it is, by induction from the end. -/
theorem lastLine_returned (text : List Char) : lastLine (returned text) = lastLine text := by
  induction text using List.reverseRecOn with
  | nil => rfl
  | append_singleton text c ih =>
      rw [returned_append]
      by_cases newline : c = '\n'
      · subst newline
        rw [show returned ['\n'] = ['\r'] ++ ['\n'] from rfl, ← List.append_assoc,
          lastLine_append_newline, lastLine_append_newline]
      · rw [returned_cons newline, show returned [] = [] from rfl,
          lastLine_append_singleton newline, lastLine_append_singleton newline, ih]

/-- The place behind a stretch is the same, as its newlines and its last line are. -/
theorem afterAll_returned (text : List Char)
    : Position.start.afterAll (returned text) = Position.start.afterAll text := by
  rw [afterAll_start, afterAll_start, count_returned, lastLine_returned]

variable (text : List Char)

/-- Where an offset of a text is when all its newlines have got carriage returns. -/
def moved (offset : Nat) : Nat :=
  offset + (text.take offset).count '\n'

/-- The same for offsets that may be negative; these stay where they are. -/
def shifted (offset : Int) : Int :=
  offset + (text.take offset.toNat).count '\n'

/-- Both say the same about offsets that are not negative. -/
@[simp]
theorem shifted_natCast (offset : Nat) : shifted text offset = moved text offset := by
  simp [shifted, moved]

/-- The start stays where it is. -/
@[simp]
theorem shifted_zero : shifted text 0 = 0 := by
  simp [shifted]

/-- More characters have no fewer newlines. -/
theorem count_take_mono {first second : Nat} (order : first ≤ second)
    : (text.take first).count '\n' ≤ (text.take second).count '\n' :=
  (List.take_prefix_take_left order).sublist.count_le _

/-- Offsets keep their order. -/
@[simp]
theorem shifted_le_iff (first second : Int)
    : shifted text first ≤ shifted text second ↔ first ≤ second := by
  have mono {first second : Int} (order : first ≤ second)
      : (text.take first.toNat).count '\n' ≤ (text.take second.toNat).count '\n' :=
    count_take_mono text (Int.toNat_le_toNat order)
  unfold shifted
  by_cases order : first ≤ second
  · have counts := mono order
    omega
  · have counts := mono (Int.le_of_lt (Int.not_le.mp order))
    omega

/-- What stands before an offset has got its carriage returns where the offset has moved to. -/
theorem take_moved (offset : Nat)
    : (returned text).take (moved text offset) = returned (text.take offset) := by
  have front : returned text = returned (text.take offset) ++ returned (text.drop offset) := by
    rw [← returned_append, List.take_append_drop]
  rcases Nat.le_total offset text.length with inside | beyond
  · have length : (returned (text.take offset)).length = moved text offset := by
      rw [length_returned, List.length_take_of_le inside, moved]
    rw [front, ← length, List.take_left]
  · rw [List.take_of_length_le beyond, List.take_of_length_le]
    rw [length_returned, moved, List.take_of_length_le beyond]
    omega

/-- An offset inside of the text moves to one inside of the text with carriage returns. -/
theorem moved_le {offset : Nat} (inside : offset ≤ text.length)
    : moved text offset ≤ (returned text).length := by
  have counts := (List.take_sublist offset text).count_le '\n'
  rw [length_returned, moved]
  omega

/-- The end of the text moves to the end. -/
theorem moved_length : moved text text.length = (returned text).length := by
  rw [length_returned, moved, List.take_length]

/-- An offset keeps its place. -/
theorem placeAt_moved (offset : Nat)
    : placeAt (returned text) (moved text offset) = placeAt text offset := by
  rw [placeAt, placeAt, take_moved, afterAll_returned]

/-- An offset keeps its line. -/
theorem lineNumber_shifted (offset : Int)
    : lineNumber (returned text) (shifted text offset) = lineNumber text offset := by
  by_cases negative : offset < 0
  · have same : shifted text offset = offset := by
      simp [shifted, Int.toNat_of_nonpos (Int.le_of_lt negative)]
    rw [same, lineNumber, lineNumber, if_pos negative, if_pos negative]
  · obtain ⟨offset, rfl⟩ := Int.eq_ofNat_of_zero_le (Int.not_lt.mp negative)
    rw [shifted_natCast, lineNumber, lineNumber, if_neg (by omega), if_neg (by omega),
      Int.toNat_natCast, Int.toNat_natCast, take_moved, count_returned]

/-- The table of the lines takes the place of an offset to where the offset has moved to. -/
theorem byteOffset?_returned {offset : Nat} (inside : offset ≤ text.length)
    : (LineTable.ofText (returned text)).byteOffset? (placeAt text offset).line
        (placeAt text offset).column
      = some (moved text offset) := by
  rw [← placeAt_moved]
  exact byteOffset?_placeAt (moved_le text inside)

/-- Characters counted from the start of a line on are found behind where that has moved to. -/
theorem charOffset?_returned {offset : Nat} (inside : offset ≤ text.length) (more : Nat)
    : (LineTable.ofText (returned text)).charOffset? (1 + (text.take offset).count '\n')
        ((lastLine (text.take offset)).length + more)
      = some (moved text offset + more) := by
  have place := charOffset?_lastLine (moved_le text inside) more
  rwa [take_moved, count_returned, lastLine_returned] at place

/-- No newline comes in between an offset and the character behind it. -/
theorem count_take_before_moved (offset : Nat)
    : ((returned text).take (moved text (offset + 1) - 1)).count '\n'
      = (text.take offset).count '\n' := by
  by_cases newline : text[offset]? = some '\n'
  · have inside := (List.getElem?_eq_some_iff.mp newline).1
    obtain ⟨rest, behind⟩ : ∃ rest, text.drop offset = '\n' :: rest :=
      List.head?_eq_some_iff.mp (by rw [List.head?_drop, newline])
    -- the place before the moved end is between the carriage return and the newline
    have front : returned text = returned (text.take offset) ++ '\r' :: '\n' :: returned rest := by
      rw [← returned_newline, ← behind, ← returned_append, List.take_append_drop]
    have before : moved text (offset + 1) - 1 = (returned (text.take offset)).length + 1 := by
      rw [moved, List.take_add_one, newline, length_returned, List.length_take_of_le (by omega)]
      simp
      omega
    rw [front, before, List.take_length_add_append, List.count_append, count_returned]
    rfl
  · have before : moved text (offset + 1) - 1 = moved text offset := by
      have same : (text[offset]?.toList).count '\n' = 0 := by
        cases here : text[offset]? with
        | none => rfl
        | some c =>
            have other : c ≠ '\n' := fun same => newline (here.trans (congrArg some same))
            simp [other]
      rw [moved, moved, List.take_add_one, List.count_append, same]
      omega
    rw [before, take_moved, count_returned]

/-- The last character before an offset keeps its line. -/
theorem lineNumber_before_shifted {offset : Int} (natural : 0 ≤ offset)
    : lineNumber (returned text) (shifted text (offset + 1) - 1) = lineNumber text offset := by
  obtain ⟨offset, rfl⟩ := Int.eq_ofNat_of_zero_le natural
  have pos : 1 ≤ moved text (offset + 1) := by
    rw [moved]
    omega
  have before : shifted text ((offset : Int) + 1) - 1 = ((moved text (offset + 1) - 1 : Nat) : Int) := by
    rw [show (offset : Int) + 1 = (offset + 1 : Nat) from rfl, shifted_natCast]
    omega
  rw [before, lineNumber, lineNumber, if_neg (by omega), if_neg (by omega), Int.toNat_natCast,
    Int.toNat_natCast, count_take_before_moved]

end FoldTree.Text
