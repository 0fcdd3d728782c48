import FoldTree.Proofs.Text.Offset
import FoldTree.Tree.Basic
import Mathlib.Data.List.Sort

/-! Lines, columns and offsets in the text of a tree. Its lines are numbered by halving in the list
of the offsets at which they start, and offsets are found in a table of its lines, by columns in
characters or in bytes. All of these agree on every offset of every text.
-/

namespace FoldTree

namespace Text

/-! ### Halving -/

/-- Halving finds the place in ascending numbers up to which they are at most a bound. Witness:
induction along the search, which keeps what is known of the numbers on both sides.
-/
theorem countUpTo_spec {numbers : Array Nat} (ascending : numbers.toList.Pairwise (· ≤ ·))
    (bound : Int) (low high : Nat) (inside : high ≤ numbers.size) (order : low ≤ high)
    (before : ∀ i (h : i < numbers.size), i < low → numbers[i] ≤ bound)
    (behind : ∀ i (h : i < numbers.size), high ≤ i → bound < numbers[i])
    : countUpTo numbers bound low high inside ≤ numbers.size
      ∧ ∀ i (h : i < numbers.size),
          numbers[i] ≤ bound ↔ i < countUpTo numbers bound low high inside := by
  have monotone (i j : Nat) (hi : i < numbers.size) (hj : j < numbers.size) (le : i ≤ j)
      : numbers[i] ≤ numbers[j] := by
    rcases Nat.eq_or_lt_of_le le with rfl | lt
    · exact Nat.le_refl _
    · exact List.pairwise_iff_getElem.mp ascending i j hi hj lt
  fun_induction countUpTo numbers bound low high inside with
  | case1 low high inside between middle known above ih =>
      refine ih (by omega) before fun i h up => ?_
      have up := monotone middle i known h up
      omega
  | case2 low high inside between middle known within ih =>
      refine ih (by omega) (fun i h down => ?_) behind
      have down := monotone i middle h known (by omega)
      omega
  | case3 low high inside met =>
      refine ⟨by omega, fun i h => ⟨fun le => ?_, before i h⟩⟩
      by_contra far
      have past := behind i h (by omega)
      omega

/-- Halving all of some ascending numbers counts those that are at most a bound. -/
theorem countUpTo_eq_countP {numbers : Array Nat} (ascending : numbers.toList.Pairwise (· ≤ ·))
    (bound : Int)
    : countUpTo numbers bound 0 numbers.size (Nat.le_refl _)
      = numbers.toList.countP fun number : Nat => (number : Int) ≤ bound := by
  obtain ⟨within, cut⟩ := countUpTo_spec ascending bound 0 numbers.size (Nat.le_refl _)
    (Nat.zero_le _) (fun i _ none => absurd none (Nat.not_lt_zero i))
    (fun i known none => absurd known (Nat.not_lt_of_le none))
  generalize countUpTo numbers bound 0 numbers.size (Nat.le_refl _) = place at within cut
  have first
      : (numbers.toList.take place).countP (fun number : Nat => (number : Int) ≤ bound) = place := by
    have length : (numbers.toList.take place).length = place := List.length_take_of_le within
    conv_rhs => rw [← length]
    rw [List.countP_eq_length]
    intro number member
    obtain ⟨i, bound, rfl⟩ := List.getElem_of_mem member
    rw [length] at bound
    simpa using (cut i (by omega)).mpr bound
  have later
      : (numbers.toList.drop place).countP (fun number : Nat => (number : Int) ≤ bound) = 0 := by
    rw [List.countP_eq_zero]
    intro number member
    obtain ⟨i, bound, rfl⟩ := List.getElem_of_mem member
    rw [List.length_drop, Array.length_toList] at bound
    simpa using (cut (place + i) (by omega)).not.mpr (by omega)
  rw [← List.take_append_drop place numbers.toList, List.countP_append, first, later,
    Nat.add_zero]

/-! ### The starts of lines -/

/-- The first character puts a line behind it if it is a newline. -/
theorem newlineStops_cons (start : Nat) (c : Char) (text : List Char)
    : newlineStops start (c :: text)
      = (if c = '\n' then [start + 1] else []) ++ newlineStops (start + 1) text := by
  by_cases newline : c = '\n' <;> simp [newlineStops, List.zipIdx_cons, newline]

/-- Lines start one behind the other, by induction on the text. -/
theorem newlineStops_ascending (start : Nat) (text : List Char)
    : (start :: newlineStops start text).Pairwise (· ≤ ·) := by
  induction text generalizing start with
  | nil => simp [newlineStops]
  | cons c text ih =>
      obtain ⟨first, later⟩ := List.pairwise_cons.mp (ih (start + 1))
      rw [newlineStops_cons]
      by_cases newline : c = '\n'
      · simp only [newline, if_true, List.singleton_append]
        refine .cons (fun stop member => ?_) (ih (start + 1))
        rcases List.mem_cons.mp member with rfl | member
        · exact Nat.le_succ start
        · exact Nat.le_of_succ_le (first stop member)
      · simp only [newline, if_false, List.nil_append]
        exact .cons (fun stop member => Nat.le_of_succ_le (first stop member)) later

/-- As many lines start behind newlines up to an offset as there are newlines before it, by
induction on the text.
-/
theorem countP_newlineStops (start : Nat) (text : List Char) (offset : Nat)
    : (newlineStops start text).countP (fun stop => stop ≤ start + offset)
      = (text.take offset).count '\n' := by
  induction text generalizing start offset with
  | nil => simp [newlineStops]
  | cons c text ih =>
      rw [newlineStops_cons, List.countP_append]
      cases offset with
      | zero =>
          -- every line behind the first starts behind the place from which offsets are counted
          obtain ⟨first, -⟩ := List.pairwise_cons.mp (newlineStops_ascending (start + 1) text)
          rw [List.take_zero, List.count_nil, Nat.add_eq_zero_iff]
          refine ⟨by split <;> simp, List.countP_eq_zero.mpr fun stop member => ?_⟩
          have up := first stop member
          simp only [decide_eq_true_eq]
          omega
      | succ offset =>
          have later := ih (start + 1) offset
          rw [Nat.add_right_comm, Nat.add_assoc] at later
          rw [later, List.take_succ_cons, List.count_cons]
          by_cases newline : c = '\n'
          · simp [newline, Nat.add_comm]
          · simp [newline]

/-- The number of bytes of some characters is that of their encoding, by induction on them. -/
theorem size_utf8Encode (chars : List Char) : chars.utf8Encode.size = width chars := by
  induction chars with
  | nil => rfl
  | cons c rest ih =>
      rw [List.utf8Encode_cons, ByteArray.size_append, ih, List.utf8Encode_singleton]
      simp [width]

/-- A column in bytes that lies inside of a character stands for its offset. -/
theorem byteOffset?_lastLine {text : List Char} {offset : Nat} (bound : offset ≤ text.length)
    {bytes : Nat} (short : ∀ c ∈ text[offset]?, bytes < c.utf8Size)
    : (LineTable.ofText text).byteOffset? (1 + (text.take offset).count '\n')
        (width (lastLine (text.take offset)) + bytes)
      = some offset := by
  obtain ⟨line, later, split⟩ := exists_lines_eq_cons (text.drop offset)
  have shorter := length_lastLine_take_le text offset
  -- the line goes on with the character at the offset, unless that is the newline that ends it
  have next : ∀ c ∈ line.head?, bytes < c.utf8Size := by
    intro c member
    refine short c ?_
    rw [← List.head?_drop]
    cases rest : text.drop offset with
    | nil =>
        rw [rest] at split
        cases split
        cases member
    | cons d rest' =>
        by_cases newline : d = '\n'
        · rw [rest, newline, lines_newline] at split
          cases split
          cases member
        · obtain ⟨line', later', split'⟩ := exists_lines_eq_cons rest'
          rw [rest, lines_cons newline split'] at split
          cases split
          exact member
  simp only [LineTable.byteOffset?, Nat.add_comm 1, placed_take bound split, Option.map_some,
    charsWithin_width_add _ next]
  congr 1
  omega

end Text

namespace Tree

open Text (LineTable lastLine)

/-- Halving in the starts of the lines gives the line of every offset, and zero for those before the
text.
-/
theorem lineNumber_eq (tree : Tree) (offset : Int)
    : tree.lineNumber offset = Text.lineNumber tree.source offset := by
  have ascending : (Text.lineStarts tree.source).toList.Pairwise (· ≤ ·) :=
    Text.newlineStops_ascending 0 tree.source
  rw [lineNumber, Text.countUpTo_eq_countP ascending, Text.lineStarts, Text.lineNumber]
  split
  · rw [List.countP_eq_zero]
    intro start _
    simp only [decide_eq_true_eq]
    omega
  · rename_i natural
    obtain ⟨offset, rfl⟩ := Int.eq_ofNat_of_zero_le (Int.not_lt.mp natural)
    have count := Text.countP_newlineStops 0 tree.source offset
    rw [Nat.zero_add] at count
    simp [count, Nat.add_comm]

/-- Every offset of a text has one line and one column. The line is one more than the newlines
before the offset, and the column counts what follows the last of these. The table of the lines
takes both back to the offset, whether the column is in characters or in bytes, and so it does for
every byte inside of the character at the offset; and the tree gives the same line.
-/
theorem positions_agree (tree : Tree) {offset : Nat} (bound : offset ≤ tree.source.length)
    : let before := tree.source.take offset
      let row := 1 + before.count '\n'
      let table := LineTable.ofText tree.source
      table.charOffset? row (lastLine before).length = some offset
      ∧ table.byteOffset? row (lastLine before).utf8Encode.size = some offset
      ∧ (∀ c ∈ tree.source[offset]?, ∀ bytes < c.utf8Size,
          table.byteOffset? row ((lastLine before).utf8Encode.size + bytes) = some offset)
      ∧ tree.lineNumber offset = row := by
  intro before row table
  rw [Text.size_utf8Encode]
  refine ⟨Text.charOffset?_lastLine bound 0,
    @Text.byteOffset?_lastLine _ _ bound 0 fun c _ => c.utf8Size_pos,
    fun c here bytes fewer => ?_, ?_⟩
  · refine Text.byteOffset?_lastLine bound fun other there => ?_
    cases here.symm.trans there
    exact fewer
  · rw [lineNumber_eq, Text.lineNumber, if_neg (by omega), Int.toNat_natCast]

/-- A tree over an empty line and a line of characters of one, two and four bytes. -/
def wideLine : Tree :=
  .empty "\nné𝄞".toList (Path.ofText "wide.py")

/-- The last character of the second line has four bytes, and every one of them stands for it. -/
theorem wideLine_positions_agree
    : 3 ≤ wideLine.source.length
      ∧ (LineTable.ofText wideLine.source).charOffset? 2 2 = some 3
      ∧ (LineTable.ofText wideLine.source).byteOffset? 2 3 = some 3
      ∧ (∀ bytes < 4, (LineTable.ofText wideLine.source).byteOffset? 2 (3 + bytes) = some 3)
      ∧ wideLine.lineNumber 3 = 2 := by
  have bound : 3 ≤ wideLine.source.length := by decide
  exact ⟨bound, (positions_agree wideLine bound).1, (positions_agree wideLine bound).2.1,
    (positions_agree wideLine bound).2.2.1 '𝄞' rfl, (positions_agree wideLine bound).2.2.2⟩

end Tree

end FoldTree
