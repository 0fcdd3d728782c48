import FoldTree.Proofs.Groups
import FoldTree.Proofs.Source.LineByLine

/-! The places of comments, whatever characters their text has. Lines are read one by one, so the
comments that are found stand in lines of the text, each of them behind the one before. Every one
goes into one block, and every block has a place in the text and makes a remark.
-/

namespace FoldTree.Source

open Text (LineTable)

namespace Comment

/-! ### One line -/

/-- A comment stands before another one in the text: on an earlier line, or further to the left. -/
def Before (comment other : Comment) : Prop :=
  comment.row < other.row ∨ comment.row = other.row ∧ comment.column < other.column

/-- Comments stand one behind the other in some lines, from a first one on up to another. -/
structure Placed (first behind : Nat) (comments : List Comment) : Prop where
  lines : ∀ comment ∈ comments, first ≤ comment.row ∧ comment.row < behind
  ordered : comments.Pairwise Before

section

variable {first middle behind row : Nat} {comments more : List Comment}

/-- No comments stand in any lines. -/
theorem Placed.nil (first behind : Nat) : Placed first behind [] := ⟨by simp, .nil⟩

/-- Comments of some lines stand before those of the lines that follow. -/
theorem Placed.append (placed : Placed first middle comments) (later : Placed middle behind more)
    (up : first ≤ middle) (on : middle ≤ behind)
    : Placed first behind (comments ++ more) := by
  refine ⟨fun comment member => ?_, List.pairwise_append.mpr ⟨placed.ordered, later.ordered, ?_⟩⟩
  · rcases List.mem_append.mp member with member | member
    · have lines := placed.lines comment member
      omega
    · have lines := later.lines comment member
      omega
  · intro comment member other member'
    exact Or.inl (Nat.lt_of_lt_of_le (placed.lines comment member).2 (later.lines other member').1)

/-- Comments that are found from left to right in a line stand one behind the other in it. -/
theorem Ascending.placed {found : List (Nat × List Char)}
    (ascending : Ascending first behind found) (row : Nat) (line : List Char)
    : Placed row (row + 1) (found.map (inLine row line)) := by
  refine ⟨fun comment member => ?_, List.pairwise_map.mpr ?_⟩
  · obtain ⟨one, -, rfl⟩ := List.mem_map.mp member
    exact ⟨Nat.le_refl row, Nat.lt_succ_self row⟩
  · exact ascending.ordered.imp fun before => Or.inr ⟨rfl, before⟩

/-- The comments of a line stand in it. -/
theorem readWholeLine_placed {carry : Carry} {line : List Char}
    {result : List Comment × Option Carry} (read : readWholeLine row carry line = some result)
    : Placed row (row + 1) result.1 := by
  have finish (mode : Mode) (column : Nat) (carry : Carry) (chars : List Char)
      : Placed row (row + 1) (finished row line (readLine mode column carry chars)).1 :=
    (readLine_ascending mode column carry chars).placed row line
  cases lineRead_of_readWholeLine read with
  | text carried => exact finish _ _ _ _
  | code after carried blanks starts => exact finish _ _ _ _
  | comment carried blanks starts =>
      exact ((Ascending.nil _ _).cons (Nat.lt_succ_self _) _).placed row line
  | joined | broken | ending | blank => exact .nil _ _

/-- The comments of several lines stand in them, by induction on the lines. -/
theorem ofLines_placed {carry : Carry} {lines : List (List Char)} {comments : List Comment}
    (read : ofLines row carry lines = some comments)
    : Placed row (row + lines.length) comments := by
  induction lines generalizing row carry comments with
  | nil =>
      rw [ofLines] at read
      split_ifs at read
      cases read
      exact .nil _ _
  | cons line later ih =>
      rw [ofLines] at read
      split at read
      · cases read
      · -- a last line of blanks ends the text, whatever lines come behind it
        rename_i step
        cases read
        have none : Placed (row + 1) (row + (line :: later).length) [] := .nil _ _
        have here := (readWholeLine_placed step).append none (Nat.le_succ row)
          (Nat.add_le_add_left (Nat.succ_pos later.length) row)
        rwa [List.append_nil] at here
      · rename_i step
        obtain ⟨others, behind, rfl⟩ := Option.map_eq_some_iff.mp read
        have rest := ih behind
        rw [Nat.add_right_comm] at rest
        refine (readWholeLine_placed step).append rest (Nat.le_succ row) ?_
        exact Nat.add_le_add_right (Nat.le_add_right row later.length) 1

end

/-! ### All of a text -/

/-- A text has no more whole lines than lines: the last one is none if nothing is in it. -/
theorem length_wholeLines_le (text : List Char)
    : (wholeLines text).length ≤ (Text.lines text).length := by
  unfold wholeLines
  split
  · exact Nat.zero_le _
  · rename_i last before same
    have count := congrArg List.length same
    rw [List.length_reverse, List.length_cons] at count
    rw [count, List.length_append, List.length_map, List.length_reverse]
    split <;> simp

/-- The comments of a text stand one behind the other in its lines. -/
theorem ofText_placed {text : List Char} {comments : List Comment}
    (read : ofText text = some comments)
    : Placed 1 (1 + (Text.lines text).length) comments := by
  have placed := ofLines_placed read
  refine ⟨fun comment member => ?_, placed.ordered⟩
  have lines := placed.lines comment member
  have fewer := length_wholeLines_le text
  omega

/-- The comments of a text stand in lines of it. -/
theorem rows_of_ofText {text : List Char} {comments : List Comment}
    (read : ofText text = some comments)
    : ∀ comment ∈ comments, 1 ≤ comment.row ∧ comment.row ≤ (Text.lines text).length := by
  intro comment member
  have lines := (ofText_placed read).lines comment member
  omega

/-! ### Blocks -/

/-- The blocks of comments are as large as can be, by induction on the comments. -/
theorem blocks_grouped (comments : List Comment)
    : Grouped (fun one next => continues one next = true) comments (blocks comments) := by
  induction comments with
  | nil => exact .nil
  | cons comment later ih =>
      rw [blocks]
      split
      · rename_i next rest others same
        rw [same] at ih
        split
        · rename_i goes
          exact ih.join goes
        · rename_i stops
          refine ih.open fun first starts => ?_
          rw [← ih.flatten] at starts
          cases starts
          exact stops
      · rename_i other
        -- no block is empty, so there are none, and no comments either
        cases same : blocks later with
        | nil =>
            rw [same] at ih
            cases ih.flatten
            exact ih.open fun _ none => nomatch none
        | cons block others =>
            cases block with
            | nil => exact absurd rfl (ih.filled [] (same ▸ List.mem_cons_self))
            | cons next rest => exact absurd same (other next rest others)

/-- Every comment goes into one block, and the blocks keep their order. -/
theorem blocks_flatten (comments : List Comment) : (blocks comments).flatten = comments :=
  (blocks_grouped comments).flatten

/-- The comments of a block are among those that were grouped. -/
theorem mem_of_mem_block {comments block : List Comment} {comment : Comment}
    (among : block ∈ blocks comments) (member : comment ∈ block)
    : comment ∈ comments := by
  rw [← blocks_flatten comments]
  exact List.mem_flatten_of_mem among member

end Comment

/-! ### Remarks -/

/-- A remark stands for a block of comments: it goes from the start of the first to the end of the
last, says what they all say, and hangs under the innermost region around its range.
-/
structure IsNoteOf (source : List Char) (skeleton : Rose Region) (block : List Comment)
    (remark : Remark) : Prop where
  range : ∃ first last start stop,
    block.head? = some first
    ∧ block.getLast? = some last
    ∧ (LineTable.ofText source).charOffset? first.row first.column = some start
    ∧ (LineTable.ofText source).charOffset? last.row (last.column + last.text.length) = some stop
    ∧ remark.region.start = start
    ∧ remark.region.stop = stop
  kind : remark.region.kind = RegionKind.comment.word
  carrier :
    remark.carrier = (innermost remark.region.start remark.region.stop skeleton).key
  terms : remark.terms = block.flatMap Comment.terms

/-- Every block of comments that stand in lines of a text makes a remark. -/
theorem exists_blockRemark_of_rows {source : List Char} {block : List Comment} (filled : block ≠ [])
    (rows : ∀ comment ∈ block, 1 ≤ comment.row ∧ comment.row ≤ (Text.lines source).length)
    (skeleton : Rose Region) (key : Nat)
    : ∃ remark,
        blockRemark (LineTable.ofText source) skeleton key block = some remark
        ∧ remark.region.key = key
        ∧ IsNoteOf source skeleton block remark := by
  have offset (comment : Comment) (member : comment ∈ block) (column : Nat)
      : ∃ offset, (LineTable.ofText source).charOffset? comment.row column = some offset :=
    ⟨_, Text.charOffset?_eq (rows comment member).1 (rows comment member).2 column⟩
  obtain ⟨start, starts⟩ := offset _ (List.head_mem filled) (block.head filled).column
  obtain ⟨stop, stops⟩ := offset _ (List.getLast_mem filled)
    ((block.getLast filled).column + (block.getLast filled).text.length)
  have head := List.head?_eq_some_head filled
  have last := List.getLast?_eq_some_getLast filled
  have reach : (start : Int) + ((stop : Int) - start) = stop := by omega
  refine ⟨⟨⟨key, start, (stop : Int) - start, RegionKind.comment.word, none, []⟩,
    (innermost start stop skeleton).key, block.flatMap Comment.terms⟩, ?_, rfl, ?_⟩
  · simp only [blockRemark, head, last, starts, stops, Option.bind_eq_bind, Option.bind_some]
    rfl
  · refine ⟨⟨_, _, start, stop, head, last, starts, stops, rfl, reach⟩, rfl, ?_, rfl⟩
    rw [Region.stop, reach]

/-- Every block of comments of a text makes a remark. -/
theorem exists_blockRemark {source : List Char} {comments block : List Comment}
    (read : Comment.ofText source = some comments) (among : block ∈ Comment.blocks comments)
    (skeleton : Rose Region) (key : Nat)
    : ∃ remark,
        blockRemark (LineTable.ofText source) skeleton key block = some remark
        ∧ remark.region.key = key
        ∧ IsNoteOf source skeleton block remark :=
  exists_blockRemark_of_rows ((Comment.blocks_grouped comments).filled _ among)
    (fun comment member => Comment.rows_of_ofText read comment (Comment.mem_of_mem_block among member))
    skeleton key

/-- Blocks that make a remark each make as many, with keys that count from a first one on. Witness:
induction on the blocks.
-/
theorem remarks_of_blocks {source : List Char} {skeleton : Rose Region}
    {blocks : List (List Comment)}
    (each : ∀ block ∈ blocks,
      ∀ key,
        ∃ remark,
          blockRemark (LineTable.ofText source) skeleton key block = some remark
          ∧ remark.region.key = key
          ∧ IsNoteOf source skeleton block remark)
    (firstKey : Nat)
    : let notes := (blocks.mapIdx fun index block =>
        blockRemark (LineTable.ofText source) skeleton (firstKey + index) block).filterMap id
      notes.map (·.region.key) = List.range' firstKey blocks.length
      ∧ List.Forall₂ (IsNoteOf source skeleton) blocks notes := by
  induction blocks generalizing firstKey with
  | nil => exact ⟨rfl, .nil⟩
  | cons block rest ih =>
      obtain ⟨note, made, key, isNote⟩ := each block List.mem_cons_self firstKey
      obtain ⟨keys, areNotes⟩ :=
        ih (fun other member => each other (List.mem_cons_of_mem _ member)) (firstKey + 1)
      simp only [Nat.add_right_comm firstKey 1, Nat.add_assoc] at keys areNotes
      rw [List.mapIdx_cons, Nat.add_zero, made]
      exact ⟨congrArg₂ List.cons key keys, .cons isNote areNotes⟩

/-- Comments that stand in lines of a text become one remark for each of their blocks. -/
theorem commentRemarks_of_rows {source : List Char} {comments : List Comment}
    (rows : ∀ comment ∈ comments, 1 ≤ comment.row ∧ comment.row ≤ (Text.lines source).length)
    (skeleton : Rose Region) (firstKey : Nat)
    : (commentRemarks source skeleton firstKey comments).map (·.region.key)
        = List.range' firstKey (Comment.blocks comments).length
      ∧ List.Forall₂ (IsNoteOf source skeleton) (Comment.blocks comments)
          (commentRemarks source skeleton firstKey comments) :=
  remarks_of_blocks (fun _ among => exists_blockRemark_of_rows ((Comment.blocks_grouped comments).filled _ among)
    (fun comment member => rows comment (Comment.mem_of_mem_block among member)) skeleton) firstKey

/-- The comments of a text become one remark for each of their blocks. -/
theorem commentRemarks_spec {source : List Char} {comments : List Comment}
    (read : Comment.ofText source = some comments) (skeleton : Rose Region) (firstKey : Nat)
    : (commentRemarks source skeleton firstKey comments).map (·.region.key)
        = List.range' firstKey (Comment.blocks comments).length
      ∧ List.Forall₂ (IsNoteOf source skeleton) (Comment.blocks comments)
          (commentRemarks source skeleton firstKey comments) :=
  commentRemarks_of_rows (Comment.rows_of_ofText read) skeleton firstKey

end FoldTree.Source
