import FoldTree.Proofs.Source.Places

/-! Blocks of comments. The comments of a text fall into blocks in one way only, such that each goes on
the one before it in its block, and no block could go on with the next one. Reading the comments one
by one, with an eye on the last block alone, comes to the same blocks, and each of them makes one
remark.
-/

namespace FoldTree.Source

namespace Comment

/-- What one more comment does to the blocks before it: it joins the last of them if it goes on its last
comment, and makes a block of its own otherwise.
-/
def joinLast (blocks : List (List Comment)) (comment : Comment) : List (List Comment) :=
  match blocks.getLast? with
  | none => [[comment]]
  | some block =>
    if block.getLast?.any (continues · comment) then blocks.dropLast ++ [block ++ [comment]]
    else blocks ++ [[comment]]

/-- Reading comments one by one comes to blocks that are as large as can be, by induction from the
last comment.
-/
theorem joinLast_grouped (comments : List Comment)
    : Grouped (fun one next => continues one next = true) comments (comments.foldl joinLast []) := by
  induction comments using List.reverseRecOn with
  | nil => exact .nil
  | append_singleton comments comment ih =>
      rw [List.foldl_append, List.foldl_cons, List.foldl_nil]
      generalize comments.foldl joinLast [] = blocks at ih
      rw [joinLast]
      split
      · rename_i none
        cases List.getLast?_eq_none_iff.mp none
        cases ih.flatten
        exact ih.openLast fun _ none => nomatch none
      · rename_i block ends
        obtain ⟨others, rfl⟩ := List.getLast?_eq_some_iff.mp ends
        split
        · rename_i goes
          rw [List.dropLast_concat]
          refine ih.joinLast fun last ends' => ?_
          rw [Option.mem_def] at ends'
          simpa only [ends', Option.any_some] using goes
        · rename_i stops
          have filled := ih.filled block (List.mem_append_right _ List.mem_cons_self)
          refine ih.openLast fun last ends' goes => stops ?_
          rw [Option.mem_def, ← ih.flatten, List.flatten_append, List.flatten_singleton,
            List.getLast?_append_of_ne_nil _ filled] at ends'
          simpa only [ends', Option.any_some] using goes

/-- There is just one way to group comments, so that reading them one by one comes to their blocks. -/
theorem foldl_joinLast (comments : List Comment) : comments.foldl joinLast [] = blocks comments :=
  (grouped_iff.mp (joinLast_grouped comments)).symm.trans (grouped_iff.mp (blocks_grouped comments))

end Comment

/-! ### Comments as they are found -/

/-- A comment as it is found in a text: the line that it stands on, with the number of the line from
one, the column at which the comment starts, and its characters.
-/
structure Sighting where
  row : Nat
  line : List Char
  column : Nat
  text : List Char

namespace Sighting

variable {one next : Sighting}

/-- The comment that is found. -/
def comment (found : Sighting) : Comment :=
  Comment.inLine found.row found.line (found.column, found.text)

/-- Nothing but blanks stands before a comment on its line. -/
def Alone (found : Sighting) : Prop :=
  ∀ c ∈ found.line.take found.column, Text.isBlank c = true

/-- A comment goes on another one: both are alone on their lines, the lines are adjacent, and the
comments start in the same column.
-/
def Joins (one next : Sighting) : Prop :=
  one.Alone ∧ next.Alone ∧ one.row + 1 = next.row ∧ one.column = next.column

/-- The test for comments that go on each other is right. -/
theorem continues_iff : Comment.continues one.comment next.comment = true ↔ one.Joins next := by
  simp [Comment.continues, Sighting.comment, Comment.inLine, Text.isAllBlank, Joins, Alone, and_assoc]

instance : DecidableRel Joins := fun one next =>
  decidable_of_iff (Comment.continues one.comment next.comment = true) continues_iff

/-- A remark tells a block of comments: it goes from the start of the first one to the end of the last,
and its terms are those of all their texts, in order and without the hashes in front.
-/
structure TellsBlock (source : List Char) (block : List Sighting) (remark : Remark) : Prop where
  start : ∃ first ∈ block.head?,
    remark.region.start = ↑(Text.lineStart source first.row + first.column)
  stop : ∃ last ∈ block.getLast?,
    remark.region.stop = ↑(Text.lineStart source last.row + (last.column + last.text.length))
  kind : remark.region.kind = RegionKind.comment.word
  terms : remark.terms = block.flatMap fun found =>
    Term.splitText (found.text.dropWhile (· == '#'))

/-- The remark for a block of comments that are found in lines of a text tells the block. -/
theorem tellsBlock_of_isNote {source : List Char} {skeleton : Rose Region} {block : List Sighting}
    {remark : Remark}
    (rows : ∀ found ∈ block, 1 ≤ found.row ∧ found.row ≤ (Text.lines source).length)
    (isNote : IsNoteOf source skeleton (block.map comment) remark)
    : TellsBlock source block remark := by
  obtain ⟨first, last, start, stop, starts, ends, place, place', start_eq, stop_eq⟩ := isNote.range
  rw [List.head?_map, Option.map_eq_some_iff] at starts
  rw [List.getLast?_map, Option.map_eq_some_iff] at ends
  obtain ⟨first, head, rfl⟩ := starts
  obtain ⟨last, tail, rfl⟩ := ends
  obtain ⟨low, high⟩ := rows first (List.mem_of_mem_head? head)
  obtain ⟨low', high'⟩ := rows last (List.mem_of_mem_getLast? tail)
  refine ⟨⟨first, head, ?_⟩, ⟨last, tail, ?_⟩, isNote.kind, ?_⟩
  · cases (Text.charOffset?_eq low high first.column).symm.trans place
    exact start_eq
  · cases (Text.charOffset?_eq low' high' (last.column + last.text.length)).symm.trans place'
    exact stop_eq
  · rw [isNote.terms, List.flatMap_map]
    rfl

end Sighting

open Sighting in
/-- However comments are found, they fall into blocks in just one way, such that each goes on the one
before it in its block, and no block could go on with the next one. These are the blocks that are
formed, be it all at once or comment by comment. Where the comments are found in lines of a text,
each block makes one remark, which tells it.
-/
theorem blocks_unique (found : List Sighting)
    : ∃ groups,
        (∀ other, Grouped Joins found other ↔ other = groups)
        ∧ Comment.blocks (found.map comment) = groups.map (List.map comment)
        ∧ (found.map comment).foldl Comment.joinLast [] = groups.map (List.map comment)
        ∧ ∀ (source : List Char) (skeleton : Rose Region) (firstKey : Nat),
            (∀ one ∈ found, 1 ≤ one.row ∧ one.row ≤ (Text.lines source).length)
            → let remarks := commentRemarks source skeleton firstKey (found.map comment)
              remarks.map (·.region.key) = List.range' firstKey groups.length
              ∧ List.Forall₂ (TellsBlock source) groups remarks := by
  obtain ⟨groups, grouped⟩ : ∃ groups, Grouped Joins found groups := ⟨_, grouped_iff.mpr rfl⟩
  have blocks : Comment.blocks (found.map comment) = groups.map (List.map comment) := by
    have alike : (fun one next => Comment.continues (comment one) (comment next) = true) = Joins :=
      funext₂ fun _ _ => propext continues_iff
    have images : Grouped (fun one next => Comment.continues one next = true) (found.map comment)
        (groups.map (List.map comment)) :=
      Grouped.map (alike ▸ grouped)
    exact (grouped_iff.mp (Comment.blocks_grouped _)).symm.trans (grouped_iff.mp images)
  refine ⟨groups, fun other => ?_, blocks, (Comment.foldl_joinLast _).trans blocks,
    fun source skeleton firstKey rows => ?_⟩
  · exact ⟨fun grouped' => (grouped_iff.mp grouped').symm.trans (grouped_iff.mp grouped),
      fun same => same ▸ grouped⟩
  · have rows' : ∀ one ∈ found.map comment, 1 ≤ one.row ∧ one.row ≤ (Text.lines source).length := by
      intro one member
      obtain ⟨sighting, inside, rfl⟩ := List.mem_map.mp member
      exact rows sighting inside
    obtain ⟨keys, areNotes⟩ := commentRemarks_of_rows rows' skeleton firstKey
    rw [blocks, List.length_map] at keys
    rw [blocks, List.forall₂_map_left_iff] at areNotes
    refine ⟨keys, ?_⟩
    -- the comments of a group are among those that are found
    refine ((List.forall₂_and_left _ _).mpr ⟨fun _ among => among, areNotes⟩).imp ?_
    rintro group remark ⟨among, isNote⟩
    refine tellsBlock_of_isNote (fun one member => rows one ?_) isNote
    rw [← grouped.flatten]
    exact List.mem_flatten_of_mem among member

/-- Two comments below each other make one block. One behind code, one below it, and one in another
column make a block each.
-/
theorem fiveComments_blocks_unique
    : let source := "# a\n# b\nx # c\n# d\n  # e\n".toList
      let found : List Sighting :=
        [⟨1, "# a\n".toList, 0, "# a".toList⟩,
          ⟨2, "# b\n".toList, 0, "# b".toList⟩,
          ⟨3, "x # c\n".toList, 2, "# c".toList⟩,
          ⟨4, "# d\n".toList, 0, "# d".toList⟩,
          ⟨5, "  # e\n".toList, 2, "# e".toList⟩]
      (∀ one ∈ found, 1 ≤ one.row ∧ one.row ≤ (Text.lines source).length)
      ∧ Comment.blocks (found.map Sighting.comment)
          = ([found.take 2] ++ (found.drop 2).map fun one => [one]).map (List.map Sighting.comment)
      ∧ ∃ groups,
          groups.length = 4
          ∧ List.Forall₂ (Sighting.TellsBlock source) groups
              (commentRemarks source (.node ⟨0, 0, 29, "module", none, []⟩ []) 1
                (found.map Sighting.comment)) := by
  intro source found
  have rows : ∀ one ∈ found, 1 ≤ one.row ∧ one.row ≤ (Text.lines source).length := by decide +kernel
  have blocks : Comment.blocks (found.map Sighting.comment)
      = ([found.take 2] ++ (found.drop 2).map fun one => [one]).map (List.map Sighting.comment) := by
    decide +kernel
  obtain ⟨groups, -, same, -, remarks⟩ := blocks_unique found
  refine ⟨rows, blocks, groups, ?_, (remarks source _ 1 rows).2⟩
  -- there are as many groups as blocks
  have count := congrArg List.length (same.symm.trans blocks)
  rwa [List.length_map, List.length_map] at count

end FoldTree.Source
