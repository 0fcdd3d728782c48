import FoldTree.Proofs.Source.Attribution
import FoldTree.Proofs.Source.Carriers
import FoldTree.Proofs.Source.Places
import FoldTree.Proofs.Source.ReturnedLines
import FoldTree.Proofs.Source.Standing
import FoldTree.Proofs.Text.Returns
import FoldTree.Proofs.Tree.Relocation

/-! Regions and remarks of a text without carriage returns, and of the same text with a carriage return
before each newline. A program has the same regions with the same terms in both, at offsets that have
moved, and every region carries the same doc texts and comments.
-/

namespace FoldTree.Source

open Text (LineTable returned moved shifted)

variable (text : List Char)

/-- A doc text where its two ends have moved to. -/
def Doc.returned (doc : Doc) : Doc :=
  ⟨moved text doc.start, shifted text (doc.start + doc.length) - shifted text doc.start, doc.terms⟩

/-- A region and its doc text where they have moved to. -/
def Part.returned (part : Part) : Part :=
  ⟨part.region.move (shifted text), part.doc.map (Doc.returned text)⟩

/-- Contents with all regions where they have moved to. -/
def Contents.returned (contents : Contents) : Contents :=
  ⟨contents.terms, contents.below.map (Rose.map (Part.returned text))⟩

/-- Regions of two stretches move one by one. -/
@[simp]
theorem Contents.returned_append (first second : Contents)
    : (first ++ second).returned text = first.returned text ++ second.returned text :=
  ext rfl List.map_append

/-- Words have no regions. -/
@[simp]
theorem Contents.returned_ofWords (words : List String)
    : (ofWords words).returned text = ofWords words := rfl

/-- The offset and length of a stretch whose two ends have moved. -/
def movedSpan (span : Nat × Int) : Nat × Int :=
  (moved text span.1, shifted text (span.1 + span.2) - shifted text span.1)

/-- A construct has moved with all that it stands for: its region, if it makes one, and the doc text
of this.
-/
def Construct.Moved (construct : Construct) : Prop :=
  construct.makesRegion = true
    → construct.span? (returned text) = (construct.span? text).map (movedSpan text)
      ∧ construct.doc? (returned text) = (construct.doc? text).map (Option.map (Doc.returned text))

mutual

/-- Constructs that have moved give the regions that have moved. -/
theorem gather_returned (t : Rose Construct) (inClass : Bool)
    (all : ∀ construct ∈ t.preorder, construct.Moved text)
    : gather (returned text) inClass t = (gather text inClass t).map (Contents.returned text) := by
  match t with
  | .node construct below =>
      rw [Rose.preorder, List.forall_mem_cons] at all
      obtain ⟨here, inner⟩ := all
      rw [gather, gather]
      cases makes : construct.makesRegion with
      | false =>
          have inside := gatherAll_returned below inClass inner
          simp [inside, Function.comp_def]
      | true =>
          obtain ⟨placed, written⟩ := here makes
          have inside := gatherAll_returned below construct.isClass inner
          rw [if_pos rfl, if_pos rfl, placed, written, inside]
          cases construct.span? text with
          | none => rfl
          | some span =>
              cases construct.doc? text with
              | none => rfl
              | some doc =>
                  cases gatherAll text construct.isClass below with
                  | none => rfl
                  | some inside =>
                      simp [Contents.returned, Rose.map, Rose.mapAll_eq_map, Part.returned,
                        Region.move, Region.stop, movedSpan]

/-- Several constructs that have moved give the regions that have moved. -/
theorem gatherAll_returned (trees : List (Rose Construct)) (inClass : Bool)
    (all : ∀ construct ∈ Rose.preorderAll trees, construct.Moved text)
    : gatherAll (returned text) inClass trees
      = (gatherAll text inClass trees).map (Contents.returned text) := by
  match trees with
  | [] => rw [gatherAll, gatherAll]; rfl
  | t :: rest =>
      rw [Rose.preorderAll, List.forall_mem_append] at all
      rw [gatherAll, gatherAll, gather_returned t inClass all.1,
        gatherAll_returned rest inClass all.2]
      cases gather text inClass t with
      | none => rfl
      | some first =>
          cases gatherAll text inClass rest with
          | none => rfl
          | some later => exact congrArg some (Contents.returned_append text first later).symm

end

variable {text} {found : List (Nat × Nat)}

/-- A stretch of tokens moves by its two ends. -/
theorem Spans.span?_returned {extent : Extent} {first behind : Nat}
    (spans : Spans text found extent first behind)
    : Source.span? (LineTable.ofText (returned text)) extent
      = (Source.span? (LineTable.ofText text) extent).map (movedSpan text) := by
  have bound := spans.bound
  have opens := Text.byteOffset?_returned text (spans.le.trans bound)
  have closes := Text.byteOffset?_returned text bound
  have reach : (first : Int) + ((behind : Int) - first) = behind := by omega
  rw [spans.span?, Source.span?, spans.place, opens, closes]
  simp [movedSpan, reach]

/-- A construct that stands in a text moves with it. -/
theorem Construct.moved_of_stands {construct : Construct}
    (stands : ∀ extent ∈ construct.extents, ∃ first behind, Spans text found extent first behind)
    : construct.Moved text := by
  have each : ∀ extent ∈ construct.extents,
      Source.span? (LineTable.ofText (returned text)) extent
        = (Source.span? (LineTable.ofText text) extent).map (movedSpan text) := by
    intro extent member
    obtain ⟨first, behind, spans⟩ := stands extent member
    exact spans.span?_returned
  have docs : (∀ start ∈ construct.text?, start.1 ∈ construct.extents)
      → construct.doc? (returned text)
        = (construct.doc? text).map (Option.map (Doc.returned text)) := by
    intro among
    unfold doc?
    split
    · rfl
    · rename_i extent words same
      rw [each extent (among _ same)]
      simp [Function.comp_def, Doc.returned, movedSpan]
  intro makes
  cases construct with
  | word | phrase => cases makes
  | module start =>
      refine ⟨?_, docs fun _ here => by simp [extents, show start = some _ from here]⟩
      have ends : shifted text text.length = (returned text).length := by
        rw [Text.shifted_natCast, Text.moved_length]
      simp [span?, movedSpan, ends, moved]
  | imports extent => exact ⟨each extent (by simp [extents]), docs nofun⟩
  | block extent kind => exact ⟨each extent (by simp [extents]), docs nofun⟩
  | definition extent sort name start =>
      exact ⟨each extent (by simp [extents]),
        docs fun _ here => by simp [extents, show start = some _ from here]⟩

/-- A program that stands in a text has the regions that have moved. -/
theorem parts?_returned {program : List Stmt} {n m : Nat}
    (row : Stmt.Row text found program n m)
    : parts? (returned text) program
      = (parts? text program).map (Rose.map (Part.returned text)) := by
  have all := gather_returned text (moduleConstructs program) false fun construct member =>
    Construct.moved_of_stands (standIn_moduleConstructs row construct member)
  rw [gather_moduleConstructs, gather_moduleConstructs] at all
  -- both sides are contents whose regions are one tree, the module's
  cases made : parts? text program <;> cases made' : parts? (returned text) program
    <;> simp [made, made', Contents.returned] at all ⊢
  exact all

/-! ### Remarks -/

/-- Regions get the same keys where they have moved to. -/
theorem numbered_returned (text : List Char) (parts : Rose Part)
    : numbered (parts.map (Part.returned text)) = (numbered parts).map (Part.returned text) := by
  rw [numbered, numbered, Rose.number_map]
  exact fun _ _ => rfl

/-- The skeleton of a text with carriage returns is the skeleton of the text without them, moved. -/
theorem map_region_returned (text : List Char) (parts : Rose Part)
    : (parts.map (Part.returned text)).map (·.region)
      = (parts.map (·.region)).map (Region.move (shifted text)) := by
  rw [Rose.map_map, Rose.map_map]
  rfl

/-- Doc texts become the remarks that have moved. -/
theorem docRemarks_returned (text : List Char) (parts : Rose Part) (firstKey : Nat)
    : docRemarks (parts.map (Part.returned text)) firstKey
      = (docRemarks parts firstKey).map (Remark.move (shifted text)) := by
  have docs : ((parts.map (Part.returned text)).preorder.filterMap fun part =>
        part.doc.map fun doc => (part.region.key, doc))
      = (parts.preorder.filterMap fun part => part.doc.map fun doc => (part.region.key, doc)).map
          (Prod.map id (Doc.returned text)) := by
    rw [Rose.preorder_map, List.filterMap_map, List.map_filterMap]
    congr 1
    funext part
    simp [Part.returned, Region.move, Function.comp_def]
  rw [docRemarks, docRemarks, docs]
  apply List.ext_getElem (by simp)
  intro i _ _
  simp [Doc.remark, Doc.returned, Remark.move, Region.move, Region.stop]

/-- A region holds a range just if it does so where both have moved to. -/
theorem contains_move (text : List Char) (region : Region) (first behind : Int)
    : (region.move (shifted text)).contains (shifted text first) (shifted text behind)
      = region.contains first behind := by
  rw [Region.contains, Region.stop_move]
  simp [Region.contains, Region.move]

/-- The innermost region around a range moves with it, by induction on the skeleton. -/
theorem innermost_move (text : List Char) (first behind : Int) (skeleton : Rose Region)
    : innermost (shifted text first) (shifted text behind) (skeleton.map (Region.move (shifted text)))
      = (innermost first behind skeleton).move (shifted text) := by
  induction skeleton using Rose.induction with
  | node region below ih =>
      rw [Rose.map, Rose.mapAll_eq_map, innermost, innermost, innermostOf_eq, innermostOf_eq,
        List.find?_map]
      simp only [Function.comp_def, Rose.value_map, contains_move]
      cases held : below.find? fun branch => branch.value.contains first behind with
      | none => rfl
      | some branch => exact ih branch (List.mem_of_find?_eq_some held)

/-- A comment that fills a stretch has both ends of it in the text with carriage returns, too. -/
theorem Comment.Fills.charOffset?_returned {comment : Comment} {stretch : Nat × Nat}
    (fills : Fills text comment stretch) (inside : Inside text stretch)
    (proper : stretch.1 ≤ stretch.2) {column : Nat}
    (isEnd : column = comment.column ∨ column = comment.column + comment.text.length)
    : (LineTable.ofText (returned text)).charOffset? comment.row column
      = ((LineTable.ofText text).charOffset? comment.row column).map (moved text) := by
  have bound := proper.trans inside.bound
  have line := inside.line
  rcases isEnd with rfl | rfl
  · have place := Text.charOffset?_lastLine bound 0
    have place' := Text.charOffset?_returned text bound 0
    rw [← fills.row, ← fills.column] at place place'
    exact place'.trans (congrArg (Option.map (moved text)) place.symm)
  · have place := Text.charOffset?_lastLine bound comment.text.length
    have place' := Text.charOffset?_returned text bound comment.text.length
    have reach : moved text (stretch.1 + comment.text.length)
        = moved text stretch.1 + comment.text.length := by
      rw [fills.behind] at line
      rw [moved, moved, line]
      omega
    rw [← fills.row, ← fills.column] at place place'
    rw [place, place', Option.map_some, reach]

/-- A block of comments becomes the remark that has moved, carried by the region that has moved. -/
theorem blockRemark_returned {block : List Comment}
    (each : ∀ comment ∈ block, ∃ stretch : Nat × Nat,
      Comment.Fills text comment stretch ∧ Comment.Inside text stretch ∧ stretch.1 ≤ stretch.2)
    (skeleton : Rose Region) (key : Nat)
    : blockRemark (LineTable.ofText (returned text)) (skeleton.map (Region.move (shifted text))) key
        block
      = (blockRemark (LineTable.ofText text) skeleton key block).map
          (Remark.move (shifted text)) := by
  unfold blockRemark
  cases head : block.head? with
  | none => rfl
  | some first =>
      cases tail : block.getLast? with
      | none => rfl
      | some last =>
          obtain ⟨stretch, fills, inside, proper⟩ := each first (List.mem_of_head? head)
          obtain ⟨stretch', fills', inside', proper'⟩ := each last (List.mem_of_getLast? tail)
          simp only [Option.bind_eq_bind, Option.bind_some,
            fills.charOffset?_returned inside proper (Or.inl rfl),
            fills'.charOffset?_returned inside' proper' (Or.inr rfl)]
          cases (LineTable.ofText text).charOffset? first.row first.column with
          | none => rfl
          | some start =>
              cases (LineTable.ofText text).charOffset? last.row
                  (last.column + last.text.length) with
              | none => rfl
              | some stop =>
                  have around := innermost_move text start stop skeleton
                  rw [Text.shifted_natCast, Text.shifted_natCast] at around
                  simp [around, Remark.move, Region.move, Region.stop]

/-- The comments of a program become the remarks that have moved. -/
theorem commentRemarks_returned (plain : '\r' ∉ text) {comments : List Comment}
    (read : Comment.ofText text = some comments)
    (same : Comment.stretches .code 0 0 text = some found) (skeleton : Rose Region) (firstKey : Nat)
    : commentRemarks (returned text) (skeleton.map (Region.move (shifted text))) firstKey comments
      = (commentRemarks text skeleton firstKey comments).map (Remark.move (shifted text)) := by
  have fills := Comment.ofText_fills plain read same
  have inside := Comment.inside_of_stretches (n := 0) same
  have order := Comment.inOrder_of_stretches same
  have each : ∀ block ∈ Comment.blocks comments, ∀ comment ∈ block, ∃ stretch : Nat × Nat,
      Comment.Fills text comment stretch ∧ Comment.Inside text stretch
        ∧ stretch.1 ≤ stretch.2 := by
    intro block among comment member
    obtain ⟨stretch, there, fill⟩ :=
      Tree.exists_of_forall₂ fills comment (Comment.mem_of_mem_block among member)
    exact ⟨stretch, fill, inside stretch there, Nat.le_of_lt (order.bounded stretch there).2⟩
  -- a remark's key counts the blocks before it, so the blocks are compared place by place
  have moves : ((Comment.blocks comments).mapIdx fun index block =>
        blockRemark (LineTable.ofText (returned text)) (skeleton.map (Region.move (shifted text)))
          (firstKey + index) block)
      = ((Comment.blocks comments).mapIdx fun index block =>
          blockRemark (LineTable.ofText text) skeleton (firstKey + index) block).map
            (Option.map (Remark.move (shifted text))) := by
    refine List.ext_getElem (by simp) fun index _ _ => ?_
    rw [List.getElem_map, List.getElem_mapIdx, List.getElem_mapIdx]
    exact blockRemark_returned (each _ (List.getElem_mem _)) skeleton (firstKey + index)
  rw [commentRemarks, commentRemarks, moves, List.filterMap_map, List.map_filterMap]
  rfl

end FoldTree.Source
