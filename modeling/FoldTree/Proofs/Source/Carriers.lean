import FoldTree.Proofs.Source.Innermost
import FoldTree.Proofs.Source.Nesting
import FoldTree.Proofs.Tree.Sharing
import FoldTree.Source.Outline

/-! What the regions of a program carry. The innermost region around a block of comments carries it,
so the regions below that one lie beside the block; the doc text of the region may lie around it.
-/

namespace FoldTree.Source

open Text (LineTable)
open FoldTree.Tree (Counted remarksOf)

variable {text : List Char} {found : List (Nat × Nat)} {parts part : Rose Part}
  {skeleton : Rose Region} {extents : List (Nat × Nat)} {extent : Nat × Nat}

/-! ### The innermost region -/

/-- The innermost region around a range is some part of the skeleton that holds it, or all of it,
where no part directly below holds the range. Witness: induction on the skeleton.
-/
theorem exists_innermost (first behind : Int) (parts : Rose Part)
    : ∃ part ∈ parts.subtrees,
        innermost first behind (parts.map (·.region)) = part.value.region
        ∧ (part = parts ∨ part.value.region.contains first behind = true)
        ∧ ∀ branch ∈ part.children, branch.value.region.contains first behind = false := by
  induction parts using Rose.induction with
  | node top below ih =>
      rw [Rose.map, Rose.mapAll_eq_map, innermost, innermostOf_eq, List.find?_map]
      cases held : below.find? fun branch => branch.value.region.contains first behind with
      | none =>
          refine ⟨_, Rose.self_mem_subtrees _, ?_, Or.inl rfl, ?_⟩
          · simp only [Function.comp_def, Rose.value_map, held]
            rfl
          · intro branch member
            simpa using List.find?_eq_none.mp held branch member
      | some branch =>
          have member := List.mem_of_find?_eq_some held
          obtain ⟨part, inside, same, around, beside⟩ := ih branch member
          refine ⟨part, ?_, ?_, Or.inr ?_, beside⟩
          · rw [Rose.subtrees_node, List.mem_cons, List.mem_flatMap]
            exact Or.inr ⟨branch, member, inside⟩
          · simp only [Function.comp_def, Rose.value_map, held, Option.map_some, Option.getD_some, same]
          · rcases around with rfl | around
            · simpa using List.find?_some held
            · exact around

/-! ### Comments as remarks -/

/-- A remark stands for a block of comments, which the innermost region around it carries. -/
structure IsCommentAt (skeleton : Rose Region) (remark : Remark) (extent : Nat × Nat) : Prop where
  start : remark.region.start = extent.1
  stop : remark.region.stop = extent.2
  kind : remark.region.kind = RegionKind.comment.word
  carrier : remark.carrier = (innermost extent.1 extent.2 skeleton).key

/-- Every block of comments that fills a stretch makes a remark. -/
theorem Comment.BlockFills.blockRemark {block : List Comment}
    (fills : BlockFills text found block extent) (skeleton : Rose Region) (key : Nat)
    : ∃ remark,
        blockRemark (LineTable.ofText text) skeleton key block = some remark
        ∧ remark.region.key = key
        ∧ IsCommentAt skeleton remark extent := by
  obtain ⟨first, stop, head, starts⟩ := fills.first
  obtain ⟨last, start, tail, ends, order⟩ := fills.last
  have proper := fills.proper
  have bound := fills.bound
  have place := Text.charOffset?_lastLine (show extent.1 ≤ text.length by omega) 0
  have place' := Text.charOffset?_lastLine (show start ≤ text.length by omega) last.text.length
  have behind : extent.2 = start + last.text.length := ends.behind
  rw [← starts.row, Nat.add_zero, ← starts.column, Nat.add_zero] at place
  rw [← ends.row, ← ends.column, ← behind] at place'
  refine ⟨⟨⟨key, extent.1, (extent.2 : Int) - extent.1, RegionKind.comment.word, none, []⟩,
    (innermost extent.1 extent.2 skeleton).key, block.flatMap Comment.terms⟩, ?_, rfl, rfl, ?_, rfl,
    rfl⟩
  · simp only [Source.blockRemark, head, tail, place, place', Option.bind_eq_bind, Option.bind_some]
    rfl
  · simp only [Region.stop]
    omega

/-- Blocks of comments make a remark each, in order, with keys from a first one on. -/
theorem blockRemarks_forall₂ {blocks : List (List Comment)}
    (fills : List.Forall₂ (Comment.BlockFills text found) blocks extents)
    (skeleton : Rose Region) (firstKey : Nat)
    : List.Forall₂
        (fun remark extent => firstKey ≤ remark.region.key ∧ IsCommentAt skeleton remark extent)
        ((blocks.mapIdx fun index block =>
          blockRemark (LineTable.ofText text) skeleton (firstKey + index) block).filterMap id)
        extents := by
  induction fills generalizing firstKey with
  | nil => exact .nil
  | @cons block extent blocks extents fill _ ih =>
      obtain ⟨remark, made, key, isComment⟩ := fill.blockRemark skeleton firstKey
      have later := ih (firstKey + 1)
      simp only [Nat.add_right_comm firstKey 1, Nat.add_assoc] at later
      rw [List.mapIdx_cons, Nat.add_zero, made]
      refine .cons ⟨Nat.le_of_eq key.symm, isComment⟩ (later.imp fun remark extent => ?_)
      exact fun ⟨after, isComment⟩ => ⟨Nat.le_of_succ_le after, isComment⟩

/-- The comments that remarks stand for come one behind the other as their stretches do. -/
theorem comments_pairwise {remarks : List Remark}
    (comments : List.Forall₂ (IsCommentAt skeleton) remarks extents)
    (ordered : extents.Pairwise fun first later => first.2 ≤ later.1)
    : (remarks.map Remark.region).Pairwise Region.Apart := by
  induction comments with
  | nil => exact .nil
  | @cons remark extent remarks extents here rest ih =>
      obtain ⟨before, ordered⟩ := List.pairwise_cons.mp ordered
      refine .cons (fun region member => Or.inl ?_) (ih ordered)
      obtain ⟨later, inside, rfl⟩ := List.mem_map.mp member
      obtain ⟨extent', member', there⟩ := Tree.exists_of_forall₂ rest later inside
      rw [here.stop, there.start]
      exact Int.ofNat_le.mpr (before extent' member')

/-! ### Doc texts as remarks -/

/-- Doc texts become remarks that the regions they belong to carry, with keys from a first one on.
-/
theorem exists_of_mem_docRemarks {firstKey : Nat} {remark : Remark}
    (member : remark ∈ docRemarks parts firstKey)
    : firstKey ≤ remark.region.key
      ∧ ∃ part ∈ parts.preorder,
          ∃ doc ∈ part.doc,
            remark = doc.remark part.region.key remark.region.key := by
  obtain ⟨index, bound, rfl⟩ := List.mem_mapIdx.mp member
  refine ⟨Nat.le_add_right firstKey index, ?_⟩
  obtain ⟨part, inside, written⟩ := List.mem_filterMap.mp (List.getElem_mem bound)
  obtain ⟨doc, there, same⟩ := Option.map_eq_some_iff.mp written
  refine ⟨part, inside, doc, there, ?_⟩
  rw [← same]
  rfl

/-- The carriers of doc texts are some of the regions, in order, by induction on these. -/
theorem docRemarks_carriers (parts : Rose Part) (firstKey : Nat)
    : ((docRemarks parts firstKey).map Remark.carrier).Sublist
        (parts.preorder.map (·.region.key)) := by
  have carriers : (docRemarks parts firstKey).map Remark.carrier
      = (parts.preorder.filterMap fun part =>
          part.doc.map fun doc => (part.region.key, doc)).map Prod.fst :=
    List.ext_getElem (by simp [docRemarks]) fun i _ _ => by simp [docRemarks, Doc.remark]
  rw [carriers]
  induction parts.preorder with
  | nil => exact .slnil
  | cons part rest ih =>
      cases written : part.doc with
      | none => simpa [written] using ih.cons part.region.key
      | some doc => simpa [written] using ih.cons_cons part.region.key

/-- No two doc texts are carried by one region. -/
theorem length_docRemarks_le (distinct : (parts.preorder.map (·.region.key)).Nodup)
    (firstKey : Nat) (region : Region)
    : (remarksOf (docRemarks parts firstKey) region).length ≤ 1 := by
  have once := List.nodup_iff_count_le_one.mp
    (distinct.sublist (docRemarks_carriers parts firstKey)) region.key
  rwa [List.count, List.countP_map, List.countP_eq_length_filter] at once

/-! ### What one region carries -/

section

variable (holds : Part.Holds text found parts 0 text.length)
  (counted : Counted (parts.map (·.region)).preorder 0)

include counted in
/-- No two regions have one key. -/
theorem keys_nodup : (parts.preorder.map (·.region.key)).Nodup := by
  have keys : parts.preorder.map (·.region.key)
      = ((parts.map (·.region)).preorder).map Region.key := by
    rw [Rose.preorder_map, List.map_map]
    rfl
  rw [keys, counted]
  exact List.nodup_range'

include counted in
/-- The keys of regions are below their number. -/
theorem key_lt_size {region : Part} (member : region ∈ parts.preorder)
    : region.region.key < (parts.map (·.region)).size := by
  have among : region.region.key ∈ (parts.map (·.region)).preorder.map Region.key := by
    rw [Rose.preorder_map, List.map_map]
    exact List.mem_map_of_mem (f := Region.key ∘ Part.region) member
  rw [counted, List.mem_range'_1, Nat.zero_add] at among
  exact among.2

include counted in
/-- A part is known by the key of its region. -/
theorem part_eq_of_key {other : Rose Part} (member : part ∈ parts.subtrees)
    (member' : other ∈ parts.subtrees)
    (same : part.value.region.key = other.value.region.key)
    : part = other := by
  have keys : parts.subtrees.map (fun part => part.value.region.key)
      = parts.preorder.map (·.region.key) := by
    rw [← Rose.map_value_subtrees, List.map_map]
    rfl
  exact List.inj_on_of_nodup_map (keys ▸ keys_nodup counted) member member' same

include counted in
/-- A doc text that a region carries is the one that the region has. -/
theorem doc_of_carried {firstKey : Nat} {remark : Remark} (member : part ∈ parts.subtrees)
    (carried : remark ∈ remarksOf (docRemarks parts firstKey) part.value.region)
    : ∃ doc ∈ part.value.doc,
        remark = doc.remark part.value.region.key remark.region.key := by
  obtain ⟨isRemark, carrier⟩ := List.mem_filter.mp carried
  obtain ⟨-, other, inside, doc, written, same⟩ := exists_of_mem_docRemarks isRemark
  have value : part.value ∈ parts.preorder := by
    rw [← Rose.map_value_subtrees]
    exact List.mem_map_of_mem member
  have key : other.region.key = part.value.region.key := by
    rw [same] at carrier
    exact eq_of_beq carrier
  have here : other = part.value :=
    List.inj_on_of_nodup_map (keys_nodup counted) inside value key
  exact ⟨doc, here ▸ written, key ▸ same⟩

include counted in
/-- A block of comments that a region carries lies inside of it, unless the region is all there is,
and inside of no region directly below.
-/
theorem comment_of_carried {remark : Remark} (member : part ∈ parts.subtrees)
    (isComment : IsCommentAt (parts.map (·.region)) remark extent)
    (carrier : remark.carrier = part.value.region.key)
    : (part = parts ∨ part.value.region.contains extent.1 extent.2 = true)
      ∧ ∀ branch ∈ part.children, branch.value.region.contains extent.1 extent.2 = false := by
  obtain ⟨other, inside, same, around, beside⟩ :=
    exists_innermost (extent.1 : Int) extent.2 parts
  have here : part = other := by
    refine part_eq_of_key counted member inside ?_
    rw [← carrier, isComment.carrier, same]
  exact here ▸ ⟨around, beside⟩

include holds in
/-- Every region of a program goes from one offset of its text to another. -/
theorem exists_holds (member : part ∈ parts.subtrees)
    : ∃ first behind,
        behind ≤ text.length
        ∧ Part.Holds text found part first behind := by
  rcases holds.subtrees part member with rfl | ⟨first, behind, -, up, -, inner⟩
  · exact ⟨0, text.length, Nat.le_refl _, holds⟩
  · exact ⟨first, behind, up, inner⟩

/-- A region with a comment that it carries, which fills a stretch of the text. -/
structure CarriesAt (text : List Char) (found : List (Nat × Nat)) (part : Rose Part)
    (remark : Remark) (extent : Nat × Nat) : Prop where
  isBlock : ∃ block, Comment.BlockFills text found block extent
  start : remark.region.start = extent.1
  stop : remark.region.stop = extent.2
  kind : remark.region.kind = RegionKind.comment.word
  inside : remark.region.Within part.value.region
  beside : ∀ branch ∈ part.children, branch.value.region.contains extent.1 extent.2 = false

variable (blocks : ∀ extent ∈ extents, ∃ block, Comment.BlockFills text found block extent)
  {comments : List Remark}
  (isComments : List.Forall₂ (IsCommentAt (parts.map (·.region))) comments extents)

include holds counted blocks isComments in
/-- Comments lie inside of the regions that carry them, which the text does as a whole. -/
theorem exists_carriesAt (member : part ∈ parts.subtrees) {remark : Remark}
    (carried : remark ∈ remarksOf comments part.value.region)
    : ∃ extent ∈ extents, CarriesAt text found part remark extent := by
  obtain ⟨isRemark, carrier⟩ := List.mem_filter.mp carried
  obtain ⟨extent, among, isComment⟩ := Tree.exists_of_forall₂ isComments remark isRemark
  obtain ⟨around, beside⟩ := comment_of_carried counted member isComment (eq_of_beq carrier)
  obtain ⟨block, fills⟩ := blocks extent among
  refine ⟨extent, among, ⟨block, fills⟩, isComment.start, isComment.stop, isComment.kind, ?_,
    beside⟩
  rw [Region.Within, isComment.start, isComment.stop]
  rcases around with rfl | around
  · rw [holds.1, holds.stop]
    have bound := fills.bound
    omega
  · simpa [Region.contains] using around

/-- A comment that a region carries lies apart from the regions below. -/
theorem CarriesAt.apart {remark : Remark} {first behind : Nat}
    (inner : Part.Holds text found part first behind)
    (carries : CarriesAt text found part remark extent)
    : ∀ branch ∈ part.children, branch.value.region.Apart remark.region := by
  intro branch member
  obtain ⟨first', behind', -, -, spanned, start, stop⟩ := inner.below branch member
  obtain ⟨block, fills⟩ := carries.isBlock
  have outside := carries.beside branch member
  simp only [Region.contains, start, stop, Bool.and_eq_false_iff, decide_eq_false_iff_not]
    at outside
  rw [Region.Apart, start, stop, carries.start, carries.stop]
  have places := fills.beside spanned
  omega

include counted in
/-- The doc text that a region carries goes from one token to another before the regions below. -/
theorem doc_places {firstKey first behind : Nat} (member : part ∈ parts.subtrees)
    (inner : Part.Holds text found part first behind) {remark : Remark}
    (carried : remark ∈ remarksOf (docRemarks parts firstKey) part.value.region)
    : ∃ first' behind' : Nat,
        first ≤ first'
        ∧ behind' ≤ behind
        ∧ Spanned text found first' behind'
        ∧ remark.region.start = first'
        ∧ remark.region.stop = behind'
        ∧ remark.region.kind = RegionKind.docstring.word
        ∧ ∀ branch ∈ part.children, behind' ≤ branch.value.region.start := by
  obtain ⟨doc, written, same⟩ := doc_of_carried counted member carried
  obtain ⟨first', behind', after, up, spanned, start, length, before⟩ := inner.doc doc written
  refine ⟨first', behind', after, up, spanned, ?_, ?_, ?_, before⟩
  · rw [same]
    exact congrArg Int.ofNat start
  · rw [same, Region.stop]
    simp only [Doc.remark, start, length]
    omega
  · rw [same]
    rfl

include holds counted blocks isComments in
/-- What hangs under a region of a program is arranged in it. -/
theorem arranged (ordered : extents.Pairwise fun first later => first.2 ≤ later.1)
    (firstKey : Nat) (member : part ∈ parts.subtrees)
    : part.value.region.Arranged (part.children.map fun branch => branch.value.region)
        ((remarksOf (docRemarks parts firstKey) part.value.region).map Remark.region)
        ((remarksOf comments part.value.region).map Remark.region) := by
  obtain ⟨first, behind, bound, inner⟩ := exists_holds holds member
  have carries {remark : Remark} (carried : remark ∈ remarksOf comments part.value.region) :=
    exists_carriesAt holds counted blocks isComments member carried
  have docs {remark : Remark}
      (carried : remark ∈ remarksOf (docRemarks parts firstKey) part.value.region) :=
    doc_places counted member inner carried
  refine ⟨by rw [inner.1]; omega, ?inside, ?apart, ?single, ?beside, ?remarks⟩
  case inside =>
    simp only [List.mem_append, List.mem_map]
    rintro region (⟨branch, below, rfl⟩ | ⟨remark, carried, rfl⟩ | ⟨remark, carried, rfl⟩)
    · obtain ⟨first', behind', after, up, -, start, stop⟩ := inner.below branch below
      rw [Region.Within, inner.1, inner.stop, start, stop]
      omega
    · obtain ⟨first', behind', after, up, -, start, stop, -⟩ := docs carried
      rw [Region.Within, inner.1, inner.stop, start, stop]
      omega
    · obtain ⟨extent, -, carried⟩ := carries carried
      exact carried.inside
  case apart =>
    refine List.pairwise_append.mpr ⟨?_, ?_, ?_⟩
    · obtain ⟨-, -, k, -, row⟩ := inner
      exact List.pairwise_map.mpr (row.pairwise.imp Or.inl)
    · exact (comments_pairwise isComments ordered).sublist (List.filter_sublist.map _)
    · simp only [List.mem_map]
      rintro _ ⟨branch, below, rfl⟩ _ ⟨remark, carried, rfl⟩
      obtain ⟨extent, -, carried⟩ := carries carried
      exact carried.apart inner branch below
  case single =>
    rw [List.length_map]
    exact length_docRemarks_le (keys_nodup counted) firstKey part.value.region
  case beside =>
    simp only [List.mem_map]
    rintro _ ⟨remark, carried, rfl⟩
    obtain ⟨first', behind', -, -, spanned, start, stop, kind, before⟩ := docs carried
    refine ⟨kind, ?_, ?_⟩
    · rintro _ ⟨branch, below, rfl⟩
      exact Or.inl (stop ▸ before branch below)
    · rintro _ ⟨comment, carried', rfl⟩
      obtain ⟨extent, -, carried'⟩ := carries carried'
      -- a doc text is a token, and no token reaches into a block of comments
      obtain ⟨block, fills⟩ := carried'.isBlock
      have places := fills.beside spanned
      rw [Region.Apart, Region.Within, start, stop, carried'.start, carried'.stop]
      omega
  case remarks =>
    simp only [List.mem_map]
    rintro _ ⟨remark, carried, rfl⟩
    obtain ⟨extent, -, carried⟩ := carries carried
    exact carried.kind

end

end FoldTree.Source
