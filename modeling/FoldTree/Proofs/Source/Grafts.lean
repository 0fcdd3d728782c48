import FoldTree.Proofs.Source.Attribution
import FoldTree.Proofs.Source.Places
import FoldTree.Proofs.Source.UniqueCosts
import FoldTree.Proofs.Tree.Completeness

/-! What hangs under the regions of a source. Each construct that starts with a text has one doc
remark, each block of comments has one remark too, and all of them are carried by regions of the
skeleton. So the tree of an outline has one node for every region and one for every remark.
-/

namespace FoldTree.Source

open Text (LineTable)
open FoldTree.Tree (Counted)

variable {source : List Char} {program : List Stmt} {parts : Rose Part}

/-! ### Constructs with regions -/

/-- The parts of a program that make regions in their order, each with the parts that it is inside
of.
-/
def regionPlaces (program : List Stmt) : List (Rose Construct × List (Rose Construct)) :=
  ((moduleConstructs program).partTree.lineages []).filter (·.1.value.makesRegion)

/-- The texts that constructs with regions start with, each with the key of the region. -/
def startingTexts (program : List Stmt) : List (Nat × Extent × List Char) :=
  (regionPlaces program).zipIdx.filterMap fun (place, key) =>
    place.1.value.text?.map fun text => (key, text)

/-- A text as the doc text of a region. -/
def Doc.ofText (source : List Char) (text : Extent × List Char) : Doc :=
  let span := (span? (LineTable.ofText source) text.1).getD (0, 0)
  ⟨span.1, span.2, Term.splitText text.2⟩

/-- A construct has the doc text that it starts with, if there is a place for it. -/
theorem Construct.join_doc? {construct : Construct}
    (placed : (construct.doc? source).isSome = true)
    : (construct.doc? source).join = construct.text?.map (Doc.ofText source) := by
  unfold doc? at placed ⊢
  cases starts : construct.text? with
  | none => rfl
  | some text =>
      simp only [starts, Option.isSome_map] at placed
      obtain ⟨span, spans⟩ := Option.isSome_iff_exists.mp placed
      simp [spans, Doc.ofText]

/-- The skeleton has the regions of the constructs that make them. -/
theorem parts?_regions (read : parts? source program = some parts)
    : parts.preorder.map (·.region)
      = (regionPlaces program).map fun (part, above) => regionOf source above part := by
  have gathered := gather_moduleConstructs source program
  rw [read, Option.map_some] at gathered
  have regions : regionLineages (Rose.lineagesAll [] [parts])
      = placedRegions source ((moduleConstructs program).partTree.lineages []) :=
    gather_regions _ gathered rfl rfl
  -- each list of regions along the way up starts with the region itself
  have heads := congrArg (List.map List.head?) regions
  rw [Rose.lineagesAll, Rose.lineagesAll, List.append_nil, regionLineages, placedRegions,
    List.map_map, List.map_map] at heads
  refine List.map_injective_iff.mpr (Option.some_injective Region) ?_
  rw [List.map_map, ← Rose.map_fst_lineages [] parts, List.map_map, List.map_map]
  refine heads.trans (List.map_congr_left fun place member => ?_)
  have makes := (List.mem_filter.mp member).2
  simp only [Function.comp_apply, regionsAlong, if_pos makes, List.head?_cons]

/-- The regions of the skeleton have the doc texts of the constructs that make them. -/
theorem parts?_docs (read : parts? source program = some parts)
    : parts.preorder.map (·.doc)
      = (regionPlaces program).map fun place => place.1.value.text?.map (Doc.ofText source) := by
  have gathered := gather_moduleConstructs source program
  rw [read, Option.map_some] at gathered
  have docs := gather_docs _ gathered
  rw [Rose.preorderAll, Rose.preorderAll, List.append_nil] at docs
  have places : (moduleConstructs program).preorder.filter Construct.makesRegion
      = (regionPlaces program).map (·.1.value) := by
    have constructs := congrArg Rose.preorder (Rose.map_value_partTree (moduleConstructs program))
    rw [Rose.preorder_map, ← Rose.map_fst_lineages [], List.map_map] at constructs
    rw [← constructs, List.filter_map]
    rfl
  rw [docs, places, List.map_map]
  refine List.map_congr_left fun place member => ?_
  have among : place.1.value ∈ (moduleConstructs program).preorder := by
    refine List.mem_of_mem_filter (p := Construct.makesRegion) ?_
    rw [places]
    exact List.mem_map_of_mem (f := fun place : Rose Construct × _ => place.1.value) member
  have placed := (gather_isSome_iff (moduleConstructs program) false).mp
    (gathered ▸ Option.isSome_some) place.1.value among (List.mem_filter.mp member).2
  exact Construct.join_doc? placed.2

/-! ### Numbers -/

/-- Numbering gives each region its place. -/
theorem preorder_numbered (parts : Rose Part)
    : (numbered parts).preorder
      = parts.preorder.zipIdx.map fun (part, key) =>
          { part with region := { part.region with key } } := by
  rw [numbered, (Rose.number_preorder _ 0 parts).1, List.mapIdx_eq_zipIdx_map]
  simp only [Nat.zero_add]

/-- The skeleton of a program has the regions of its constructs, numbered in their order. -/
theorem preorder_skeleton (read : parts? source program = some parts)
    : ((numbered parts).map (·.region)).preorder
      = (regionPlaces program).zipIdx.map fun (place, key) =>
          { regionOf source place.2 place.1 with key } := by
  have regions := congrArg List.zipIdx (parts?_regions read)
  have keyed := congrArg (List.map fun (region, key) => ({ region with key } : Region)) regions
  rw [List.zipIdx_map, List.zipIdx_map, List.map_map, List.map_map] at keyed
  rw [Rose.preorder_map, preorder_numbered, List.map_map]
  exact keyed

/-- The doc texts of a program are those that its constructs start with. -/
theorem docRemarks_numbered (read : parts? source program = some parts) (firstKey : Nat)
    : docRemarks (numbered parts) firstKey
      = (startingTexts program).mapIdx fun index (carrier, text) =>
          (Doc.ofText source text).remark carrier (firstKey + index) := by
  have docs := congrArg List.zipIdx (parts?_docs read)
  have keyed := congrArg
    (List.filterMap fun (doc, key) => doc.map fun doc : Doc => ((key : Nat), doc)) docs
  rw [List.zipIdx_map, List.zipIdx_map, List.filterMap_map, List.filterMap_map] at keyed
  have carried : ((numbered parts).preorder.filterMap fun part =>
        part.doc.map fun doc => (part.region.key, doc))
      = (startingTexts program).map fun (carrier, text) => (carrier, Doc.ofText source text) := by
    rw [preorder_numbered, List.filterMap_map, startingTexts, List.map_filterMap]
    refine Eq.trans keyed (List.filterMap_congr fun place _ => ?_)
    simp [Function.comp_def]
  rw [docRemarks, carried, List.mapIdx_eq_zipIdx_map, List.mapIdx_eq_zipIdx_map, List.zipIdx_map,
    List.map_map]
  rfl

/-- Doc texts have keys that count from a first one on. -/
theorem docRemarks_keys (parts : Rose Part) (firstKey : Nat)
    : (docRemarks parts firstKey).map (·.region.key)
      = List.range' firstKey (docRemarks parts firstKey).length :=
  List.ext_getElem (by simp) fun i _ _ => by simp [docRemarks, Doc.remark]

/-- A region of the skeleton carries each doc text, the one that it belongs to. -/
theorem exists_carrier_of_doc {firstKey : Nat} {remark : Remark}
    (member : remark ∈ docRemarks parts firstKey)
    : ∃ region ∈ (parts.map (·.region)).preorder, region.key = remark.carrier := by
  obtain ⟨-, part, inside, doc, -, same⟩ := exists_of_mem_docRemarks member
  refine ⟨part.region, ?_, (congrArg Remark.carrier same).symm⟩
  rw [Rose.preorder_map]
  exact List.mem_map_of_mem inside

/-- A region of the skeleton carries each block of comments: the innermost one is always some part.
-/
theorem IsNoteOf.exists_carrier {block : List Comment} {remark : Remark}
    (isNoteOf : IsNoteOf source (parts.map (·.region)) block remark)
    : ∃ region ∈ (parts.map (·.region)).preorder, region.key = remark.carrier := by
  obtain ⟨part, inside, same, -⟩ :=
    exists_innermost remark.region.start remark.region.stop parts
  refine ⟨part.value.region, ?_, (isNoteOf.carrier.trans (congrArg Region.key same)).symm⟩
  rw [Rose.preorder_map, ← Rose.map_value_subtrees, List.map_map]
  exact List.mem_map_of_mem (f := fun part : Rose Part => part.value.region) inside

namespace Outline

variable {file : Path} {outline : Outline}

/-- The docs and the notes of a skeleton hang on it, when their keys count on from those of its
regions.
-/
theorem hung_append {skeleton : Rose Region} (counted : Counted skeleton.preorder 0)
    {docs notes : List Remark}
    (docKeys : docs.map (·.region.key) = List.range' skeleton.size docs.length)
    (noteKeys : notes.map (·.region.key) = List.range' (skeleton.size + docs.length) notes.length)
    (carried : ∀ remark ∈ docs ++ notes, ∃ region ∈ skeleton.preorder, region.key = remark.carrier)
    : Hung skeleton (docs ++ notes) := by
  refine ⟨carried, ?_⟩
  have all := List.range'_append_1 (s := 0) (m := skeleton.size) (n := docs.length + notes.length)
  rw [← List.range'_append_1, Nat.zero_add] at all
  rw [counted, List.map_append, docKeys, noteKeys]
  exact all ▸ List.nodup_range'

/-- The remarks of a source hang on its skeleton, which has the regions of the constructs that make
them. There is one doc text for each construct that starts with a text, carried by the region of the
construct, and one more remark for each block of comments, with every comment in just one block. All
remarks are carried by regions of the skeleton, and what they stand for is apart from these and
carries nothing. So the tree of the source has as many nodes as there are regions and remarks, every
remark is one of them, and no term is lost or counted twice.
-/
theorem ofText_grafts (read : ofText source file = .ok outline)
    : ∃ program comments notes tree,
        statements? source = some program
        ∧ Comment.ofText source = some comments
        ∧ outline.skeleton.preorder
          = (regionPlaces program).zipIdx.map (fun (place, key) =>
              { regionOf source place.2 place.1 with key })
        ∧ outline.remarks
          = (startingTexts program).mapIdx (fun index (carrier, text) =>
              (Doc.ofText source text).remark carrier (outline.skeleton.size + index)) ++ notes
        ∧ comments.Pairwise Comment.Before
        ∧ (Comment.blocks comments).flatten = comments
        ∧ List.Forall₂ (IsNoteOf source outline.skeleton) (Comment.blocks comments) notes
        ∧ Hung outline.skeleton outline.remarks
        ∧ (∀ remark ∈ outline.remarks, ∀ other ∈ outline.remarks,
            other.carrier ≠ remark.region.key)
        ∧ outline.build = .ok tree
        ∧ tree.Holds outline.skeleton outline.remarks := by
  obtain ⟨program, parts, comments, written, made, commented, rfl⟩ := exists_of_ofText read
  have counted := Part.counted_numbered parts
  obtain ⟨noteKeys, areNotes⟩ := commentRemarks_spec commented ((numbered parts).map (·.region))
    (((numbered parts).map (·.region)).size
      + (docRemarks (numbered parts) ((numbered parts).map (·.region)).size).length)
  have docs := docRemarks_numbered made ((numbered parts).map (·.region)).size
  rw [areNotes.length_eq] at noteKeys
  have hung := hung_append counted (docRemarks_keys _ _) noteKeys fun remark member => by
    rcases List.mem_append.mp member with isDoc | isNote
    · exact exists_carrier_of_doc isDoc
    · obtain ⟨block, -, isNoteOf⟩ := Tree.exists_of_forall₂ areNotes.flip remark isNote
      exact isNoteOf.exists_carrier
  obtain ⟨tree, built, holds⟩ := hung.exists_holds source file
  exact ⟨program, comments, _, tree, written, commented, preorder_skeleton made,
    congrArg (· ++ _) docs, (Comment.ofText_placed commented).ordered,
    Comment.blocks_flatten comments, areNotes, hung, hung.bare, built, holds⟩

/-- A module and a function with doc texts, two lines of comments and a comment behind code. -/
def commentedText : List Char :=
  "'aa'\ndef bb():\n 'cc'\n # dd\n # ee\n ff # gg\n".toList

/-- The comment behind the code of the function lies behind the function, so the module carries it,
and all four remarks have nodes behind those of the two regions.
-/
theorem commentedText_grafts
    : ∃ outline tree,
        ofText commentedText ⟨[], [['a']]⟩ = .ok outline
        ∧ outline.remarks.map (fun remark => (remark.carrier, remark.region.kind, remark.terms))
          = [(0, "docstring", ["aa"]), (1, "docstring", ["cc"]), (1, "comment", ["dd", "ee"]),
              (0, "comment", ["gg"])]
        ∧ outline.build = .ok tree
        ∧ tree.nodes.length = 6 := by
  have counts : (ofText commentedText ⟨[], [['a']]⟩).toOption.map (fun outline =>
      (outline.skeleton.size,
        outline.remarks.map fun remark => (remark.carrier, remark.region.kind, remark.terms)))
      = some (2, [(0, "docstring", ["aa"]), (1, "docstring", ["cc"]), (1, "comment", ["dd", "ee"]),
          (0, "comment", ["gg"])]) := by
    decide +kernel
  cases read : ofText commentedText ⟨[], [['a']]⟩ with
  | error fault => simp [read, Except.toOption] at counts
  | ok outline =>
      simp only [read, Except.toOption, Option.map_some, Option.some.injEq, Prod.mk.injEq] at counts
      obtain ⟨regions, remarks⟩ := counts
      obtain ⟨_, _, _, tree, -, -, -, -, -, -, -, -, -, built, holds⟩ := ofText_grafts read
      have many := congrArg List.length remarks
      rw [List.length_map] at many
      refine ⟨outline, tree, rfl, remarks, built, ?_⟩
      rw [holds.count, regions, many]
      rfl

end Outline

end FoldTree.Source
