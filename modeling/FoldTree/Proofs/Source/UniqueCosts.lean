import FoldTree.Proofs.Offer.Failing
import FoldTree.Proofs.Source.Carriers
import FoldTree.Proofs.Tree.Construction

/-! What the nodes of a program's tree cost by themselves. Comments are placed by the skeleton and
never by doc texts, so a doc text of several literals may have comments inside of it that hang
beside it. Their newlines are counted twice; nothing else is.
-/

namespace FoldTree.Source

open FoldTree.Tree (Counted remarksOf)

namespace Outline

/-- An outline is laid out in its text: its regions nest, and its comments stand one behind the
other, each carried by the innermost region around it.
-/
structure Laid (outline : Outline) (found : List (Nat × Nat)) (parts : Rose Part)
    (comments : List Remark) (extents : List (Nat × Nat)) : Prop where
  holds : Part.Holds outline.source found parts 0 outline.source.length
  skeleton : outline.skeleton = parts.map (·.region)
  remarks : outline.remarks = docRemarks parts outline.skeleton.size ++ comments
  counted : Counted (parts.map (·.region)).preorder 0
  blocks : ∀ extent ∈ extents, ∃ block, Comment.BlockFills outline.source found block extent
  carried : List.Forall₂ (IsCommentAt (parts.map (·.region))) comments extents
  ordered : extents.Pairwise fun first later => first.2 ≤ later.1
  fresh : ∀ comment ∈ comments, outline.skeleton.size ≤ comment.region.key

variable {source : List Char} {file : Path} {outline : Outline}

/-- What is read for an outline of a text. -/
theorem exists_of_ofText (read : ofText source file = .ok outline)
    : ∃ program parts comments,
        statements? source = some program
        ∧ parts? source program = some parts
        ∧ Comment.ofText source = some comments
        ∧ outline
          = { file,
              source,
              skeleton := (numbered parts).map (·.region)
              remarks :=
                docRemarks (numbered parts) ((numbered parts).map (·.region)).size
                ++ commentRemarks source ((numbered parts).map (·.region))
                    (((numbered parts).map (·.region)).size
                      + (docRemarks (numbered parts)
                          ((numbered parts).map (·.region)).size).length)
                    comments } := by
  unfold ofText at read
  by_cases null : Char.ofNat 0 ∈ source
  · simp [null] at read
  · cases written : statements? source with
    | none => simp [null, written] at read
    | some program =>
        cases made : parts? source program with
        | none => simp [null, written, made] at read
        | some parts =>
            cases commented : Comment.ofText source with
            | none => simp [null, written, made, commented] at read
            | some comments =>
                simp only [List.contains_eq_mem, null, written, made, commented] at read
                cases read
                exact ⟨program, parts, comments, rfl, made, rfl, rfl⟩

/-- The outline of a text without carriage returns is laid out in it. -/
theorem exists_laid (plain : '\r' ∉ source) (read : ofText source file = .ok outline)
    : ∃ found parts comments extents,
        outline.source = source
        ∧ outline.Laid found parts comments extents := by
  obtain ⟨program, parts, comments, written, made, commented, rfl⟩ := exists_of_ofText read
  obtain ⟨found, all, row⟩ := statements?_row written
  rw [unifyLineEnds_eq plain] at all row
  have order := Comment.inOrder_of_stretches all
  have inside := Comment.inside_of_stretches (n := 0) all
  obtain ⟨extents, blocks, ordered, -⟩ := Comment.blocks_fill
    (Comment.ofText_fills plain commented all) order.apart
    (fun stretch member => ⟨(order.bounded stretch member).2, inside stretch member⟩)
    (fun _ member => member)
  have remarks := blockRemarks_forall₂ blocks ((numbered parts).map (·.region))
    (((numbered parts).map (·.region)).size
      + (docRemarks (numbered parts) ((numbered parts).map (·.region)).size).length)
  refine ⟨found, numbered parts, _, extents, rfl, (parts?_fill row made).holds.numbered, rfl, rfl,
    Part.counted_numbered parts, ?_, remarks.imp fun _ _ both => both.2, ordered, ?_⟩
  · intro extent member
    obtain ⟨block, -, fills⟩ := Tree.exists_of_forall₂ blocks.flip extent member
    exact ⟨block, fills⟩
  · intro comment member
    obtain ⟨extent, -, later, -⟩ := Tree.exists_of_forall₂ remarks comment member
    exact Nat.le_of_add_right_le later

variable {found extents : List (Nat × Nat)} {parts : Rose Part} {comments : List Remark}

/-- All remarks are carried by regions of the skeleton, whose keys are below those of remarks. -/
theorem Laid.carrier_lt (laid : outline.Laid found parts comments extents)
    : ∀ remark ∈ outline.remarks, remark.carrier < outline.skeleton.size := by
  rw [laid.remarks, laid.skeleton]
  intro remark member
  rcases List.mem_append.mp member with isDoc | isComment
  · obtain ⟨-, part, inside, doc, -, same⟩ := exists_of_mem_docRemarks isDoc
    rw [same]
    exact key_lt_size laid.counted inside
  · obtain ⟨extent, -, here⟩ := Tree.exists_of_forall₂ laid.carried remark isComment
    obtain ⟨part, inside, same, -⟩ := exists_innermost (extent.1 : Int) extent.2 parts
    rw [here.carrier, same]
    refine key_lt_size laid.counted ?_
    rw [← Rose.map_value_subtrees]
    exact List.mem_map_of_mem inside

/-- What remarks stand for carries no remarks of its own. -/
theorem Laid.bare (laid : outline.Laid found parts comments extents)
    : ∀ remark ∈ outline.remarks, remarksOf outline.remarks remark.region = [] := by
  intro remark member
  have later : outline.skeleton.size ≤ remark.region.key := by
    rw [laid.remarks] at member
    rcases List.mem_append.mp member with isDoc | isComment
    · exact (exists_of_mem_docRemarks isDoc).1
    · exact laid.fresh remark isComment
  refine List.filter_eq_nil_iff.mpr fun other inside same => ?_
  have earlier := laid.carrier_lt other inside
  rw [eq_of_beq same] at earlier
  omega

/-- What hangs under a region of the skeleton is arranged in it. -/
theorem Laid.arranged (laid : outline.Laid found parts comments extents) {part : Rose Region}
    (member : part ∈ outline.skeleton.subtrees)
    : ∃ docs comments,
        (remarksOf outline.remarks part.value).map Remark.region = docs ++ comments
        ∧ part.value.Arranged (part.children.map Rose.value) docs comments := by
  rw [laid.skeleton, Rose.subtrees_map] at member
  obtain ⟨part, inside, rfl⟩ := List.mem_map.mp member
  have arranged := Source.arranged laid.holds laid.counted laid.blocks laid.carried laid.ordered
    outline.skeleton.size inside
  have children : (part.map (·.region)).children.map Rose.value
      = part.children.map fun branch => branch.value.region := by
    rw [Rose.children_map, List.map_map]
    exact List.map_congr_left fun branch _ => branch.value_map _
  rw [Rose.value_map, children]
  refine ⟨_, _, ?_, arranged⟩
  rw [laid.remarks, remarksOf, List.filter_append, List.map_append]
  rfl

/-- Every node of the tree stands for a region, and its children for regions arranged in it. -/
theorem Laid.exists_arranged (laid : outline.Laid found parts comments extents) {tree : Tree}
    {news : NodeId → List NodeId}
    (built : tree.Built outline.skeleton outline.remarks news) {id : NodeId}
    (made : id < tree.nodes.length)
    : ∃ around below docs comments,
        tree.StandsFor id around
        ∧ List.Forall₂ tree.StandsFor (tree.childrenOf id) (below ++ (docs ++ comments))
        ∧ around.Arranged below docs comments := by
  rcases Tree.mem_preorder_leafed (built.all.mem_iff.mpr (List.mem_range.mpr made)) with
    ⟨part, member, rfl⟩ | ⟨part, member, new⟩
  · obtain ⟨docs, comments, same, arranged⟩ := laid.arranged member
    have stands (part : Rose Region) (member : part ∈ outline.skeleton.subtrees)
        : tree.StandsFor part.value.key part.value :=
      Tree.standsFor_of_face (built.regions part member) rfl
    refine ⟨_, _, docs, comments, stands part member, ?_, arranged⟩
    rw [Tree.childrenOf_eq (built.regions part member)]
    refine List.rel_append ?_ ?_
    · rw [List.forall₂_map_left_iff, List.forall₂_map_right_iff, List.forall₂_same]
      intro branch below
      cases part with
      | node top branches => exact stands branch (Rose.branch_mem_subtrees member below)
    · rw [← same, List.forall₂_map_right_iff]
      exact (built.leaves part member).imp fun _ _ isLeaf => isLeaf.standsFor
  · obtain ⟨docs, comments, same, arranged⟩ := laid.arranged member
    obtain ⟨remark, carried, isLeaf⟩ := Tree.exists_of_forall₂ (built.leaves part member) id new
    have hangs : remark.region ∈ docs ++ comments := by
      rw [← same]
      exact List.mem_map_of_mem carried
    have start := Tree.start_arranged arranged remark.region (List.mem_append_right _ hangs)
    refine ⟨remark.region, [], [], [], isLeaf.standsFor, ?_, ?_⟩
    · rw [Tree.childrenOf_eq isLeaf]
      exact .nil
    · exact ⟨start, by simp, .nil, by simp, by simp, by simp⟩

/-- The children of every node of the tree share its newlines in pairs at most. -/
theorem Laid.paired (laid : outline.Laid found parts comments extents) {tree : Tree}
    {news : NodeId → List NodeId}
    (built : tree.Built outline.skeleton outline.remarks news) {id : NodeId}
    (made : id < tree.nodes.length)
    : tree.Paired id := by
  obtain ⟨around, below, docs, comments, stands, children, arranged⟩ :=
    laid.exists_arranged built made
  exact stands.paired children arranged

/-- The newlines that the children of a node share are those of comments inside its doc text. -/
theorem Laid.mem_sharedNewlines (laid : outline.Laid found parts comments extents) {tree : Tree}
    {news : NodeId → List NodeId}
    (built : tree.Built outline.skeleton outline.remarks news) (id : NodeId) (i : Nat)
    : i ∈ tree.sharedNewlines id ↔ tree.DocShares id i := by
  by_cases made : id < tree.nodes.length
  · obtain ⟨around, below, docs, comments, stands, children, arranged⟩ :=
      laid.exists_arranged built made
    exact stands.mem_sharedNewlines children arranged
  · have absent : tree.nodes[id]? = none := List.getElem?_eq_none (Nat.le_of_not_lt made)
    simp [Tree.sharedNewlines, Tree.newlines, Tree.DocShares, Tree.childrenOf, absent]

/-- Whatever is marked unfolded, the nodes that are broken are those still folded ones whose
children share more newlines than they have of their own.
-/
theorem Laid.broken_iff (laid : outline.Laid found parts comments extents) {tree : Tree}
    {news : NodeId → List NodeId}
    (built : tree.Built outline.skeleton outline.remarks news) (marks : List NodeId)
    : (∃ id ∈ (Tree.leafed news outline.skeleton).preorder, (tree.mark marks).isBroken id = true)
      ↔ ∃ id, (tree.mark marks).folded id = true ∧ tree.Overlaid id := by
  simp only [Tree.isBroken_mark, Bool.and_eq_true, decide_eq_true_eq]
  constructor
  · rintro ⟨id, -, folded, short⟩
    have made := Tree.lt_of_folded_mark folded
    exact ⟨id, folded, (laid.paired built made).netLines_neg_iff.mp short⟩
  · rintro ⟨id, folded, overlaid⟩
    have made := Tree.lt_of_folded_mark folded
    exact ⟨id, built.all.mem_iff.mpr (List.mem_range.mpr made), folded,
      (laid.paired built made).netLines_neg_iff.mpr overlaid⟩

/-- A program's tree counts just those newlines twice that a comment inside of a doc text shows. A
node costs by itself how many newlines none of its children shows, less those that are counted
twice. So its cost is below zero just where these are more, and a pass without a content model fails
just where such a node is folded, whatever has been marked unfolded.
-/
theorem ofText_uniqueCosts (plain : '\r' ∉ source) (read : ofText source file = .ok outline)
    : ∃ tree,
        outline.build = .ok tree
        ∧ (∀ id i, i ∈ tree.sharedNewlines id ↔ tree.DocShares id i)
        ∧ (∀ id node,
            tree.nodes[id]? = some node
            → tree.uniqueCost node
              = let cost : Int := (tree.ownNewlines id).card - (tree.sharedNewlines id).card
                if tree.Overlaid id then .error (.negativeUniqueCost cost id node.span)
                else .ok cost)
        ∧ ∀ marks,
            ((∃ fault, (tree.mark marks).baseline = .error fault)
              ↔ ∃ id, (tree.mark marks).folded id = true ∧ tree.Overlaid id)
            ∧ ∀ settings sampler,
                settings.profit.policy = .noContentModel
                → ((∃ fault, ((tree.mark marks).scored settings sampler).1 = .error fault)
                  ↔ ∃ id, (tree.mark marks).folded id = true ∧ tree.Overlaid id) := by
  obtain ⟨found, parts, comments, extents, same, laid⟩ := exists_laid plain read
  have counted : Counted outline.skeleton.preorder 0 := laid.skeleton ▸ laid.counted
  obtain ⟨tree, news, made, -, built⟩ :=
    Tree.exists_built outline.source outline.file counted laid.bare
  refine ⟨tree, made, laid.mem_sharedNewlines built, ?_, fun marks => ?_⟩
  · intro id node found
    have paired := laid.paired built (List.getElem?_eq_some_iff.mp found).1
    have numbered := built.forms.numbered id node found
    rw [Tree.uniqueCost_eq found]
    simp only [paired.netLines_neg_iff]
    simp only [Tree.brokenFault, found, numbered, paired.netLines_eq]
  · obtain ⟨root, faces⟩ := tree.mark_faces marks
    have forms := built.forms.of_faces faces root
    rw [forms.baseline_fails_iff, laid.broken_iff built marks]
    refine ⟨Iff.rfl, fun settings sampler policy => ?_⟩
    rw [Pass.scored_fails_iff forms policy sampler, laid.broken_iff built marks]

/-- A doc text of two literals between brackets, with two lines of comments between them. -/
def splitDoc : List Char :=
  ['(', '"', 'a', '"', '\n', '#', ' ', 'x', '\n', '#', ' ', 'y', '\n', '"', 'b', '"', ')', '\n']

/-- The doc text shows all lines of the module, and the comments inside of it show one of them
again, so that the module would cost less than nothing and a pass fails until it is unfolded.
-/
theorem splitDoc_uniqueCosts
    : '\r' ∉ splitDoc
      ∧ ∃ outline tree node,
          ofText splitDoc ⟨[], [['a']]⟩ = .ok outline
          ∧ outline.build = .ok tree
          ∧ tree.nodes[0]? = some node
          ∧ tree.uniqueCost node = .error (.negativeUniqueCost (-1) 0 node.span)
          ∧ (∃ fault, tree.baseline = .error fault)
          ∧ ¬∃ fault, (tree.mark [0]).baseline = .error fault := by
  have plain : '\r' ∉ splitDoc := by decide
  refine ⟨plain, ?_⟩
  have counts : ((ofText splitDoc ⟨[], [['a']]⟩).toOption.bind (·.build.toOption)).map (fun tree =>
      ((tree.ownNewlines 0).card, (tree.sharedNewlines 0).card, tree.folded 0,
        (List.range tree.nodes.length).filter fun id =>
          (tree.mark [0]).folded id && decide (tree.Overlaid id)))
      = some (0, 1, true, []) := by
    decide +kernel
  cases read : ofText splitDoc ⟨[], [['a']]⟩ with
  | error fault => simp [read, Except.toOption] at counts
  | ok outline =>
      obtain ⟨tree, built, -, costs, marks⟩ := ofText_uniqueCosts plain read
      simp only [read, Except.toOption, Option.bind_some, built, Option.map_some, Option.some.injEq,
        Prod.mk.injEq] at counts
      obtain ⟨own, shared, folded, fine⟩ := counts
      obtain ⟨node, found⟩ := Tree.exists_of_folded folded
      have overlaid : tree.Overlaid 0 := by
        rw [Tree.Overlaid, own, shared]
        decide
      have cost := costs 0 node found
      simp only [own, shared, overlaid, if_true] at cost
      refine ⟨outline, tree, node, rfl, built, found, cost,
        (marks []).1.mpr ⟨0, folded, overlaid⟩, fun fails => ?_⟩
      obtain ⟨id, folded, overlaid⟩ := (marks [0]).1.mp fails
      refine List.filter_eq_nil_iff.mp fine id ?_ ?_
      · exact List.mem_range.mpr (Tree.lt_of_folded_mark folded)
      · simp [folded, overlaid]

end Outline

end FoldTree.Source
