import FoldTree.Proofs.Source.Grafts
import FoldTree.Proofs.Term.Words

/-! The words in the tree of a source. Its nodes are called by the words for their kinds, and their
terms are of small letters alone, whatever the source holds.
-/

namespace FoldTree

namespace Tree

variable {source : List Char} {file : Path} {skeleton : Rose Region} {remarks : List Remark}
variable {tree : Tree}

/-- What nodes hold that stand for the regions of a skeleton and for remarks. -/
def contentsOf (skeleton : Rose Region) (remarks : List Remark) : List (Region × Terms) :=
  skeleton.preorder.map (fun region => (region, Terms.empty.addAll region.terms))
    ++ remarks.map fun remark => (remark.region, Terms.empty.addAll remark.terms)

/-- A tree of a file whose nodes hold nothing else. Without its nodes it is the tree that there is
before any are made.
-/
structure Drawn (tree : Tree) (source : List Char) (file : Path)
    (contents : List (Region × Terms)) : Prop where
  ground : { tree with root := none, nodes := [] } = empty source file
  within : tree.nodes.map Node.content ⊆ contents

/-- A change of a node that leaves what it holds. -/
theorem contents_update (tree : Tree) (id : NodeId) {f : Node → Node}
    (same : ∀ node, (f node).content = node.content)
    : (tree.update id f).nodes.map Node.content = tree.nodes.map Node.content :=
  map_modify_of_same same _ _

/-- Grafting a remark adds what it stands for. -/
theorem Drawn.graft {contents : List (Region × Terms)} (drawn : tree.Drawn source file contents)
    (id : NodeId) {remark : Remark}
    (member : (remark.region, Terms.empty.addAll remark.terms) ∈ contents)
    : (tree.graft id remark).Drawn source file contents := by
  refine ⟨drawn.ground, ?_⟩
  have same : (tree.graft id remark).nodes.map Node.content
      = tree.nodes.map Node.content ++ [(remark.region, Terms.empty.addAll remark.terms)] := by
    rw [Tree.graft, link, contents_update, contents_update, newNode, List.map_append]
    · rfl
    · exact fun _ => rfl
    · exact fun _ => rfl
  rw [same]
  exact List.append_subset.mpr ⟨drawn.within, by simpa using member⟩

/-- A tree that is built holds the regions of the skeleton and of remarks, and nothing else. -/
theorem build_drawn (built : build source file skeleton remarks = .ok tree)
    : tree.Drawn source file (contentsOf skeleton remarks) := by
  have start : (planted source file skeleton).Drawn source file (contentsOf skeleton remarks) := by
    refine ⟨by rw [planted, growSkeleton_eq]; rfl, ?_⟩
    rw [planted_contents]
    exact List.subset_append_left _ _
  have leveled (ids : List NodeId) (tree : Tree)
      : { ids.foldl setLevel tree with root := none, nodes := [] }
        = { tree with root := none, nodes := [] } := by
    induction ids generalizing tree with
    | nil => rfl
    | cons id rest ih =>
        refine (ih (tree.setLevel id)).trans ?_
        unfold setLevel
        split
        · rfl
        · split <;> rfl
  obtain ⟨full, shape, added, -, same, -⟩ := build_eq source file skeleton remarks
  cases same.symm.trans built
  have drawn : full.Drawn source file (contentsOf skeleton remarks) :=
    addNodes_preserves (fun tree : Tree => tree.Drawn source file (contentsOf skeleton remarks))
      (fun _ member id _ drawn =>
        drawn.graft id (List.mem_append_right _ (List.mem_map_of_mem member)))
      added start
  obtain ⟨-, -, flat⟩ := setLevels_flat full shape.preorder
  have contents (tree : Tree)
      : tree.nodes.map Node.content = (tree.nodes.map Node.flat).map Node.content := by
    rw [List.map_map]
    rfl
  refine ⟨(leveled _ _).trans drawn.ground, ?_⟩
  rw [contents, flat, ← contents]
  exact drawn.within

end Tree

/-- A kind that is written as a word for one, with terms of small letters. -/
structure Worded (kind : String) (terms : List String) : Prop where
  kind : ∃ named : RegionKind, kind = named.word
  terms : ∀ term ∈ terms, ∀ c ∈ term.toList, Term.isSmall c

namespace Source.Outline

variable {source : List Char} {file : Path} {outline : Outline} {tree : Tree}

/-- The regions and the remarks of a source are worded. -/
theorem ofText_worded (read : ofText source file = .ok outline)
    : (∀ region ∈ outline.skeleton.preorder, Worded region.kind region.terms)
      ∧ ∀ remark ∈ outline.remarks, Worded remark.region.kind remark.terms := by
  obtain ⟨program, parts, comments, -, made, commented, rfl⟩ := exists_of_ofText read
  constructor
  · intro region member
    rw [preorder_skeleton made] at member
    obtain ⟨⟨place, key⟩, -, rfl⟩ := List.mem_map.mp member
    refine ⟨⟨_, rfl⟩, fun term among => ?_⟩
    obtain ⟨word, -, inside⟩ := List.mem_flatMap.mp among
    exact Term.small_of_splitName inside
  · intro remark member
    rcases List.mem_append.mp member with isDoc | isNote
    · rw [docRemarks_numbered made] at isDoc
      obtain ⟨index, bound, rfl⟩ := List.mem_mapIdx.mp isDoc
      exact ⟨⟨.docstring, rfl⟩, fun term => Term.small_of_splitText⟩
    · obtain ⟨block, -, isNoteOf⟩ :=
        Tree.exists_of_forall₂ (commentRemarks_spec commented _ _).2.flip remark isNote
      refine ⟨⟨.comment, isNoteOf.kind⟩, fun term among => ?_⟩
      rw [isNoteOf.terms] at among
      obtain ⟨comment, -, inside⟩ := List.mem_flatMap.mp among
      exact Term.small_of_splitText inside

/-- The nodes of a source are worded as the regions and remarks that they stand for. -/
theorem build_worded (read : ofText source file = .ok outline) (built : outline.build = .ok tree)
    : ∀ node ∈ tree.nodes, Worded node.region.kind (node.terms.entries.map Prod.fst) := by
  obtain ⟨regions, remarks⟩ := ofText_worded read
  have listed (terms : List String) (term : String)
      (member : term ∈ (Terms.empty.addAll terms).entries.map Prod.fst)
      : term ∈ terms := by
    rw [Terms.entries_addAll, List.map_map] at member
    obtain ⟨other, inside, rfl⟩ := List.mem_map.mp member
    exact List.mem_eraseDups.mp inside
  intro node member
  have content := (Tree.build_drawn built).within (List.mem_map_of_mem member)
  rcases List.mem_append.mp content with inside | inside
  · obtain ⟨region, among, same⟩ := List.mem_map.mp inside
    obtain ⟨kind, terms⟩ := Prod.mk.inj same
    have worded := regions region among
    exact kind ▸ terms ▸ ⟨worded.kind, fun term member => worded.terms term (listed _ _ member)⟩
  · obtain ⟨remark, among, same⟩ := List.mem_map.mp inside
    obtain ⟨kind, terms⟩ := Prod.mk.inj same
    have worded := remarks remark among
    exact kind ▸ terms ▸ ⟨worded.kind, fun term member => worded.terms term (listed _ _ member)⟩

end Source.Outline

end FoldTree
