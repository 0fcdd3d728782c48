import FoldTree.Proofs.Tree.Grafting
import FoldTree.Proofs.Tree.Shown

/-! Newlines that children share. The children of a node stand for regions below its own, for its
doc text, and for comments. All of these are apart from each other, but for comments that the doc
text holds: the newlines of such comments, and no others, are shown by more than one child.
-/

namespace FoldTree

namespace Region

/-- Two regions have no character in common. -/
def Apart (one other : Region) : Prop :=
  one.stop ≤ other.start ∨ other.stop ≤ one.start

/-- One region lies inside of another. -/
def Within (inner around : Region) : Prop :=
  around.start ≤ inner.start ∧ inner.stop ≤ around.stop

/-- The character of an offset lies in a region and is not its last one. -/
def Reaches (region : Region) (i : Nat) : Prop :=
  region.start ≤ i ∧ (i : Int) + 1 < region.stop

instance (region : Region) (i : Nat) : Decidable (region.Reaches i) :=
  inferInstanceAs (Decidable (_ ∧ _))

/-- How the regions lie that hang under another one: those below it, that of its doc text, and those
of comments.
-/
structure Arranged (around : Region) (below docs comments : List Region) : Prop where
  start : 0 ≤ around.start
  inside : ∀ region ∈ below ++ (docs ++ comments), region.Within around
  apart : (below ++ comments).Pairwise Apart
  single : docs.length ≤ 1
  beside : ∀ doc ∈ docs,
    doc.kind = RegionKind.docstring.word
    ∧ (∀ region ∈ below, doc.Apart region)
    ∧ ∀ comment ∈ comments, doc.Apart comment ∨ comment.Within doc
  remarks : ∀ comment ∈ comments, comment.kind = RegionKind.comment.word

variable {one other around : Region} {below docs comments : List Region} {i : Nat}

/-- Regions that are apart do not both reach to a character. -/
theorem Apart.not_both (apart : one.Apart other) (here : one.Reaches i) : ¬other.Reaches i := by
  unfold Apart at apart
  unfold Reaches at here ⊢
  omega

/-- A region reaches as far as one inside of it. -/
theorem Within.reaches (within : one.Within other) (here : one.Reaches i) : other.Reaches i := by
  unfold Within at within
  unfold Reaches at here ⊢
  omega

/-- At most one of several regions reaches to a character if they are apart. -/
theorem countP_reaches_le {regions : List Region} (apart : regions.Pairwise Apart) (i : Nat)
    : regions.countP (Reaches · i) ≤ 1 :=
  Tree.countP_le_one (apart.imp fun beside here => by
    simpa using beside.not_both (of_decide_eq_true here))

/-- How many regions under another reach to a character, the doc text's apart from the others. -/
theorem countP_arranged (i : Nat)
    : (below ++ (docs ++ comments)).countP (Reaches · i)
      = (below ++ comments).countP (Reaches · i) + docs.countP (Reaches · i) := by
  simp only [List.countP_append]
  omega

/-- No more than two of the regions under another reach to one character. -/
theorem Arranged.countP_le (arranged : around.Arranged below docs comments) (i : Nat)
    : (below ++ (docs ++ comments)).countP (Reaches · i) ≤ 2 := by
  have others := countP_reaches_le arranged.apart i
  have doc := (List.countP_le_length (p := (Reaches · i)) (l := docs)).trans arranged.single
  rw [countP_arranged]
  omega

/-- Where two of the regions under another reach to one character, they are the doc text and a
comment inside of it.
-/
theorem Arranged.shared (arranged : around.Arranged below docs comments)
    (more : 1 < (below ++ (docs ++ comments)).countP (Reaches · i))
    : ∃ doc ∈ docs, ∃ comment ∈ comments, comment.Within doc ∧ comment.Reaches i := by
  have others := countP_reaches_le arranged.apart i
  have single := (List.countP_le_length (p := (Reaches · i)) (l := docs)).trans arranged.single
  rw [countP_arranged] at more
  obtain ⟨doc, isDoc, here⟩ := List.countP_pos_iff.mp (show 0 < docs.countP (Reaches · i) by omega)
  obtain ⟨region, isOther, there⟩ := List.countP_pos_iff.mp
    (show 0 < (below ++ comments).countP (Reaches · i) by omega)
  have here := of_decide_eq_true here
  have there := of_decide_eq_true there
  obtain ⟨-, belows, remarks⟩ := arranged.beside doc isDoc
  rcases List.mem_append.mp isOther with isBelow | isComment
  · exact absurd there ((belows region isBelow).not_both here)
  · rcases remarks region isComment with apart | within
    · exact absurd there (apart.not_both here)
    · exact ⟨doc, isDoc, region, isComment, within, there⟩

end Region

namespace Tree

variable {tree : Tree} {id : NodeId} {region around : Region}
  {below docs comments : List Region} {i : Nat}

/-- The node of an id stands for a region, in its place. -/
def StandsFor (tree : Tree) (id : NodeId) (region : Region) : Prop :=
  ∃ node,
    tree.nodes[id]? = some node
    ∧ node.region = region
    ∧ node.span = Span.ofRegion tree.source region

/-- A node's doc text and a comment inside of it both show a newline. -/
def DocShares (tree : Tree) (id : NodeId) (i : Nat) : Prop :=
  ∃ doc ∈ tree.childrenOf id,
    ∃ comment ∈ tree.childrenOf id,
      ∃ outer inner,
        tree.StandsFor doc outer
        ∧ tree.StandsFor comment inner
        ∧ outer.kind = RegionKind.docstring.word
        ∧ inner.kind = RegionKind.comment.word
        ∧ inner.Within outer
        ∧ i ∈ tree.newlines comment

/-- A node stands for the region that its face shows, in its place. -/
theorem standsFor_of_face {face : Face} (found : tree.faceAt id = some face)
    (span : face.span = Span.ofRegion tree.source face.region)
    : tree.StandsFor id face.region := by
  obtain ⟨node, there, rfl⟩ := Option.map_eq_some_iff.mp found
  exact ⟨node, there, rfl, span⟩

/-- The leaf for a remark stands for its region. -/
theorem IsLeafFor.standsFor {remark : Remark} (isLeaf : tree.IsLeafFor id remark)
    : tree.StandsFor id remark.region :=
  standsFor_of_face isLeaf rfl

/-- A node stands for one region only. -/
theorem StandsFor.eq {other : Region} (stands : tree.StandsFor id region)
    (stands' : tree.StandsFor id other)
    : region = other := by
  obtain ⟨node, found, rfl, -⟩ := stands
  obtain ⟨node', found', rfl, -⟩ := stands'
  cases found.symm.trans found'
  rfl

/-- A node for a region shows one line beyond its first for each newline inside of it. -/
theorem StandsFor.extraLines_eq (stands : tree.StandsFor id region) (start : 0 ≤ region.start)
    : tree.extraLines id = (tree.newlines id).card := by
  obtain ⟨node, found, rfl, span⟩ := stands
  exact Tree.extraLines_eq found span start

/-- A node for a region shows the newlines to which the region reaches. -/
theorem StandsFor.mem_newlines (stands : tree.StandsFor id region) (start : 0 ≤ region.start)
    : i ∈ tree.newlines id ↔ region.Reaches i ∧ tree.source[i]? = some '\n' := by
  obtain ⟨node, found, -, span⟩ := stands
  simp only [newlines, found, span, Span.ofRegion, Finset.mem_filter, Finset.mem_Ico,
    Region.Reaches, Region.stop]
  refine and_congr_left fun _ => ?_
  omega

/-- The children that show a newline are as many as the regions that reach to it, by induction on
the children.
-/
theorem countP_newlines {children : List NodeId} {regions : List Region}
    (stand : List.Forall₂ tree.StandsFor children regions)
    (starts : ∀ region ∈ regions, 0 ≤ region.start) (newline : tree.source[i]? = some '\n')
    : children.countP (fun child => i ∈ tree.newlines child)
      = regions.countP (Region.Reaches · i) := by
  induction stand with
  | nil => rfl
  | @cons child region children regions here _ ih =>
      have first := here.mem_newlines (i := i) (starts region List.mem_cons_self)
      simp only [newline, and_true] at first
      rw [List.countP_cons, List.countP_cons,
        ih fun other member => starts other (List.mem_cons_of_mem _ member)]
      simp only [first]

/-- Children in two places of a list that both show a newline are more than one. -/
theorem one_lt_countP {ids : List NodeId} {p : NodeId → Bool} {one other : NodeId}
    (first : one ∈ ids) (second : other ∈ ids) (differ : one ≠ other) (passes : p one = true)
    (passes' : p other = true)
    : 1 < ids.countP p := by
  rw [List.countP_eq_length_filter]
  have member : one ∈ ids.filter p := List.mem_filter.mpr ⟨first, passes⟩
  have member' : other ∈ ids.filter p := List.mem_filter.mpr ⟨second, passes'⟩
  rcases filtered : ids.filter p with _ | ⟨a, _ | ⟨b, rest⟩⟩
  · simp [filtered] at member
  · simp only [filtered, List.mem_singleton] at member member'
    exact absurd (member.trans member'.symm) differ
  · simp

section

variable (stands : tree.StandsFor id around)
  (children : List.Forall₂ tree.StandsFor (tree.childrenOf id) (below ++ (docs ++ comments)))
  (arranged : around.Arranged below docs comments)

include arranged

/-- Regions under another start in the text as it does. -/
theorem start_arranged (region : Region) (member : region ∈ below ++ (docs ++ comments))
    : 0 ≤ region.start :=
  arranged.start.trans (arranged.inside region member).1

include children

/-- As many children show a newline as there are regions that reach to it. -/
theorem showers_arranged (newline : tree.source[i]? = some '\n')
    : tree.showers id i = (below ++ (docs ++ comments)).countP (Region.Reaches · i) :=
  countP_newlines children (start_arranged arranged) newline

include stands

/-- The newlines of a node with arranged children are shown by two of these at most. -/
theorem StandsFor.paired : tree.Paired id where
  measured shown member := by
    rcases List.mem_cons.mp member with rfl | member
    · exact stands.extraLines_eq arranged.start
    · obtain ⟨region, hangs, here⟩ := exists_of_forall₂ children shown member
      exact here.extraLines_eq (start_arranged arranged region hangs)
  inside child member i shown := by
    obtain ⟨region, hangs, here⟩ := exists_of_forall₂ children child member
    obtain ⟨reaches, newline⟩ := (here.mem_newlines (start_arranged arranged region hangs)).mp shown
    exact (stands.mem_newlines arranged.start).mpr
      ⟨(arranged.inside region hangs).reaches reaches, newline⟩
  pairs i shown := by
    obtain ⟨-, newline⟩ := (stands.mem_newlines arranged.start).mp shown
    rw [showers_arranged children arranged newline]
    exact arranged.countP_le i

/-- The newlines that children share are those of comments inside of the doc text. -/
theorem StandsFor.mem_sharedNewlines : i ∈ tree.sharedNewlines id ↔ tree.DocShares id i := by
  constructor
  · intro shared
    obtain ⟨shown, more⟩ := Finset.mem_filter.mp shared
    obtain ⟨-, newline⟩ := (stands.mem_newlines arranged.start).mp shown
    rw [showers_arranged children arranged newline] at more
    obtain ⟨outer, isDoc, inner, isComment, within, reaches⟩ := arranged.shared more
    have docHangs : outer ∈ below ++ (docs ++ comments) := by simp [isDoc]
    have hangs : inner ∈ below ++ (docs ++ comments) := by simp [isComment]
    obtain ⟨doc, isChild, outside⟩ := exists_of_forall₂ children.flip outer docHangs
    obtain ⟨comment, isChild', here⟩ := exists_of_forall₂ children.flip inner hangs
    have here : tree.StandsFor comment inner := here
    exact ⟨doc, isChild, comment, isChild', outer, inner, outside, here,
      (arranged.beside outer isDoc).1, arranged.remarks inner isComment, within,
      (here.mem_newlines (start_arranged arranged inner hangs)).mpr ⟨reaches, newline⟩⟩
  · rintro ⟨doc, isChild, comment, isChild', outer, inner, outside, inside, isDoc, isComment,
      within, shown⟩
    obtain ⟨region, hangs, here⟩ := exists_of_forall₂ children comment isChild'
    obtain ⟨region', hangs', here'⟩ := exists_of_forall₂ children doc isChild
    have same := inside.eq here
    have same' := outside.eq here'
    subst same same'
    have start := start_arranged arranged inner hangs
    have start' := start_arranged arranged outer hangs'
    obtain ⟨reaches, newline⟩ := (here.mem_newlines start).mp shown
    -- two nodes show the newline, since one child cannot be a doc text and a comment
    have differ : doc ≠ comment := by
      rintro rfl
      rw [outside.eq inside, isComment] at isDoc
      exact absurd isDoc (by decide)
    refine Finset.mem_filter.mpr ⟨(stands.mem_newlines arranged.start).mpr
      ⟨(arranged.inside inner hangs).reaches reaches, newline⟩, ?_⟩
    exact one_lt_countP isChild isChild' differ
      (by simpa using (here'.mem_newlines start').mpr ⟨within.reaches reaches, newline⟩)
      (by simpa using shown)

end

end Tree

end FoldTree
