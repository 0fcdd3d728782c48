import FoldTree.Proofs.Tree.Parting
import FoldTree.Proofs.Tree.Writing
import FoldTree.Tree.OwnText
import Mathlib.Data.List.Intervals

/-! Own texts. Where the children of a node lie inside of it and apart from each other, its own text is
made of its characters that lie in none of them, in whatever order the children are stored. So the own
texts of the nodes in a finite tree share the characters of its root out among them.
-/

namespace FoldTree

/-! ### Offsets -/

namespace Span

variable {span one other : Span} {i : Nat}

/-- The offsets of the characters in a place, in ascending order. -/
def offsets (span : Span) : List Nat :=
  List.Ico span.first.toNat (span.last + 1).toNat

/-- No offset is twice in a place. -/
theorem offsets_nodup (span : Span) : span.offsets.Nodup :=
  List.Ico.nodup _ _

/-- An offset is one of a place that starts in the text if it is between both ends. -/
theorem mem_offsets (start : 0 ≤ span.first) : i ∈ span.offsets ↔ span.first ≤ i ∧ i ≤ span.last := by
  rw [offsets, List.Ico.mem]
  omega

/-- Places that are apart have no offset in common. -/
theorem Apart.disjoint (apart : one.Apart other) (start : 0 ≤ one.first) (start' : 0 ≤ other.first)
    : one.offsets.Disjoint other.offsets := by
  intro i here there
  rw [mem_offsets start] at here
  rw [mem_offsets start'] at there
  unfold Apart at apart
  omega

/-- It does not matter which of two places is apart from the other. -/
theorem Apart.symm (apart : one.Apart other) : other.Apart one :=
  Or.symm apart

end Span

namespace Text

/-- Between offsets of a text a slice is what the one leaves to take and the other to drop. -/
theorem slice_eq_take (text : List Char) {first behind : Nat} (ordered : first ≤ behind)
    (bound : behind ≤ text.length)
    : slice text first behind = (text.drop first).take (behind - first) := by
  have inside {offset : Nat} (fits : offset ≤ text.length)
      : clampOffset text.length offset = offset := by
    unfold clampOffset
    rw [if_neg (by omega), Int.toNat_natCast, Nat.min_eq_left fits]
  rw [slice, inside (ordered.trans bound), inside bound]

/-- The characters from one offset up to another are those of the offsets between them, by induction
on how many there are.
-/
theorem slice_eq (text : List Char) {first behind : Nat} (ordered : first ≤ behind)
    (bound : behind ≤ text.length)
    : slice text first behind = (List.Ico first behind).filterMap (text[·]?) := by
  have counted (count first : Nat) (fits : first + count ≤ text.length)
      : (text.drop first).take count = (List.range' first count).filterMap (text[·]?) := by
    induction count generalizing first with
    | zero => rfl
    | succ count ih =>
        have here : first < text.length := by omega
        rw [List.drop_eq_getElem_cons here, List.take_succ_cons, ih (first + 1) (by omega),
          List.range'_succ, List.filterMap_cons, List.getElem?_eq_getElem here]
  rw [slice_eq_take text ordered bound, counted _ _ (by omega), List.Ico]

end Text

namespace Tree

variable {tree : Tree} {shape : Rose NodeId} {id : NodeId} {node : Node} {i : Nat}

/-! ### Cutting out -/

/-- No stretch holds the character of an offset. -/
def Clear (stretches : List (Int × Int)) (i : Nat) : Prop :=
  ∀ stretch ∈ stretches, i < stretch.1 ∨ stretch.2 < i

instance (stretches : List (Int × Int)) : DecidablePred (Clear stretches) := fun _ =>
  inferInstanceAs (Decidable (∀ _ ∈ _, _))

/-- Cutting stretches out of a text leaves the characters that are in none of them, if the stretches
are given in order. Witness: induction on the stretches, each of which takes the text apart in what is
before it, what is in it and what the others are cut out of.
-/
theorem cutOut_eq {text : List Char} {cursor : Nat} {stretches : List (Int × Int)}
    (bound : cursor ≤ text.length)
    (inside : ∀ stretch ∈ stretches,
      cursor ≤ stretch.1 ∧ stretch.1 ≤ stretch.2 ∧ stretch.2 < text.length)
    (ordered : stretches.Pairwise fun one other => one.2 < other.1)
    : cutOut text cursor stretches
      = ((List.Ico cursor text.length).filter (Clear stretches ·)).filterMap (text[·]?) := by
  induction stretches generalizing cursor with
  | nil =>
      rw [cutOut, Text.slice_eq text bound (Nat.le_refl _), List.filter_eq_self.mpr]
      exact fun i _ => decide_eq_true fun _ none => nomatch none
  | cons stretch rest ih =>
      obtain ⟨behind, others⟩ := List.pairwise_cons.mp ordered
      obtain ⟨low, proper, high⟩ := inside stretch List.mem_cons_self
      obtain ⟨first, last⟩ := stretch
      obtain ⟨first, rfl⟩ := Int.eq_ofNat_of_zero_le ((Int.natCast_nonneg cursor).trans low)
      obtain ⟨last, rfl⟩ := Int.eq_ofNat_of_zero_le ((Int.natCast_nonneg first).trans proper)
      simp only [Int.ofNat_le, Int.ofNat_lt] at low proper high
      have later := @ih (last + 1) high
        (fun other member => ⟨behind other member, (inside other (.tail _ member)).2⟩) others
      -- nothing before the stretch is cut out, all of it is, and behind it only what others cut
      have before : (List.Ico cursor first).filter (Clear ((↑first, ↑last) :: rest) ·)
          = List.Ico cursor first := by
        refine List.filter_eq_self.mpr fun i member => decide_eq_true ?_
        have near := (List.Ico.mem.mp member).2
        refine List.forall_mem_cons.mpr ⟨.inl (Int.ofNat_lt.mpr near), fun other among => .inl ?_⟩
        have far := behind other among
        omega
      have within : (List.Ico first (last + 1)).filter (Clear ((↑first, ↑last) :: rest) ·) = [] := by
        refine List.filter_eq_nil_iff.mpr fun i member clear => ?_
        have here := List.Ico.mem.mp member
        have there := of_decide_eq_true clear _ List.mem_cons_self
        omega
      have after : (List.Ico (last + 1) text.length).filter (Clear ((↑first, ↑last) :: rest) ·)
          = (List.Ico (last + 1) text.length).filter (Clear rest ·) := by
        refine List.filter_congr fun i member => decide_eq_decide.mpr ?_
        have past : (last : Int) < i := Int.ofNat_lt.mpr (List.Ico.mem.mp member).1
        exact List.forall_mem_cons.trans (and_iff_right (.inr past))
      rw [cutOut, if_neg (Int.not_lt.mpr (Int.ofNat_le.mpr low)),
        Text.slice_eq text low (proper.trans (Nat.le_of_lt high)),
        ← List.Ico.append_consecutive low (proper.trans (Nat.le_of_lt high)),
        ← List.Ico.append_consecutive (Nat.le_succ_of_le proper) high, List.filter_append,
        List.filter_append, before, within, after, List.nil_append, List.filterMap_append]
      exact congrArg _ later

/-- Cutting places out of a slice leaves the characters between its ends that are in none of them. In
the slice a place is cut out at what lies between it and the start.
-/
theorem cutOut_slice {source : List Char} {first behind : Nat} {places : List (Int × Int)}
    (low : first ≤ behind) (bound : behind ≤ source.length)
    (inside : ∀ place ∈ places, first ≤ place.1 ∧ place.1 ≤ place.2 ∧ place.2 < behind)
    (ordered : places.Pairwise fun one other => one.2 < other.1)
    : cutOut (Text.slice source first behind) 0
        (places.map fun place => (place.1 - first, place.2 - first))
      = ((List.Ico first behind).filter (Clear places ·)).filterMap (source[·]?) := by
  have chars := Text.slice_eq_take source low bound
  have length : (Text.slice source first behind).length = behind - first := by
    rw [chars, List.length_take, List.length_drop]
    omega
  have offsets : List.Ico first behind = (List.Ico 0 (behind - first)).map (first + ·) := by
    rw [List.Ico.map_add, Nat.zero_add, Nat.sub_add_cancel low]
  refine (@cutOut_eq _ 0 _ (Nat.zero_le _) ?_ ?_).trans ?_
  · refine List.forall_mem_map.mpr fun place member => ?_
    have here := inside place member
    simp only [length]
    omega
  · exact List.pairwise_map.mpr (ordered.imp fun before => Int.sub_lt_sub_right before _)
  · rw [offsets, List.filter_map, List.filterMap_map, length]
    have clear : ∀ i ∈ List.Ico 0 (behind - first),
        decide (Clear (places.map fun place => (place.1 - first, place.2 - first)) i)
          = decide (Clear places (first + i)) := by
      intro i _
      refine decide_eq_decide.mpr (List.forall_mem_map.trans (forall₂_congr fun place _ => ?_))
      omega
    rw [List.filter_congr clear]
    refine List.filterMap_congr fun i member => ?_
    have near := (List.Ico.mem.mp (List.mem_filter.mp member).1).2
    rw [chars, List.getElem?_take_of_lt near, List.getElem?_drop]
    rfl

/-! ### One node -/

/-- The offsets in a node's place that are in the place of no child, in ascending order. -/
def ownOffsets (tree : Tree) (node : Node) : List Nat :=
  node.span.offsets.filter fun i => ∀ child ∈ tree.nodesAt node.children, i ∉ child.span.offsets

/-- Nodes of ids are nodes of the tree. -/
theorem Written.of_mem_nodesAt (written : tree.Written) {ids : List NodeId}
    (member : node ∈ tree.nodesAt ids)
    : node.WrittenIn tree.source := by
  obtain ⟨id, -, found⟩ := List.mem_filterMap.mp member
  exact written node (List.mem_of_getElem? found)

section

variable (written : tree.Written) (parted : tree.Parted node)
include written parted

/-- Children that are apart are cut out one behind the other, as they are sorted by their starts. -/
theorem Parted.exists_places
    : ∃ places : List (Int × Int),
        tree.childStretches node
          = places.map (fun place => (place.1 - node.span.first, place.2 - node.span.first))
        ∧ places.Pairwise (fun one other => one.2 < other.1)
        ∧ ∀ place,
            place ∈ places
            ↔ ∃ child ∈ tree.nodesAt node.children, (child.span.first, child.span.last) = place := by
  generalize spans_eq : (tree.nodesAt node.children).map (·.span) = spans
  have proper : ∀ span ∈ spans, span.first ≤ span.last := by
    rw [← spans_eq]
    exact List.forall_mem_map.mpr fun child member => (written.of_mem_nodesAt member).proper
  have apart : spans.Pairwise Span.Apart := spans_eq ▸ List.pairwise_map.mpr parted.apart
  have perm := spans.mergeSort_perm fun a b => decide (a.first ≤ b.first)
  have sorted : (spans.mergeSort fun a b => decide (a.first ≤ b.first)).Pairwise
      fun one other => one.first ≤ other.first := by
    refine (List.pairwise_mergeSort (fun a b c => ?_) (fun a b => ?_) spans).imp of_decide_eq_true
    · simp only [decide_eq_true_eq]
      exact Int.le_trans
    · simp only [Bool.or_eq_true, decide_eq_true_eq]
      exact Int.le_total _ _
  refine ⟨(spans.mergeSort fun a b => decide (a.first ≤ b.first)).map
    fun span => (span.first, span.last), ?_, List.pairwise_map.mpr ?_, fun place => ?_⟩
  · rw [childStretches, ← nodesAt, spans_eq, List.map_map]
    rfl
  · -- of two places that are apart the one that starts first ends before the other starts
    refine (sorted.and ((perm.pairwise_iff Span.Apart.symm).mpr apart)).imp_of_mem ?_
    rintro one other - member ⟨starts, before | after⟩
    · exact before
    · have ends := proper other (perm.mem_iff.mp member)
      dsimp only
      omega
  · rw [(perm.map _).mem_iff, ← spans_eq, List.map_map, List.mem_map]
    rfl

/-- What is left of a node when its children are cut out are its own characters. -/
theorem Parted.ownText_eq (here : node.WrittenIn tree.source) (start : 0 ≤ node.span.first)
    (stop : node.span.last < tree.source.length)
    : tree.ownText node = (tree.ownOffsets node).filterMap (tree.source[·]?) := by
  have proper := here.proper
  have text := here.text
  obtain ⟨places, cut, ordered, places_iff⟩ := parted.exists_places written
  obtain ⟨first, first_eq⟩ := Int.eq_ofNat_of_zero_le start
  obtain ⟨last, last_eq⟩ := Int.eq_ofNat_of_zero_le (start.trans proper)
  rw [first_eq, last_eq] at proper
  rw [last_eq] at stop
  have inside : ∀ child ∈ tree.nodesAt node.children,
      first ≤ child.span.first ∧ child.span.first ≤ child.span.last ∧ child.span.last ≤ last := by
    intro child member
    have within := parted.inside child member
    rw [Span.Within, first_eq, last_eq] at within
    exact ⟨within.1, (written.of_mem_nodesAt member).proper, within.2⟩
  have left := cutOut_slice (Nat.le_succ_of_le (Int.ofNat_le.mp proper)) (Int.ofNat_lt.mp stop)
    (fun place member => ?_) ordered
  · rw [ownText, cut, text, first_eq, last_eq, ownOffsets, Span.offsets, first_eq, last_eq]
    refine left.trans (congrArg _ (List.filter_congr fun i member => decide_eq_decide.mpr ?_))
    -- what is cut out are just the places of the children
    constructor
    · intro clear child among here
      have start' := (inside child among).1
      rw [Span.mem_offsets (by omega)] at here
      have aside := clear _ ((places_iff _).mpr ⟨child, among, rfl⟩)
      dsimp only at aside
      omega
    · intro outside place among
      obtain ⟨child, listed, rfl⟩ := (places_iff place).mp among
      have start' := (inside child listed).1
      have aside := outside child listed
      rw [Span.mem_offsets (by omega)] at aside
      dsimp only
      omega
  · obtain ⟨child, among, rfl⟩ := (places_iff place).mp member
    have here := inside child among
    dsimp only
    omega

end

/-- The own offsets of a node together with the offsets of its children are all of its offsets. -/
theorem Parted.offsets_perm (parted : tree.Parted node) (start : 0 ≤ node.span.first)
    : (tree.ownOffsets node ++ (tree.nodesAt node.children).flatMap (·.span.offsets)).Perm
        node.span.offsets := by
  refine (List.Perm.append_left _ ?_).trans (List.filter_append_perm _ _)
  have once : ((tree.nodesAt node.children).flatMap (·.span.offsets)).Nodup := by
    refine List.nodup_flatMap.mpr ⟨fun child _ => child.span.offsets_nodup, ?_⟩
    refine parted.apart.imp_of_mem fun {one other} member member' apart => ?_
    exact apart.disjoint (start.trans (parted.inside one member).1)
      (start.trans (parted.inside other member').1)
  refine (List.perm_ext_iff_of_nodup once (node.span.offsets_nodup.filter _)).mpr fun i => ?_
  simp only [List.mem_flatMap, List.mem_filter, Bool.not_eq_true', decide_eq_false_iff_not, not_forall,
    not_not, exists_prop]
  refine (and_iff_right_of_imp ?_).symm
  -- what a child covers lies inside of its node
  rintro ⟨child, member, here⟩
  have within := parted.inside child member
  unfold Span.Within at within
  rw [Span.mem_offsets (start.trans within.1)] at here
  rw [Span.mem_offsets start]
  omega

/-! ### All nodes -/

/-- The nodes of a shape are the topmost one and the nodes of its branches. -/
theorem nodesAt_preorder (found : tree.nodes[id]? = some node) (below : List (Rose NodeId))
    : tree.nodesAt (Rose.node id below).preorder
      = node :: below.flatMap fun branch => tree.nodesAt branch.preorder := by
  rw [Rose.preorder_node, nodesAt, List.filterMap_cons, found, List.filterMap_flatMap]
  rfl

/-- On top of a branch there is a child of the node that it hangs from. -/
theorem Grown.branch_found {below : List (Rose NodeId)} {branch : Rose NodeId}
    (grown : tree.Grown branch) (children : node.children = below.map Rose.value)
    (inside : branch ∈ below)
    : ∃ child ∈ tree.nodesAt node.children, tree.nodes[branch.value]? = some child := by
  obtain ⟨child, found⟩ := grown.found branch.value_mem_preorder
  refine ⟨child, List.mem_filterMap.mpr ⟨branch.value, ?_, found⟩, found⟩
  rw [children]
  exact List.mem_map_of_mem inside

section

variable (grown : tree.Grown shape) (parted : ∀ node ∈ tree.nodesAt shape.preorder, tree.Parted node)
  {top : Node} (found : tree.nodes[shape.value]? = some top)
include grown parted found

/-- All nodes of a shape lie inside of the topmost one, by induction on the shape. -/
theorem Grown.within : ∀ node ∈ tree.nodesAt shape.preorder, node.span.Within top.span := by
  induction grown generalizing top with
  | @node id node below found' children grown ih =>
      cases found.symm.trans found'
      rw [nodesAt_preorder found'] at parted ⊢
      obtain ⟨here, later⟩ := List.forall_mem_cons.mp parted
      refine List.forall_mem_cons.mpr ⟨⟨Int.le_refl _, Int.le_refl _⟩, fun other member => ?_⟩
      obtain ⟨branch, inside, member⟩ := List.mem_flatMap.mp member
      obtain ⟨child, among, top⟩ := (grown branch inside).branch_found children inside
      have deeper := ih branch inside
        (fun node listed => later node (List.mem_flatMap.mpr ⟨branch, inside, listed⟩)) top other member
      have lies := here.inside child among
      exact ⟨lies.1.trans deeper.1, deeper.2.trans lies.2⟩

/-- The nodes of a shape share the offsets of the topmost one out among them, by induction on the
shape.
-/
theorem Grown.offsets_perm (start : 0 ≤ top.span.first)
    : ((tree.nodesAt shape.preorder).flatMap tree.ownOffsets).Perm top.span.offsets := by
  induction grown generalizing top with
  | @node id node below found' children grown ih =>
      cases found.symm.trans found'
      rw [nodesAt_preorder found'] at parted ⊢
      obtain ⟨here, later⟩ := List.forall_mem_cons.mp parted
      rw [List.flatMap_cons, List.flatMap_assoc]
      refine (List.Perm.append_left _ ?_).trans (here.offsets_perm start)
      have kids : tree.nodesAt node.children
          = below.flatMap fun branch => (tree.nodes[branch.value]?).toList := by
        rw [children, nodesAt, List.filterMap_map, List.filterMap_eq_flatMap_toList]
        rfl
      rw [kids, List.flatMap_assoc]
      refine List.Perm.flatMap_left below fun branch inside => ?_
      obtain ⟨child, among, top⟩ := (grown branch inside).branch_found children inside
      rw [top, Option.toList_some, List.flatMap_singleton]
      exact ih branch inside
        (fun node listed => later node (List.mem_flatMap.mpr ⟨branch, inside, listed⟩)) top
        (start.trans (here.inside child among).1)

end

/-- The nodes of edited trees and of built ones are written with what is in the text. In such a tree let
the children of all nodes below a topmost one lie inside of their nodes and apart from each other, in
whatever order they are stored. Then a node's own text has just the characters of its place that are in
the place of no child, in order. Every character of the topmost node is in the own text of just one
node, and the own texts are as long together as its place.
-/
theorem ownText_shares
    : (∀ (source : List Char) (file : Path) (edits : List Edit),
        ((empty source file).afterAll edits).Written)
      ∧ (∀ (source : List Char) (file : Path) (skeleton : Rose Region) (remarks : List Remark)
          (tree : Tree),
          build source file skeleton remarks = .ok tree → tree.Written)
      ∧ ∀ (tree : Tree) (shape : Rose NodeId) (top : Node),
          tree.Written
          → tree.Grown shape
          → shape.preorder.Nodup
          → tree.nodes[shape.value]? = some top
          → 0 ≤ top.span.first
          → top.span.last < tree.source.length
          → (∀ node ∈ tree.nodesBelow shape.value, tree.Parted node)
          → (∀ node ∈ tree.nodesBelow shape.value,
              tree.ownText node = (tree.ownOffsets node).filterMap (tree.source[·]?))
            ∧ (∀ i : Nat,
                top.span.first ≤ i
                → i ≤ top.span.last
                → ∃! node, node ∈ tree.nodesBelow shape.value ∧ i ∈ tree.ownOffsets node)
            ∧ (((tree.nodesBelow shape.value).map fun node => (tree.ownText node).length).sum : Int)
                = top.span.last - top.span.first + 1 := by
  refine ⟨fun source file edits => (Written.empty source file).afterAll edits,
    fun _ _ _ _ _ built => .build built, ?_⟩
  intro tree shape top written grown once found start stop parted
  rw [grown.nodesBelow_eq once] at parted ⊢
  have shares := grown.offsets_perm parted found start
  have texts : ∀ node ∈ tree.nodesAt shape.preorder,
      tree.ownText node = (tree.ownOffsets node).filterMap (tree.source[·]?) := by
    intro node member
    have within := grown.within parted found node member
    exact (parted node member).ownText_eq written (written.of_mem_nodesAt member)
      (start.trans within.1) (within.2.trans_lt stop)
  refine ⟨texts, fun i low high => ?_, ?_⟩
  · have covered := shares.mem_iff.mpr ((Span.mem_offsets start).mpr ⟨low, high⟩)
    obtain ⟨node, member, own⟩ := List.mem_flatMap.mp covered
    refine ⟨node, ⟨member, own⟩, fun other ⟨member', own'⟩ => ?_⟩
    -- no offset is shared out twice
    have apart := (List.nodup_flatMap.mp (shares.nodup_iff.mpr top.span.offsets_nodup)).2
    have symm : Std.Symm (Function.onFun List.Disjoint tree.ownOffsets) :=
      ⟨fun _ _ disjoint => disjoint.symm⟩
    by_contra differ
    exact apart.forall member' member differ own' own
  · have lengths : ∀ node ∈ tree.nodesAt shape.preorder,
        (tree.ownText node).length = (tree.ownOffsets node).length := by
      intro node member
      rw [texts node member, List.filterMap_length_eq_length]
      intro i own
      have covered := shares.mem_iff.mp (List.mem_flatMap.mpr ⟨node, member, own⟩)
      rw [Span.mem_offsets start] at covered
      rw [List.getElem?_eq_getElem (by omega)]
      rfl
    have proper := (written top (List.mem_of_getElem? found)).proper
    rw [List.map_congr_left lengths, ← List.length_flatMap, shares.length_eq, Span.offsets,
      List.Ico.length]
    omega

/-- Six characters under a root whose first child is the last in the text: one over two characters,
with a child of its own on the second of them, one on the first character of all, and one of no
characters.
-/
def unsorted : Tree :=
  let region (start length : Int) : Region := ⟨0, start, length, "block", none, []⟩
  let skeleton : Rose Region :=
    .node (region 0 6) [.node (region 4 2) [.node (region 5 1) []], .node (region 0 1) [],
      .node (region 2 0) []]
  (growSkeleton (empty ['a', 'b', 'c', 'd', 'e', 'f'] ⟨[], [['a']]⟩) skeleton).setRoot 0

/-- The root of the six characters keeps two of them to itself, and its second child has one. -/
theorem unsorted_ownText_shares
    : unsorted.Written
      ∧ unsorted.Grown (.node 0 [.node 1 [.node 2 []], .node 3 [], .node 4 []])
      ∧ (∀ node ∈ unsorted.nodesBelow 0, unsorted.Parted node)
      ∧ unsorted.ownText unsorted.nodes[0] = ['b', 'd']
      ∧ (∃! node, node ∈ unsorted.nodesBelow 0 ∧ 4 ∈ unsorted.ownOffsets node)
      ∧ ((unsorted.nodesBelow 0).map fun node => (unsorted.ownText node).length).sum = 6 := by
  have written : unsorted.Written := ((Written.empty _ _).growSkeleton _).setRoot 0
  have grown : unsorted.Grown (.node 0 [.node 1 [.node 2 []], .node 3 [], .node 4 []]) := by
    refine .node rfl rfl ?_
    simpa using ⟨.node rfl rfl (by simpa using .leaf rfl rfl), .leaf rfl rfl, .leaf rfl rfl⟩
  have parted : ∀ node ∈ unsorted.nodesBelow 0, unsorted.Parted node := by
    have each : ∀ node ∈ unsorted.nodesBelow 0,
        (∀ child ∈ unsorted.nodesAt node.children, child.span.Within node.span)
        ∧ (unsorted.nodesAt node.children).Pairwise fun one other => one.span.Apart other.span := by
      decide +kernel
    exact fun node member => ⟨(each node member).1, (each node member).2⟩
  obtain ⟨texts, once, total⟩ := ownText_shares.2.2 unsorted _ unsorted.nodes[0] written grown
    (by decide) rfl (by decide) (by decide) parted
  refine ⟨written, grown, parted, ?_, once 4 (by decide) (by decide), Int.ofNat_inj.mp total⟩
  exact (texts unsorted.nodes[0] (List.mem_cons_self)).trans (by decide +kernel)

end Tree

end FoldTree
