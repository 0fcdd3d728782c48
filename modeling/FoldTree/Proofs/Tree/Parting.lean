import FoldTree.Proofs.Offer.Dues
import FoldTree.Proofs.Offer.Restoration
import FoldTree.Proofs.Tree.Shown

/-! Nodes whose children lie apart. Where the children of a node lie inside of it and have no
character in common, the node costs one line for each of its newlines that lies in none of them.
However the children in a finite tree lie, what its nodes cost adds up to what its root shows.
-/

namespace FoldTree

namespace Span

/-- Two places have no character in common. -/
def Apart (one other : Span) : Prop :=
  one.last < other.first ∨ other.last < one.first

/-- One place lies inside of another. -/
def Within (inner around : Span) : Prop :=
  around.first ≤ inner.first ∧ inner.last ≤ around.last

/-- The character of an offset lies in a place and is not its last one. -/
def Reaches (span : Span) (i : Nat) : Prop :=
  span.first ≤ i ∧ i < span.last

instance (span : Span) (i : Nat) : Decidable (span.Reaches i) :=
  inferInstanceAs (Decidable (_ ∧ _))

instance (one other : Span) : Decidable (one.Apart other) :=
  inferInstanceAs (Decidable (_ ∨ _))

instance (inner around : Span) : Decidable (inner.Within around) :=
  inferInstanceAs (Decidable (_ ∧ _))

variable {one other : Span} {i : Nat}

/-- Places that are apart do not both reach to a character. -/
theorem Apart.not_both (apart : one.Apart other) (here : one.Reaches i) : ¬other.Reaches i := by
  unfold Apart at apart
  unfold Reaches at here ⊢
  omega

/-- A place reaches as far as one inside of it. -/
theorem Within.reaches (within : one.Within other) (here : one.Reaches i) : other.Reaches i := by
  unfold Within at within
  unfold Reaches at here ⊢
  omega

end Span

namespace Tree

variable {tree : Tree} {shape : Rose NodeId} {id : NodeId} {node : Node} {i : Nat}

/-- Every node has the place of its region in the text. -/
def Placed (tree : Tree) : Prop :=
  ∀ (id : NodeId) (node : Node), tree.nodes[id]? = some node
    → node.span = Span.ofRegion tree.source node.region

/-- The children of a node lie inside of it and apart from each other. -/
structure Parted (tree : Tree) (node : Node) : Prop where
  inside : ∀ child ∈ tree.nodesAt node.children, child.span.Within node.span
  apart : (tree.nodesAt node.children).Pairwise fun one other => one.span.Apart other.span

/-- A node that starts in the text shows the newlines to which its place reaches. -/
theorem mem_newlines_iff (found : tree.nodes[id]? = some node) (start : 0 ≤ node.span.first)
    : i ∈ tree.newlines id ↔ node.span.Reaches i ∧ tree.source[i]? = some '\n' := by
  simp only [newlines, found, Finset.mem_filter, Finset.mem_Ico, Span.Reaches]
  refine and_congr_left fun _ => ?_
  omega

/-- A newline is nobody's if it is shown by a node and by no child of the node. -/
theorem mem_ownNewlines_iff
    : i ∈ tree.ownNewlines id
      ↔ i ∈ tree.newlines id ∧ ∀ child ∈ tree.childrenOf id, i ∉ tree.newlines child := by
  simp [ownNewlines, showers, List.countP_eq_zero]

/-- Nodes in their places start where their regions do. -/
theorem Placed.first_eq (placed : tree.Placed) (found : tree.nodes[id]? = some node)
    : node.span.first = node.region.start := by
  rw [placed id node found, Span.ofRegion]

section

variable (placed : tree.Placed) (found : tree.nodes[id]? = some node)
  (start : 0 ≤ node.region.start) (parted : tree.Parted node)
include placed found start parted

/-- A child that is a node starts in the text and inside of its parent. -/
theorem Parted.child {child : NodeId} {inner : Node} (link : child ∈ node.children)
    (there : tree.nodes[child]? = some inner)
    : 0 ≤ inner.span.first ∧ inner.span.Within node.span := by
  have within := parted.inside inner (List.mem_filterMap.mpr ⟨child, link, there⟩)
  rw [← placed.first_eq found] at start
  exact ⟨start.trans within.1, within⟩

/-- A child shows the newlines to which the place of its node reaches, if it is a node. -/
theorem Parted.mem_newlines_child {child : NodeId} (link : child ∈ node.children)
    : i ∈ tree.newlines child
      ↔ ∃ inner, tree.nodes[child]? = some inner ∧ inner.span.Reaches i
          ∧ tree.source[i]? = some '\n' := by
  cases there : tree.nodes[child]? with
  | none => simp [newlines, there]
  | some inner => simp [mem_newlines_iff there (parted.child placed found start link there).1]

/-- No newline is shown by two children. -/
theorem Parted.showers_le (i : Nat) : tree.showers id i ≤ 1 := by
  have kids : tree.childrenOf id = node.children := by simp only [childrenOf, found]
  have apart := List.pairwise_filterMap.mp parted.apart
  rw [showers, kids]
  -- places that lie apart do not both reach to one newline
  refine countP_le_one (apart.imp_of_mem fun {one other} link link' apart here => ?_)
  obtain ⟨left, there, reaches, -⟩ :=
    (parted.mem_newlines_child placed found start link).mp (of_decide_eq_true here)
  refine decide_eq_false fun shown => ?_
  obtain ⟨right, there', reaches', -⟩ :=
    (parted.mem_newlines_child placed found start link').mp shown
  exact (apart left there right there').not_both reaches reaches'

/-- Children that lie apart share no newlines. -/
theorem Parted.paired : tree.Paired id := by
  have kids : tree.childrenOf id = node.children := by simp only [childrenOf, found]
  refine ⟨fun shown member => ?_, fun child member i shown => ?_, fun i _ => ?_⟩
  · rcases List.mem_cons.mp member with rfl | link
    · exact extraLines_eq found (placed _ node found) start
    · cases there : tree.nodes[shown]? with
      | none => simp [extraLines, newlines, there]
      | some inner =>
          have first := (parted.child placed found start (kids ▸ link) there).1
          rw [placed.first_eq there] at first
          exact extraLines_eq there (placed shown inner there) first
  · rw [kids] at member
    obtain ⟨inner, there, reaches, newline⟩ :=
      (parted.mem_newlines_child placed found start member).mp shown
    have within := (parted.child placed found start member there).2
    exact (mem_newlines_iff found (placed.first_eq found ▸ start)).mpr
      ⟨within.reaches reaches, newline⟩
  · have single := parted.showers_le placed found start i
    omega

/-- A node whose children lie apart costs one line for each newline that none of them shows. -/
theorem Parted.uniqueCost_eq : tree.uniqueCost node = .ok (tree.ownNewlines id).card := by
  have unshared : tree.sharedNewlines id = ∅ := Finset.filter_eq_empty_iff.mpr fun i _ =>
    Nat.not_lt.mpr (parted.showers_le placed found start i)
  have net := (parted.paired placed found start).netLines_eq
  rw [unshared, Finset.card_empty, Nat.cast_zero, sub_zero] at net
  rw [Tree.uniqueCost_eq found, net, if_neg (Int.not_lt.mpr (Int.natCast_nonneg _))]

end

/-- The costs of nodes by their ids are the net lines of the ids, if there are such costs. -/
theorem mapM_uniqueCost {ids : List NodeId}
    (fine : ∀ node ∈ tree.nodesAt ids, ∃ cost, tree.uniqueCost node = .ok cost)
    (made : ∀ id ∈ ids, ∃ node, tree.nodes[id]? = some node)
    : (tree.nodesAt ids).mapM tree.uniqueCost = .ok (ids.map tree.netLines) := by
  induction ids with
  | nil => rfl
  | cons id rest ih =>
      obtain ⟨node, found⟩ := made id List.mem_cons_self
      have split : tree.nodesAt (id :: rest) = node :: tree.nodesAt rest := by
        simp [nodesAt, found]
      rw [split] at fine ⊢
      obtain ⟨cost, here⟩ := fine node List.mem_cons_self
      have same : cost = tree.netLines id := by
        rw [Tree.uniqueCost_eq found] at here
        split at here
        · cases here
        · exact (Except.ok.inj here).symm
      have later := ih (fun other member => fine other (List.mem_cons_of_mem _ member))
        fun other member => made other (List.mem_cons_of_mem _ member)
      simp [here, later, same]

/-- A node whose children lie inside of it and apart from each other has a cost: how many of its
newlines, the last character left aside, lie in no child whose last character is left aside. And
where every node of a finite part of a tree has a cost, these costs add up to the lines of the
topmost node beyond its first.
-/
theorem uniqueCost_counts (tree : Tree)
    : (tree.Placed
        → ∀ (id : NodeId) (node : Node),
            tree.nodes[id]? = some node
            → 0 ≤ node.region.start
            → tree.Parted node
            → ∃ own : Finset Nat,
                (∀ i : Nat,
                  i ∈ own
                  ↔ node.span.Reaches i
                    ∧ tree.source[i]? = some '\n'
                    ∧ ∀ child ∈ tree.nodesAt node.children, ¬child.span.Reaches i)
                ∧ tree.uniqueCost node = .ok own.card)
      ∧ ∀ (shape : Rose NodeId) (top : Node),
          tree.Grown shape
          → shape.preorder.Nodup
          → tree.nodes[shape.value]? = some top
          → (∀ node ∈ tree.nodesBelow shape.value, ∃ cost, tree.uniqueCost node = .ok cost)
          → ∃ costs,
              (tree.nodesBelow shape.value).mapM tree.uniqueCost = .ok costs
              ∧ costs.sum = top.span.lineCount - 1 := by
  constructor
  · intro placed id node found start parted
    refine ⟨tree.ownNewlines id, fun i => ?_, parted.uniqueCost_eq placed found start⟩
    have kids : tree.childrenOf id = node.children := by simp only [childrenOf, found]
    rw [mem_ownNewlines_iff, mem_newlines_iff found (placed.first_eq found ▸ start), and_assoc,
      kids]
    refine and_congr_right fun _ => and_congr_right fun newline => ?_
    constructor
    · intro none child member reaches
      obtain ⟨name, link, there⟩ := List.mem_filterMap.mp member
      exact none name link
        ((parted.mem_newlines_child placed found start link).mpr ⟨child, there, reaches, newline⟩)
    · intro none name link shown
      obtain ⟨child, there, reaches, -⟩ :=
        (parted.mem_newlines_child placed found start link).mp shown
      exact none child (List.mem_filterMap.mpr ⟨name, link, there⟩) reaches
  · intro shape top grown once found fine
    have nodes : tree.nodesBelow shape.value = tree.nodesAt shape.preorder := by
      rw [nodesBelow, preorder, subtree,
        grown.below_eq (Nat.le_succ_of_le (grown.size_le once)), nodesAt]
    rw [nodes] at fine ⊢
    -- what a node does not pay for its children do, down to the leaves
    refine ⟨_, mapM_uniqueCost fine fun id member => grown.found member, ?_⟩
    rw [grown.netLines_sum, extraLines, found]

/-- Four lines: a root over all of them, with a child that ends on a newline, one of no characters
on another newline, and one over the last two lines.
-/
def edges : Tree :=
  let region (start length : Int) : Region := ⟨0, start, length, "block", none, []⟩
  let skeleton : Rose Region :=
    .node (region 0 7) [.node (region 0 2) [], .node (region 3 0) [], .node (region 4 3) []]
  let source := ['a', '\n', 'b', '\n', '\n', 'c', '\n']
  (growSkeleton (empty source ⟨[], [['a']]⟩) skeleton).setRoot 0

/-- The root of the four lines costs what the newlines behind its first two children cost, and with
its last child that is all that it shows.
-/
theorem edges_uniqueCost_counts
    : edges.Placed
      ∧ edges.Parted edges.nodes[0]
      ∧ edges.uniqueCost edges.nodes[0] = .ok ({1, 3} : Finset Nat).card
      ∧ edges.Grown (.node 0 [.node 1 [], .node 2 [], .node 3 []])
      ∧ ∃ costs, (edges.nodesBelow 0).mapM edges.uniqueCost = .ok costs ∧ costs.sum = 3 := by
  have placed : edges.Placed := by
    have all : edges.nodes.all fun node => node.span = Span.ofRegion edges.source node.region := by
      decide +kernel
    intro id node found
    exact of_decide_eq_true (List.all_eq_true.mp all node (List.mem_of_getElem? found))
  have parted : edges.Parted edges.nodes[0] := ⟨by decide +kernel, by decide +kernel⟩
  have grown : edges.Grown (.node 0 [.node 1 [], .node 2 [], .node 3 []]) :=
    .node rfl rfl (by simpa using ⟨.leaf rfl rfl, .leaf rfl rfl, .leaf rfl rfl⟩)
  have fine : ∀ node ∈ edges.nodesBelow 0, (edges.uniqueCost node).toOption.isSome = true := by
    decide +kernel
  obtain ⟨own, counted, cost⟩ :=
    (uniqueCost_counts edges).1 placed 0 edges.nodes[0] rfl (by decide) parted
  have bare : own = {1, 3} := by
    have inside : ∀ i < 7, (edges.nodes[0].span.Reaches i
        ∧ edges.source[i]? = some '\n'
        ∧ ∀ child ∈ edges.nodesAt edges.nodes[0].children, ¬child.span.Reaches i)
        ↔ i ∈ ({1, 3} : Finset Nat) := by
      decide +kernel
    ext i
    rw [counted]
    by_cases small : i < 7
    · exact inside i small
    · have beyond : edges.source[i]? = none := List.getElem?_eq_none (Nat.le_of_not_lt small)
      simp only [beyond, Finset.mem_insert, Finset.mem_singleton]
      constructor
      · rintro ⟨-, ⟨⟩, -⟩
      · omega
  refine ⟨placed, parted, bare ▸ cost, grown,
    (uniqueCost_counts edges).2 _ edges.nodes[0] grown (by decide) rfl fun node member => ?_⟩
  have some := fine node member
  cases there : edges.uniqueCost node with
  | ok cost => exact ⟨cost, rfl⟩
  | error fault => simp [there, Except.toOption] at some

end Tree

end FoldTree
