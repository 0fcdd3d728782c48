import FoldTree.Proofs.Entries
import FoldTree.Proofs.Offer.Baseline
import FoldTree.Proofs.Tree.Ancestry
import Mathlib.Algebra.Order.BigOperators.Group.List

/-! Dues. A node that is to be unfolded owes the net lines of itself and of the ancestors right above
it that have not been paid for. Who pays for an ancestor depends on the order in which nodes are
paid; what is paid in all is least when no node is paid before an ancestor of its own.
-/

namespace FoldTree

namespace Rose

variable {α : Type} [DecidableEq α]

/-- A value with its ancestors, the nearest first. -/
def lineageOf (t : Rose α) (a : α) : List α :=
  a :: ((t.lineages []).lookup a).getD []

/-- The lineage of a value of a tree of distinct values is the one that the tree lists. -/
theorem lineageOf_eq {t : Rose α} (once : t.preorder.Nodup) {lineage : α × List α}
    (member : lineage ∈ t.lineages [])
    : t.lineageOf lineage.1 = lineage.1 :: lineage.2 := by
  rw [← map_fst_lineages []] at once
  rw [lineageOf, Entries.lookup_of_mem once member]
  rfl

end Rose

namespace Tree

variable {tree : Tree} {shape : Rose NodeId} {before more : List NodeId} {id : NodeId}

/-! ### What a lineage owes -/

/-- What a lineage owes when some nodes have been paid for: the net lines of its first nodes up to
one that has been paid for.
-/
def due (tree : Tree) (before lineage : List NodeId) : Int :=
  ((lineage.takeWhile fun id => decide (id ∉ before)).map tree.netLines).sum

/-- A node that has been paid for owes nothing. -/
theorem due_paid (paid : id ∈ before) (above : List NodeId) : tree.due before (id :: above) = 0 := by
  simp [due, paid]

/-- A node that has not been paid for owes its own net lines on top of what is due above it. -/
theorem due_unpaid (unpaid : id ∉ before) (above : List NodeId)
    : tree.due before (id :: above) = tree.netLines id + tree.due before above := by
  simp [due, unpaid]

/-- What is due depends on which nodes of the lineage have been paid for, by induction on it. -/
theorem due_congr {lineage : List NodeId} (same : ∀ id ∈ lineage, id ∈ before ↔ id ∈ more)
    : tree.due before lineage = tree.due more lineage := by
  induction lineage with
  | nil => rfl
  | cons id above ih =>
      have rest := ih fun other member => same other (List.mem_cons_of_mem _ member)
      by_cases paid : id ∈ before
      · rw [due_paid paid, due_paid ((same id List.mem_cons_self).mp paid)]
      · rw [due_unpaid paid, due_unpaid fun paid' => paid ((same id List.mem_cons_self).mpr paid'),
          rest]

/-- Nothing below zero is due, by induction on the lineage. -/
theorem due_nonneg {lineage : List NodeId} (nets : ∀ id ∈ lineage, 0 ≤ tree.netLines id)
    : 0 ≤ tree.due before lineage := by
  induction lineage with
  | nil => exact Int.le_refl 0
  | cons id above ih =>
      by_cases paid : id ∈ before
      · rw [due_paid paid]
      · rw [due_unpaid paid]
        exact Int.add_nonneg (nets id List.mem_cons_self)
          (ih fun other member => nets other (List.mem_cons_of_mem _ member))

/-- The more nodes have been paid for, the less is due, by induction on the lineage. -/
theorem due_anti {lineage : List NodeId} (nets : ∀ id ∈ lineage, 0 ≤ tree.netLines id)
    (included : ∀ id ∈ lineage, id ∈ before → id ∈ more)
    : tree.due more lineage ≤ tree.due before lineage := by
  induction lineage with
  | nil => exact Int.le_refl 0
  | cons id above ih =>
      by_cases paid : id ∈ more
      · rw [due_paid paid]
        exact due_nonneg nets
      · have unpaid : id ∉ before := fun paid' => paid (included id List.mem_cons_self paid')
        rw [due_unpaid paid, due_unpaid unpaid]
        exact Int.add_le_add_left (ih (fun other member => nets other (List.mem_cons_of_mem _ member))
          fun other member => included other (List.mem_cons_of_mem _ member)) _

/-! ### Bills -/

/-- What is due for nodes that are paid one after the other. -/
def bill (tree : Tree) (shape : Rose NodeId) : List NodeId → List NodeId → List Int
  | _, [] => []
  | before, id :: rest =>
    tree.due before (shape.lineageOf id) :: tree.bill shape (before ++ [id]) rest

/-- Every node has its place on a bill, by induction. -/
theorem length_bill (ids : List NodeId) : (tree.bill shape before ids).length = ids.length := by
  induction ids generalizing before with
  | nil => rfl
  | cons id rest ih => rw [bill, List.length_cons, List.length_cons, ih]

/-- The others of a set are those before a node and those behind it. -/
theorem erase_middle {rest : List NodeId} (once : (before ++ id :: rest).Nodup)
    : (before ++ id :: rest).erase id = before ++ rest := by
  have fresh : id ∉ before := fun member =>
    (List.nodup_append.mp once).2.2 id member id List.mem_cons_self rfl
  rw [List.erase_append_right _ fresh, List.erase_cons_head]

/-- What a node owes when all others of a set have been paid for. -/
def share (tree : Tree) (shape : Rose NodeId) (ids : List NodeId) (id : NodeId) : Int :=
  tree.due (ids.erase id) (shape.lineageOf id)

section

variable (forms : tree.Forms shape) (nets : ∀ id ∈ shape.preorder, 0 ≤ tree.netLines id)

include forms

/-- A lineage holds its node, and nodes above it, all of them reached. -/
theorem Forms.mem_lineageOf (reached : id ∈ shape.preorder) {other : NodeId}
    (member : other ∈ shape.lineageOf id)
    : other ∈ shape.preorder ∧ (other = id ∨ tree.Above other id) := by
  obtain ⟨above, listed⟩ := Rose.exists_lineage reached
  rw [Rose.lineageOf_eq forms.once listed] at member
  refine ⟨Rose.mem_preorder_of_lineage listed member, ?_⟩
  rcases List.mem_cons.mp member with same | up
  · exact Or.inl same
  · exact Or.inr (forms.above_of_lineage listed up)

include nets in
/-- No order of a set asks less than the shares. Witness: induction on the nodes still to be paid
for, all of which are among the others of the set.
-/
theorem Forms.share_sum_le_bill {ids : List NodeId} (once : (before ++ ids).Nodup)
    (reached : ∀ id ∈ ids, id ∈ shape.preorder)
    : (ids.map (tree.share shape (before ++ ids))).sum ≤ (tree.bill shape before ids).sum := by
  induction ids generalizing before with
  | nil => exact Int.le_refl 0
  | cons id rest ih =>
      have split : before ++ id :: rest = before ++ [id] ++ rest := by simp
      have later := ih (split ▸ once) fun other member => reached other (List.mem_cons_of_mem _ member)
      rw [List.map_cons, List.sum_cons, bill, List.sum_cons, share, erase_middle once]
      refine Int.add_le_add (due_anti (fun other member => ?_) fun other _ paid => ?_)
        (split ▸ later)
      · exact nets other (forms.mem_lineageOf (reached id List.mem_cons_self) member).1
      · exact List.mem_append_left _ paid

/-- An order in which no node comes before one that it stands below asks for just the shares, by the
same induction: all ancestors in the set have been paid for when a node's turn comes.
-/
theorem Forms.bill_eq_share {ids : List NodeId} (once : (before ++ ids).Nodup)
    (reached : ∀ id ∈ ids, id ∈ shape.preorder) (first : tree.AncestorsFirst (before ++ ids))
    : tree.bill shape before ids = ids.map (tree.share shape (before ++ ids)) := by
  induction ids generalizing before with
  | nil => rfl
  | cons id rest ih =>
      have split : before ++ id :: rest = before ++ [id] ++ rest := by simp
      have later := ih (split ▸ once)
        (fun other member => reached other (List.mem_cons_of_mem _ member)) (split ▸ first)
      rw [List.map_cons, bill, share, erase_middle once, later, split]
      refine congrArg (· :: _) (due_congr fun other member => ?_)
      refine ⟨List.mem_append_left _, fun among => ?_⟩
      rcases List.mem_append.mp among with paid | unpaid
      · exact paid
      · -- a node that is still to be paid for does not stand above this one
        obtain ⟨fresh, -⟩ := List.nodup_cons.mp (List.nodup_append.mp once).2.1
        obtain ⟨below, -⟩ := List.pairwise_cons.mp (List.pairwise_append.mp first).2.1
        rcases (forms.mem_lineageOf (reached id List.mem_cons_self) member).2 with rfl | up
        · exact absurd unpaid fresh
        · exact absurd up (below other unpaid)

end

/-- The shares of a set add up to the same in every order. -/
theorem share_sum_perm {ids other : List NodeId} (perm : ids.Perm other)
    : (ids.map (tree.share shape ids)).sum = (other.map (tree.share shape other)).sum := by
  have same : tree.share shape ids = tree.share shape other :=
    funext fun id => due_congr fun _ _ => (perm.erase id).mem_iff
  rw [same]
  exact (perm.map _).sum_eq

/-- Where all nodes are to be paid for, each of them owes its own net lines. -/
theorem Forms.share_all (forms : tree.Forms shape) (reached : id ∈ shape.preorder)
    : tree.share shape shape.preorder id = tree.netLines id := by
  obtain ⟨above, listed⟩ := Rose.exists_lineage reached
  obtain ⟨other, -⟩ := List.nodup_cons.mp (forms.lineage_nodup listed)
  have unpaid : id ∉ shape.preorder.erase id := forms.once.not_mem_erase
  rw [share, Rose.lineageOf_eq forms.once listed, due_unpaid unpaid]
  cases above with
  | nil => exact Int.add_zero _
  | cons parent rest =>
      -- the parent is among the others, so that nothing is due beyond the node itself
      have inside := Rose.mem_preorder_of_lineage listed (List.mem_cons_of_mem _ List.mem_cons_self)
      have differ : parent ≠ id := fun same => other (same ▸ List.mem_cons_self)
      rw [due_paid (forms.once.mem_erase_iff.mpr ⟨differ, inside⟩), Int.add_zero]

/-- The net lines of all nodes add up to what the root shows, for what a node shows of its children
is what these show, by induction on the shape.
-/
theorem Grown.netLines_sum (grown : tree.Grown shape)
    : (shape.preorder.map tree.netLines).sum = tree.extraLines shape.value := by
  induction grown with
  | @node id node below found children _ ih =>
      have branches : ((below.flatMap Rose.preorder).map tree.netLines).sum
          = (below.map fun branch => tree.extraLines branch.value).sum := by
        rw [List.map_flatMap, List.flatMap_def, List.sum_flatten, List.map_map]
        exact congrArg List.sum (List.map_congr_left ih)
      have kids : tree.childrenOf id = below.map Rose.value := by
        simp only [childrenOf, found, children]
      rw [Rose.preorder_node, List.map_cons, List.sum_cons, branches, netLines, kids, List.map_map]
      exact Int.sub_add_cancel _ _

end Tree

end FoldTree
