import FoldTree.Proofs.Offer.Baseline
import FoldTree.Proofs.Text.Offset
import Mathlib.Algebra.BigOperators.Group.Finset.Basic
import Mathlib.Algebra.BigOperators.Ring.Finset
import Mathlib.Order.Interval.Finset.Nat

/-! The newlines that nodes show. A node shows one line beyond its first for each newline inside of
it, so what it costs by itself is how many newlines none of its children shows, less those that are
shown by more than one of them.
-/

namespace FoldTree.Tree

open Finset

variable {tree : Tree} {id : NodeId}

/-- The offsets of the newlines between the first character of a node and its last one. -/
def newlines (tree : Tree) (id : NodeId) : Finset Nat :=
  match tree.nodes[id]? with
  | some node => {i ∈ Ico node.span.first.toNat node.span.last.toNat | tree.source[i]? = some '\n'}
  | none => ∅

/-- How many children of a node show a newline. -/
def showers (tree : Tree) (id : NodeId) (i : Nat) : Nat :=
  (tree.childrenOf id).countP fun child => i ∈ tree.newlines child

/-- The newlines of a node that none of its children shows. -/
def ownNewlines (tree : Tree) (id : NodeId) : Finset Nat :=
  {i ∈ tree.newlines id | tree.showers id i = 0}

/-- The newlines of a node that more than one of its children shows. -/
def sharedNewlines (tree : Tree) (id : NodeId) : Finset Nat :=
  {i ∈ tree.newlines id | 1 < tree.showers id i}

/-- A node whose children share more newlines than it has of its own. -/
def Overlaid (tree : Tree) (id : NodeId) : Prop :=
  (tree.ownNewlines id).card < (tree.sharedNewlines id).card

instance (tree : Tree) (id : NodeId) : Decidable (tree.Overlaid id) :=
  inferInstanceAs (Decidable (_ < _))

/-- The children of a node share its newlines in pairs at most, and show no others. -/
structure Paired (tree : Tree) (id : NodeId) : Prop where
  measured : ∀ shown ∈ id :: tree.childrenOf id, tree.extraLines shown = (tree.newlines shown).card
  inside : ∀ child ∈ tree.childrenOf id, tree.newlines child ⊆ tree.newlines id
  pairs : ∀ i ∈ tree.newlines id, tree.showers id i ≤ 2

/-- At most one item of a list passes a test if no two of them do, by induction on the list. -/
theorem countP_le_one {α : Type} {p : α → Bool} {items : List α}
    (apart : items.Pairwise fun one other => p one = true → p other = false)
    : items.countP p ≤ 1 := by
  induction apart with
  | nil => simp
  | @cons item rest beside _ ih =>
      rw [List.countP_cons]
      by_cases here : p item = true
      · have none : rest.countP p = 0 :=
          List.countP_eq_zero.mpr fun other member => by simp [beside other member here]
        simp [here, none]
      · simpa [here] using ih

/-- The newlines between two offsets of a text, by induction on the second. -/
theorem card_newlines (text : List Char) {first last : Nat} (order : first ≤ last)
    : (text.take first).count '\n' + (#{i ∈ Ico first last | text[i]? = some '\n'})
      = (text.take last).count '\n' := by
  induction last, order using Nat.le_induction with
  | base => simp
  | succ last order ih =>
      rw [Nat.Ico_succ_right_eq_insert_Ico order, filter_insert, List.take_add_one,
        List.count_append, ← ih]
      cases there : text[last]? with
      | none => simp
      | some c =>
          by_cases newline : c = '\n'
          · subst newline
            simp [Nat.add_assoc]
          · simp [newline]

/-- A node shows one line beyond its first for each newline inside of it. -/
theorem extraLines_eq {node : Node} (found : tree.nodes[id]? = some node)
    (span : node.span = Span.ofRegion tree.source node.region) (start : 0 ≤ node.region.start)
    : tree.extraLines id = (tree.newlines id).card := by
  simp only [extraLines, newlines, found, Span.lineCount, span, Span.ofRegion, Text.lineNumber]
  have last : 0 ≤ node.region.start + max node.region.length 1 - 1 := by omega
  have order : node.region.start.toNat
      ≤ (node.region.start + max node.region.length 1 - 1).toNat := by omega
  have count := card_newlines tree.source order
  rw [if_neg (by omega), if_neg (by omega)]
  omega

/-- The newlines of several nodes inside of some newlines add up to how often each of these is
shown, by induction on the nodes.
-/
theorem sum_card_newlines (shown : Finset Nat) (ids : List NodeId)
    (inside : ∀ id ∈ ids, tree.newlines id ⊆ shown)
    : (ids.map fun id => (tree.newlines id).card).sum
      = ∑ i ∈ shown, ids.countP fun id => i ∈ tree.newlines id := by
  induction ids with
  | nil => simp
  | cons id rest ih =>
      have later := ih fun other member => inside other (List.mem_cons_of_mem _ member)
      have here : (tree.newlines id).card = ∑ i ∈ shown, if i ∈ tree.newlines id then 1 else 0 := by
        rw [← card_filter, filter_mem_eq_inter, inter_eq_right.mpr (inside id List.mem_cons_self)]
      rw [List.map_cons, List.sum_cons, later, here, ← sum_add_distrib]
      refine sum_congr rfl fun i _ => ?_
      simp [List.countP_cons, Nat.add_comm]

/-- What a node costs by itself is how many newlines are its own, less those that its children
share.
-/
theorem Paired.netLines_eq (paired : tree.Paired id)
    : tree.netLines id = (tree.ownNewlines id).card - (tree.sharedNewlines id).card := by
  have children : ((tree.childrenOf id).map tree.extraLines).sum
      = ((∑ i ∈ tree.newlines id, tree.showers id i : Nat) : Int) := by
    have same : (tree.childrenOf id).map tree.extraLines
        = ((tree.childrenOf id).map fun child => (tree.newlines child).card).map Nat.cast := by
      rw [List.map_map]
      exact List.map_congr_left fun child member =>
        paired.measured child (List.mem_cons_of_mem _ member)
    rw [same, ← Nat.cast_list_sum, sum_card_newlines _ _ paired.inside]
    rfl
  have each : ∀ i ∈ tree.newlines id, (1 : Int) - tree.showers id i
      = (if tree.showers id i = 0 then 1 else 0) - (if 1 < tree.showers id i then 1 else 0) := by
    intro i member
    have pairs := paired.pairs i member
    split_ifs <;> omega
  rw [netLines, paired.measured id List.mem_cons_self, children, ownNewlines, sharedNewlines,
    card_filter, card_filter, card_eq_sum_ones]
  push_cast
  rw [← sum_sub_distrib, ← sum_sub_distrib]
  exact sum_congr rfl each

/-- The net lines of a node are below zero just if its children share more newlines than it has of
its own.
-/
theorem Paired.netLines_neg_iff (paired : tree.Paired id)
    : tree.netLines id < 0 ↔ tree.Overlaid id := by
  rw [paired.netLines_eq, Overlaid]
  omega

end FoldTree.Tree
