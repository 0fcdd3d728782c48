import FoldTree.Proofs.Decimal.Doubles
import FoldTree.Proofs.Offer.Payment
import FoldTree.Proofs.Tree.Writing

/-! What there is to spend after payments. No charge is more than the lines of the text, since what a
node and its folded ancestors show by themselves is all shown by the topmost of them. So what is left
of a finite budget is finite, and what is left of any other is not.
-/

namespace FoldTree

/-- The lines of a text are at most its characters and one. -/
theorem Text.lineNumber_le (text : List Char) (offset : Int)
    : lineNumber text offset ≤ text.length + 1 := by
  unfold lineNumber
  split
  · omega
  · have counted := List.count_le_length (a := '\n') (l := text.take offset.toNat)
    rw [List.length_take] at counted
    omega

/-- Offsets further on are on later lines. -/
theorem Text.lineNumber_mono (text : List Char) {first last : Int} (order : first ≤ last)
    : lineNumber text first ≤ lineNumber text last := by
  unfold lineNumber
  split
  · omega
  · rw [if_neg (by omega)]
    have part : text.take first.toNat <+: text.take last.toNat :=
      List.take_prefix_take_left (by omega)
    have counted := part.sublist.count_le '\n'
    omega

namespace Tree

variable {tree : Tree} {shape : Rose NodeId} {id : NodeId} {ceiling : Int}

/-- A written node has no more lines beyond its first than there are in the text. -/
theorem Written.extraLines_bounds (written : tree.Written) (id : NodeId)
    : 0 ≤ tree.extraLines id ∧ tree.extraLines id ≤ tree.source.length + 1 := by
  unfold extraLines
  split
  · rename_i node found
    have span := (written node (List.mem_of_getElem? found)).span
    have most := Text.lineNumber_le tree.source (node.region.start + max node.region.length 1 - 1)
    have order : Text.lineNumber tree.source node.region.start
        ≤ Text.lineNumber tree.source (node.region.start + max node.region.length 1 - 1) :=
      Text.lineNumber_mono _ (by omega)
    simp only [span, Span.ofRegion, Span.lineCount]
    omega
  · omega

/-- What a node comes to leaves room for the lines of its children: what it shows by itself is less by
all of them.
-/
theorem accrued_add_le {above : List NodeId} (lines : Int)
    (room : tree.accrued above + tree.extraLines id ≤ ceiling) (most : lines ≤ ceiling)
    (shown : lines ≤ ((tree.childrenOf id).map tree.extraLines).sum)
    : tree.accrued (id :: above) + lines ≤ ceiling := by
  cases shut : tree.folded id with
  | false =>
      rw [accrued_cons_unfolded shut, Int.zero_add]
      exact most
  | true =>
      rw [accrued_cons_folded shut, netLines]
      omega

/-- No node comes to more than the most lines of any node, by induction on the shape: what is above a
node leaves room for its lines.
-/
theorem Grown.accrued_le (grown : tree.Grown shape)
    (bounds : ∀ id, 0 ≤ tree.extraLines id ∧ tree.extraLines id ≤ ceiling) {above : List NodeId}
    (room : tree.accrued above + tree.extraLines shape.value ≤ ceiling)
    : ∀ lineage ∈ shape.lineages above, tree.accrued (lineage.1 :: lineage.2) ≤ ceiling := by
  induction grown generalizing above with
  | @node id node below found children grown ih =>
      have shown : (tree.childrenOf id).map tree.extraLines
          = below.map fun branch => tree.extraLines branch.value := by
        simp only [childrenOf, found, children, List.map_map]
        rfl
      have positive : ∀ lines ∈ below.map fun branch => tree.extraLines branch.value, 0 ≤ lines := by
        simp [bounds]
      change tree.accrued above + tree.extraLines id ≤ ceiling at room
      intro lineage member
      rw [Rose.lineages, List.mem_cons, Rose.lineagesAll_eq_flatMap, List.mem_flatMap] at member
      rcases member with rfl | ⟨branch, inside, member⟩
      · have none := accrued_add_le 0 room ((bounds id).1.trans (bounds id).2) (by
          rw [shown]
          exact List.sum_nonneg positive)
        rwa [Int.add_zero] at none
      · refine ih branch inside (accrued_add_le _ room (bounds branch.value).2 ?_) lineage member
        rw [shown]
        exact List.single_le_sum positive _ (List.mem_map_of_mem inside)

/-! ### Charges -/

/-- A charge is at most the lines of the text. -/
theorem Forms.charge_bounds (forms : tree.Forms shape) (written : tree.Written) {cost : Int}
    (charged : tree.charge id = .ok cost)
    : 0 ≤ cost ∧ cost ≤ tree.source.length + 1 := by
  have bounds := written.extraLines_bounds
  rw [charge, forms.baseline_eq, unlessBroken] at charged
  split at charged
  · cases charged
  · rename_i whole
    rw [Outcome.ok_bind] at charged
    split at charged
    · cases charged
    · rename_i offer listed
      cases charged
      obtain ⟨lineage, inside, same⟩ := List.mem_map.mp (Entries.mem_of_lookup listed)
      cases same
      refine ⟨accrued_nonneg fun id above => ?_, ?_⟩
      · have reached : id ∈ shape.preorder := by simpa using Rose.mem_of_mem_lineage inside above
        simpa using List.find?_eq_none.mp whole id reached
      · refine forms.grown.accrued_le bounds ?_ lineage inside
        rw [accrued, List.takeWhile_nil, List.map_nil, List.sum_nil, Int.zero_add]
        exact (bounds shape.value).2

/-- A payment that succeeds leaves the tree with the node paid for. -/
theorem paid_of_pay {next : Tree} (payed : tree.pay id = .ok next)
    : next = tree.paid [id] next.budget := by
  rw [pay_eq] at payed
  obtain ⟨left, spent, rfl⟩ := Outcome.map_eq_ok.mp payed
  obtain ⟨cost, -, shrunk⟩ := Outcome.bind_eq_ok.mp spent
  rw [shrinkBudget] at shrunk
  split at shrunk
  · cases shrunk
  · cases shrunk
    rfl

/-- A tree is as well written when nodes are paid for. -/
theorem Written.paid (written : tree.Written) (budget : Float) : (tree.paid [id] budget).Written :=
  written.update id fun _ old => ⟨old.span, old.text⟩

/-- No charge is more than the lines of the text, by induction on the requests. -/
theorem Forms.charges_bounds (forms : tree.Forms shape) (written : tree.Written) (ids : List Int)
    : ∀ cost ∈ tree.charges ids, 0 ≤ cost ∧ cost ≤ tree.source.length + 1 := by
  induction ids generalizing tree with
  | nil => simp [charges]
  | cons id rest ih =>
      rw [charges]
      split
      · split
        · rename_i cost next charged payed
          have left := paid_of_pay payed
          rw [left]
          exact List.forall_mem_cons.mpr ⟨forms.charge_bounds written charged,
            ih (forms.paid [id.toNat] _) (written.paid _)⟩
        · simp
      · simp

end Tree

/-- What is left of a budget when one charge after the other is taken from it. -/
def afterCharges (budget : Float) (charges : List Int) : Float :=
  charges.foldl (fun budget cost => budget - Float.ofInt cost) budget

/-- What is left of a finite budget is finite, where the charges are whole numbers of a machine word.
By induction on them.
-/
theorem isFinite_afterCharges {charges : List Int}
    (words : ∀ cost ∈ charges, 0 ≤ cost ∧ cost < 2 ^ 64) {budget : Float}
    (finite : budget.isFinite = true)
    : (afterCharges budget charges).isFinite = true := by
  induction charges generalizing budget with
  | nil => exact finite
  | cons cost rest ih =>
      obtain ⟨⟨positive, word⟩, words⟩ := List.forall_mem_cons.mp words
      exact ih words (Decimal.isFinite_sub_ofInt finite positive word)

/-- What is left of a budget that is not finite is not finite, by induction on the charges. -/
theorem isFinite_afterCharges_left {budget : Float} (lacking : budget.isFinite = false)
    (charges : List Int)
    : (afterCharges budget charges).isFinite = false := by
  induction charges generalizing budget with
  | nil => exact lacking
  | cons cost rest ih => exact ih (Decimal.isFinite_sub_left lacking _)

end FoldTree
