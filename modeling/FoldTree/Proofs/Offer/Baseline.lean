import FoldTree.Offer.Basic
import FoldTree.Tree.Graft
import FoldTree.Proofs.Entries
import FoldTree.Proofs.Tree.Shape
import Mathlib.Algebra.BigOperators.Group.List.Basic
import Mathlib.Algebra.Order.Group.Int
import Mathlib.Algebra.Ring.Int.Defs

/-! What the pass over costs gives. A node costs what it and its folded ancestors, up to the nearest
unfolded one, show by themselves; the pass fails at the first folded node in pre-order that shows
fewer lines than its children do.
-/

namespace FoldTree.Tree

variable {tree : Tree} {shape : Rose NodeId} {id : NodeId} {node : Node}

/-- Whether an id has a node that is folded. -/
def folded (tree : Tree) (id : NodeId) : Bool :=
  match tree.nodes[id]? with
  | some node => !node.unfolded
  | none => false

/-- The lines beyond its first that a node shows, less those that its children show. -/
def netLines (tree : Tree) (id : NodeId) : Int :=
  tree.extraLines id - ((tree.childrenOf id).map tree.extraLines).sum

/-- Whether a node is folded and its children show more lines than it does. -/
def isBroken (tree : Tree) (id : NodeId) : Bool :=
  tree.folded id && decide (tree.netLines id < 0)

/-- A folded node whose children show more lines beyond their first than it does. -/
def Overfull (tree : Tree) (id : NodeId) : Prop :=
  ∃ node,
    tree.nodes[id]? = some node
    ∧ node.unfolded = false
    ∧ node.span.lineCount - 1 < (node.children.map tree.extraLines).sum

/-- What is reported of a node whose children show more lines than it does. -/
def brokenFault (tree : Tree) (id : NodeId) : Fault :=
  match tree.nodes[id]? with
  | some node => .negativeUniqueCost (tree.netLines id) node.id node.span
  | none => .unknownNode id

/-- The net lines of a node and its ancestors, the nearest first, up to the first unfolded one. -/
def accrued (tree : Tree) (lineage : List NodeId) : Int :=
  ((lineage.takeWhile tree.folded).map tree.netLines).sum

/-- The offer for a node with its ancestors. -/
def offerAt (tree : Tree) (profit : NodeId → Option Float) (lineage : NodeId × List NodeId)
    : NodeId × Offer :=
  (lineage.1, ⟨tree.accrued (lineage.1 :: lineage.2), profit lineage.1⟩)

/-- The test for a broken node finds just those that are overfull. -/
theorem isBroken_iff_overfull : tree.isBroken id = true ↔ tree.Overfull id := by
  cases found : tree.nodes[id]? with
  | none => simp [isBroken, folded, Overfull, found]
  | some node =>
      simp only [isBroken, folded, found, netLines, extraLines, childrenOf, Overfull,
        Bool.and_eq_true, Bool.not_eq_true', decide_eq_true_eq, Option.some.injEq,
        exists_eq_left', and_congr_right_iff]
      omega

/-- A node that is folded adds its net lines to those of its ancestors. -/
theorem accrued_cons_folded (folded : tree.folded id = true) (above : List NodeId)
    : tree.accrued (id :: above) = tree.netLines id + tree.accrued above := by
  simp [accrued, folded]

/-- A node that is unfolded starts from nothing. -/
theorem accrued_cons_unfolded (unfolded : tree.folded id = false) {above : List NodeId}
    : tree.accrued (id :: above) = 0 := by
  simp [accrued, unfolded]

/-- Children are summed one after the other. -/
theorem childLines_eq_sum (tree : Tree) (node : Node)
    : tree.childLines node = (node.children.map tree.extraLines).sum := by
  rw [childLines, List.sum_eq_foldl, List.foldl_map]

/-- The unique cost of a node is its net lines, unless they are below zero. -/
theorem uniqueCost_eq (found : tree.nodes[id]? = some node)
    : tree.uniqueCost node
      = if tree.netLines id < 0 then .error (tree.brokenFault id) else .ok (tree.netLines id) := by
  have same : node.span.lineCount - 1 - tree.childLines node = tree.netLines id := by
    simp only [netLines, extraLines, childrenOf, found, childLines_eq_sum]
  simp only [uniqueCost, same, brokenFault, found]

/-- The offer for a node counts from what its ancestors come to, and its children count on from
it. The total is never below zero on its own account, since every part of it is checked.
-/
theorem offerFor_eq (found : tree.nodes[id]? = some node) {above : List NodeId}
    (positive : 0 ≤ tree.accrued above) (profit : Option Float)
    : tree.offerFor node (tree.accrued above) profit
      = if tree.isBroken id then .error (tree.brokenFault id)
        else .ok (⟨tree.accrued (id :: above), profit⟩, tree.accrued (id :: above)) := by
  by_cases unfolded : node.unfolded = true
  · have shut : tree.folded id = false := by simp [folded, found, unfolded]
    simp [offerFor, unfolded, isBroken, shut, accrued_cons_unfolded shut]
  · have shut : tree.folded id = true := by simp [folded, found, unfolded]
    simp only [offerFor, unfolded, uniqueCost_eq found, isBroken, shut, Bool.true_and]
    by_cases broken : tree.netLines id < 0
    · simp [broken, bind, Except.bind]
    · have total : ¬tree.accrued above + tree.netLines id < 0 := by omega
      simp [broken, bind, Except.bind, total, accrued_cons_folded shut, Int.add_comm, pure,
        Except.pure]

/-- What a node and its ancestors come to stays at least zero below a node that is not broken. -/
theorem accrued_cons_nonneg {above : List NodeId} (positive : 0 ≤ tree.accrued above)
    (sound : tree.isBroken id = false)
    : 0 ≤ tree.accrued (id :: above) := by
  by_cases shut : tree.folded id = true
  · simp only [isBroken, shut, Bool.true_and, decide_eq_false_iff_not] at sound
    rw [accrued_cons_folded shut]
    omega
  · rw [accrued_cons_unfolded (by simpa using shut)]

/-- A lineage without broken nodes comes to at least zero, by induction. -/
theorem accrued_nonneg {lineage : List NodeId}
    (sound : ∀ id ∈ lineage, tree.isBroken id = false)
    : 0 ≤ tree.accrued lineage := by
  induction lineage with
  | nil => exact Int.le_refl 0
  | cons id above ih =>
      exact accrued_cons_nonneg (ih fun other member => sound other (List.mem_cons_of_mem _ member))
        (sound id List.mem_cons_self)

/-- The outcome of a pass that visits ids in order and fails at the first broken node. -/
def unlessBroken (tree : Tree) (ids : List NodeId) (table : OfferTable) : Except Fault OfferTable :=
  match ids.find? tree.isBroken with
  | some id => .error (tree.brokenFault id)
  | none => .ok table

mutual

/-- The pass over a grown shape gives an offer for each lineage, or the fault of the first broken
node. Witness: induction on the shape, where the accumulator is what the ancestors come to.
-/
theorem baselineBelow_eq (shape : Rose NodeId) (grown : tree.Grown shape) (above : List NodeId)
    (positive : 0 ≤ tree.accrued above)
    : tree.baselineBelow (tree.accrued above) shape
      = tree.unlessBroken shape.preorder
          ((shape.lineages above).map (tree.offerAt fun _ => none)) := by
  cases grown with
  | @node id node below found _ grown =>
      cases broken : tree.isBroken id with
      | true =>
          simp [baselineBelow, found, offerFor_eq found positive, broken, unlessBroken,
            Rose.preorder, bind, Except.bind]
      | false =>
          have rest := baselineAll_eq below grown (id :: above)
            (accrued_cons_nonneg positive broken)
          simp only [baselineBelow, found, offerFor_eq found positive, broken, bind, Except.bind,
            Bool.false_eq_true, if_false, rest, unlessBroken, Rose.preorder,
            List.find?_cons_of_neg, not_false_eq_true]
          cases List.find? tree.isBroken (Rose.preorderAll below) with
          | some id => rfl
          | none => rfl
termination_by sizeOf shape

/-- The pass over several shapes below the same ancestors, by the same induction. -/
theorem baselineAll_eq (shapes : List (Rose NodeId))
    (grown : ∀ branch ∈ shapes, tree.Grown branch) (above : List NodeId)
    (positive : 0 ≤ tree.accrued above)
    : tree.baselineAll (tree.accrued above) shapes
      = tree.unlessBroken (Rose.preorderAll shapes)
          ((Rose.lineagesAll above shapes).map (tree.offerAt fun _ => none)) := by
  cases shapes with
  | nil => rfl
  | cons branch rest =>
      have first := baselineBelow_eq branch (grown branch List.mem_cons_self) above positive
      have others := baselineAll_eq rest
        (fun other member => grown other (List.mem_cons_of_mem _ member)) above positive
      simp only [baselineAll, first, others, unlessBroken, bind, Except.bind, Rose.preorderAll,
        List.find?_append]
      cases List.find? tree.isBroken branch.preorder with
      | some id => rfl
      | none =>
          cases List.find? tree.isBroken (Rose.preorderAll rest) with
          | some id => rfl
          | none => simp [Rose.lineagesAll, pure, Except.pure]
termination_by sizeOf shapes

end

/-- The pass over a whole tree, as an offer for each lineage of its shape. -/
theorem Forms.baseline_eq (forms : tree.Forms shape)
    : tree.baseline
      = tree.unlessBroken shape.preorder
          ((shape.lineages []).map (tree.offerAt fun _ => none)) := by
  have start : tree.rootId = .ok shape.value := by simp only [rootId, forms.root]
  have whole := baselineBelow_eq shape forms.grown [] (Int.le_refl 0)
  simp only [baseline, start, bind, Except.bind, forms.subtree_eq]
  exact whole

/-- The offer for a reached node is looked up by its id. -/
theorem Forms.lookup_offers (forms : tree.Forms shape) (profit : NodeId → Option Float)
    {lineage : NodeId × List NodeId} (listed : lineage ∈ shape.lineages [])
    : ((shape.lineages []).map (tree.offerAt profit)).lookup lineage.1
      = some ⟨tree.accrued (lineage.1 :: lineage.2), profit lineage.1⟩ := by
  have keys : ((shape.lineages []).map (tree.offerAt profit)).map Prod.fst = shape.preorder := by
    rw [List.map_map]
    exact Rose.map_fst_lineages [] shape
  have once := forms.once
  rw [← keys] at once
  exact Entries.lookup_of_mem once (List.mem_map_of_mem (f := tree.offerAt profit) listed)

/-- The pass fails just where some folded node is overfull, for the unique cost of one that is;
otherwise it gives one offer for each node in pre-order. The cost of an offer is the sum of the
unique costs from the node up to the nearest unfolded ancestor, which is nothing for a node that is
unfolded itself, and it is never below zero.
-/
theorem Forms.baseline_costs (forms : tree.Forms shape)
    : ((∃ fault, tree.baseline = .error fault) ↔ ∃ id ∈ shape.preorder, tree.Overfull id)
      ∧ (∀ fault,
          tree.baseline = .error fault
          → ∃ id ∈ shape.preorder,
              ∃ node,
                tree.nodes[id]? = some node
                ∧ tree.Overfull id
                ∧ fault = .negativeUniqueCost (tree.netLines id) id node.span)
      ∧ ∀ table,
          tree.baseline = .ok table
          → table.map Prod.fst = shape.preorder
            ∧ (table.map Prod.fst).Nodup
            ∧ table = (shape.lineages []).map (tree.offerAt fun _ => none)
            ∧ (∀ id ∈ shape.preorder,
                ∀ node,
                  tree.nodes[id]? = some node
                  → node.unfolded = false
                  → tree.uniqueCost node = .ok (tree.netLines id))
            ∧ ∀ entry ∈ table,
                0 ≤ entry.2.cost
                ∧ entry.2.profit = none
                ∧ (tree.folded entry.1 = false → entry.2.cost = 0) := by
  rw [forms.baseline_eq]
  cases first : shape.preorder.find? tree.isBroken with
  | some id =>
      have member := List.mem_of_find?_eq_some first
      have broken := isBroken_iff_overfull.mp (List.find?_some first)
      obtain ⟨node, found⟩ := forms.grown.found member
      simp only [unlessBroken, first]
      refine ⟨⟨fun _ => ⟨id, member, broken⟩, fun _ => ⟨_, rfl⟩⟩, ?_, by simp⟩
      intro fault same
      refine ⟨id, member, node, found, broken, ?_⟩
      simpa [brokenFault, found, forms.numbered id node found] using same.symm
  | none =>
      have sound : ∀ id ∈ shape.preorder, tree.isBroken id = false := by
        intro id member
        simpa using List.find?_eq_none.mp first id member
      have fine : ∀ id ∈ shape.preorder, ¬tree.Overfull id := by
        intro id member overfull
        exact Bool.false_ne_true ((sound id member).symm.trans (isBroken_iff_overfull.mpr overfull))
      simp only [unlessBroken, first]
      refine ⟨⟨by simp, fun ⟨id, member, overfull⟩ => absurd overfull (fine id member)⟩,
        by simp, ?_⟩
      intro table same
      cases same
      have keys : ((shape.lineages []).map (tree.offerAt fun _ => none)).map Prod.fst
          = shape.preorder := by
        rw [List.map_map]
        exact Rose.map_fst_lineages [] shape
      refine ⟨keys, keys.symm ▸ forms.once, rfl, ?_, ?_⟩
      · intro id member node found shut
        have enough : ¬tree.netLines id < 0 := by
          simpa [isBroken, folded, found, shut] using sound id member
        rw [uniqueCost_eq found, if_neg enough]
      · intro entry member
        obtain ⟨lineage, inside, rfl⟩ := List.mem_map.mp member
        refine ⟨accrued_nonneg fun id ancestor => sound id ?_, rfl,
          fun unfolded => accrued_cons_unfolded unfolded⟩
        simpa using Rose.mem_of_mem_lineage inside ancestor

/-- Five lines: a root over all of them, an unfolded node on the middle three with a node of two
lines in it, and a node on the last line.
-/
def fiveLines : Tree :=
  let region (start length : Int) : Region := ⟨0, start, length, "block", none, []⟩
  let skeleton : Rose Region :=
    .node (region 0 9) [.node (region 2 5) [.node (region 4 3) []], .node (region 8 1) []]
  let source := ['a', '\n', 'b', '\n', 'c', '\n', 'd', '\n', 'e']
  ((growSkeleton (empty source ⟨[], [['a']]⟩) skeleton).setRoot 0).setUnfolded 1

/-- The shape of the five lines. -/
def fiveLinesShape : Rose NodeId :=
  .node 0 [.node 1 [.node 2 []], .node 3 []]

/-- The links of the five lines have their shape. -/
theorem fiveLines_forms : fiveLines.Forms fiveLinesShape where
  root := rfl
  grown := by
    have inner : fiveLines.Grown (.node 2 []) := .leaf rfl rfl
    have outer : fiveLines.Grown (.node 1 [.node 2 []]) := .node rfl rfl (by simpa using inner)
    have last : fiveLines.Grown (.node 3 []) := .leaf rfl rfl
    exact .node rfl rfl (by simpa using ⟨outer, last⟩)
  once := by decide
  numbered := numbered_of_map_id rfl

/-- No node of the five lines is overfull, so that they have costs, which start anew below the
unfolded node.
-/
theorem fiveLines_baseline_costs
    : fiveLines.Forms fiveLinesShape
      ∧ (¬∃ fault, fiveLines.baseline = .error fault)
      ∧ fiveLines.baseline.toOption.map (·.map fun entry => (entry.1, entry.2.cost))
          = some [(0, 2), (1, 0), (2, 1), (3, 2)] := by
  refine ⟨fiveLines_forms, ?_, by decide +kernel⟩
  rw [fiveLines_forms.baseline_costs.1]
  rintro ⟨id, member, overfull⟩
  have sound : ∀ id ∈ fiveLinesShape.preorder, fiveLines.isBroken id = false := by
    decide +kernel
  exact Bool.false_ne_true ((sound id member).symm.trans (isBroken_iff_overfull.mpr overfull))

end FoldTree.Tree
