import FoldTree.Proofs.Offer.Sweep

/-! The two passes agree about costs. A walk with profits goes the same way as the walk over costs, and
checks the costs by the same rule; content models and profits can only make it fail in more places.
-/

namespace FoldTree

/-- An offer without its profit. -/
def Offer.unscored (offer : Offer) : Offer :=
  { offer with profit := none }

/-- Offers without their profits. -/
def OfferTable.unscored (table : OfferTable) : OfferTable :=
  table.map fun entry => (entry.1, entry.2.unscored)

/-- A profit changes neither what a node costs nor whether it has an offer. -/
theorem Tree.offerFor_unscored (tree : Tree) (node : Node) (above : Int) (profit : Option Float)
    : tree.offerFor node above none
      = (tree.offerFor node above profit).map fun result => (result.1.unscored, result.2) := by
  unfold offerFor
  split
  · rfl
  · cases tree.uniqueCost node with
    | error fault => rfl
    | ok cost =>
        simp only [Outcome.ok_bind]
        by_cases negative : above + cost < 0 <;> simp [negative, Except.map, Offer.unscored]

namespace Scoring

open Pass

variable {α β : Type}

/-- Steps in a row succeed one by one. -/
theorem exists_of_result_bind {step : Scoring α} {next : α → Scoring β} {state after : State}
    {value : β} (ran : (step >>= next).result state = (.ok value, after))
    : ∃ first middle,
        step.result state = (.ok first, middle)
        ∧ (next first).result middle = (.ok value, after) := by
  rw [result_bind] at ran
  rcases outcome : step.result state with ⟨fault | first, middle⟩ <;> rw [outcome] at ran
  · simp at ran
  · exact ⟨first, middle, rfl, ran⟩

/-- A value alone is what comes of it. -/
theorem eq_of_result_pure {value other : α} {state after : State}
    (ran : (pure value : Scoring α).result state = (.ok other, after))
    : other = value := by
  rw [result_pure, Prod.mk.injEq, Except.ok.injEq] at ran
  exact ran.1.symm

end Scoring

namespace Pass

open Scoring Sweep

variable {pass : Pass} {sampler : Option Sampler} {tree : Tree} {state after : State}

/-- An offer with a profit has the cost of the offer without. -/
theorem offerFor_of_offer {node : Node} {above : Int} {result : Offer × Int}
    (offered : (pass.offer sampler tree node above).result state = (.ok result, after))
    : tree.offerFor node above none = .ok (result.1.unscored, result.2) := by
  obtain ⟨profit, middle, -, priced⟩ := exists_of_result_bind offered
  rw [tree.offerFor_unscored node above profit]
  cases outcome : tree.offerFor node above profit with
  | error fault => simp [outcome, result_throw] at priced
  | ok other =>
      rw [outcome] at priced
      rw [eq_of_result_pure priced]
      rfl

mutual

/-- A walk with profits that succeeds has the costs of the walk without, over any shape and from any
cost. Witness: induction on the shape, where both walks hand the same cost to the children.
-/
theorem baselineBelow_of_offers {above : Int} {table : OfferTable} {state after : State}
    (shape : Rose NodeId)
    (walked : (pass.offersBelow sampler tree above shape).result state = (.ok table, after))
    : tree.baselineBelow above shape = .ok table.unscored := by
  cases shape with
  | node id below =>
      simp only [offersBelow, Tree.baselineBelow] at walked ⊢
      cases found : tree.nodes[id]? with
      | none =>
          rw [found] at walked
          rw [eq_of_result_pure walked]
          rfl
      | some node =>
          rw [found] at walked
          obtain ⟨result, middle, offered, walked⟩ := exists_of_result_bind walked
          obtain ⟨others, last, rest, walked⟩ := exists_of_result_bind walked
          simp only [offerFor_of_offer offered, baselineAll_of_offers below rest, Outcome.ok_bind,
            eq_of_result_pure walked]
          rfl
termination_by sizeOf shape

/-- Walks with profits over several shapes, by the same induction. -/
theorem baselineAll_of_offers {above : Int} {table : OfferTable} {state after : State}
    (shapes : List (Rose NodeId))
    (walked : (pass.offersAll sampler tree above shapes).result state = (.ok table, after))
    : tree.baselineAll above shapes = .ok table.unscored := by
  cases shapes with
  | nil =>
      rw [eq_of_result_pure walked]
      rfl
  | cons branch rest =>
      simp only [offersAll] at walked
      obtain ⟨first, middle, begun, walked⟩ := exists_of_result_bind walked
      obtain ⟨others, last, later, walked⟩ := exists_of_result_bind walked
      simp only [Tree.baselineAll, baselineBelow_of_offers branch begun,
        baselineAll_of_offers rest later, Outcome.ok_bind, Outcome.pure_eq_ok,
        eq_of_result_pure walked, OfferTable.unscored, List.map_append]
termination_by sizeOf shapes

end

/-- A pass that is made has a root to start from. -/
theorem exists_rootId {settings : Settings} {session : Pass × State}
    (made : Pass.start tree settings sampler = .ok session)
    : ∃ root, tree.rootId = .ok root := by
  cases root : tree.rootId with
  | ok id => exact ⟨id, rfl⟩
  | error fault =>
      simp only [Pass.start, Tree.reachable, root] at made
      split at made <;> cases made

/-- A pass over profits that succeeds has the offers of the pass over costs, but for the profits. -/
theorem baseline_of_scored {settings : Settings} {table : OfferTable} {calls : List SamplerCall}
    (ran : tree.scored settings sampler = (.ok table, calls))
    : tree.baseline = .ok table.unscored := by
  cases made : Pass.start tree settings sampler with
  | error fault => simp [Tree.scored, made] at ran
  | ok session =>
      obtain ⟨pass, state⟩ := session
      obtain ⟨root, there⟩ := exists_rootId made
      simp only [Tree.scored, made, there] at ran
      rcases walked : (pass.offersBelow sampler tree 0 (tree.subtree root)).result state
        with ⟨outcome, after⟩
      have same : outcome = .ok table := by
        change (((pass.offersBelow sampler tree 0 (tree.subtree root)).result state).1, _) = _ at ran
        rw [walked] at ran
        exact congrArg Prod.fst ran
      subst same
      simp only [Tree.baseline, there, Outcome.ok_bind, baselineBelow_of_offers _ walked]

/-- Wherever the pass over profits succeeds, the pass over costs does, for the same nodes in the same
order and with the same costs; so where the pass over costs fails, both fail. As loops, both leave
the tree as it was, at every moment and however they end; over a finite tree they end with what the
passes give.
-/
theorem scored_costs (tree : Tree) (settings : Settings) (sampler : Option Sampler)
    : (∀ table calls,
        tree.scored settings sampler = (.ok table, calls)
        → ∃ plain,
            tree.baseline = .ok plain
            ∧ plain.map Prod.fst = table.map Prod.fst
            ∧ (plain.map fun entry => entry.2.cost) = table.map fun entry => entry.2.cost)
      ∧ (∀ fault,
          tree.baseline = .error fault
          → ∃ other calls, tree.scored settings sampler = (.error other, calls))
      ∧ (∀ state root moment,
          Leads costVisit (Sweep.start tree state root) moment → moment.tree = tree)
      ∧ (∀ pass state root moment,
          Leads (profitVisit pass sampler) (Sweep.start tree state root) moment
          → moment.tree = tree)
      ∧ ∀ shape,
          tree.Forms shape
          → (∀ state,
              ∃ last,
                Leads costVisit (Sweep.start tree state shape.value) last
                ∧ last.pending = []
                ∧ last.outcome = tree.baseline.mapError .tree)
            ∧ ∀ pass state,
                Pass.start tree settings sampler = .ok (pass, state)
                → ∃ last,
                    Leads (profitVisit pass sampler) (Sweep.start tree state shape.value) last
                    ∧ last.pending = []
                    ∧ (last.outcome, last.state.calls) = tree.scored settings sampler := by
  refine ⟨?_, ?_, ?_, ?_, ?_⟩
  · intro table calls ran
    refine ⟨table.unscored, baseline_of_scored ran, ?_, ?_⟩ <;>
      simp [OfferTable.unscored, Offer.unscored]
  · intro fault failed
    rcases ran : tree.scored settings sampler with ⟨other | table, calls⟩
    · exact ⟨other, calls, rfl⟩
    · simp [baseline_of_scored ran] at failed
  · intro state root moment leads
    exact leads.tree_eq
  · intro pass state root moment leads
    exact leads.tree_eq
  · intro shape forms
    constructor
    · exact baseline_sweep forms
    · intro pass state made
      exact scored_sweep forms made

/-- Over the five lines both passes succeed with the same costs; a tree without a root has neither. -/
theorem fiveLines_scored_costs
    : (∃ table calls,
        Tree.fiveLines.scored surprised (some level) = (.ok table, calls)
        ∧ (table.map fun entry => entry.2.cost) = [2, 0, 1, 2])
      ∧ (∃ other calls,
          (Tree.empty [] ⟨[], []⟩).scored surprised (some level) = (.error other, calls))
      ∧ ∃ last,
          Leads costVisit (Sweep.start Tree.fiveLines ⟨.empty, []⟩ 0) last
          ∧ last.pending = []
          ∧ last.tree = Tree.fiveLines := by
  refine ⟨?_, ?_, ?_⟩
  · have succeeds : (Tree.fiveLines.scored surprised (some level)).1.toOption.isSome = true := by
      decide +kernel
    have costs : (Tree.fiveLines.baseline.toOption.map fun table =>
        table.map fun entry => entry.2.cost) = some [2, 0, 1, 2] := by
      decide +kernel
    rcases ran : Tree.fiveLines.scored surprised (some level) with ⟨fault | table, calls⟩
    · simp [ran, Except.toOption] at succeeds
    · obtain ⟨plain, given, -, same⟩ :=
        (scored_costs Tree.fiveLines surprised (some level)).1 table calls ran
      rw [given] at costs
      exact ⟨table, calls, rfl, same.symm.trans (Option.some.inj costs)⟩
  · exact (scored_costs _ surprised (some level)).2.1 _ rfl
  · obtain ⟨-, -, keeps, -, whole⟩ := scored_costs Tree.fiveLines surprised (some level)
    obtain ⟨last, leads, done, -⟩ :=
      (whole Tree.fiveLinesShape Tree.fiveLines_forms).1 ⟨.empty, []⟩
    exact ⟨last, leads, done, keeps _ _ last leads⟩

end Pass

end FoldTree
