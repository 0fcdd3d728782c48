import FoldTree.Proofs.Offer.Baseline
import FoldTree.Proofs.Offer.Scoring

/-! The walk of a pass with profits. Since scoring restores the working set, every node of the walk
is scored with the set that the walk started with: the walk is a row of visits that do not depend on
each other, cut off at the first one that fails.
-/

namespace FoldTree.Pass

open Scoring

variable {pass : Pass} {sampler : Option Sampler} {tree : Tree} {shape : Rose NodeId}

/-- Visits in a row, each with its outcome and the questions that it asks: the values of all, or
the fault of the first that fails, with the questions asked until then.
-/
def inRow {β : Type} :
    List (Except Fault β × List SamplerCall) → Except Fault (List β) × List SamplerCall
  | [] => (.ok [], [])
  | (.error fault, asked) :: _ => (.error fault, asked)
  | (.ok value, asked) :: rest =>
    match inRow rest with
    | (outcome, later) => (outcome.map (value :: ·), asked ++ later)

/-- The profit that is reported for a node that is unfolded already. -/
def idleProfit (pass : Pass) : Option Float :=
  match pass.unfoldedProfit with
  | .suppress => none
  | .courtesy => some 0.0

/-- The profit that a score stands for: a node without terms is never worth unfolding. -/
def foldedProfit (node : Node) (score : Float) : Float :=
  if node.terms.isEmpty then Offer.worst else score

/-- The profit that is reported for a node, or the fault of scoring it. -/
def reportOutcome (pass : Pass) (sampler : Option Sampler) (working : WorkingSet) (node : Node)
    : Except Fault (Option Float) :=
  if node.unfolded then .ok pass.idleProfit
  else (pass.scoreOutcome sampler working node).map fun score => some (foldedProfit node score)

/-- The questions asked for a report; a node that is unfolded already is not asked about. -/
def reportQuestions (pass : Pass) (sampler : Option Sampler) (working : WorkingSet) (node : Node)
    : List SamplerCall :=
  if node.unfolded then [] else pass.scoreQuestions sampler working node

/-- The visit of a node with its ancestors: its offer or fault, and the questions asked. -/
def visit (pass : Pass) (sampler : Option Sampler) (tree : Tree) (working : WorkingSet)
    (lineage : NodeId × List NodeId) : Except Fault (NodeId × Offer) × List SamplerCall :=
  match tree.nodes[lineage.1]? with
  | none => (.error (.tree (.unknownNode lineage.1)), [])
  | some node =>
    (pass.reportOutcome sampler working node >>= fun profit =>
        if tree.isBroken lineage.1 then .error (.tree (tree.brokenFault lineage.1))
        else .ok (tree.offerAt (fun _ => profit) lineage),
      pass.reportQuestions sampler working node)

/-- A visit that succeeds is one of a node that is not broken, with the profit of its report. -/
theorem visit_ok {working : WorkingSet} {lineage : NodeId × List NodeId} {entry : NodeId × Offer}
    {asked : List SamplerCall}
    (visited : pass.visit sampler tree working lineage = (.ok entry, asked))
    : ∃ node profit,
        tree.nodes[lineage.1]? = some node
        ∧ tree.isBroken lineage.1 = false
        ∧ pass.reportOutcome sampler working node = .ok profit
        ∧ entry = tree.offerAt (fun _ => profit) lineage
        ∧ asked = pass.reportQuestions sampler working node := by
  unfold visit at visited
  split at visited
  · simp at visited
  · rename_i node found
    cases report : pass.reportOutcome sampler working node with
    | error fault => simp [report] at visited
    | ok profit =>
        cases broken : tree.isBroken lineage.1 with
        | true => simp [report, broken] at visited
        | false =>
            simp only [report, broken, Outcome.ok_bind, Bool.false_eq_true, if_false,
              Prod.mk.injEq, Except.ok.injEq] at visited
            exact ⟨node, profit, found, rfl, report, visited.1.symm, visited.2.symm⟩

/-- Reporting a profit leaves the working set. -/
theorem reported_result (pass : Pass) (sampler : Option Sampler) (node : Node) (state : State)
    : (pass.reported sampler node).result state
      = (pass.reportOutcome sampler state.working node,
          ⟨state.working, state.calls ++ pass.reportQuestions sampler state.working node⟩) := by
  cases unfolded : node.unfolded with
  | true =>
      simp only [reported, unfolded, if_true, reportOutcome, reportQuestions, List.append_nil]
      rfl
  | false =>
      simp only [reported, unfolded, Bool.false_eq_true, if_false, result_bind, score_result,
        reportOutcome, reportQuestions]
      cases pass.scoreOutcome sampler state.working node with
      | error fault => rfl
      | ok score => rfl

/-- The offer for a node with its ancestors comes from its visit, and its children count on from
what it comes to.
-/
theorem offer_result {id : NodeId} {node : Node} (found : tree.nodes[id]? = some node)
    {above : List NodeId} (positive : 0 ≤ tree.accrued above) (state : State)
    : (pass.offer sampler tree node (tree.accrued above)).result state
      = match pass.visit sampler tree state.working (id, above) with
        | (outcome, asked) =>
            (outcome.map fun entry => (entry.2, tree.accrued (id :: above)),
              ⟨state.working, state.calls ++ asked⟩) := by
  simp only [offer, result_bind, reported_result, visit, found]
  cases pass.reportOutcome sampler state.working node with
  | error fault => rfl
  | ok profit =>
      simp only [Tree.offerFor_eq found positive, Outcome.ok_bind]
      cases tree.isBroken id with
      | true => rfl
      | false => rfl

/-- Visits in two rows are visits in one. -/
theorem inRow_append {β : Type} (first later : List (Except Fault β × List SamplerCall))
    : inRow (first ++ later)
      = match inRow first with
        | (.error fault, asked) => (.error fault, asked)
        | (.ok values, asked) =>
            match inRow later with
            | (outcome, more) => (outcome.map (values ++ ·), asked ++ more) := by
  induction first with
  | nil =>
      rcases run : inRow later with ⟨_ | _, more⟩ <;> simp [inRow, run, Except.map]
  | cons head rest ih =>
      rcases head with ⟨_ | value, asked⟩
      · rfl
      · simp only [List.cons_append, inRow, ih]
        rcases inRow rest with ⟨_ | values, middle⟩
        · rfl
        · rcases inRow later with ⟨_ | others, more⟩ <;> simp [Except.map]

/-- A row that succeeds has the values and the questions of all its visits, by induction. -/
theorem inRow_ok {β : Type} {visits : List (Except Fault β × List SamplerCall)} {values : List β}
    {asked : List SamplerCall} (run : inRow visits = (.ok values, asked))
    : visits.map Prod.fst = values.map .ok ∧ asked = visits.flatMap Prod.snd := by
  induction visits generalizing values asked with
  | nil =>
      simp only [inRow, Prod.mk.injEq, Except.ok.injEq] at run
      simp [← run.1, ← run.2]
  | cons head rest ih =>
      rcases head with ⟨_ | value, first⟩
      · simp [inRow] at run
      · rcases later : inRow rest with ⟨_ | others, more⟩
        · simp [inRow, later, Except.map] at run
        · simp only [inRow, later, Except.map, Prod.mk.injEq, Except.ok.injEq] at run
          obtain ⟨same, questions⟩ := ih later
          simp [← run.1, ← run.2, same, questions]

mutual

/-- The walk over a grown shape is the row of the visits of its lineages, all with the working set
that the walk started with. Witness: induction on the shape, as for the pass over costs.
-/
theorem offersBelow_result (shape : Rose NodeId) (grown : tree.Grown shape) (above : List NodeId)
    (positive : 0 ≤ tree.accrued above) (state : State)
    : (pass.offersBelow sampler tree (tree.accrued above) shape).result state
      = match inRow ((shape.lineages above).map (pass.visit sampler tree state.working)) with
        | (outcome, asked) => (outcome, ⟨state.working, state.calls ++ asked⟩) := by
  cases grown with
  | @node id node below found _ grown =>
      simp only [offersBelow, found, result_bind, offer_result found positive, Rose.lineages,
        List.map_cons]
      rcases visited : pass.visit sampler tree state.working (id, above) with ⟨_ | entry, asked⟩
      · rfl
      · obtain ⟨_, profit, _, sound, _, rfl, _⟩ := visit_ok visited
        have rest := offersAll_result below grown (id :: above)
          (Tree.accrued_cons_nonneg positive sound) ⟨state.working, state.calls ++ asked⟩
        simp only [Except.map, rest, inRow]
        rcases inRow ((Rose.lineagesAll (id :: above) below).map
          (pass.visit sampler tree state.working)) with ⟨_ | others, more⟩
        · simp
        · simp [result_pure, Tree.offerAt]
termination_by sizeOf shape

/-- The walk over several shapes below the same ancestors, by the same induction. -/
theorem offersAll_result (shapes : List (Rose NodeId))
    (grown : ∀ branch ∈ shapes, tree.Grown branch) (above : List NodeId)
    (positive : 0 ≤ tree.accrued above) (state : State)
    : (pass.offersAll sampler tree (tree.accrued above) shapes).result state
      = match inRow ((Rose.lineagesAll above shapes).map
          (pass.visit sampler tree state.working)) with
        | (outcome, asked) => (outcome, ⟨state.working, state.calls ++ asked⟩) := by
  cases shapes with
  | nil => simp [offersAll, Rose.lineagesAll, inRow, result_pure]
  | cons branch rest =>
      have first := offersBelow_result branch (grown branch List.mem_cons_self) above positive state
      simp only [offersAll, result_bind, first, Rose.lineagesAll, List.map_append, inRow_append]
      rcases inRow ((branch.lineages above).map (pass.visit sampler tree state.working)) with
        ⟨_ | values, asked⟩
      · rfl
      · have others := offersAll_result rest
          (fun other member => grown other (List.mem_cons_of_mem _ member)) above positive
          ⟨state.working, state.calls ++ asked⟩
        simp only [others]
        rcases inRow ((Rose.lineagesAll above rest).map (pass.visit sampler tree state.working))
          with ⟨_ | more, later⟩ <;>
          simp [Except.map, result_pure]
termination_by sizeOf shapes

end

end FoldTree.Pass
