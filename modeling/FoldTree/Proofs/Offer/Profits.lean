import FoldTree.Proofs.Offer.Restoration

/-! What a pass with profits gives. Each folded node has its profit from one question, asked with
the nodes that were unfolded when the pass was made and with the node itself, so that no profit
depends on the other nodes that are visited.
-/

namespace FoldTree

/-- The policy that asks a question of this kind. -/
def SamplerCall.policy : SamplerCall → Policy
  | .surprise .. => .surprising
  | .minusCond .. => .condSurprising
  | .cond .. => .condSurprising2
  | .logProb .. => .likely
  | .specific .. => .specific
  | .klDiv .. => .klDiv

namespace Pass

open Scoring

variable {pass : Pass} {sampler : Option Sampler} {tree : Tree} {shape : Rose NodeId}
variable {working : WorkingSet} {node : Node}

/-- What each policy hands over when it asks about a node with a working set: the terms of the set,
alone or beside those of the node or the other terms of the file, or the ids of the set; and with
them what the pass is about, and the node.
-/
inductive Hands (pass : Pass) (set : WorkingSet) (node : Node) : SamplerCall → Prop
  | surprise (policy : pass.profit.policy = .surprising)
      : Hands pass set node (.surprise set.terms pass.project pass.file node.id)
  | minusCond {rest : Terms} (policy : pass.profit.policy = .condSurprising)
      (others : rest.toMultiset
        = pass.fileTerms.toMultiset.filter fun term => term ∉ set.terms.toMultiset)
      : Hands pass set node (.minusCond rest set.terms pass.project pass.file node.id)
  | cond (policy : pass.profit.policy = .condSurprising2)
      : Hands pass set node (.cond node.terms set.terms pass.project pass.file node.id)
  | logProb (policy : pass.profit.policy = .likely)
      : Hands pass set node (.logProb 0.0 set.terms pass.project pass.file node.id)
  | specific (policy : pass.profit.policy = .specific)
      : Hands pass set node
          (.specific 0.0 set.terms pass.profit.name pass.project pass.file node.id)
  | klDiv (policy : pass.profit.policy = .klDiv)
      : Hands pass set node (.klDiv pass.profit.name pass.project pass.file set.ids)

/-- A question about a node as its policy asks it: with the node in the working set, except where
the policy takes the node's terms apart from the others. It hands over what this set holds.
-/
structure Asks (tree : Tree) (pass : Pass) (working : WorkingSet) (node : Node)
    (call : SamplerCall) : Prop where
  hands : pass.Hands (pass.scoringSet working node) node call
  ids : (pass.scoringSet working node).ids
    = if pass.profit.policy = .condSurprising2 then working.ids else working.ids ++ [node.id]
  sum : (pass.scoringSet working node).terms.toMultiset
    = ((pass.scoringSet working node).ids.map fun id => (tree.termsAt id).toMultiset).sum

/-- All policies but the one that keeps nodes out put a node into the set to score it. -/
theorem addsNode_iff (policy : Policy) : policy.addsNode = true ↔ policy ≠ .condSurprising2 := by
  cases policy <;> simp [Policy.addsNode]

/-- All policies but the one without a content model need a content model. -/
theorem needsSampler_iff (policy : Policy)
    : policy.needsSampler = true ↔ policy ≠ .noContentModel := by
  cases policy <;> simp [Policy.needsSampler]

/-- Only without a content model is there no question. -/
theorem question?_eq_none_iff (pass : Pass) (working : WorkingSet) (node : Node)
    : pass.question? working node = none ↔ pass.profit.policy = .noContentModel := by
  unfold question?
  cases pass.profit.policy <;> simp

/-- A question hands over what its policy does, by cases on the policy. -/
theorem hands_of_question? {call : SamplerCall}
    (question : pass.question? working node = some call)
    : pass.Hands working node call := by
  unfold question? at question
  cases policy : pass.profit.policy <;> rw [policy] at question <;> cases question
  case surprising => exact .surprise policy
  case condSurprising => exact .minusCond policy (Terms.toMultiset_without _ _)
  case condSurprising2 => exact .cond policy
  case likely => exact .logProb policy
  case specific => exact .specific policy
  case klDiv => exact .klDiv policy

/-- What a policy hands over is a question of its own kind. -/
theorem Hands.policy_eq {call : SamplerCall} (hands : pass.Hands working node call)
    : call.policy = pass.profit.policy := by
  cases hands <;> exact Eq.symm ‹_›

/-- A node that is not in the working set is asked about with it in the set, unless the policy
keeps it out.
-/
theorem asks_of_question? (sums : working.Sums tree) (absent : node.id ∉ working.ids)
    (terms : tree.termsAt node.id = node.terms) {call : SamplerCall}
    (question : pass.question? (pass.scoringSet working node) node = some call)
    : Asks tree pass working node call := by
  have fresh : working.contains node.id = false := by simpa [WorkingSet.contains] using absent
  have pushed : pass.pushes working node = pass.profit.policy.addsNode := by simp [pushes, fresh]
  have set : pass.scoringSet working node
      = if pass.profit.policy = .condSurprising2 then working else working.insert node := by
    simp only [scoringSet, pushed, addsNode_iff, WorkingSet.insert, fresh, ite_not]
    rfl
  refine ⟨hands_of_question? question, ?_, ?_⟩
  · rw [set]
    split
    · rfl
    · simp [WorkingSet.insert, fresh, WorkingSet.push]
  · rw [set]
    split
    · exact sums.sum
    · exact (sums.insert terms).sum

/-- A score comes from one question and its answer, or without a content model from none. -/
theorem scoreOutcome_ok {score : Float}
    (scored : pass.scoreOutcome sampler working node = .ok score)
    : (pass.profit.policy = .noContentModel
        ∧ score = 1.0
        ∧ pass.scoreQuestions sampler working node = [])
      ∨ ∃ model call answer,
          sampler = some model
          ∧ pass.question? (pass.scoringSet working node) node = some call
          ∧ model call = .ok answer
          ∧ score = pass.profitOf answer
          ∧ pass.scoreQuestions sampler working node = [call] := by
  have answered : pass.answer sampler (pass.scoringSet working node) node = .ok score := by
    unfold scoreOutcome at scored
    cases answered : pass.answer sampler (pass.scoringSet working node) node with
    | error fault => simp [answered] at scored
    | ok profit =>
        simp only [answered, Outcome.ok_bind, checked] at scored
        split at scored
        · simp at scored
        · exact scored
  cases question : pass.question? (pass.scoringSet working node) node with
  | none =>
      refine Or.inl ⟨(question?_eq_none_iff _ _ _).mp question, ?_, ?_⟩
      · simpa [answer, question, eq_comm] using answered
      · simp [scoreQuestions, questions, question]
  | some call =>
      simp only [answer, question, answerTo] at answered
      cases sampler with
      | none => simp at answered
      | some model =>
          cases reply : model call with
          | error failure => simp [reply] at answered
          | ok given =>
              refine Or.inr ⟨model, call, given, rfl, rfl, reply, ?_, ?_⟩
              · simpa [reply, eq_comm] using answered
              · simp [scoreQuestions, questions, question]

/-- Scoring asks for a content model only if the policy needs one that is not there. -/
theorem scoreOutcome_needsSampler {profit : ProfitFunction}
    (failed : pass.scoreOutcome sampler working node = .error (.needsSampler profit))
    : pass.profit.policy.needsSampler = true ∧ sampler = none := by
  unfold scoreOutcome at failed
  cases answered : pass.answer sampler (pass.scoringSet working node) node with
  | ok score =>
      simp only [answered, Outcome.ok_bind, checked] at failed
      split at failed <;> simp at failed
  | error fault =>
      simp only [answered, Outcome.error_bind, Except.error.injEq] at failed
      subst failed
      cases question : pass.question? (pass.scoringSet working node) node with
      | none => simp [answer, question] at answered
      | some call =>
          cases sampler with
          | none =>
              refine ⟨(needsSampler_iff _).mpr fun policy => ?_, rfl⟩
              simp [(question?_eq_none_iff _ _ _).mpr policy] at question
          | some model =>
              simp only [answer, question, answerTo] at answered
              split at answered <;> simp at answered

/-- A row that fails has its fault from one of its visits, by induction. -/
theorem inRow_error {β : Type} {visits : List (Except Fault β × List SamplerCall)} {fault : Fault}
    {asked : List SamplerCall} (run : inRow visits = (.error fault, asked))
    : ∃ visit ∈ visits, visit.1 = .error fault := by
  induction visits generalizing asked with
  | nil => simp [inRow] at run
  | cons head rest ih =>
      rcases head with ⟨_ | value, first⟩
      · simp only [inRow, Prod.mk.injEq, Except.error.injEq] at run
        exact ⟨_, List.mem_cons_self, congrArg Except.error run.1⟩
      · rcases later : inRow rest with ⟨_ | values, more⟩
        · simp only [inRow, later, Except.map, Prod.mk.injEq] at run
          obtain ⟨visit, member, same⟩ := ih (later.trans (Prod.ext run.1 rfl))
          exact ⟨visit, List.mem_cons_of_mem _ member, same⟩
        · simp [inRow, later, Except.map] at run

/-- A whole pass is the row of the visits of all lineages with the working set it started with. -/
theorem scored_eq (forms : tree.Forms shape) {settings : Settings} {state : State}
    (made : Pass.start tree settings sampler = .ok (pass, state))
    : tree.scored settings sampler
      = inRow ((shape.lineages []).map (pass.visit sampler tree state.working)) := by
  have fresh : state.calls = [] := by rw [(start_ok forms made).2.2]
  have root : tree.rootId = .ok shape.value := by simp only [Tree.rootId, forms.root]
  have walked : (pass.offersBelow sampler tree 0 shape).result state = _ :=
    offersBelow_result shape forms.grown [] (Int.le_refl 0) state
  simp only [Tree.scored, made, root, forms.subtree_eq]
  change (((pass.offersBelow sampler tree 0 shape).result state).1,
    ((pass.offersBelow sampler tree 0 shape).result state).2.calls) = _
  rw [walked, fresh]
  rfl

/-- A visit of a folded node scores it. -/
theorem visit_folded {lineage : NodeId × List NodeId} {entry : NodeId × Offer}
    {asked : List SamplerCall} (found : tree.nodes[lineage.1]? = some node)
    (shut : node.unfolded = false)
    (visited : pass.visit sampler tree working lineage = (.ok entry, asked))
    : ∃ score,
        pass.scoreOutcome sampler working node = .ok score
        ∧ entry.2.profit = some (foldedProfit node score)
        ∧ asked = pass.scoreQuestions sampler working node := by
  obtain ⟨other, profit, same, _, report, rfl, rfl⟩ := visit_ok visited
  cases found.symm.trans same
  cases scored : pass.scoreOutcome sampler working node with
  | error fault => simp [reportOutcome, shut, scored, Except.map] at report
  | ok score =>
      simp only [reportOutcome, shut, Bool.false_eq_true, if_false, scored, Except.map,
        Except.ok.injEq] at report
      exact ⟨score, rfl, report.symm, by simp [reportQuestions, shut]⟩

/-- A visit of an unfolded node asks nothing. -/
theorem visit_unfolded {lineage : NodeId × List NodeId} {entry : NodeId × Offer}
    {asked : List SamplerCall} (found : tree.nodes[lineage.1]? = some node)
    (opened : node.unfolded = true)
    (visited : pass.visit sampler tree working lineage = (.ok entry, asked))
    : entry.2.profit = pass.idleProfit ∧ asked = [] := by
  obtain ⟨other, profit, same, _, report, rfl, rfl⟩ := visit_ok visited
  cases found.symm.trans same
  simp only [reportOutcome, opened, if_true, Except.ok.injEq] at report
  exact ⟨report.symm, by simp [reportQuestions, opened]⟩

/-- A visit misses a content model only if the policy needs one that is not there. -/
theorem visit_needsSampler {lineage : NodeId × List NodeId} {profit : ProfitFunction}
    (failed : (pass.visit sampler tree working lineage).1 = .error (.needsSampler profit))
    : pass.profit.policy.needsSampler = true ∧ sampler = none := by
  unfold visit at failed
  split at failed
  · simp at failed
  · rename_i node found
    cases opened : node.unfolded with
    | true =>
        simp only [reportOutcome, opened, if_true, Outcome.ok_bind] at failed
        split at failed <;> simp at failed
    | false =>
        cases scored : pass.scoreOutcome sampler working node with
        | ok score =>
            simp only [reportOutcome, opened, scored, Bool.false_eq_true, if_false, Except.map,
              Outcome.ok_bind] at failed
            split at failed <;> simp at failed
        | error fault =>
            simp only [reportOutcome, opened, scored, Bool.false_eq_true, if_false, Except.map,
              Outcome.error_bind, Except.error.injEq] at failed
            exact scoreOutcome_needsSampler (failed ▸ scored)

/-- A row of visits that succeeds has an entry for each lineage in turn, and asks what they ask. -/
theorem visits_ok {lineages : List (NodeId × List NodeId)} {table : OfferTable}
    {calls : List SamplerCall}
    (run : inRow (lineages.map (pass.visit sampler tree working)) = (.ok table, calls))
    : table.map Prod.fst = lineages.map Prod.fst
      ∧ (∀ lineage ∈ lineages,
          ∃ entry, (pass.visit sampler tree working lineage).1 = .ok entry)
      ∧ (∀ entry ∈ table,
          ∃ lineage ∈ lineages, (pass.visit sampler tree working lineage).1 = .ok entry)
      ∧ calls = lineages.flatMap fun lineage => (pass.visit sampler tree working lineage).2 := by
  obtain ⟨outcomes, asked⟩ := inRow_ok run
  rw [List.map_map] at outcomes
  have each : ∀ lineage ∈ lineages,
      ∃ entry, (pass.visit sampler tree working lineage).1 = .ok entry := by
    intro lineage member
    have outcome := List.mem_map_of_mem (f := Prod.fst ∘ pass.visit sampler tree working) member
    rw [outcomes] at outcome
    obtain ⟨entry, -, same⟩ := List.mem_map.mp outcome
    exact ⟨entry, same.symm⟩
  refine ⟨?_, each, fun entry member => ?_, by rw [asked, List.flatMap_map]⟩
  · have keys := congrArg (List.map fun outcome => outcome.toOption.map Prod.fst) outcomes
    rw [List.map_map, List.map_map] at keys
    refine (List.map_injective_iff.mpr (Option.some_injective NodeId)) ?_
    rw [List.map_map, List.map_map]
    refine keys.symm.trans (List.map_congr_left fun lineage member => ?_)
    obtain ⟨entry, same⟩ := each lineage member
    obtain ⟨_, _, _, _, _, rfl, _⟩ := visit_ok (Prod.ext same rfl)
    simp only [Function.comp_def, same]
    rfl
  · have outcome := List.mem_map_of_mem (f := Except.ok (ε := Fault)) member
    rw [← outcomes] at outcome
    exact List.mem_map.mp outcome

/-- Where each of some places either has one question or is passed over without any, the questions
follow the places that have one, by induction on the places.
-/
theorem forall₂_questions {Asked : NodeId → SamplerCall → Prop} {passes : NodeId → Bool}
    {asked : NodeId × List NodeId → List SamplerCall} {lineages : List (NodeId × List NodeId)}
    (one : ∀ lineage ∈ lineages,
      passes lineage.1 = true → ∃ call, asked lineage = [call] ∧ Asked lineage.1 call)
    (none : ∀ lineage ∈ lineages, passes lineage.1 = false → asked lineage = [])
    : List.Forall₂ Asked ((lineages.map Prod.fst).filter passes) (lineages.flatMap asked) := by
  induction lineages with
  | nil => exact .nil
  | cons lineage rest ih =>
      have later := ih (fun other member => one other (List.mem_cons_of_mem _ member))
        fun other member => none other (List.mem_cons_of_mem _ member)
      rw [List.map_cons, List.flatMap_cons]
      cases here : passes lineage.1 with
      | true =>
          obtain ⟨call, same, fits⟩ := one lineage List.mem_cons_self here
          rw [List.filter_cons_of_pos here, same]
          exact .cons fits later
      | false =>
          rw [List.filter_cons_of_neg (by simp [here]), none lineage List.mem_cons_self here]
          exact later

/-- What the score of a node comes from: the node is scored by itself with a working set, and has
its score from the answer to one question, or without a content model from none.
-/
structure ScoresTo (tree : Tree) (pass : Pass) (sampler : Option Sampler) (state : State)
    (node : Node) (score : Float) : Prop where
  alone : ((pass.score sampler node).result state).1 = .ok score
  unasked : pass.profit.policy = .noContentModel → score = 1.0
  answered : pass.profit.policy ≠ .noContentModel
    → ∃ model call answer,
        sampler = some model
        ∧ Asks tree pass state.working node call
        ∧ model call = .ok answer
        ∧ score = if pass.profit.policy = .klDiv then -1.0 * answer else answer

/-- A node outside of the working set that has a score has it from where it should. -/
theorem scoresTo_of_outcome {state : State} (sums : state.working.Sums tree)
    (absent : node.id ∉ state.working.ids) (terms : tree.termsAt node.id = node.terms)
    {score : Float} (scored : pass.scoreOutcome sampler state.working node = .ok score)
    : ScoresTo tree pass sampler state node score := by
  have alone : ((pass.score sampler node).result state).1 = .ok score := by
    rw [score_result]
    exact scored
  rcases scoreOutcome_ok scored with ⟨policy, one, -⟩ | ⟨model, call, answer, given, question,
    reply, same, -⟩
  · exact ⟨alone, fun _ => one, fun other => absurd policy other⟩
  · refine ⟨alone, fun policy => ?_, fun _ => ⟨model, call, answer, given,
      asks_of_question? sums absent terms question, reply, same⟩⟩
    simp [(question?_eq_none_iff _ _ _).mpr policy] at question

/-- What the visit of one node of the shape gives, where the working set is that of the unfolded
nodes: the unfolded nodes ask nothing, and each of the others asks its question.
-/
theorem visit_place (forms : tree.Forms shape) {state : State} (sums : state.working.Sums tree)
    (members : ∀ id,
      id ∈ state.working.ids ↔ id ∈ shape.preorder ∧ tree.folded id = false)
    {lineage : NodeId × List NodeId} {entry : NodeId × Offer} {asked : List SamplerCall}
    (visited : pass.visit sampler tree state.working lineage = (.ok entry, asked))
    : ∃ node,
        tree.nodes[lineage.1]? = some node
        ∧ entry.1 = lineage.1
        ∧ (tree.folded lineage.1 = false
          → node.unfolded = true ∧ entry.2.profit = pass.idleProfit ∧ asked = [])
        ∧ (tree.folded lineage.1 = true
          → node.unfolded = false
            ∧ (pass.profit.policy = .noContentModel → asked = [])
            ∧ (pass.profit.policy ≠ .noContentModel
              → ∃ call, asked = [call] ∧ Asks tree pass state.working node call)
            ∧ ∃ score,
                entry.2.profit = some (foldedProfit node score)
                ∧ ScoresTo tree pass sampler state node score) := by
  obtain ⟨node, profit, found, -, -, same, -⟩ := visit_ok visited
  have named := forms.numbered lineage.1 node found
  refine ⟨node, found, same ▸ rfl, fun opened => ?_, fun shut => ?_⟩
  · have opened : node.unfolded = true := by simpa [Tree.folded, found] using opened
    exact ⟨opened, visit_unfolded found opened visited⟩
  · have absent : node.id ∉ state.working.ids := by simp [members, named, shut]
    have terms : tree.termsAt node.id = node.terms := by simp [Tree.termsAt, named, found]
    have shut : node.unfolded = false := by simpa [Tree.folded, found] using shut
    obtain ⟨score, scored, worth, rfl⟩ := visit_folded found shut visited
    refine ⟨shut, ?_, ?_, score, worth, scoresTo_of_outcome sums absent terms scored⟩ <;>
      rcases scoreOutcome_ok scored with ⟨policy, -, none⟩ | ⟨model, call, answer, -, question,
        -, -, one⟩
    · exact fun _ => none
    · intro policy
      simp [(question?_eq_none_iff _ _ _).mpr policy] at question
    · exact fun other => absurd policy other
    · exact fun _ => ⟨call, one, asks_of_question? sums absent terms question⟩

/-- A pass is refused only where its policy needs a content model that is not there. -/
theorem start_needsSampler_iff (forms : tree.Forms shape) (settings : Settings)
    (sampler : Option Sampler) (profit : ProfitFunction)
    : Pass.start tree settings sampler = .error (.needsSampler profit)
      ↔ profit = settings.profit
        ∧ settings.profit.policy ≠ .noContentModel
        ∧ sampler = none := by
  simp only [start, forms.reachable_eq]
  split <;> rename_i missing <;>
    simp only [Bool.and_eq_true, needsSampler_iff, Option.isNone_iff_eq_none] at missing
  · simp [missing, eq_comm]
  · simpa [Except.mapError] using fun _ policy none => missing ⟨policy, none⟩

/-- Nothing that misses a content model was asked anything: the pass could not be made. -/
theorem start_of_scored_needsSampler (forms : tree.Forms shape) {settings : Settings}
    {profit : ProfitFunction} {calls : List SamplerCall}
    (ran : tree.scored settings sampler = (.error (.needsSampler profit), calls))
    : Pass.start tree settings sampler = .error (.needsSampler profit) ∧ calls = [] := by
  cases made : Pass.start tree settings sampler with
  | error fault =>
      simp only [Tree.scored, made, Prod.mk.injEq] at ran
      exact ⟨congrArg _ (Except.error.inj ran.1), ran.2.symm⟩
  | ok session =>
      -- a pass that was made has the content model that its policy needs
      obtain ⟨pass, state⟩ := session
      obtain ⟨ready, rfl, -⟩ := start_ok forms made
      rw [scored_eq forms made] at ran
      obtain ⟨visit, member, failed⟩ := inRow_error ran
      obtain ⟨lineage, -, rfl⟩ := List.mem_map.mp member
      obtain ⟨needed, missing⟩ := visit_needsSampler failed
      have given := ready needed
      simp [missing] at given

section

variable {state : State} (forms : tree.Forms shape) (sums : state.working.Sums tree)
  (members : ∀ id, id ∈ state.working.ids ↔ id ∈ shape.preorder ∧ tree.folded id = false)
include forms sums members

/-- Without a content model, visits that all succeed ask nothing. -/
theorem visits_unasked (policy : pass.profit.policy = .noContentModel)
    {lineages : List (NodeId × List NodeId)}
    (each : ∀ lineage ∈ lineages,
      ∃ entry, (pass.visit sampler tree state.working lineage).1 = .ok entry)
    : (lineages.flatMap fun lineage => (pass.visit sampler tree state.working lineage).2) = [] := by
  apply List.flatMap_eq_nil_iff.mpr
  intro lineage inside
  obtain ⟨entry, visited⟩ := each lineage inside
  obtain ⟨node, -, -, opened, shut⟩ := visit_place forms sums members (Prod.ext visited rfl)
  cases fold : tree.folded lineage.1 with
  | true => exact (shut fold).2.1 policy
  | false => exact (opened fold).2.2

/-- With one, they ask about each folded node once, in the order of the visits. -/
theorem visits_asked (policy : pass.profit.policy ≠ .noContentModel)
    {lineages : List (NodeId × List NodeId)}
    (each : ∀ lineage ∈ lineages,
      ∃ entry, (pass.visit sampler tree state.working lineage).1 = .ok entry)
    : List.Forall₂
        (fun id call =>
          ∃ node, tree.nodes[id]? = some node ∧ Asks tree pass state.working node call)
        ((lineages.map Prod.fst).filter tree.folded)
        (lineages.flatMap fun lineage => (pass.visit sampler tree state.working lineage).2) := by
  apply forall₂_questions
  · intro lineage inside fold
    obtain ⟨entry, visited⟩ := each lineage inside
    obtain ⟨node, found, -, -, shut⟩ := visit_place forms sums members (Prod.ext visited rfl)
    obtain ⟨call, one, asks⟩ := (shut fold).2.2.1 policy
    exact ⟨call, one, node, found, asks⟩
  · intro lineage inside fold
    obtain ⟨entry, visited⟩ := each lineage inside
    obtain ⟨node, -, -, opened, -⟩ := visit_place forms sums members (Prod.ext visited rfl)
    exact (opened fold).2.2

/-- The entry of a visit that succeeds has what the settings say for an unfolded node, and what scoring
by itself gives for a folded one, unless that one has no terms.
-/
theorem entry_of_visit {lineage : NodeId × List NodeId} {entry : NodeId × Offer}
    (visited : (pass.visit sampler tree state.working lineage).1 = .ok entry)
    : ∃ node,
        tree.nodes[entry.1]? = some node
        ∧ (node.unfolded = true → entry.2.profit = pass.idleProfit)
        ∧ (node.unfolded = false
          → ∃ score,
              entry.2.profit = some (foldedProfit node score)
              ∧ ScoresTo tree pass sampler state node score) := by
  obtain ⟨node, found, same, opened, shut⟩ :=
    visit_place forms sums members (Prod.ext visited rfl)
  refine ⟨node, same ▸ found, ?_, ?_⟩
  · intro unfolded
    exact (opened (by simp [Tree.folded, found, unfolded])).2.1
  · intro folded
    exact (shut (by simp [Tree.folded, found, folded])).2.2.2

end

/-- A pass is refused only where its policy needs a content model that is not there, before any
question is asked. A pass that is made is about what its settings and its tree say. Of one that
succeeds, each folded node was asked about once, in pre-order and with the nodes that were unfolded
at the start, and has the profit that scoring it by itself gives; one without terms is never worth
unfolding, and the unfolded nodes report what the settings say.
-/
theorem scored_profits (forms : tree.Forms shape) (settings : Settings) (sampler : Option Sampler)
    : (∀ profit,
        Pass.start tree settings sampler = .error (.needsSampler profit)
        ↔ profit = settings.profit
          ∧ settings.profit.policy ≠ .noContentModel
          ∧ sampler = none)
      ∧ (∀ profit calls,
          tree.scored settings sampler = (.error (.needsSampler profit), calls)
          → Pass.start tree settings sampler = .error (.needsSampler profit) ∧ calls = [])
      ∧ ∀ table calls,
          tree.scored settings sampler = (.ok table, calls)
          → ∃ pass state,
              Pass.start tree settings sampler = .ok (pass, state)
              ∧ pass.profit = settings.profit
              ∧ pass.project = settings.project
              ∧ pass.file = tree.fileId
              ∧ pass.fileTerms.toMultiset
                = (shape.preorder.map fun id => (tree.termsAt id).toMultiset).sum
              ∧ state.working.ids.Nodup
              ∧ (∀ id,
                  id ∈ state.working.ids ↔ id ∈ shape.preorder ∧ tree.folded id = false)
              ∧ table.map Prod.fst = shape.preorder
              ∧ (settings.profit.policy = .noContentModel → calls = [])
              ∧ (settings.profit.policy ≠ .noContentModel
                → List.Forall₂
                    (fun id call =>
                      ∃ node,
                        tree.nodes[id]? = some node
                        ∧ Asks tree pass state.working node call)
                    (shape.preorder.filter tree.folded) calls)
              ∧ ∀ entry ∈ table,
                  ∃ node,
                    tree.nodes[entry.1]? = some node
                    ∧ (node.unfolded = true
                      → entry.2.profit
                        = if settings.unfoldedProfit = .suppress then none else some 0.0)
                    ∧ (node.unfolded = false
                      → ∃ score,
                          entry.2.profit
                            = some (if node.terms.isEmpty then Offer.worst else score)
                          ∧ ScoresTo tree pass sampler state node score) := by
  refine ⟨start_needsSampler_iff forms settings sampler,
    fun profit calls => start_of_scored_needsSampler forms, ?_⟩
  intro table calls ran
  cases made : Pass.start tree settings sampler with
  | error fault => simp [Tree.scored, made] at ran
  | ok session =>
      obtain ⟨pass, state⟩ := session
      obtain ⟨sums, members⟩ := start_sums forms made
      obtain ⟨-, about, -⟩ := start_ok forms made
      have profit : pass.profit = settings.profit := by rw [about]
      have mode : pass.unfoldedProfit = settings.unfoldedProfit := by rw [about]
      -- table and questions are those of the visits of all lineages, each with the set of the start
      rw [scored_eq forms made] at ran
      obtain ⟨keys, each, every, rfl⟩ := visits_ok ran
      rw [Rose.map_fst_lineages] at keys
      rw [← profit, ← mode]
      refine ⟨pass, state, rfl, rfl, by rw [about], by rw [about], fileTerms_eq forms made,
        sums.once, members, keys, ?_, ?_, ?_⟩
      · intro policy
        exact visits_unasked forms sums members policy each
      · intro policy
        rw [← Rose.map_fst_lineages []]
        exact visits_asked forms sums members policy each
      · intro entry member
        obtain ⟨lineage, -, visited⟩ := every entry member
        obtain ⟨node, found, idle, scored⟩ := entry_of_visit forms sums members visited
        refine ⟨node, found, ?_, scored⟩
        intro unfolded
        rw [idle unfolded]
        unfold idleProfit
        cases pass.unfoldedProfit <;> rfl

/-- A content model that gives every question the same score. -/
def level : Sampler := fun _ => .ok 1.0

/-- Over the five lines, a pass succeeds and asks one question for each of the three nodes that are
folded.
-/
theorem fiveLines_scored_profits
    : Tree.fiveLines.Forms Tree.fiveLinesShape
      ∧ ∃ table calls,
          Tree.fiveLines.scored surprised (some level) = (.ok table, calls)
          ∧ table.map Prod.fst = [0, 1, 2, 3]
          ∧ calls.length = [0, 2, 3].length := by
  have succeeds : (Tree.fiveLines.scored surprised (some level)).1.toOption.isSome = true := by
    decide +kernel
  refine ⟨Tree.fiveLines_forms, ?_⟩
  rcases ran : Tree.fiveLines.scored surprised (some level) with ⟨fault | table, calls⟩
  · simp [ran, Except.toOption] at succeeds
  · obtain ⟨pass, state, -, -, -, -, -, -, -, keys, -, asks, -⟩ :=
      (scored_profits Tree.fiveLines_forms surprised (some level)).2.2 table calls ran
    have folded : Tree.fiveLinesShape.preorder.filter Tree.fiveLines.folded = [0, 2, 3] := by
      decide +kernel
    exact ⟨table, calls, rfl, keys, folded ▸ (asks (by decide)).length_eq.symm⟩

end Pass

end FoldTree
