import FoldTree.Offer.Scored
import FoldTree.Proofs.Outcome
import FoldTree.Proofs.Term.Occurrences

/-! Scoring of one node. The node is in the working set for the time of the question only, and
whatever comes of the question, the working set is the one from before, down to the order of its
terms. What a step does is given as its outcome and the questions that it asks.
-/

namespace FoldTree

namespace Scoring

open Pass

variable {α β : Type} (state : State)

/-- What a step comes to from a state: its outcome, and the state that it leaves behind. -/
def result (step : Scoring α) (state : State) : Except Fault α × State :=
  step.run.run state

/-- A step goes on with its value and state, or ends with its fault. -/
theorem result_bind (step : Scoring α) (next : α → Scoring β)
    : (step >>= next).result state
      = match step.result state with
        | (.ok value, after) => (next value).result after
        | (.error fault, after) => (.error fault, after) := by
  change (match step.result state with
    | (outcome, after) => (ExceptT.bindCont next outcome).run after) = _
  rcases step.result state with ⟨_ | _, after⟩ <;> rfl

/-- A value alone leaves the state. -/
theorem result_pure (value : α) : (pure value : Scoring α).result state = (.ok value, state) :=
  rfl

/-- Looking at the state leaves it. -/
theorem result_get : (get : Scoring State).result state = (.ok state, state) := rfl

/-- A change of the state has no fault. -/
theorem result_modify (f : State → State)
    : (modify f : Scoring PUnit).result state = (.ok ⟨⟩, f state) :=
  rfl

/-- A fault leaves the state. -/
theorem result_throw (fault : Fault)
    : (throw fault : Scoring α).result state = (.error fault, state) :=
  rfl

/-- A handler takes over from a fault, with the state that the fault left. -/
theorem result_tryCatch (step : Scoring α) (handler : Fault → Scoring α)
    : (tryCatch step handler).result state
      = match step.result state with
        | (.ok value, after) => (.ok value, after)
        | (.error fault, after) => (handler fault).result after := by
  simp only [result, tryCatch, tryCatchThe, MonadExceptOf.tryCatch, ExceptT.tryCatch, ExceptT.run,
    ExceptT.mk, StateT.run, bind, StateT.bind]
  rcases step state with ⟨_ | _, after⟩ <;> rfl

/-- An observed step has its outcome as its value. -/
theorem result_observing (step : Scoring α)
    : (observing step).result state = (.ok (step.result state).1, (step.result state).2) := by
  simp only [observing, result_tryCatch, result_bind]
  rcases step.result state with ⟨_ | _, after⟩ <;> rfl

end Scoring

namespace WorkingSet

/-- A node that was put into a set it was not in can be taken out without a trace. -/
theorem withdraw_push {set : WorkingSet} {node : Node} (absent : set.contains node.id = false)
    : (set.push node).withdraw node = set := by
  have fresh : node.id ∉ set.ids := by simpa [contains] using absent
  simp [push, withdraw, List.erase_append_right _ fresh]

end WorkingSet

namespace Pass

open Scoring

variable {pass : Pass} {sampler : Option Sampler} {tree : Tree} {node : Node} {state : State}

/-- The working set that a node is scored with. -/
def scoringSet (pass : Pass) (working : WorkingSet) (node : Node) : WorkingSet :=
  if pass.pushes working node then working.push node else working

/-- What a content model makes of a question. -/
def answerTo (pass : Pass) (sampler : Option Sampler) (call : SamplerCall) : Except Fault Float :=
  match sampler with
  | none => .error (.needsSampler pass.profit)
  | some answer =>
    match answer call with
    | .ok score => .ok (pass.profitOf score)
    | .error failure => .error (.sampler failure)

/-- The answer about a node for a working set to score it with. -/
def answer (pass : Pass) (sampler : Option Sampler) (working : WorkingSet) (node : Node)
    : Except Fault Float :=
  match pass.question? working node with
  | none => .ok 1.0
  | some call => pass.answerTo sampler call

/-- The questions that are put to a content model about a node. -/
def questions (pass : Pass) (sampler : Option Sampler) (working : WorkingSet) (node : Node)
    : List SamplerCall :=
  if sampler.isSome then (pass.question? working node).toList else []

/-- The answer as a profit, which may have to be at least zero. -/
def checked (pass : Pass) (node : Node) (profit : Float) : Except Fault Float :=
  if profit < 0 && !pass.profit.policy.allowsNegative then
    .error (.negativeProfit profit node.id pass.profit)
  else .ok profit

/-- Asking about a node changes nothing but the questions asked, by cases on the question. -/
theorem ask_result (pass : Pass) (sampler : Option Sampler) (node : Node) (state : State)
    : (pass.ask sampler node).result state
      = (pass.answer sampler state.working node,
          ⟨state.working, state.calls ++ pass.questions sampler state.working node⟩) := by
  simp only [ask, result_bind, result_get]
  cases question : pass.question? state.working node with
  | none => simp [result_pure, answer, questions, question]
  | some call =>
      cases sampler with
      | none => simp [result_throw, answer, answerTo, questions, question]
      | some model =>
          simp only [result_bind, result_modify, answer, answerTo, questions, question]
          cases model call <;> simp [result_pure, result_throw]

/-- The questions about a node are asked with the set that the node is scored with. -/
def scoreQuestions (pass : Pass) (sampler : Option Sampler) (working : WorkingSet) (node : Node)
    : List SamplerCall :=
  pass.questions sampler (pass.scoringSet working node) node

/-- The profit of a node for a working set, or the fault of scoring it. -/
def scoreOutcome (pass : Pass) (sampler : Option Sampler) (working : WorkingSet) (node : Node)
    : Except Fault Float :=
  pass.answer sampler (pass.scoringSet working node) node >>= pass.checked node

/-- Scoring a node leaves the working set as it was, whether a profit comes of it or a fault.
Witness: the node is put into the set only if it is not there, and taken out before the answer is
looked at.
-/
theorem score_result (pass : Pass) (sampler : Option Sampler) (node : Node) (state : State)
    : (pass.score sampler node).result state
      = (pass.scoreOutcome sampler state.working node,
          ⟨state.working, state.calls ++ pass.scoreQuestions sampler state.working node⟩) := by
  cases pushed : pass.pushes state.working node with
  | true =>
      have absent : state.working.contains node.id = false := by
        simp only [pushes, Bool.and_eq_true, Bool.not_eq_true'] at pushed
        exact pushed.2
      simp only [score, result_bind, result_get, pushed, if_true, result_modify, result_observing,
        ask_result, scoreOutcome, scoreQuestions, scoringSet, WorkingSet.withdraw_push absent]
      cases pass.answer sampler (state.working.push node) node with
      | error fault => simp [result_throw]
      | ok profit =>
          simp only [checked, Outcome.ok_bind]
          split <;> simp [result_throw, result_pure]
  | false =>
      simp only [score, result_bind, result_get, pushed, Bool.false_eq_true, if_false,
        result_observing, ask_result, scoreOutcome, scoreQuestions, scoringSet]
      cases pass.answer sampler state.working node with
      | error fault => simp [result_throw]
      | ok profit =>
          simp only [checked, Outcome.ok_bind]
          split <;> simp [result_throw, result_pure]

end Pass

end FoldTree
