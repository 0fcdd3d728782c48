import FoldTree.Offer.Basic
import FoldTree.Offer.Sampler
import FoldTree.Settings.Basic

/-! Offers with profits from a content model. A pass keeps a working set: the nodes that count as
unfolded, with the sum of their terms. Each folded node is scored as if it were in that set too,
and the set is restored before anything else happens, whether the score came or not.
-/

namespace FoldTree

/-- Nodes that count as unfolded, each once, and the sum of their terms. -/
structure WorkingSet where
  ids : List NodeId
  terms : Terms

namespace WorkingSet

/-- No node at all. -/
def empty : WorkingSet := ⟨[], .empty⟩

/-- Whether a node is in the set. -/
def contains (set : WorkingSet) (id : NodeId) : Bool :=
  set.ids.contains id

/-- Puts a node and its terms into the set. -/
def push (set : WorkingSet) (node : Node) : WorkingSet :=
  ⟨set.ids ++ [node.id], set.terms.plus node.terms⟩

/-- Takes a node and its terms out of the set. -/
def withdraw (set : WorkingSet) (node : Node) : WorkingSet :=
  ⟨set.ids.erase node.id, set.terms.minus node.terms⟩

/-- Puts a node into the set unless it is there. -/
def insert (set : WorkingSet) (node : Node) : WorkingSet :=
  if set.contains node.id then set else set.push node

end WorkingSet

/-- What a pass is about: how nodes are scored, for which file, and the terms of the whole file
when the pass was made.
-/
structure Pass where
  profit : ProfitFunction
  project : String
  file : String
  unfoldedProfit : UnfoldedProfit
  fileTerms : Terms

/-- Why a pass could not be made or gave no offers. -/
inductive Pass.Fault where
  | tree (fault : Tree.Fault)
  | needsSampler (profit : ProfitFunction)
  | negativeProfit (score : Float) (id : NodeId) (profit : ProfitFunction)
  | sampler (failure : SamplerFailure)

/-- What is said about a pass that failed. -/
def Pass.Fault.message : Pass.Fault → String
  | .tree fault => fault.message
  | .needsSampler profit => "Profit function " ++ profit.name ++ " needs a topic sampler"
  | .negativeProfit score id profit =>
    "Profit " ++ Decimal.exact score ++ " for node " ++ toString id
      ++ " must be non-negative under " ++ profit.name
  | .sampler failure => failure.message

/-- What changes during a pass: the working set, and the questions asked so far. -/
structure Pass.State where
  working : WorkingSet
  calls : List SamplerCall

/-- A step of a pass, which may fail and leaves its state behind either way. -/
abbrev Scoring := ExceptT Pass.Fault (StateM Pass.State)

namespace Pass

/-- The terms of all reachable nodes together. -/
def termsOf (nodes : List Node) : Terms :=
  nodes.foldl (fun terms node => terms.plus node.terms) .empty

/-- The working set of the nodes that are unfolded already. -/
def unfoldedSet (nodes : List Node) : WorkingSet :=
  (nodes.filter (·.unfolded)).foldl WorkingSet.insert .empty

/-- Makes a pass over a tree. A profit function that needs a content model is refused without
one.
-/
def start (tree : Tree) (settings : Settings) (sampler : Option Sampler) :
    Except Fault (Pass × State) := do
  if settings.profit.policy.needsSampler && sampler.isNone then
    throw (.needsSampler settings.profit)
  let nodes ← tree.reachable.mapError .tree
  return (
    { profit := settings.profit
      project := settings.project
      file := tree.fileId
      unfoldedProfit := settings.unfoldedProfit
      fileTerms := termsOf nodes },
    { working := unfoldedSet nodes, calls := [] })

/-- The question that a policy asks about a node, given the working set. -/
def question? (pass : Pass) (working : WorkingSet) (node : Node) : Option SamplerCall :=
  match pass.profit.policy with
  | .noContentModel => none
  | .surprising => some (.surprise working.terms pass.project pass.file node.id)
  | .condSurprising =>
    some (.minusCond (pass.fileTerms.without working.terms) working.terms pass.project pass.file
      node.id)
  | .condSurprising2 => some (.cond node.terms working.terms pass.project pass.file node.id)
  | .likely => some (.logProb 0.0 working.terms pass.project pass.file node.id)
  | .specific =>
    some (.specific 0.0 working.terms pass.profit.name pass.project pass.file node.id)
  | .klDiv => some (.klDiv pass.profit.name pass.project pass.file working.ids)

/-- The profit that an answer stands for: a divergence counts against the node. -/
def profitOf (pass : Pass) (answer : Float) : Float :=
  if pass.profit.policy = .klDiv then -1.0 * answer else answer

/-- Asks the content model about a node; without one every node has profit one. -/
def ask (pass : Pass) (sampler : Option Sampler) (node : Node) : Scoring Float := do
  match pass.question? (← get).working node with
  | none => return 1.0
  | some call =>
    match sampler with
    | none => throw (.needsSampler pass.profit)
    | some answer =>
      modify fun state => { state with calls := state.calls ++ [call] }
      match answer call with
      | .ok score => return pass.profitOf score
      | .error failure => throw (.sampler failure)

/-- Whether scoring a node puts it into the working set for the time of the question. -/
def pushes (pass : Pass) (working : WorkingSet) (node : Node) : Bool :=
  pass.profit.policy.addsNode && !working.contains node.id

/-- The profit of unfolding a node given the working set, which is left as it was found. A profit
below zero is refused where the policy has none.
-/
def score (pass : Pass) (sampler : Option Sampler) (node : Node) : Scoring Float := do
  let pushed := pass.pushes (← get).working node
  if pushed then modify fun state => { state with working := state.working.push node }
  let outcome ← observing (pass.ask sampler node)
  if pushed then modify fun state => { state with working := state.working.withdraw node }
  match outcome with
  | .error fault => throw fault
  | .ok profit =>
    if profit < 0 && !pass.profit.policy.allowsNegative then
      throw (.negativeProfit profit node.id pass.profit)
    return profit

/-- The profit to report for a node. One without terms is scored and then never worth unfolding,
and one that is unfolded is not scored.
-/
def reported (pass : Pass) (sampler : Option Sampler) (node : Node) : Scoring (Option Float) := do
  if node.unfolded then
    return match pass.unfoldedProfit with
      | .suppress => none
      | .courtesy => some 0.0
  else
    let profit ← pass.score sampler node
    return some (if node.terms.isEmpty then Offer.worst else profit)

/-- The offer for a node over the cost that its parent has come to, and the cost that its children
count from.
-/
def offer (pass : Pass) (sampler : Option Sampler) (tree : Tree) (node : Node) (above : Int) :
    Scoring (Offer × Int) := do
  let profit ← pass.reported sampler node
  match tree.offerFor node above profit with
  | .ok result => return result
  | .error fault => throw (.tree fault)

mutual

/-- Offers for the nodes of a subtree, in pre-order. -/
def offersBelow (pass : Pass) (sampler : Option Sampler) (tree : Tree) (above : Int) :
    Rose NodeId → Scoring OfferTable
  | .node id below =>
    match tree.nodes[id]? with
    | none => return []
    | some node => do
      let (offer, cost) ← pass.offer sampler tree node above
      let rest ← pass.offersAll sampler tree cost below
      return (id, offer) :: rest

/-- Offers for the nodes of several subtrees, one after the other. -/
def offersAll (pass : Pass) (sampler : Option Sampler) (tree : Tree) (above : Int) :
    List (Rose NodeId) → Scoring OfferTable
  | [] => return []
  | branch :: rest => do
    let first ← pass.offersBelow sampler tree above branch
    let others ← pass.offersAll sampler tree above rest
    return first ++ others

end

/-- Counts a node as unfolded for the rest of the pass. -/
def commit (state : State) (node : Node) : State :=
  { state with working := state.working.insert node }

end Pass

/-- Offers with profits for all nodes that the root reaches, from a pass of their own, and the
questions that were asked.
-/
def Tree.scored (tree : Tree) (settings : Settings) (sampler : Option Sampler) :
    Except Pass.Fault OfferTable × List SamplerCall :=
  match Pass.start tree settings sampler with
  | .error fault => (.error fault, [])
  | .ok (pass, state) =>
    match tree.rootId with
    | .error fault => (.error (.tree fault), [])
    | .ok root =>
      let (outcome, after) := (pass.offersBelow sampler tree 0 (tree.subtree root)).run.run state
      (outcome, after.calls)

end FoldTree
