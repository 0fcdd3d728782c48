import FoldTree.Proofs.Offer.Profits
import Mathlib.Logic.Function.Iterate

/-! Passes as loops. A loop keeps the nodes that are still to be visited, each with the cost that its
parent has come to, and reads from the tree what it needs for one visit at a time. Over a finite
tree it ends with what the pass gives, and at no moment has it changed the tree.
-/

namespace FoldTree

open Pass Scoring

/-- A pass under way: the tree that it goes through, the state and the offers that it has come to,
the fault that ended it, if one did, and the nodes that are pending, each with the cost that its
parent has come to.
-/
structure Sweep where
  tree : Tree
  state : State
  table : OfferTable
  fault : Option Fault
  pending : List (NodeId × Int)

namespace Sweep

/-- What a pass does at a node of a tree, over the cost that the node's parent has come to. -/
abbrev Visit := Tree → Node → Int → Scoring (Offer × Int)

/-- A pass that is about to start. -/
def start (tree : Tree) (state : State) (root : NodeId) : Sweep where
  tree
  state
  table := []
  fault := none
  pending := [(root, 0)]

/-- Visits the first node that is pending. Its children come before the others that are; a fault
leaves nothing to be visited.
-/
def next (visit : Visit) (sweep : Sweep) : Sweep :=
  match sweep.pending with
  | [] => sweep
  | (id, above) :: rest =>
    match sweep.tree.nodes[id]? with
    | none => { sweep with pending := rest }
    | some node =>
      match (visit sweep.tree node above).result sweep.state with
      | (.error fault, after) => { sweep with state := after, fault := some fault, pending := [] }
      | (.ok (offer, cost), after) =>
        { sweep with
          state := after
          table := sweep.table ++ [(id, offer)]
          pending := node.children.map (fun child => (child, cost)) ++ rest }

/-- What a pass has come to. -/
def outcome (sweep : Sweep) : Except Fault OfferTable :=
  match sweep.fault with
  | some fault => .error fault
  | none => .ok sweep.table

/-- A pass comes from one moment to another. -/
def Leads (visit : Visit) (first later : Sweep) : Prop :=
  ∃ steps : Nat, (next visit)^[steps] first = later

/-- Each moment leads to itself. -/
theorem Leads.refl (visit : Visit) (sweep : Sweep) : Leads visit sweep sweep := ⟨0, rfl⟩

/-- Where the next moment leads, the moment before it leads too. -/
theorem Leads.of_next {visit : Visit} {sweep later : Sweep}
    (leads : Leads visit (sweep.next visit) later)
    : Leads visit sweep later := by
  obtain ⟨steps, same⟩ := leads
  exact ⟨steps + 1, same⟩

/-- A visit leaves the tree, whatever comes of it. -/
theorem next_tree (visit : Visit) (sweep : Sweep) : (sweep.next visit).tree = sweep.tree := by
  unfold next
  split
  · rfl
  · split
    · rfl
    · split <;> rfl

/-- A pass leaves the tree at every moment, by induction on its steps. -/
theorem Leads.tree_eq {visit : Visit} {sweep later : Sweep} (leads : Leads visit sweep later)
    : later.tree = sweep.tree := by
  obtain ⟨steps, rfl⟩ := leads
  induction steps generalizing sweep with
  | zero => rfl
  | succ steps ih =>
    have onward : ((next visit)^[steps] (sweep.next visit)).tree = (sweep.next visit).tree := ih
    exact onward.trans (sweep.next_tree visit)

section

variable {visit : Visit} {sweep : Sweep} {id : NodeId} {above : Int} {rest : List (NodeId × Int)}
  {node : Node} {after : State}
  (first : sweep.pending = (id, above) :: rest) (found : sweep.tree.nodes[id]? = some node)

include first found

/-- A visit that fails is the last one. -/
theorem next_of_error {fault : Fault}
    (visited : (visit sweep.tree node above).result sweep.state = (.error fault, after))
    : sweep.next visit
      = { sweep with state := after, fault := some fault, pending := [] } := by
  simp only [next, first, found, visited]

/-- A visit that gives an offer is followed by those of the node's children. -/
theorem next_of_ok {offer : Offer} {cost : Int}
    (visited : (visit sweep.tree node above).result sweep.state = (.ok (offer, cost), after))
    : sweep.next visit
      = { sweep with
          state := after
          table := sweep.table ++ [(id, offer)]
          pending := node.children.map (fun child => (child, cost)) ++ rest } := by
  simp only [next, first, found, visited]

end

/-! ### Loops and recursion -/

/-- A function for a shape and one for several shapes give offers by the same visits: that of a node
before those below it, and siblings from left to right.
-/
structure Follows (visit : Visit) (tree : Tree) (below : Int → Rose NodeId → Scoring OfferTable)
    (all : Int → List (Rose NodeId) → Scoring OfferTable) : Prop where
  node : ∀ {id : NodeId} {node : Node} (above : Int) (branches : List (Rose NodeId)),
    tree.nodes[id]? = some node
    → below above (.node id branches) = do
        let (offer, cost) ← visit tree node above
        let rest ← all cost branches
        return (id, offer) :: rest
  nil : ∀ above, all above [] = pure []
  cons : ∀ (above : Int) (branch : Rose NodeId) (rest : List (Rose NodeId)),
    all above (branch :: rest) = do
      let first ← below above branch
      let others ← all above rest
      return first ++ others

/-- Offers for several shapes, each over a cost of its own. -/
def gather (below : Int → Rose NodeId → Scoring OfferTable) :
    List (Int × Rose NodeId) → Scoring OfferTable
  | [] => pure []
  | (above, shape) :: rest => do
    let first ← below above shape
    let others ← gather below rest
    return first ++ others

section

variable {visit : Visit} {tree : Tree} {below : Int → Rose NodeId → Scoring OfferTable}
  {all : Int → List (Rose NodeId) → Scoring OfferTable}

/-- Siblings are gathered before what comes behind them, by induction on the siblings. -/
theorem Follows.gather_append (follows : Follows visit tree below all) (cost : Int)
    (branches : List (Rose NodeId)) (rest : List (Int × Rose NodeId))
    : gather below (branches.map (fun branch => (cost, branch)) ++ rest) = do
        let first ← all cost branches
        let others ← gather below rest
        return first ++ others := by
  induction branches with
  | nil => simp [follows.nil]
  | cons branch others ih =>
      simp only [List.map_cons, List.cons_append, gather, ih, follows.cons, bind_assoc, pure_bind,
        List.append_assoc]

/-- Gathering from a node on is its visit, and then gathering from its children on. -/
theorem Follows.gather_cons (follows : Follows visit tree below all) {id : NodeId} {node : Node}
    (found : tree.nodes[id]? = some node) (above : Int) (branches : List (Rose NodeId))
    (rest : List (Int × Rose NodeId))
    : gather below ((above, .node id branches) :: rest) = do
        let (offer, cost) ← visit tree node above
        let others ← gather below (branches.map (fun branch => (cost, branch)) ++ rest)
        return (id, offer) :: others := by
  simp [gather, follows.node above branches found, follows.gather_append]

/-- The number of nodes of several shapes. -/
def count (forest : List (Int × Rose NodeId)) : Nat :=
  (forest.flatMap fun entry => entry.2.preorder).length

/-- With a node's branches in its place there is one node less. -/
theorem count_branches (above cost : Int) (id : NodeId) (branches : List (Rose NodeId))
    (rest : List (Int × Rose NodeId))
    : count ((above, .node id branches) :: rest)
      = count (branches.map (fun branch => (cost, branch)) ++ rest) + 1 := by
  simp only [count, List.flatMap_cons, List.flatMap_append, List.flatMap_map, Rose.preorder_node,
    List.cons_append, List.length_cons]

/-- A loop over all that is pending ends with what is gathered from there. Witness: induction on the
number of nodes that are still to be visited, each visit being one of them.
-/
theorem Follows.exists_leads (follows : Follows visit tree below all)
    (forest : List (Int × Rose NodeId)) (grown : ∀ entry ∈ forest, tree.Grown entry.2)
    (sweep : Sweep) (same : sweep.tree = tree) (sound : sweep.fault = none)
    (pending : sweep.pending = forest.map fun entry => (entry.2.value, entry.1))
    : ∃ last,
        Leads visit sweep last
        ∧ last.pending = []
        ∧ last.outcome
          = ((gather below forest).result sweep.state).1.map (sweep.table ++ ·)
        ∧ last.state = ((gather below forest).result sweep.state).2 := by
  generalize left : count forest = nodes
  induction nodes using Nat.strong_induction_on generalizing forest sweep with
  | _ nodes ih =>
  rcases forest with _ | ⟨⟨above, id, branches⟩, rest⟩
  · refine ⟨sweep, .refl visit sweep, pending, ?_, rfl⟩
    simp [outcome, sound, gather, result_pure, Except.map]
  · cases grown _ List.mem_cons_self with
    | @node _ node _ found children inner =>
    subst same
    rw [follows.gather_cons found, result_bind]
    rcases visited : (visit sweep.tree node above).result sweep.state with
      ⟨fault | ⟨offer, cost⟩, after⟩
    · -- a fault ends the loop, and all that is gathered with it
      refine ⟨sweep.next visit, .of_next (.refl visit _), ?_⟩
      rw [next_of_error pending found visited]
      exact ⟨rfl, rfl, rfl⟩
    · -- the branches take the node's place in front of all others that are pending
      have later := next_of_ok pending found visited
      have grown' : ∀ entry ∈ branches.map (fun branch => (cost, branch)) ++ rest,
          sweep.tree.Grown entry.2 := by
        intro entry member
        rcases List.mem_append.mp member with member | member
        · obtain ⟨branch, inside, rfl⟩ := List.mem_map.mp member
          exact inner branch inside
        · exact grown entry (List.mem_cons_of_mem _ member)
      rw [count_branches above cost] at left
      have smaller : count (branches.map (fun branch => (cost, branch)) ++ rest) < nodes :=
        left ▸ Nat.lt_succ_self _
      obtain ⟨last, leads, done, came, state⟩ := ih _ smaller _ grown' (sweep.next visit)
        (by rw [later]) (by rw [later]; exact sound) (by simp [later, children]) rfl
      refine ⟨last, leads.of_next, done, ?_⟩
      rw [came, state, later]
      simp only [result_bind]
      rcases (gather below (branches.map (fun branch => (cost, branch)) ++ rest)).result after
        with ⟨fault | others, final⟩
      · exact ⟨rfl, rfl⟩
      · simp [result_pure, Except.map, Rose.value]

/-- The loop over a whole shape ends with what the recursion over it gives. -/
theorem Follows.exists_outcome (follows : Follows visit tree below all) {shape : Rose NodeId}
    (grown : tree.Grown shape) (state : State)
    : ∃ last,
        Leads visit (start tree state shape.value) last
        ∧ last.pending = []
        ∧ (last.outcome, last.state) = (below 0 shape).result state := by
  obtain ⟨last, leads, done, came, after⟩ := follows.exists_leads [(0, shape)]
    (by simpa using grown) (start tree state shape.value) rfl rfl rfl
  have single : gather below [(0, shape)] = below 0 shape := by simp [gather]
  refine ⟨last, leads, done, ?_⟩
  simp only [came, after, single, start]
  rcases (below 0 shape).result state with ⟨fault | table, final⟩ <;> rfl

end

/-! ### The two passes -/

/-- An outcome as a step that asks nothing. -/
def settled {α : Type} : Except Tree.Fault α → Scoring α
  | .ok value => pure value
  | .error fault => throw (.tree fault)

/-- Outcomes in a row are steps in a row. -/
theorem settled_bind {α β : Type} (first : Except Tree.Fault α) (later : α → Except Tree.Fault β)
    : settled (first >>= later) = settled first >>= fun value => settled (later value) := by
  cases first with
  | ok value => simp [settled]
  | error fault => rfl

/-- A visit for the cost alone. -/
def costVisit : Visit := fun tree node above => settled (tree.offerFor node above none)

/-- A visit for cost and profit. -/
def profitVisit (pass : Pass) (sampler : Option Sampler) : Visit := pass.offer sampler

/-- The pass over costs visits nodes for their costs. -/
theorem follows_costs (tree : Tree)
    : Follows costVisit tree (fun above shape => settled (tree.baselineBelow above shape))
        (fun above shapes => settled (tree.baselineAll above shapes)) where
  node above branches found := by
    simp only [Tree.baselineBelow, found, settled_bind]
    rfl
  nil above := rfl
  cons above branch rest := by
    simp only [Tree.baselineAll, settled_bind]
    rfl

/-- The pass over profits visits nodes for their costs and profits. -/
theorem follows_profits (pass : Pass) (sampler : Option Sampler) (tree : Tree)
    : Follows (profitVisit pass sampler) tree (pass.offersBelow sampler tree)
        (pass.offersAll sampler tree) where
  node above branches found := by
    simp only [offersBelow, found]
    rfl
  nil above := rfl
  cons above branch rest := rfl

variable {tree : Tree} {shape : Rose NodeId}

/-- The loop over costs ends with what the pass gives. -/
theorem baseline_sweep (forms : tree.Forms shape) (state : State)
    : ∃ last,
        Leads costVisit (start tree state shape.value) last
        ∧ last.pending = []
        ∧ last.outcome = tree.baseline.mapError .tree := by
  obtain ⟨last, leads, done, came⟩ := (follows_costs tree).exists_outcome forms.grown state
  have root : tree.rootId = .ok shape.value := by simp only [Tree.rootId, forms.root]
  refine ⟨last, leads, done, (congrArg Prod.fst came).trans ?_⟩
  simp only [Tree.baseline, root, Outcome.ok_bind, forms.subtree_eq]
  cases tree.baselineBelow 0 shape <;> rfl

/-- The loop over profits ends with what the pass gives, and asks the same questions. -/
theorem scored_sweep (forms : tree.Forms shape) {settings : Settings} {sampler : Option Sampler}
    {pass : Pass} {state : State} (made : Pass.start tree settings sampler = .ok (pass, state))
    : ∃ last,
        Leads (profitVisit pass sampler) (start tree state shape.value) last
        ∧ last.pending = []
        ∧ (last.outcome, last.state.calls) = tree.scored settings sampler := by
  obtain ⟨last, leads, done, came⟩ :=
    (follows_profits pass sampler tree).exists_outcome forms.grown state
  have root : tree.rootId = .ok shape.value := by simp only [Tree.rootId, forms.root]
  refine ⟨last, leads, done, ?_⟩
  simp only [Tree.scored, made, root, forms.subtree_eq]
  exact congrArg (fun result => (result.1, result.2.calls)) came

end Sweep

end FoldTree
