import FoldTree.Proofs.Tree.Spanning

/-! Edits of a fold tree, step by step. An edit may fail after some of its writes, and what it has
written by then stays; grafting writes a node before it tries to attach it. It turns out that no
edit fails half done: each looks at all that it needs before it writes, and a node that was just
made can always be attached.
-/

namespace FoldTree.Tree

/-- What can be done to a tree from outside. Nodes are named as they are looked up. -/
inductive Edit where
  | newNode (region : Region)
  | addChild (parent child : Int)
  | setRoot (node : Int)
  | addTerm (node : Int) (term : String)
  | addTerms (node : Int) (terms : List String)
  | removeTerms (node : Int) (terms : List String)
  | setUnfolded (node : Int)
  | setLevels
  | addNodes (remarks : List Remark)
  | setBudget (budget : Float)
  | shrinkBudget (cost : Int)

/-- A step of an edit, which may fail and leaves the tree behind as it is by then. -/
abbrev Editing := EStateM Fault Tree

namespace Editing

/-- Goes on with what an answer about the tree holds. -/
def given {α : Type} : Except Fault α → Editing α
  | .ok value => pure value
  | .error fault => throw fault

/-- The id of the node that a name stands for. -/
def locate (name : Int) : Editing NodeId := do
  let node ← given ((← get).find name)
  return node.id

/-- Attaches a loose node: first the parent gets its new last child, then the child its parent. -/
def attach (parent child : NodeId) : Editing Unit := do
  let node ← given ((← get).find child)
  match node.parent with
  | some other => throw (.attached child other)
  | none =>
    modify (·.update parent fun node => { node with children := node.children ++ [child] })
    modify (·.update child fun node => { node with parent := some parent })

/-- Makes a loose node for a remark, gives it its terms and attaches it. -/
def graft (id : NodeId) (remark : Remark) : Editing Unit := do
  let child := (← get).nodes.length
  modify (·.newNode remark.region .empty)
  modify (·.addTerms child remark.terms)
  attach id child

/-- Grafts remarks at a node, and then at the children that it has by then. -/
def graftBelow (remarks : List Remark) : Nat → NodeId → Editing Unit
  | 0, _ => pure ()
  | depth + 1, id => do
    forM ((← get).carried remarks id) (graft id)
    forM ((← get).childrenOf id) (graftBelow remarks depth)

end Editing

open Editing

/-- Carries an edit out. -/
def Edit.perform : Edit → Editing Unit
  | .newNode region => modify (·.newNode region .empty)
  | .addChild parent child => do
    let parent ← locate parent
    let child ← locate child
    attach parent child
  | .setRoot node => do
    let id ← locate node
    modify fun tree => { tree with root := some id }
    modify (·.update id fun node => { node with level := 0 })
  | .addTerm node term => do
    let id ← locate node
    modify (·.addTerms id [term])
  | .addTerms node terms => do
    let id ← locate node
    modify (·.addTerms id terms)
  | .removeTerms node terms => do
    let id ← locate node
    modify (·.removeTerms id terms)
  | .setUnfolded node => do
    let id ← locate node
    modify (·.setUnfolded id)
  | .setLevels => do
    let root ← given (← get).rootId
    forM ((← get).preorder root) fun id => modify (·.setLevel id)
  | .addNodes remarks => do
    let root ← given (← get).rootId
    graftBelow remarks ((← get).nodes.length + remarks.length) root
  | .setBudget budget => modify (·.setBudget budget)
  | .shrinkBudget cost => do
    if cost < 0 then throw (.negativePayment cost)
    modify fun tree => { tree with budget := tree.budget - Float.ofInt cost }

/-- The tree that an edit leaves behind, whether it fails or not. -/
def after (tree : Tree) (edit : Edit) : Tree :=
  match edit.perform.run tree with
  | .ok () left => left
  | .error _ left => left

/-- The tree that edits one after the other leave behind. -/
def afterAll (tree : Tree) (edits : List Edit) : Tree :=
  edits.foldl after tree

/-- The tree that an edit makes, if it does not fail. -/
def Edit.outcome (tree : Tree) : Edit → Except Fault Tree
  | .newNode region => .ok (tree.newNode region .empty)
  | .addChild parent child => do
    let parent ← tree.find parent
    let child ← tree.find child
    tree.addChild parent.id child.id
  | .setRoot node => (tree.find node).map fun node => tree.setRoot node.id
  | .addTerm node term => (tree.find node).map fun node => tree.addTerms node.id [term]
  | .addTerms node terms => (tree.find node).map fun node => tree.addTerms node.id terms
  | .removeTerms node terms => (tree.find node).map fun node => tree.removeTerms node.id terms
  | .setUnfolded node => (tree.find node).map fun node => tree.setUnfolded node.id
  | .setLevels => tree.setLevels
  | .addNodes remarks => tree.addNodes remarks
  | .setBudget budget => .ok (tree.setBudget budget)
  | .shrinkBudget cost => tree.shrinkBudget cost

/-- What an edit comes to: the tree that it makes, or a fault over the tree from before. -/
def settled (tree : Tree) : Except Fault Tree → EStateM.Result Fault Tree Unit
  | .ok made => .ok () made
  | .error fault => .error fault tree

namespace Editing

variable {tree : Tree}

/-- An answer that is there goes on. -/
@[simp]
theorem run_given_ok {α : Type} (value : α) : (given (.ok value)).run tree = .ok value tree := rfl

/-- A fault ends the edit and leaves the tree. -/
@[simp]
theorem run_given_error {α : Type} (fault : Fault)
    : (given (.error fault) : Editing α).run tree = .error fault tree :=
  rfl

/-- A node of a name that is known goes on by its id. -/
theorem run_locate_ok {name : Int} {node : Node} (found : tree.find name = .ok node)
    : (locate name).run tree = .ok node.id tree := by
  simp only [locate, EStateM.run_bind, EStateM.run_get, found, run_given_ok]
  rfl

/-- A name that is not known ends the edit and leaves the tree. -/
theorem run_locate_error {name : Int} {fault : Fault} (missing : tree.find name = .error fault)
    : (locate name).run tree = .error fault tree := by
  simp only [locate, EStateM.run_bind, EStateM.run_get, missing, run_given_error]

/-- Attaching a node that has a parent fails before anything is written. -/
theorem run_attach (parent child : NodeId)
    : (attach parent child).run tree = tree.settled (tree.addChild parent child) := by
  unfold attach addChild
  cases found : tree.find child with
  | error fault => simp [found, settled]
  | ok node => cases up : node.parent <;> simp [found, up, settled, link]

/-- The terms of a node that was just made can be given later. -/
theorem addTerms_newNode (tree : Tree) (region : Region) (terms : List String)
    : (tree.newNode region .empty).addTerms tree.nodes.length terms
      = tree.newNode region (Terms.empty.addAll terms) := by
  simp only [newNode, addTerms, update]
  rw [modify_append_cons rfl]
  rfl

/-- An id names the node at its place. -/
theorem find_ofNat (tree : Tree) (id : NodeId)
    : tree.find id = match tree.nodes[id]? with
        | some node => .ok node
        | none => .error (.unknownNode id) := by
  have proper : ¬(id : Int) < 0 := Int.not_lt.mpr (Int.natCast_nonneg id)
  cases found : tree.nodes[id]? <;> simp only [find, if_neg proper, Int.toNat_natCast, found]

/-- A node that was just made is found, and has no parent. -/
theorem find_newNode (tree : Tree) (region : Region) (terms : Terms)
    : (tree.newNode region terms).find tree.nodes.length = .ok (tree.makeNode region terms) := by
  rw [find_ofNat]
  simp [newNode]

/-- A graft never fails: the node that it attaches was just made. -/
theorem run_graft (id : NodeId) (remark : Remark)
    : (graft id remark).run tree = .ok () (tree.graft id remark) := by
  -- the new node is found behind all others, and is loose
  have attached : (tree.newNode remark.region (Terms.empty.addAll remark.terms)).addChild id
      tree.nodes.length = .ok (tree.graft id remark) := by
    rw [addChild, find_newNode]
    rfl
  simp [graft, addTerms_newNode, run_attach, attached, settled]

/-- Steps that never fail change the tree one after the other, by induction on them. -/
theorem run_forM {α : Type} (step : α → Editing Unit) (change : Tree → α → Tree)
    (changes : ∀ item tree, (step item).run tree = .ok () (change tree item)) (items : List α)
    (tree : Tree)
    : (forM items step).run tree = .ok () (items.foldl change tree) := by
  induction items generalizing tree with
  | nil => rfl
  | cons item rest ih =>
      rw [List.forM_cons, EStateM.run_bind, changes item tree]
      exact ih (change tree item)

/-- Grafting below a node follows the walk, by induction on its depth. -/
theorem run_graftBelow (remarks : List Remark) (depth : Nat) (id : NodeId)
    : (graftBelow remarks depth id).run tree
      = .ok () (walk childrenOf (fun id () tree => ((), graftAt remarks id tree)) depth id ()
          tree).2 := by
  induction depth generalizing id tree with
  | zero => rfl
  | succ depth ih =>
      have grafts := run_forM (graft id) (·.graft id) (fun remark _ => run_graft id remark)
        (tree.carried remarks id) tree
      simp only [graftBelow, EStateM.run_bind, EStateM.run_get, grafts]
      exact run_forM (graftBelow remarks depth) _ (fun child _ => ih child) _ _

/-- A change of one node fails just where its name is not known. -/
theorem run_change (name : Int) (change : Tree → NodeId → Tree)
    : (do let id ← locate name; modify (change · id) : Editing Unit).run tree
      = tree.settled ((tree.find name).map fun node => change tree node.id) := by
  cases found : tree.find name with
  | error fault => simp [run_locate_error found, Except.map, settled]
  | ok node => simp [run_locate_ok found, Except.map, settled]

end Editing

/-- No edit fails half done: it makes its tree, or it fails and leaves the tree from before. -/
theorem Edit.run_perform (tree : Tree) (edit : Edit)
    : edit.perform.run tree = tree.settled (edit.outcome tree) := by
  cases edit with
  | newNode region => rfl
  | addChild parent child =>
      cases above : tree.find parent with
      | error fault => simp [perform, outcome, run_locate_error above, above, settled]
      | ok node =>
          cases below : tree.find child with
          | error fault =>
              simp [perform, outcome, run_locate_ok above, run_locate_error below, above, below,
                settled]
          | ok leaf =>
              simp [perform, outcome, run_locate_ok above, run_locate_ok below, run_attach, above,
                below]
  | setRoot node =>
      cases found : tree.find node with
      | error fault =>
          simp [perform, outcome, run_locate_error found, found, Except.map, settled]
      | ok other =>
          simp [perform, outcome, run_locate_ok found, found, Except.map, settled, Tree.setRoot,
            update]
  | addTerm node term => exact run_change node fun tree id => tree.addTerms id [term]
  | addTerms node terms => exact run_change node fun tree id => tree.addTerms id terms
  | removeTerms node terms => exact run_change node fun tree id => tree.removeTerms id terms
  | setUnfolded node => exact run_change node Tree.setUnfolded
  | setLevels =>
      cases rooted : tree.rootId with
      | error fault => simp [perform, outcome, Tree.setLevels, rooted, Except.map, settled]
      | ok root =>
          have levels := run_forM (fun id => modify (·.setLevel id)) setLevel (fun _ _ => rfl)
            (tree.preorder root) tree
          simp [perform, outcome, Tree.setLevels, rooted, Except.map, settled, levels]
  | addNodes remarks =>
      cases rooted : tree.rootId with
      | error fault => simp [perform, outcome, Tree.addNodes, rooted, Except.map, settled]
      | ok root =>
          simp [perform, outcome, Tree.addNodes, rooted, Except.map, settled, run_graftBelow]
  | setBudget budget => rfl
  | shrinkBudget cost =>
      by_cases negative : cost < 0
      · simp [perform, outcome, Tree.shrinkBudget, negative, settled]
      · simp [perform, outcome, Tree.shrinkBudget, negative, settled]

/-- An edit leaves behind the tree that it makes, or else the one from before. -/
theorem after_eq (tree : Tree) (edit : Edit)
    : tree.after edit = (edit.outcome tree).toOption.getD tree := by
  rw [after, edit.run_perform]
  cases edit.outcome tree <;> rfl

/-! ### What an edit makes -/

/-- What an edit makes of a tree if it does not fail: it has found the nodes that it names, and attaches
a loose one.
-/
inductive Edit.Makes (tree : Tree) : Edit → Tree → Prop
  | newNode (region : Region) : Makes tree (.newNode region) (tree.newNode region .empty)
  | addChild {upper lower : Int} {above below : Node} (upward : tree.find upper = .ok above)
      (downward : tree.find lower = .ok below) (loose : tree.parentOf below.id = none)
      : Makes tree (.addChild upper lower) (tree.link above.id below.id)
  | setRoot {name : Int} {node : Node} (found : tree.find name = .ok node)
      : Makes tree (.setRoot name) (tree.setRoot node.id)
  | addTerm {name : Int} {node : Node} (found : tree.find name = .ok node) (term : String)
      : Makes tree (.addTerm name term) (tree.addTerms node.id [term])
  | addTerms {name : Int} {node : Node} (found : tree.find name = .ok node) (terms : List String)
      : Makes tree (.addTerms name terms) (tree.addTerms node.id terms)
  | removeTerms {name : Int} {node : Node} (found : tree.find name = .ok node) (terms : List String)
      : Makes tree (.removeTerms name terms) (tree.removeTerms node.id terms)
  | setUnfolded {name : Int} {node : Node} (found : tree.find name = .ok node)
      : Makes tree (.setUnfolded name) (tree.setUnfolded node.id)
  | setLevels {root : NodeId} (rooted : tree.root = some root)
      : Makes tree .setLevels ((tree.preorder root).foldl Tree.setLevel tree)
  | addNodes {remarks : List Remark} {left : Tree} (added : tree.addNodes remarks = .ok left)
      : Makes tree (.addNodes remarks) left
  | setBudget (budget : Float) : Makes tree (.setBudget budget) { tree with budget }
  | shrinkBudget (cost : Int)
      : Makes tree (.shrinkBudget cost) { tree with budget := tree.budget - Float.ofInt cost }

/-- An edit that does not fail makes what it should. By cases on the edit. -/
theorem Edit.makes_of_outcome {tree left : Tree} {edit : Edit} (made : edit.outcome tree = .ok left)
    : edit.Makes tree left := by
  cases edit with
  | newNode region =>
      cases made
      exact .newNode region
  | addChild upper lower =>
      obtain ⟨above, upward, made⟩ := Outcome.bind_eq_ok.mp made
      obtain ⟨below, downward, made⟩ := Outcome.bind_eq_ok.mp made
      -- the lower node is looked up once more by its id, and must be loose
      obtain ⟨node, known, made⟩ := Outcome.bind_eq_ok.mp made
      rw [find_ofNat] at known
      split at known
      · rename_i found
        cases known
        split at made
        · cases made
        · rename_i loose
          cases made
          exact .addChild upward downward (by rw [parentOf, found, Option.bind_some, loose])
      · cases known
  | setRoot name =>
      obtain ⟨node, found, rfl⟩ := Outcome.map_eq_ok.mp made
      exact .setRoot found
  | addTerm name term =>
      obtain ⟨node, found, rfl⟩ := Outcome.map_eq_ok.mp made
      exact .addTerm found term
  | addTerms name terms =>
      obtain ⟨node, found, rfl⟩ := Outcome.map_eq_ok.mp made
      exact .addTerms found terms
  | removeTerms name terms =>
      obtain ⟨node, found, rfl⟩ := Outcome.map_eq_ok.mp made
      exact .removeTerms found terms
  | setUnfolded name =>
      obtain ⟨node, found, rfl⟩ := Outcome.map_eq_ok.mp made
      exact .setUnfolded found
  | setLevels =>
      obtain ⟨root, known, rfl⟩ := Outcome.map_eq_ok.mp made
      rw [rootId] at known
      split at known
      · cases known
        exact .setLevels ‹_›
      · cases known
  | addNodes remarks => exact .addNodes made
  | setBudget budget =>
      cases made
      exact .setBudget budget
  | shrinkBudget cost =>
      rw [outcome, Tree.shrinkBudget] at made
      split at made
      · cases made
      · cases made
        exact .shrinkBudget cost

end FoldTree.Tree
