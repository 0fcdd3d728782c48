import FoldTree.Proofs.Tree.History
import FoldTree.Proofs.Tree.Looping

/-! Traversals of fold trees. A loop over a stack does what recursion over the children does, also where
the tree grows under it. Where it does not grow, every loop goes through the nodes in pre-order, and there
are not more of them than the tree has.
-/

namespace FoldTree

variable {ε σ α : Type} {children : σ → NodeId → List NodeId} {operate : Operation ε σ α}

/-! ### Recursion by depth -/

/-- The state that a walk by depth leaves, from a stage on. -/
def Stage.followed (children : σ → NodeId → List NodeId) (visit : NodeId → α → σ → α × σ)
    (depth : Nat) (state : σ) : Stage α → σ
  | .visit id above => (walk children visit depth id above state).2
  | .below id value place =>
    ((children state id).drop place).foldl
      (fun state child => (walk children visit depth child value state).2) state

namespace Recurses

variable {stage : Stage α} {state last : σ} {calls : List (NodeId × α)} {outcome : Except ε α}
  {visit : NodeId → α → σ → α × σ}

/-- No call of an operation that never fails ends a walk early, by induction on the walk. -/
theorem completes (walk : Recurses children (.total visit) stage state calls outcome last)
    : ∃ value, outcome = .ok value := by
  induction walk with
  | failed called => nomatch congrArg Prod.fst called
  | visited _ _ ih => exact ih
  | done => exact ⟨_, rfl⟩
  | broken _ _ ih => exact ih.imp fun _ same => nomatch same
  | onward _ _ _ _ rest => exact rest

/-- A completed walk from a node gives what the call at the node gave. -/
theorem value_of_visit {id : NodeId} {above value : α}
    (walk : Recurses children operate (.visit id above) state calls (.ok value) last)
    : (operate id above state).1 = .ok value := by
  cases walk with
  | visited called below => rw [called, below.value_of_below]

/-- A walk leaves the state that a walk by depth does if the depth is not less than the number of calls.
Witness: induction on the walk. After a completed walk from a child, the others are still its parent's
children.
-/
theorem followed_eq (appends : (Operation.total visit : Operation ε σ α).Appends children)
    (walk : Recurses children (.total visit) stage state calls outcome last) {depth : Nat}
    (enough : calls.length ≤ depth)
    : stage.followed children visit depth state = last := by
  induction walk generalizing depth with
  | failed called => nomatch congrArg Prod.fst called
  | visited called _ ih =>
      -- the call at the node takes one off the depth, as it does off the calls
      cases called
      cases depth with
      | zero => exact absurd enough (Nat.not_succ_le_zero _)
      | succ depth => exact ih (Nat.le_of_succ_le_succ enough)
  | done none =>
      rw [Stage.followed, List.drop_eq_nil_of_le (List.getElem?_eq_none_iff.mp none)]
      rfl
  | broken _ walk =>
      obtain ⟨_, same⟩ := walk.completes
      nomatch same
  | onward here walk _ first rest =>
      rw [List.length_append] at enough
      have kept := walk.children_of_child appends (List.mem_of_getElem? here)
      have head := first (Nat.le_of_add_right_le enough)
      have tail := rest (Nat.le_of_add_left_le enough)
      rw [Stage.followed] at head
      rw [Stage.followed, kept] at tail
      rw [Stage.followed, drop_of_getElem? here, List.foldl_cons, head]
      exact tail

/-- A walk of an operation that never fails comes to what a walk by depth gives. -/
theorem walk_eq (appends : (Operation.total visit : Operation ε σ α).Appends children) {id : NodeId}
    {above : α} (walk : Recurses children (.total visit) (.visit id above) state calls outcome last)
    {depth : Nat} (enough : calls.length ≤ depth)
    : outcome = .ok (FoldTree.walk children visit depth id above state).1
      ∧ last = (FoldTree.walk children visit depth id above state).2 := by
  obtain ⟨value, rfl⟩ := walk.completes
  obtain ⟨more, rfl⟩ := walk.exists_cons
  refine ⟨?_, (walk.followed_eq appends enough).symm⟩
  cases depth with
  | zero => exact absurd enough (Nat.not_succ_le_zero _)
  | succ depth => exact walk.value_of_visit.symm

end Recurses

/-! ### Trees that do not grow -/

/-- An operation changes the children of no node. -/
def Operation.Keeps (children : σ → NodeId → List NodeId) (operate : Operation ε σ α) : Prop :=
  ∀ id above state, children (operate id above state).2 = children state

/-- An operation that changes no children appends none. -/
theorem Operation.Keeps.appends (keeps : operate.Keeps children) : operate.Appends children where
  own id above state := by rw [keeps]
  others id above state other _ := by rw [keeps]

/-- Wherever the children are given ones, a recursive walk from a stage goes through some nodes one after
the other, up to the call that fails if there is one.
-/
def Stage.Passes (children : σ → NodeId → List NodeId) (operate : Operation ε σ α)
    (links : NodeId → List NodeId) (nodes : List NodeId) (stage : Stage α) : Prop :=
  ∀ state, children state = links
    → ∃ calls outcome last,
        Recurses children operate stage state calls outcome last
        ∧ calls.map Prod.fst <+: nodes
        ∧ ((∃ value, outcome = .ok value) → calls.map Prod.fst = nodes)

section

variable (keeps : operate.Keeps children)
include keeps

/-- A walk keeps all children, by induction on it. -/
theorem Recurses.children_eq {stage : Stage α} {state last : σ} {calls : List (NodeId × α)}
    {outcome : Except ε α} (walk : Recurses children operate stage state calls outcome last)
    : children last = children state := by
  have step {id : NodeId} {above : α} {state after : σ} {result : Except ε α}
      (called : operate id above state = (result, after))
      : children after = children state := by
    have same := keeps id above state
    rwa [called] at same
  induction walk with
  | failed called => exact step called
  | visited called _ ih => exact ih.trans (step called)
  | done => rfl
  | broken _ _ ih => exact ih
  | onward _ _ _ first rest => exact rest.trans first

namespace Stage.Passes

variable {links : NodeId → List NodeId}

/-- A walk from a node goes through the node and then through what is below it. -/
theorem visit {id : NodeId} {nodes : List NodeId}
    (under : ∀ value, (Stage.below id value 0).Passes children operate links nodes) (above : α)
    : (Stage.visit id above).Passes children operate links (id :: nodes) := by
  intro state same
  rcases called : operate id above state with ⟨fault | value, after⟩
  · refine ⟨_, _, _, .failed called, ?_, ?_⟩
    · exact List.cons_prefix_cons.mpr ⟨rfl, List.nil_prefix⟩
    · intro complete
      nomatch complete
  · -- the call has left the children as they are given, so that the walk below is one of those
    have kept := keeps id above state
    rw [called] at kept
    obtain ⟨calls, outcome, last, walk, early, all⟩ := under value after (kept.trans same)
    refine ⟨_, outcome, last, .visited called walk, ?_, ?_⟩
    · exact List.cons_prefix_cons.mpr ⟨rfl, early⟩
    · intro complete
      rw [List.map_cons, all complete]

/-- A walk from a place among the children goes through what is at and below the child there, and then
through what is at and below the others.
-/
theorem onward {id child : NodeId} {value : α} {place : Nat} {first rest : List NodeId}
    (here : (links id)[place]? = some child)
    (walks : (Stage.visit child value).Passes children operate links first)
    (behind : (Stage.below id value (place + 1)).Passes children operate links rest)
    : (Stage.below id value place).Passes children operate links (first ++ rest) := by
  intro state same
  have there : (children state id)[place]? = some child := by rw [same, here]
  obtain ⟨calls, outcome, middle, walk, early, all⟩ := walks state same
  cases outcome with
  | error fault =>
      refine ⟨calls, .error fault, middle, .broken there walk, ?_, ?_⟩
      · exact early.trans (List.prefix_append first rest)
      · intro complete
        nomatch complete
  | ok other =>
      have kept := (walk.children_eq keeps).trans same
      obtain ⟨more, outcome, last, next, early', all'⟩ := behind middle kept
      refine ⟨_, outcome, last, .onward there walk next, ?_, ?_⟩
      · rw [List.map_append, all ⟨other, rfl⟩]
        exact (List.prefix_append_right_inj first).mpr early'
      · intro complete
        rw [List.map_append, all ⟨other, rfl⟩, all' complete]

/-- A walk from a place among the children goes through one branch after the other, if the children from
there on are what the branches start with. By induction on the branches.
-/
theorem row {id : NodeId} {value : α} {place : Nat} {branches : List (Rose NodeId)}
    (left : (links id).drop place = branches.map Rose.value)
    (walks : ∀ branch ∈ branches,
      (Stage.visit branch.value value).Passes children operate links branch.preorder)
    : (Stage.below id value place).Passes children operate links
        (branches.flatMap Rose.preorder) := by
  induction branches generalizing place with
  | nil =>
      intro state same
      have none : (children state id)[place]? = none := by
        rw [same]
        exact List.getElem?_eq_none_iff.mpr (List.drop_eq_nil_iff.mp left)
      exact ⟨[], .ok value, state, .done none, List.prefix_refl _, fun _ => rfl⟩
  | cons branch rest ih =>
      have here : (links id)[place]? = some branch.value := by
        rw [← Nat.add_zero place, ← List.getElem?_drop, left]
        rfl
      have behind : (links id).drop (place + 1) = rest.map Rose.value := by
        rw [← List.drop_drop, left]
        rfl
      have first := walks branch List.mem_cons_self
      have others := ih behind fun branch member => walks branch (List.mem_cons_of_mem _ member)
      exact onward keeps here first others

end Stage.Passes

/-- Where nothing is appended, a walk follows the shape that a tree has grown to, by induction on it. -/
theorem Tree.Grown.passes {tree : Tree} {shape : Rose NodeId} (grown : tree.Grown shape) (above : α)
    : (Stage.visit shape.value above).Passes children operate tree.childrenOf shape.preorder := by
  induction grown generalizing above with
  | @node id node below found listed _ ih =>
      have links : (tree.childrenOf id).drop 0 = below.map Rose.value := by
        simp only [childrenOf, found, listed, List.drop_zero]
      rw [Rose.preorder_node]
      apply Stage.Passes.visit keeps
      intro value
      exact Stage.Passes.row keeps links fun branch member => ih branch member value

end

/-! ### Iteration -/

namespace Iteration

variable {links : NodeId → List NodeId}

/-- What an iteration does at a node, which is nothing. -/
def look : Operation Empty Unit Unit :=
  fun _ _ state => (.ok (), state)

/-- An iteration that is under way as a loop that only looks at the nodes is. -/
def ofLoop (now : Loop Empty Unit Unit) : Iteration :=
  ⟨now.calls.map Prod.fst, now.stack.map Prod.fst⟩

/-- A round of an iteration is one of the loop. -/
theorem next_ofLoop (now : Loop Empty Unit Unit)
    : (ofLoop now).next links = ofLoop (now.next (fun _ => links) look) := by
  have pile (siblings : List NodeId) : (Loop.pile () siblings).map Prod.fst = siblings.reverse := by
    rw [Loop.pile, List.map_map]
    exact List.map_id _
  simp only [next, Loop.next, look, ofLoop, List.getLast?_map]
  cases now.stack.getLast? with
  | none => rfl
  | some entry =>
      simp only [Option.map_some, List.map_append, List.map_dropLast, pile, List.map_cons, List.map_nil]

/-- So are any number of them, by induction on the rounds. -/
theorem run_ofLoop (rounds : Nat) (now : Loop Empty Unit Unit)
    : run links rounds (ofLoop now) = ofLoop (Loop.run (fun _ => links) look rounds now) := by
  induction rounds generalizing now with
  | zero => rfl
  | succ rounds ih => rw [run, next_ofLoop, ih, Loop.run]

/-- Iterating gives the nodes that a sweep calls at. -/
theorem from?_eq_sweep? (rounds : Nat) (root : NodeId)
    : from? links rounds root
      = (Loop.sweep? (fun _ => links) look rounds root () ()).map fun swept =>
          swept.1.map Prod.fst := by
  have runs : run links rounds ⟨[], [root]⟩
      = ofLoop (Loop.run (fun _ => links) look rounds ⟨(), [], none, [(root, ())]⟩) :=
    run_ofLoop rounds ⟨(), [], none, [(root, ())]⟩
  simp only [from?, Loop.sweep?, runs, ofLoop, List.isEmpty_map]
  split <;> rfl

end Iteration

/-! ### Finite trees -/

namespace Tree

variable {tree : Tree} {root : NodeId}

/-- Where nothing is appended, there are not more calls than the tree has nodes, and they go through the
pre-order.
-/
theorem Linked.exists_recurses (linked : tree.Linked) (finite : tree.FiniteFrom root)
    (made : root < tree.nodes.length) (keeps : operate.Keeps children) (prev : α) (state : σ)
    (same : children state = tree.childrenOf)
    : ∃ calls outcome last,
        Recurses children operate (.visit root prev) state calls outcome last
        ∧ calls.length ≤ tree.nodes.length
        ∧ calls.map Prod.fst <+: tree.preorder root
        ∧ ((∃ value, outcome = .ok value) → calls.map Prod.fst = tree.preorder root) := by
  obtain ⟨shape, grown, rfl, once⟩ := linked.exists_shape made finite
  have size := grown.size_le once
  have follows : tree.preorder shape.value = shape.preorder := by
    rw [preorder, subtree, grown.below_eq (Nat.le_succ_of_le size)]
  obtain ⟨calls, outcome, last, walk, early, all⟩ := grown.passes keeps prev state same
  have few := early.length_le
  rw [List.length_map] at few
  rw [follows]
  exact ⟨calls, outcome, last, walk, few.trans size, early, all⟩

/-- Iteration gives the pre-order. -/
theorem Linked.iteration_eq (linked : tree.Linked) (finite : tree.FiniteFrom root)
    (made : root < tree.nodes.length)
    : Iteration.from? tree.childrenOf tree.nodes.length root = some (tree.preorder root) := by
  have keeps : Iteration.look.Keeps fun _ => tree.childrenOf := fun _ _ _ => rfl
  obtain ⟨calls, outcome, last, walk, enough, -, all⟩ :=
    linked.exists_recurses finite made keeps () () rfl
  cases outcome with
  | error fault => nomatch fault
  | ok value =>
      rw [Iteration.from?_eq_sweep?, walk.sweep?_eq keeps.appends enough, Option.map_some,
        all ⟨value, rfl⟩]

/-! ### Grafting -/

/-- A graft shows among the children of its node, behind the others, and of no other node. -/
theorem childrenOf_graft {id : NodeId} (made : id < tree.nodes.length) (remark : Remark)
    (other : NodeId)
    : (tree.graft id remark).childrenOf other
      = tree.childrenOf other ++ (if other = id then [tree.nodes.length] else []) := by
  have count : (tree.newNode remark.region (Terms.empty.addAll remark.terms)).nodes.length
      = tree.nodes.length + 1 := by
    simp [newNode]
  have links := tree.links_newNode remark.region (Terms.empty.addAll remark.terms) other
  rw [graft, ← links.1]
  generalize tree.newNode remark.region (Terms.empty.addAll remark.terms) = grown at *
  have above : id < grown.nodes.length := count ▸ Nat.lt_succ_of_lt made
  have below : tree.nodes.length < grown.nodes.length := count ▸ Nat.lt_succ_self _
  exact (grown.links_link above below other).1

/-- Grafts at a node append children to it and to no other, by induction on them. -/
theorem childrenOf_foldl_graft {id : NodeId} (made : id < tree.nodes.length) (remarks : List Remark)
    : let left := remarks.foldl (fun tree remark => tree.graft id remark) tree
      tree.childrenOf id <+: left.childrenOf id
        ∧ ∀ other ≠ id, left.childrenOf other = tree.childrenOf other := by
  induction remarks generalizing tree with
  | nil => exact ⟨List.prefix_refl _, fun _ _ => rfl⟩
  | cons remark rest ih =>
      have made' : id < (tree.graft id remark).nodes.length := by
        rw [length_graft]
        exact Nat.lt_succ_of_lt made
      obtain ⟨own, others⟩ := ih made'
      rw [childrenOf_graft made] at own
      refine ⟨(List.prefix_append _ _).trans own, ?_⟩
      intro other differ
      refine (others other differ).trans ?_
      rw [childrenOf_graft made, if_neg differ, List.append_nil]

/-- Grafting appends children to the node that it is at, and to no other. -/
theorem appends_graftAt (remarks : List Remark) (value : NodeId → α → α)
    : Operation.Appends childrenOf
        (.total fun id above tree => (value id above, graftAt remarks id tree)
          : Operation ε Tree α) := by
  have at_node (id : NodeId) (tree : Tree)
      : tree.childrenOf id <+: (graftAt remarks id tree).childrenOf id
        ∧ ∀ other ≠ id, (graftAt remarks id tree).childrenOf other = tree.childrenOf other := by
    cases found : tree.nodes[id]? with
    | none =>
        -- there is no node that could carry remarks
        have bare : tree.carried remarks id = [] := by simp only [carried, found]
        rw [graftAt, bare]
        exact ⟨List.prefix_refl _, fun _ _ => rfl⟩
    | some node => exact childrenOf_foldl_graft (List.getElem?_eq_some_iff.mp found).1 _
  exact ⟨fun id _ tree => (at_node id tree).1, fun id _ tree => (at_node id tree).2⟩

end Tree

/-- An operation that appends children to the node that it is at, if any, and changes the children of no
other node, runs in a loop as it does along the recursive walk. The walk comes to an end just if there is
a bound on the calls that a loop makes. Then both loops end with the calls of the walk, with its outcome and
with its last state, given as many rounds as there are calls, and a traversal never ends with anything else.
If no call fails, the outcome is the value of the root; if none can fail, it is what a walk by depth gives,
which leaves the same state. If the operation changes no children at all, both loops make the same calls on
every finite tree: they go, up to a call that fails if there is one, through the nodes that iteration gives,
and these are the root and all nodes below it, each of them once.
-/
theorem Operation.Appends.traverse_recurses (appends : operate.Appends children) (root : NodeId)
    (prev : α) (state : σ)
    : ((∃ bound, operate.Bounded children root prev state bound)
        ↔ ∃ calls outcome last,
            Recurses children operate (.visit root prev) state calls outcome last)
      ∧ (∀ calls outcome last, Recurses children operate (.visit root prev) state calls outcome last
          → (∀ rounds ≥ calls.length,
              Loop.traverse? children operate rounds root prev state = some (calls, outcome, last)
              ∧ Loop.sweep? children operate rounds root prev state
                = some (calls, outcome.map fun _ => (), last))
            ∧ (∀ value, outcome = .ok value → (operate root prev state).1 = .ok value)
            ∧ ∀ visit, operate = .total visit
                → ∀ depth ≥ calls.length,
                    outcome = .ok (walk children visit depth root prev state).1
                    ∧ last = (walk children visit depth root prev state).2)
      ∧ (∀ rounds calls outcome last,
          Loop.traverse? children operate rounds root prev state = some (calls, outcome, last)
          → Recurses children operate (.visit root prev) state calls outcome last)
      ∧ ∀ tree : Tree, tree.Linked → tree.FiniteFrom root → root < tree.nodes.length
          → children state = tree.childrenOf → operate.Keeps children
          → ∃ calls outcome last,
              Loop.traverse? children operate tree.nodes.length root prev state
                = some (calls, outcome, last)
              ∧ Loop.sweep? children operate tree.nodes.length root prev state
                = some (calls, outcome.map fun _ => (), last)
              ∧ Iteration.from? tree.childrenOf tree.nodes.length root = some (tree.preorder root)
              ∧ calls.map Prod.fst <+: tree.preorder root
              ∧ ((∃ value, outcome = .ok value) → calls.map Prod.fst = tree.preorder root)
              ∧ (tree.preorder root).Nodup
              ∧ ∀ other, other ∈ tree.preorder root ↔ other = root ∨ tree.Above root other := by
  refine ⟨?_, ?_, fun rounds calls outcome last ends => appends.recurses_of_traverse? ends, ?_⟩
  · -- a walk that ends bounds the calls by its own
    constructor
    · intro ⟨bound, bounded⟩
      exact appends.exists_recurses_of_bounded bounded
    · intro ⟨calls, outcome, last, recursive⟩
      exact ⟨calls.length, recursive.bounded appends⟩
  · intro calls outcome last recursive
    refine ⟨fun rounds enough => ?_, ?_, ?_⟩
    · exact ⟨recursive.traverse?_eq appends (Nat.le_succ_of_le enough),
        recursive.sweep?_eq appends enough⟩
    · intro value complete
      subst complete
      exact recursive.value_of_visit
    · intro visit total depth enough
      subst total
      exact recursive.walk_eq appends enough
  · intro tree linked finite made same keeps
    obtain ⟨calls, outcome, last, recursive, enough, early, all⟩ :=
      linked.exists_recurses finite made keeps prev state same
    exact ⟨calls, outcome, last, recursive.traverse?_eq appends (Nat.le_succ_of_le enough),
      recursive.sweep?_eq appends enough, linked.iteration_eq finite made, early, all,
      linked.preorder_once made finite⟩

/-- On a tree of a root with two children, of which the root and the first child carry a remark, a grafting
traversal that hands the depth down calls at the new child of the first child before the second child, and
at the new child of the root in the end. One that only unfolds goes through the tree as it is.
-/
theorem budding_traverse_recurses
    : let region (key : Nat) : Region := ⟨key, 0, 3, "module", none, []⟩
      let tree := (Tree.empty [] ⟨[], [['a']]⟩).afterAll
        [.newNode (region 5), .newNode (region 6), .newNode (region 7), .addChild 0 1, .addChild 0 2]
      let remarks : List Remark := [⟨region 8, 5, []⟩, ⟨region 9, 6, []⟩]
      let grafting : Operation Empty Tree Nat :=
        .total fun id above tree => (above + 1, Tree.graftAt remarks id tree)
      let unfolding : Operation Empty Tree Nat :=
        .total fun id above tree => (above + 1, tree.setUnfolded id)
      grafting.Appends Tree.childrenOf
        ∧ unfolding.Appends Tree.childrenOf
        ∧ (∃ bound, grafting.Bounded Tree.childrenOf 0 0 tree bound)
        ∧ (∃ last, Recurses Tree.childrenOf grafting (.visit 0 0) tree
            [(0, 0), (1, 1), (4, 2), (2, 1), (3, 1)] (.ok 1) last)
        ∧ ∃ calls outcome last,
            Loop.traverse? Tree.childrenOf unfolding tree.nodes.length 0 0 tree
              = some (calls, outcome, last)
            ∧ Iteration.from? tree.childrenOf tree.nodes.length 0 = some [0, 1, 2]
            ∧ calls.map Prod.fst = [0, 1, 2] := by
  intro region tree remarks grafting unfolding
  have grafts : grafting.Appends Tree.childrenOf := Tree.appends_graftAt remarks fun _ above => above + 1
  have keeps : unfolding.Keeps Tree.childrenOf := by
    intro id above tree
    funext other
    exact (tree.links_update id (f := fun node => { node with unfolded := true }) (fun _ => rfl)
      (fun _ => rfl) other).1
  have never : (Tree.empty [] ⟨[], [['a']]⟩).NeverLoops
      [.newNode (region 5), .newNode (region 6), .newNode (region 7), .addChild 0 1,
        .addChild 0 2] := by
    refine ⟨fun _ _ => False.elim, fun _ _ => False.elim, fun _ _ => False.elim, ?_, ?_, trivial⟩
    · exact Tree.Edit.open_of_childless rfl rfl (by decide) rfl
    · exact Tree.Edit.open_of_childless rfl rfl (by decide) rfl
  obtain ⟨linked, -, acyclic⟩ := (Tree.empty_linked [] ⟨[], [['a']]⟩).afterAll _
  have forest : tree.Forest := ⟨linked, acyclic never (Tree.empty_acyclic _ _)⟩
  have made : 0 < tree.nodes.length := by decide
  have order : tree.preorder 0 = [0, 1, 2] := by decide
  have grafted : (Loop.traverse? Tree.childrenOf grafting 5 0 0 tree).map (fun result => result.1)
      = some [(0, 0), (1, 1), (4, 2), (2, 1), (3, 1)] := by decide
  clear_value tree
  obtain ⟨bounded, comes, recurses, -⟩ := grafts.traverse_recurses 0 0 tree
  obtain ⟨⟨calls, outcome, last⟩, ends, rfl⟩ := Option.map_eq_some_iff.mp grafted
  have walk := recurses 5 _ _ _ ends
  refine ⟨grafts, keeps.appends, bounded.mpr ⟨_, _, _, walk⟩, ⟨last, ?_⟩, ?_⟩
  · obtain ⟨value, rfl⟩ := walk.completes
    have at_root := (comes _ _ _ walk).2.1 value rfl
    cases at_root
    exact walk
  · obtain ⟨-, -, recurses, still⟩ := keeps.appends.traverse_recurses 0 0 tree
    obtain ⟨calls, outcome, last, ends, -, iterated, -, all, -⟩ :=
      still tree forest.toLinked (forest.finiteFrom 0) made rfl keeps
    have complete := (recurses _ _ _ _ ends).completes
    rw [order] at iterated all
    exact ⟨calls, outcome, last, ends, iterated, all complete⟩

end FoldTree
