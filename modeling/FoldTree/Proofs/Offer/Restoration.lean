import FoldTree.Proofs.Offer.Walk

/-! The working set of a pass over its whole life. Only commits change it: every score, offer and
walk leaves it as it found it, whatever comes of the questions. So it always holds the nodes that
were unfolded when the pass was made and those that were committed since, each counted once.
-/

namespace FoldTree

namespace Tree

variable {tree : Tree} {shape : Rose NodeId}

/-- The terms of a node by its id. -/
def termsAt (tree : Tree) (id : NodeId) : Terms :=
  match tree.nodes[id]? with
  | some node => node.terms
  | none => .empty

/-- The nodes of some ids. -/
def nodesAt (tree : Tree) (ids : List NodeId) : List Node :=
  ids.filterMap fun id => tree.nodes[id]?

/-- The nodes that the root reaches are those of the shape. -/
theorem Forms.reachable_eq (forms : tree.Forms shape)
    : tree.reachable = .ok (tree.nodesAt shape.preorder) := by
  simp only [reachable, rootId, forms.root, Except.map, nodesBelow, preorder, forms.subtree_eq,
    nodesAt]

/-- The nodes below the top of a shape of distinct ids are those of the shape. -/
theorem Grown.nodesBelow_eq (grown : tree.Grown shape) (once : shape.preorder.Nodup)
    : tree.nodesBelow shape.value = tree.nodesAt shape.preorder := by
  rw [nodesBelow, preorder, subtree, grown.below_eq (Nat.le_succ_of_le (grown.size_le once)),
    nodesAt]

/-- A node of some ids stands in the tree by its own id, which is one of them. -/
theorem Numbered.of_mem_nodesAt (numbered : tree.Numbered) {ids : List NodeId} {node : Node}
    (member : node ∈ tree.nodesAt ids)
    : node.id ∈ ids ∧ tree.nodes[node.id]? = some node := by
  obtain ⟨id, inside, found⟩ := List.mem_filterMap.mp member
  have named := numbered id node found
  exact ⟨named ▸ inside, named ▸ found⟩

/-- Unfolding a node changes only its fold flag. -/
theorem getElem?_setUnfolded (tree : Tree) (id other : NodeId)
    : (tree.setUnfolded id).nodes[other]?
      = tree.nodes[other]?.map fun node =>
          if id = other then { node with unfolded := true } else node := by
  simp only [setUnfolded, update, List.getElem?_modify]
  split <;> cases tree.nodes[other]? <;> simp_all

/-- Unfolding a node keeps all terms. -/
theorem termsAt_setUnfolded (tree : Tree) (id other : NodeId)
    : (tree.setUnfolded id).termsAt other = tree.termsAt other := by
  simp only [termsAt, getElem?_setUnfolded]
  cases tree.nodes[other]? with
  | none => rfl
  | some node => simp only [Option.map_some]; split <;> rfl

/-- Unfolding a node keeps the ids at their places. -/
theorem Numbered.setUnfolded (numbered : tree.Numbered) (id : NodeId)
    : (tree.setUnfolded id).Numbered := by
  intro other node found
  rw [getElem?_setUnfolded] at found
  obtain ⟨before, was, rfl⟩ := Option.map_eq_some_iff.mp found
  have kept := numbered other before was
  split <;> exact kept

end Tree

namespace WorkingSet

variable {tree : Tree} {set : WorkingSet}

/-- Each id of the set is there once, and the terms are those of its nodes together. -/
structure Sums (tree : Tree) (set : WorkingSet) : Prop where
  once : set.ids.Nodup
  sum : set.terms.toMultiset = (set.ids.map fun id => (tree.termsAt id).toMultiset).sum

/-- The empty set sums no terms. -/
theorem Sums.empty (tree : Tree) : WorkingSet.empty.Sums tree := ⟨.nil, rfl⟩

/-- An inserted node is the only one that may come in. -/
theorem mem_insert {node : Node} {id : NodeId}
    : id ∈ (set.insert node).ids ↔ id ∈ set.ids ∨ id = node.id := by
  unfold insert
  split
  · rename_i present
    have member : node.id ∈ set.ids := by simpa [contains] using present
    exact ⟨Or.inl, fun either => either.elim (fun old => old) fun same => same ▸ member⟩
  · simp [push]

/-- A set goes on summing the terms of its nodes when a node is inserted, which counts its terms
only if it was not there.
-/
theorem Sums.insert (sums : set.Sums tree) {node : Node}
    (terms : tree.termsAt node.id = node.terms)
    : (set.insert node).Sums tree := by
  unfold WorkingSet.insert
  split
  · exact sums
  · rename_i absent
    have fresh : node.id ∉ set.ids := by simpa [contains] using absent
    constructor
    · simpa [push, List.nodup_append, sums.once]
        using fun (id : NodeId) (member : id ∈ set.ids) (same : id = node.id) =>
          fresh (same ▸ member)
    · simp [push, sums.sum, terms]

/-- Nodes that are inserted one after the other are counted once each, by induction. -/
theorem Sums.foldl_insert (nodes : List Node) (sums : set.Sums tree)
    (terms : ∀ node ∈ nodes, tree.termsAt node.id = node.terms)
    : (nodes.foldl WorkingSet.insert set).Sums tree
      ∧ ∀ id,
          id ∈ (nodes.foldl WorkingSet.insert set).ids
          ↔ id ∈ set.ids ∨ ∃ node ∈ nodes, node.id = id := by
  induction nodes generalizing set with
  | nil => exact ⟨sums, by simp⟩
  | cons node rest ih =>
      obtain ⟨later, members⟩ := ih (sums.insert (terms node List.mem_cons_self))
        fun other member => terms other (List.mem_cons_of_mem _ member)
      refine ⟨later, fun id => (members id).trans ?_⟩
      simp only [mem_insert, or_assoc, List.exists_mem_cons_iff, eq_comm (a := id)]

end WorkingSet

namespace Scoring

open Pass

variable {α β : Type}

/-- A step that leaves the working set as it was, whatever its outcome. -/
def Keeps (step : Scoring α) : Prop :=
  ∀ state, (step.result state).2.working = state.working

/-- A value alone keeps the working set. -/
theorem Keeps.pure (value : α) : Keeps (Pure.pure value) := fun _ => rfl

/-- A fault keeps the working set. -/
theorem Keeps.throw (fault : Fault) : Keeps (throw fault : Scoring α) := fun _ => rfl

/-- Steps that keep the working set do so in a row. -/
theorem Keeps.bind {step : Scoring α} {next : α → Scoring β} (first : Keeps step)
    (later : ∀ value, Keeps (next value))
    : Keeps (step >>= next) := by
  intro state
  have kept := first state
  rw [result_bind]
  rcases outcome : step.result state with ⟨_ | value, after⟩ <;> rw [outcome] at kept
  · exact kept
  · exact (later value after).trans kept

end Scoring

namespace Pass

open Scoring

variable {pass : Pass} {sampler : Option Sampler} {tree : Tree} {shape : Rose NodeId}

/-- Scoring a node keeps the working set. -/
theorem score_keeps (pass : Pass) (sampler : Option Sampler) (node : Node)
    : Keeps (pass.score sampler node) := by
  intro state
  rw [score_result]

/-- The offer for a node keeps the working set, also where its cost has a fault. -/
theorem offer_keeps (pass : Pass) (sampler : Option Sampler) (tree : Tree) (node : Node)
    (above : Int)
    : Keeps (pass.offer sampler tree node above) := by
  refine Keeps.bind (fun state => ?_) fun profit => ?_
  · rw [reported_result]
  · cases tree.offerFor node above profit with
    | ok result => exact Keeps.pure result
    | error fault => exact Keeps.throw (.tree fault)

mutual

/-- A walk keeps the working set, over any shape and from any cost. -/
theorem offersBelow_keeps (pass : Pass) (sampler : Option Sampler) (tree : Tree) (above : Int)
    (shape : Rose NodeId)
    : Keeps (pass.offersBelow sampler tree above shape) := by
  cases shape with
  | node id below =>
      unfold offersBelow
      split
      · exact Keeps.pure []
      · exact Keeps.bind (offer_keeps pass sampler tree _ above) fun result =>
          Keeps.bind (offersAll_keeps pass sampler tree result.2 below) fun rest =>
            Keeps.pure _
termination_by sizeOf shape

/-- Walks over several shapes keep the working set. -/
theorem offersAll_keeps (pass : Pass) (sampler : Option Sampler) (tree : Tree) (above : Int)
    (shapes : List (Rose NodeId))
    : Keeps (pass.offersAll sampler tree above shapes) := by
  cases shapes with
  | nil => exact Keeps.pure []
  | cons branch rest =>
      exact Keeps.bind (offersBelow_keeps pass sampler tree above branch) fun first =>
        Keeps.bind (offersAll_keeps pass sampler tree above rest) fun others => Keeps.pure _
termination_by sizeOf shapes

end

/-- What can be done with a pass that is made: a node is committed, scored, offered over a cost or
walked from; and the tree may see a node unfolded in between.
-/
inductive Action where
  | commit (id : NodeId)
  | score (id : NodeId)
  | offer (id : NodeId) (above : Int)
  | walk (id : NodeId) (above : Int)
  | unfold (id : NodeId)

/-- What an action leaves behind of the tree and the state of the pass. Its fault, if it has one,
goes to whoever asked for the action. The content model may be another one every time.
-/
def act (pass : Pass) (sampler : Option Sampler) (tree : Tree) (state : State)
    : Action → Tree × State
  | .commit id =>
    match tree.nodes[id]? with
    | some node => (tree, commit state node)
    | none => (tree, state)
  | .score id =>
    match tree.nodes[id]? with
    | some node => (tree, ((pass.score sampler node).result state).2)
    | none => (tree, state)
  | .offer id above =>
    match tree.nodes[id]? with
    | some node => (tree, ((pass.offer sampler tree node above).result state).2)
    | none => (tree, state)
  | .walk id above =>
    (tree, ((pass.offersBelow sampler tree above (tree.subtree id)).result state).2)
  | .unfold id => (tree.setUnfolded id, state)

/-- What actions leave behind that are done one after the other, each with its content model. -/
def run (pass : Pass) (tree : Tree) (state : State) (actions : List (Option Sampler × Action))
    : Tree × State :=
  actions.foldl (fun session action => pass.act action.1 session.1 session.2 action.2)
    (tree, state)

/-- No action but a commit changes the working set. -/
theorem act_working (pass : Pass) (sampler : Option Sampler) (tree : Tree) (state : State)
    {action : Action} (other : ∀ id, action ≠ .commit id)
    : (pass.act sampler tree state action).2.working = state.working := by
  cases action with
  | commit id => exact absurd rfl (other id)
  | score id =>
      simp only [act]
      split
      · exact score_keeps pass sampler _ state
      · rfl
  | offer id above =>
      simp only [act]
      split
      · exact offer_keeps pass sampler tree _ above state
      · rfl
  | walk id above => exact offersBelow_keeps pass sampler tree above (tree.subtree id) state
  | unfold id => rfl

/-- A later state of a tree, of the same nodes with the same terms. -/
structure Continues (tree now : Tree) : Prop where
  numbered : now.Numbered
  places : now.nodes.length = tree.nodes.length
  terms : ∀ id, now.termsAt id = tree.termsAt id

/-- Actions keep the nodes of a tree and their terms. -/
theorem Continues.act {now : Tree} (same : Continues tree now) (pass : Pass)
    (sampler : Option Sampler) (state : State) (action : Action)
    : Continues tree (pass.act sampler now state action).1 := by
  cases action with
  | commit id => simp only [Pass.act]; split <;> exact same
  | score id => simp only [Pass.act]; split <;> exact same
  | offer id above => simp only [Pass.act]; split <;> exact same
  | walk id above => exact same
  | unfold id =>
      refine ⟨same.numbered.setUnfolded id, ?_, fun other => ?_⟩
      · simpa [Pass.act, Tree.setUnfolded, Tree.update] using same.places
      · exact (now.termsAt_setUnfolded id other).trans (same.terms other)

/-- One action keeps the working set a sum over its nodes, and only the node of a commit comes in.
-/
theorem act_sums (pass : Pass) (sampler : Option Sampler) {now : Tree}
    (same : Continues tree now) {state : State}
    (sums : state.working.Sums tree) (action : Action)
    : (pass.act sampler now state action).2.working.Sums tree
      ∧ ∀ id,
          id ∈ (pass.act sampler now state action).2.working.ids
          ↔ id ∈ state.working.ids ∨ action = .commit id ∧ id < tree.nodes.length := by
  by_cases commits : ∃ id, action = .commit id
  · obtain ⟨committed, rfl⟩ := commits
    simp only [act, Action.commit.injEq]
    cases found : now.nodes[committed]? with
    | some node =>
        have bound := (List.getElem?_eq_some_iff.mp found).1
        rw [same.places] at bound
        have named := same.numbered committed node found
        have terms : tree.termsAt node.id = node.terms := by
          rw [named, ← same.terms committed]
          simp only [Tree.termsAt, found]
        refine ⟨sums.insert terms, fun id => WorkingSet.mem_insert.trans (or_congr_right ?_)⟩
        rw [named]
        exact ⟨fun here => ⟨here.symm, here ▸ bound⟩, fun here => here.1.symm⟩
    | none =>
        have beyond := List.getElem?_eq_none_iff.mp found
        rw [same.places] at beyond
        refine ⟨sums, fun id => ⟨Or.inl, fun either => either.elim (fun old => old) ?_⟩⟩
        rintro ⟨rfl, bound⟩
        exact absurd bound (Nat.not_lt.mpr beyond)
  · have kept := act_working pass sampler now state fun id same => commits ⟨id, same⟩
    rw [kept]
    refine ⟨sums, fun id => ⟨Or.inl, fun either => either.elim (fun old => old) ?_⟩⟩
    exact fun commit => absurd ⟨id, commit.1⟩ commits

/-- A run of actions keeps the tree and keeps the working set a sum over its nodes. The nodes that
come in are those of the commits. Witness: induction on the actions, one step at a time.
-/
theorem run_sums (pass : Pass) (actions : List (Option Sampler × Action)) {now : Tree}
    (same : Continues tree now) {state : State} (sums : state.working.Sums tree)
    : (pass.run now state actions).2.working.Sums tree
      ∧ ∀ id,
          id ∈ (pass.run now state actions).2.working.ids
          ↔ id ∈ state.working.ids
            ∨ (∃ model, (model, .commit id) ∈ actions) ∧ id < tree.nodes.length := by
  induction actions generalizing now state with
  | nil => exact ⟨sums, by simp [run]⟩
  | cons action rest ih =>
      obtain ⟨model, action⟩ := action
      obtain ⟨stepped, entered⟩ := act_sums pass model same sums action
      obtain ⟨later, members⟩ := ih (same.act pass model state action) stepped
      refine ⟨later, fun id => (members id).trans ?_⟩
      rw [entered, or_assoc, ← or_and_right]
      refine or_congr_right (and_congr_left fun _ => ?_)
      constructor
      · rintro (rfl | ⟨other, member⟩)
        · exact ⟨model, List.mem_cons_self⟩
        · exact ⟨other, List.mem_cons_of_mem _ member⟩
      · rintro ⟨other, member⟩
        rcases List.mem_cons.mp member with same | member
        · exact Or.inl (Prod.mk.inj same).2.symm
        · exact Or.inr ⟨other, member⟩

/-- A pass that is made has a content model if it needs one, and is about the reachable nodes of
the tree.
-/
theorem start_ok (forms : tree.Forms shape) {settings : Settings} {state : State}
    (made : Pass.start tree settings sampler = .ok (pass, state))
    : (settings.profit.policy.needsSampler = true → sampler.isSome = true)
      ∧ pass
        = { profit := settings.profit
            project := settings.project
            file := tree.fileId
            unfoldedProfit := settings.unfoldedProfit
            fileTerms := termsOf (tree.nodesAt shape.preorder) }
      ∧ state = ⟨unfoldedSet (tree.nodesAt shape.preorder), []⟩ := by
  simp only [start, forms.reachable_eq] at made
  split at made
  · simp at made
  · rename_i ready
    cases made
    refine ⟨fun needed => ?_, rfl, rfl⟩
    cases sampler with
    | none => simp [needed] at ready
    | some model => rfl

/-- A pass that is made starts from the reachable nodes that are unfolded already. -/
theorem start_sums (forms : tree.Forms shape) {settings : Settings} {state : State}
    (made : Pass.start tree settings sampler = .ok (pass, state))
    : state.working.Sums tree
      ∧ ∀ id, id ∈ state.working.ids ↔ id ∈ shape.preorder ∧ tree.folded id = false := by
  obtain ⟨-, -, rfl⟩ := start_ok forms made
  have reached (node : Node) (member : node ∈ tree.nodesAt shape.preorder) :=
    forms.numbered.of_mem_nodesAt member
  obtain ⟨sums, members⟩ := (WorkingSet.Sums.empty tree).foldl_insert
    ((tree.nodesAt shape.preorder).filter (·.unfolded))
    fun node member => by
      simp only [Tree.termsAt, (reached node (List.mem_filter.mp member).1).2]
  refine ⟨sums, fun id => (members id).trans ⟨?_, fun ⟨inside, unfolded⟩ => Or.inr ?_⟩⟩
  · rintro (none | ⟨node, member, rfl⟩)
    · cases none
    · obtain ⟨member, unfolded⟩ := List.mem_filter.mp member
      obtain ⟨inside, found⟩ := reached node member
      exact ⟨inside, by simp [Tree.folded, found, unfolded]⟩
  · obtain ⟨node, found⟩ := forms.grown.found inside
    refine ⟨node, List.mem_filter.mpr ⟨List.mem_filterMap.mpr ⟨id, inside, found⟩, ?_⟩,
      forms.numbered id node found⟩
    simpa [Tree.folded, found] using unfolded

/-- The terms of some nodes together are the sum of their terms, by induction on the nodes. -/
theorem toMultiset_termsOf (nodes : List Node)
    : (termsOf nodes).toMultiset = (nodes.map fun node => node.terms.toMultiset).sum := by
  have from_terms (first : Terms)
      : (nodes.foldl (fun terms node => terms.plus node.terms) first).toMultiset
        = first.toMultiset + (nodes.map fun node => node.terms.toMultiset).sum := by
    induction nodes generalizing first with
    | nil => simp
    | cons node rest ih => simp [ih, add_assoc]
  exact (from_terms .empty).trans (zero_add _)

/-- The terms of the nodes at some ids, one after the other. -/
theorem map_terms_nodesAt (ids : List NodeId)
    (there : ∀ id ∈ ids, ∃ node, tree.nodes[id]? = some node)
    : (tree.nodesAt ids).map (fun node => node.terms.toMultiset)
      = ids.map fun id => (tree.termsAt id).toMultiset := by
  induction ids with
  | nil => rfl
  | cons id rest ih =>
      obtain ⟨node, found⟩ := there id List.mem_cons_self
      have later := ih fun other member => there other (List.mem_cons_of_mem _ member)
      simp only [Tree.nodesAt] at later
      simp [Tree.nodesAt, Tree.termsAt, found, later]

/-- The terms of the file are those of the nodes that the root reaches, each node counted once. -/
theorem fileTerms_eq (forms : tree.Forms shape) {settings : Settings} {state : State}
    (made : Pass.start tree settings sampler = .ok (pass, state))
    : pass.fileTerms.toMultiset
      = (shape.preorder.map fun id => (tree.termsAt id).toMultiset).sum := by
  obtain ⟨-, rfl, -⟩ := start_ok forms made
  rw [toMultiset_termsOf,
    map_terms_nodesAt shape.preorder fun id member => forms.grown.found member]

/-- Whatever is done with a pass, its working set holds just the nodes that were unfolded when it
was made and those committed since, with the sum of their terms. Anything but a commit leaves the
set as it found it, down to the order of its terms, also if it fails.
-/
theorem run_working (forms : tree.Forms shape) {settings : Settings} {state : State}
    (made : Pass.start tree settings sampler = .ok (pass, state))
    (actions : List (Option Sampler × Action))
    : let session := pass.run tree state actions
      session.2.working.ids.Nodup
      ∧ (∀ id,
          id ∈ session.2.working.ids
          ↔ (id ∈ shape.preorder ∧ tree.folded id = false)
            ∨ (∃ model, (model, .commit id) ∈ actions) ∧ id < tree.nodes.length)
      ∧ session.2.working.terms.toMultiset
        = (session.2.working.ids.map fun id => (tree.termsAt id).toMultiset).sum
      ∧ (∀ entry ∈ session.2.working.terms.entries, 0 < entry.2)
      ∧ ∀ model action,
          (∀ id, action ≠ .commit id)
          → (pass.act model session.1 session.2 action).2.working = session.2.working := by
  obtain ⟨started, first⟩ := start_sums forms made
  obtain ⟨sums, members⟩ := run_sums pass actions
    ⟨forms.numbered, rfl, fun _ => rfl⟩ started
  refine ⟨sums.once, fun id => ?_, sums.sum, Terms.Listed.positive (Terms.listed _), ?_⟩
  · rw [members, first]
  · intro model action other
    exact act_working pass model _ _ other

/-- Settings for scores that take surprise from a content model. -/
def surprised : Settings where
  profitType := "Surprising"
  project := ""
  unfoldedProfit := .courtesy
  profit := ⟨.surprising, "Surprising"⟩

/-- A content model that answers nothing. -/
def silent : Sampler := fun _ => .error ⟨"no answer"⟩

/-- Over the five lines, a walk that fails and commits around it leave the node that was unfolded
and the one that was committed.
-/
theorem fiveLines_run_working
    : ∃ pass state,
        Pass.start Tree.fiveLines surprised (some silent) = .ok (pass, state)
        ∧ ∀ id,
            id ∈ (pass.run Tree.fiveLines state
              [(none, .commit 3), (some silent, .walk 0 0), (none, .commit 3),
                (none, .commit 9)]).2.working.ids
            ↔ id = 1 ∨ id = 3 := by
  refine ⟨_, _, rfl, fun id => ?_⟩
  have made : Pass.start Tree.fiveLines surprised (some silent) = .ok (_, _) := rfl
  have members := (run_working Tree.fiveLines_forms made
    [(none, .commit 3), (some silent, .walk 0 0), (none, .commit 3), (none, .commit 9)]).2.1 id
  have first : ∀ id ∈ Tree.fiveLinesShape.preorder,
      Tree.fiveLines.folded id = false ↔ id = 1 := by
    decide +kernel
  have places : Tree.fiveLines.nodes.length = 4 := rfl
  rw [members, places]
  constructor
  · rintro (⟨inside, unfolded⟩ | ⟨⟨model, commit⟩, bound⟩)
    · exact Or.inl ((first id inside).mp unfolded)
    · simp only [List.mem_cons, Prod.mk.injEq, Action.commit.injEq, reduceCtorEq, and_false,
        List.not_mem_nil, or_false, false_or] at commit
      rcases commit with ⟨-, three⟩ | ⟨-, three⟩ | ⟨-, nine⟩
      · exact Or.inr three
      · exact Or.inr three
      · exact absurd (nine ▸ bound) (by decide)
  · rintro (rfl | rfl)
    · exact Or.inl (by decide +kernel)
    · exact Or.inr ⟨⟨none, List.mem_cons_self⟩, by decide⟩

end Pass

end FoldTree
