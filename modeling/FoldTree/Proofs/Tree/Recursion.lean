import FoldTree.Tree.Loop
import Mathlib.Data.List.Infix
import Mathlib.Logic.Relation

/-! Recursive walks. A recursive walk visits a node and then walks from each of the node's children, whose
list it reads anew before each of them. An operation that appends children to the node that it is at, and
to no other, may make the tree grow under the walk. Still no completed walk comes back to a node that it is
below, so that the children of a node are the same from its own visit on.
-/

namespace FoldTree

variable {ε σ α : Type} {children : σ → NodeId → List NodeId} {operate : Operation ε σ α}

/-- What a recursive walk is at: a node to be visited with the value from its parent, or the children of a
node with the node's own value, from a place among them on.
-/
inductive Stage (α : Type) where
  | visit (id : NodeId) (above : α)
  | below (id : NodeId) (value : α) (place : Nat)

/-- The node that a stage is about. -/
def Stage.node : Stage α → NodeId
  | .visit id _ => id
  | .below id _ _ => id

/-- The nodes from which a stage walks on, by the children that there are. -/
def Stage.tops (children : σ → NodeId → List NodeId) (state : σ) : Stage α → List NodeId
  | .visit id _ => [id]
  | .below id _ place => (children state id).drop place

/-- From a stage and a state, a recursive walk makes some calls and comes to an outcome and a last state.
The outcome of a walk from a node is the node's own value, unless some call fails.
-/
inductive Recurses (children : σ → NodeId → List NodeId) (operate : Operation ε σ α) :
    Stage α → σ → List (NodeId × α) → Except ε α → σ → Prop
  | failed {id : NodeId} {above : α} {state after : σ} {fault : ε}
    (called : operate id above state = (.error fault, after))
    : Recurses children operate (.visit id above) state [(id, above)] (.error fault) after
  | visited {id : NodeId} {above value : α} {state after last : σ} {calls : List (NodeId × α)}
    {outcome : Except ε α} (called : operate id above state = (.ok value, after))
    (below : Recurses children operate (.below id value 0) after calls outcome last)
    : Recurses children operate (.visit id above) state ((id, above) :: calls) outcome last
  | done {id : NodeId} {value : α} {place : Nat} {state : σ}
    (none : (children state id)[place]? = none)
    : Recurses children operate (.below id value place) state [] (.ok value) state
  | broken {id child : NodeId} {value : α} {place : Nat} {state after : σ}
    {calls : List (NodeId × α)} {fault : ε} (here : (children state id)[place]? = some child)
    (walk : Recurses children operate (.visit child value) state calls (.error fault) after)
    : Recurses children operate (.below id value place) state calls (.error fault) after
  | onward {id child : NodeId} {value other : α} {place : Nat} {state middle last : σ}
    {calls more : List (NodeId × α)} {outcome : Except ε α}
    (here : (children state id)[place]? = some child)
    (walk : Recurses children operate (.visit child value) state calls (.ok other) middle)
    (rest : Recurses children operate (.below id value (place + 1)) middle more outcome last)
    : Recurses children operate (.below id value place) state (calls ++ more) outcome last

/-- An operation appends children to the node that it is at, if any, and changes the children of no other
node, whether it fails or not.
-/
structure Operation.Appends (children : σ → NodeId → List NodeId) (operate : Operation ε σ α) :
    Prop where
  own : ∀ id above state, children state id <+: children (operate id above state).2 id
  others : ∀ id above state other, other ≠ id →
    children (operate id above state).2 other = children state other

/-- The first of two states has all children that nodes have in the second, and maybe fewer. -/
def Grows (children : σ → NodeId → List NodeId) (state later : σ) : Prop :=
  ∀ id, children state id <+: children later id

/-- One node is a child of another. -/
def Link (children : σ → NodeId → List NodeId) (state : σ) (parent child : NodeId) : Prop :=
  child ∈ children state parent

/-- Links stay when children are appended. -/
theorem Grows.link {state later : σ} (grows : Grows children state later) {parent child : NodeId}
    (link : Link children state parent child)
    : Link children later parent child :=
  (grows parent).subset link

/-- Ways along links stay when children are appended. -/
theorem Grows.way {state later : σ} (grows : Grows children state later) {first second : NodeId}
    (way : Relation.TransGen (Link children state) first second)
    : Relation.TransGen (Link children later) first second :=
  Relation.TransGen.mono (fun _ _ => grows.link) first second way

/-- What grows into a state that grows on grows into what that becomes. -/
theorem Grows.trans {first second third : σ} (before : Grows children first second)
    (after : Grows children second third)
    : Grows children first third := by
  intro id
  exact (before id).trans (after id)

/-- Every call of a node's operation lets the children grow. -/
theorem Operation.Appends.grows (appends : operate.Appends children) {id : NodeId} {above : α}
    {state after : σ} {result : Except ε α} (called : operate id above state = (result, after))
    : Grows children state after := by
  intro other
  have same : after = (operate id above state).2 := by rw [called]
  subst same
  by_cases here : other = id
  · subst here
    exact appends.own other above state
  · rw [appends.others id above state other here]

namespace Recurses

variable {stage : Stage α} {state last : σ} {calls : List (NodeId × α)} {outcome : Except ε α}

/-- A walk lets the children grow, by induction on it. -/
theorem grows (appends : operate.Appends children)
    (walk : Recurses children operate stage state calls outcome last)
    : Grows children state last := by
  induction walk with
  | failed called => exact appends.grows called
  | visited called _ ih => exact (appends.grows called).trans ih
  | done => exact fun id => List.prefix_refl _
  | broken _ _ ih => exact ih
  | onward _ _ _ first second => exact first.trans second

/-- A walk from a node begins with the call at it. -/
theorem exists_cons {id : NodeId} {above : α}
    (walk : Recurses children operate (.visit id above) state calls outcome last)
    : ∃ more, calls = (id, above) :: more := by
  cases walk with
  | failed => exact ⟨[], rfl⟩
  | visited => exact ⟨_, rfl⟩

/-- What is left of a list from the place of an item on starts with the item. -/
theorem drop_of_getElem? {items : List NodeId} {place : Nat} {item : NodeId}
    (found : items[place]? = some item)
    : items.drop place = item :: items.drop (place + 1) := by
  obtain ⟨bound, same⟩ := List.getElem?_eq_some_iff.mp found
  rw [List.drop_eq_getElem_cons bound, same]

/-- A completed walk starts from no node that links lead back to. Witness: induction on the walk. Of a
circle through a node, the next node is one of the node's children, and lies on the circle too.
-/
theorem not_circle (appends : operate.Appends children)
    (walk : Recurses children operate stage state calls outcome last)
    (complete : ∃ value, outcome = .ok value)
    : ∀ top ∈ stage.tops children state,
        ¬Relation.TransGen (Link children state) top top := by
  induction walk with
  | failed => nomatch complete
  | @visited id _ _ state after _ _ _ called _ ih =>
      intro top member circle
      cases List.mem_singleton.mp member
      have grows := appends.grows called
      -- the first node on the way round is a child, so a circle leads from there through this node
      obtain ⟨child, link, back⟩ := Relation.TransGen.head'_iff.mp circle
      refine ih complete child (grows.link link) ?_
      exact grows.way (.tail' back link)
  | @done id _ place state none =>
      intro top member
      have short := List.getElem?_eq_none_iff.mp none
      rw [Stage.tops, List.drop_eq_nil_of_le short] at member
      exact absurd member List.not_mem_nil
  | broken => nomatch complete
  | @onward id child _ _ place state middle _ _ _ _ child_at walk _ first rest =>
      intro top member circle
      rw [Stage.tops, drop_of_getElem? child_at] at member
      rcases List.mem_cons.mp member with rfl | later
      · exact first ⟨_, rfl⟩ top List.mem_cons_self circle
      · -- a later child is still one after the walk from this one, with all its ways
        have grows := walk.grows appends
        exact rest complete top (((grows id).drop (place + 1)).subset later)
          (grows.way circle)

/-- A completed walk that calls at a node goes through a completed walk from there, at a moment when links
lead to this node. By induction on the walk.
-/
theorem exists_visit (appends : operate.Appends children)
    (walk : Recurses children operate stage state calls outcome last)
    (complete : ∃ value, outcome = .ok value) {id : NodeId} (called : id ∈ calls.map Prod.fst)
    : ∃ (above value : α) (moment later : σ) (inner : List (NodeId × α)),
        Recurses children operate (.visit id above) moment inner (.ok value) later
        ∧ Grows children state moment
        ∧ Relation.ReflTransGen (Link children moment) stage.node id := by
  induction walk with
  | failed => nomatch complete
  | @visited top above _ state _ last calls _ call below ih =>
      rcases List.mem_cons.mp called with rfl | later
      · -- the call is the first one, so the walk is this one
        obtain ⟨value, rfl⟩ := complete
        exact ⟨above, value, state, last, _, .visited call below, fun _ => List.prefix_refl _, .refl⟩
      · obtain ⟨above, value, moment, later, inner, walk, grows, way⟩ := ih complete later
        exact ⟨above, value, moment, later, inner, walk, (appends.grows call).trans grows, way⟩
  | done => exact absurd called List.not_mem_nil
  | broken => nomatch complete
  | @onward top child _ _ _ state middle _ _ _ _ child_at walk _ first rest =>
      rw [List.map_append, List.mem_append] at called
      rcases called with early | late
      · obtain ⟨above, value, moment, later, inner, walk, grows, way⟩ := first ⟨_, rfl⟩ early
        have link : Link children state top child := List.mem_of_getElem? child_at
        exact ⟨above, value, moment, later, inner, walk, grows, .head (grows.link link) way⟩
      · obtain ⟨above, value, moment, later, inner, inside, grows, way⟩ := rest complete late
        exact ⟨above, value, moment, later, inner, inside, (walk.grows appends).trans grows, way⟩

/-- A node keeps its children through a walk that does not call at it, by induction on the walk. -/
theorem children_of_not_called (appends : operate.Appends children)
    (walk : Recurses children operate stage state calls outcome last) {id : NodeId}
    (free : id ∉ calls.map Prod.fst)
    : children last id = children state id := by
  -- a call elsewhere leaves the children
  have elsewhere {other : NodeId} {above : α} {state after : σ} {result : Except ε α}
      (called : operate other above state = (result, after)) (differ : id ≠ other)
      : children after id = children state id := by
    have same := appends.others other above state id differ
    rwa [called] at same
  induction walk with
  | failed called =>
      refine elsewhere called fun same => free ?_
      simp [same]
  | visited called _ ih =>
      simp only [List.map_cons, List.mem_cons, not_or] at free
      exact (ih free.2).trans (elsewhere called free.1)
  | done => rfl
  | broken _ _ ih => exact ih free
  | onward _ _ _ first second =>
      simp only [List.map_append, List.mem_append, not_or] at free
      exact (second free.2).trans (first free.1)

/-- A node keeps its children through a completed walk from one of them. Witness: if the walk came back to
the node, it would go through a completed walk from the node, with links that lead back to it.
-/
theorem children_of_child (appends : operate.Appends children) {id child : NodeId} {above value : α}
    (walk : Recurses children operate (.visit child above) state calls (.ok value) last)
    (link : Link children state id child)
    : children last id = children state id := by
  by_cases called : id ∈ calls.map Prod.fst
  · obtain ⟨_, _, moment, _, _, inner, grows, way⟩ := walk.exists_visit appends ⟨_, rfl⟩ called
    have circle : Relation.TransGen (Link children moment) id id := .head' (grows.link link) way
    exact absurd circle (inner.not_circle appends ⟨_, rfl⟩ id List.mem_cons_self)
  · exact walk.children_of_not_called appends called

end Recurses

end FoldTree
