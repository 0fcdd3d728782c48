import FoldTree.Proofs.Tree.Ancestry
import FoldTree.Proofs.Tree.Editing
import FoldTree.Proofs.Tree.Spanning

/-! Links of a tree under edits. A node's children and its parent are written in two places, and
every edit keeps the two in agreement: new nodes are loose, only loose nodes are attached, and all
other writes leave both alone. What a node has once got, its id, its place, its parent and its
being unfolded, it keeps.
-/

namespace FoldTree

/-- A node goes on as another one: with its id, its region and the place of that, and with its
parent and its being unfolded once it has them.
-/
structure Node.Continues (before after : Node) : Prop where
  id : after.id = before.id
  region : after.region = before.region
  span : after.span = before.span
  parent : ∀ parent, before.parent = some parent → after.parent = some parent
  unfolded : before.unfolded = true → after.unfolded = true

/-- Every node goes on as itself. -/
theorem Node.Continues.refl (node : Node) : node.Continues node :=
  ⟨rfl, rfl, rfl, fun _ up => up, fun unfolded => unfolded⟩

namespace Tree

variable {tree other : Tree}

/-- All nodes of a tree go on in another one. -/
def Continues (tree other : Tree) : Prop :=
  ∀ (id : NodeId) (node : Node), tree.nodes[id]? = some node
    → ∃ later, other.nodes[id]? = some later ∧ node.Continues later

/-- Every node has the id of its place, and is listed once by its parent and by no other node. -/
structure Linked (tree : Tree) : Prop where
  numbered : tree.Numbered
  links : ∀ parent child,
    (tree.childrenOf parent).count child = if tree.parentOf child = some parent then 1 else 0

/-- No node stands above itself. -/
def Acyclic (tree : Tree) : Prop :=
  ∀ id, ¬tree.Above id id

/-- Going on as itself is going on. -/
theorem Continues.refl (tree : Tree) : tree.Continues tree := fun _ node found =>
  ⟨node, found, .refl node⟩

/-- Nodes that go on in a tree go on in whatever that goes on in. -/
theorem Continues.trans {first second third : Tree} (before : first.Continues second)
    (after : second.Continues third)
    : first.Continues third := by
  intro id node found
  obtain ⟨middle, found, start⟩ := before id node found
  obtain ⟨last, found, finish⟩ := after id middle found
  exact ⟨last, found, finish.id.trans start.id, finish.region.trans start.region,
    finish.span.trans start.span, fun parent up => finish.parent parent (start.parent parent up),
    fun unfolded => finish.unfolded (start.unfolded unfolded)⟩

namespace Linked

variable (linked : tree.Linked)
include linked

/-- The children of a node are those that have it as their parent. -/
theorem mem_iff {parent child : NodeId}
    : child ∈ tree.childrenOf parent ↔ tree.parentOf child = some parent := by
  rw [← List.count_pos_iff, linked.links]
  split <;> simp_all

/-- No node is listed twice. -/
theorem nodup (parent : NodeId) : (tree.childrenOf parent).Nodup := by
  refine List.nodup_iff_count_le_one.mpr fun child => ?_
  rw [linked.links]
  split <;> omega

/-- What has children is a node, and so are these. -/
theorem lt_of_mem {parent child : NodeId} (member : child ∈ tree.childrenOf parent)
    : parent < tree.nodes.length ∧ child < tree.nodes.length := by
  refine ⟨?_, lt_of_parentOf (linked.mem_iff.mp member)⟩
  by_contra missing
  simp [childrenOf, List.getElem?_eq_none (Nat.le_of_not_lt missing)] at member

end Linked

/-! ### Changes of one node -/

/-- A change of one node leaves the links where it leaves the node's children and parent. -/
theorem links_update (tree : Tree) (changed : NodeId) {f : Node → Node}
    (children : ∀ node, (f node).children = node.children)
    (parent : ∀ node, (f node).parent = node.parent) (id : NodeId)
    : (tree.update changed f).childrenOf id = tree.childrenOf id
      ∧ (tree.update changed f).parentOf id = tree.parentOf id := by
  simp only [childrenOf, parentOf, update, List.getElem?_modify]
  by_cases same : changed = id
  · cases tree.nodes[id]? <;> simp [same, children, parent]
  · cases tree.nodes[id]? <;> simp [same]

/-- Nodes go on through a change of one of them that lets this one go on. -/
theorem continues_update (tree : Tree) (changed : NodeId) {f : Node → Node}
    (keeps : ∀ node, tree.nodes[changed]? = some node → node.Continues (f node))
    : tree.Continues (tree.update changed f) := by
  intro id node found
  simp only [update, List.getElem?_modify, found, Option.map_eq_map, Option.map_some]
  by_cases same : changed = id
  · subst same
    exact ⟨f node, by simp, keeps node found⟩
  · exact ⟨node, by simp [same], .refl node⟩

/-- Where nodes go on and no node is new, the nodes keep the ids of their places. -/
theorem Numbered.of_continues (numbered : tree.Numbered) (continues : tree.Continues other)
    (count : other.nodes.length = tree.nodes.length)
    : other.Numbered := by
  intro id node found
  have bound := (List.getElem?_eq_some_iff.mp found).1
  rw [count] at bound
  obtain ⟨later, there, goes⟩ := continues id _ (List.getElem?_eq_getElem bound)
  cases there.symm.trans found
  rw [goes.id]
  exact numbered id _ (List.getElem?_eq_getElem bound)

/-- Cycles are a matter of the children alone. -/
theorem Acyclic.of_children (acyclic : tree.Acyclic)
    (same : ∀ id, other.childrenOf id = tree.childrenOf id)
    : other.Acyclic := by
  intro id above
  simp only [Above, same] at above
  exact acyclic id above

/-- One tree comes of another: its links agree, all nodes go on, and no cycle has come in. -/
structure Follows (tree other : Tree) : Prop where
  linked : other.Linked
  continues : tree.Continues other
  acyclic : tree.Acyclic → other.Acyclic

/-- A tree comes of itself. -/
theorem Follows.refl (linked : tree.Linked) : tree.Follows tree :=
  ⟨linked, .refl tree, id⟩

/-- What comes of a tree that comes of another comes of this one. -/
theorem Follows.trans {first second third : Tree} (before : first.Follows second)
    (after : second.Follows third)
    : first.Follows third :=
  ⟨after.linked, before.continues.trans after.continues,
    fun acyclic => after.acyclic (before.acyclic acyclic)⟩

/-- A tree with the same links in which all nodes go on comes of the other, when its nodes have the
ids of their places.
-/
theorem Linked.follows (linked : tree.Linked) (continues : tree.Continues other)
    (numbered : other.Numbered)
    (links : ∀ id, other.childrenOf id = tree.childrenOf id ∧ other.parentOf id = tree.parentOf id)
    : tree.Follows other := by
  refine ⟨⟨numbered, fun parent child => ?_⟩, continues, fun acyclic => ?_⟩
  · rw [(links parent).1, (links child).2]
    exact linked.links parent child
  · exact acyclic.of_children fun id => (links id).1

/-- A change of one node that keeps its links and lets it go on is harmless. -/
theorem Linked.update (linked : tree.Linked) (changed : NodeId) {f : Node → Node}
    (children : ∀ node, (f node).children = node.children)
    (parent : ∀ node, (f node).parent = node.parent)
    (keeps : ∀ node : Node, node.Continues (f node))
    : tree.Follows (tree.update changed f) := by
  have continues := tree.continues_update changed fun node _ => keeps node
  have count : (tree.update changed f).nodes.length = tree.nodes.length := by simp [Tree.update]
  exact linked.follows continues (linked.numbered.of_continues continues count)
    (tree.links_update changed children parent)

/-! ### New nodes and links -/

/-- A new node is loose, so it changes no link. -/
theorem links_newNode (tree : Tree) (region : Region) (terms : Terms) (id : NodeId)
    : (tree.newNode region terms).childrenOf id = tree.childrenOf id
      ∧ (tree.newNode region terms).parentOf id = tree.parentOf id := by
  rcases Nat.lt_trichotomy id tree.nodes.length with old | rfl | beyond
  · simp [childrenOf, parentOf, newNode, List.getElem?_append_left old]
  · simp [childrenOf, parentOf, newNode, makeNode]
  · have before : tree.nodes[id]? = none := List.getElem?_eq_none (Nat.le_of_lt beyond)
    have behind : (tree.newNode region terms).nodes[id]? = none := by
      refine List.getElem?_eq_none ?_
      rw [newNode, List.length_append]
      exact beyond
    simp [childrenOf, parentOf, before, behind]

/-- A new node is harmless. -/
theorem Linked.newNode (linked : tree.Linked) (region : Region) (terms : Terms)
    : tree.Follows (tree.newNode region terms) := by
  refine linked.follows (fun id node found => ?_) (fun id node found => ?_)
    (tree.links_newNode region terms)
  · have old := (List.getElem?_eq_some_iff.mp found).1
    exact ⟨node, by simpa [Tree.newNode, List.getElem?_append_left old] using found, .refl node⟩
  · have bound := (List.getElem?_eq_some_iff.mp found).1
    simp only [Tree.newNode, List.length_append, List.length_singleton] at bound
    rcases Nat.lt_or_eq_of_le (Nat.le_of_lt_succ bound) with old | rfl
    · rw [Tree.newNode, List.getElem?_append_left old] at found
      exact linked.numbered id node found
    · simp only [Tree.newNode, List.getElem?_concat_length, Option.some.injEq] at found
      rw [← found]
      rfl

/-- A link shows on both of its ends, and on no other node. -/
theorem links_link (tree : Tree) {parent child : NodeId} (above : parent < tree.nodes.length)
    (below : child < tree.nodes.length) (id : NodeId)
    : (tree.link parent child).childrenOf id
        = tree.childrenOf id ++ (if id = parent then [child] else [])
      ∧ (tree.link parent child).parentOf id
        = if id = child then some parent else tree.parentOf id := by
  simp only [childrenOf, parentOf, link, update, List.getElem?_modify]
  constructor
  · by_cases here : id = parent
    · subst here
      rw [List.getElem?_eq_getElem above]
      by_cases own : child = id <;> simp [own]
    · cases tree.nodes[id]? <;> by_cases own : child = id <;> simp [here, Ne.symm here, own]
  · by_cases here : id = child
    · subst here
      rw [List.getElem?_eq_getElem below]
      simp
    · cases tree.nodes[id]? <;> by_cases own : parent = id <;> simp [here, Ne.symm here, own]

/-- A link to a loose node keeps the links in agreement, and all nodes go on. -/
theorem Linked.link (linked : tree.Linked) {parent child : NodeId}
    (above : parent < tree.nodes.length) (below : child < tree.nodes.length)
    (loose : tree.parentOf child = none)
    : (tree.link parent child).Linked ∧ tree.Continues (tree.link parent child) := by
  have continues : tree.Continues (tree.link parent child) := by
    refine (tree.continues_update parent fun node _ => ?_).trans
      (continues_update _ child fun node found => ?_)
    · exact ⟨rfl, rfl, rfl, fun _ up => up, fun unfolded => unfolded⟩
    · -- the child has no parent that it could lose
      have bare : node.parent = none := by
        simp only [Tree.update, List.getElem?_modify] at found
        obtain ⟨older, there, rfl⟩ := Option.map_eq_some_iff.mp found
        rw [parentOf, there, Option.bind_some] at loose
        split <;> exact loose
      exact ⟨rfl, rfl, rfl, fun _ up => absurd (bare.symm.trans up) (Option.some_ne_none _).symm,
        fun unfolded => unfolded⟩
  have count : (tree.link parent child).nodes.length = tree.nodes.length := by
    simp [Tree.link, Tree.update]
  refine ⟨⟨linked.numbered.of_continues continues count, fun upper lower => ?_⟩, continues⟩
  rw [(tree.links_link above below upper).1, (tree.links_link above below lower).2,
    List.count_append, linked.links]
  by_cases own : lower = child
  · subst own
    by_cases here : upper = parent
    · simp [loose, here]
    · simp [loose, here, Ne.symm here]
  · by_cases here : upper = parent
    · simp [own, here, Ne.symm own]
    · simp [own, here]

/-- What stands above another node after a link did so before, or stands above it by the link. -/
theorem above_link {parent child : NodeId} (above : parent < tree.nodes.length)
    (below : child < tree.nodes.length) {first last : NodeId}
    (lies : (tree.link parent child).Above first last)
    : tree.Above first last
      ∨ (first = parent ∨ tree.Above first parent) ∧ (last = child ∨ tree.Above child last) := by
  have step {first last : NodeId} (link : last ∈ (tree.link parent child).childrenOf first)
      : last ∈ tree.childrenOf first ∨ first = parent ∧ last = child := by
    rw [(tree.links_link above below first).1, List.mem_append] at link
    refine link.imp id fun new => ?_
    split at new
    · rename_i same
      exact ⟨same, List.mem_singleton.mp new⟩
    · exact absurd new List.not_mem_nil
  -- on the way down, the new link is gone through at most once
  induction lies with
  | single link =>
      rcases step link with old | ⟨up, down⟩
      · exact Or.inl (.single old)
      · exact Or.inr ⟨Or.inl up, Or.inl down⟩
  | tail _ link ih =>
      rcases ih, step link with ⟨lies | ⟨up, down⟩, old | ⟨rfl, rfl⟩⟩
      · exact Or.inl (lies.tail old)
      · exact Or.inr ⟨Or.inr lies, Or.inl rfl⟩
      · refine Or.inr ⟨up, Or.inr ?_⟩
        rcases down with rfl | down
        · exact .single old
        · exact down.tail old
      · exact Or.inr ⟨up, Or.inl rfl⟩

/-- A link makes no cycle where the child neither is the parent nor stands above it. -/
theorem Acyclic.link (acyclic : tree.Acyclic) {parent child : NodeId}
    (above : parent < tree.nodes.length) (below : child < tree.nodes.length)
    (differ : child ≠ parent) (clear : ¬tree.Above child parent)
    : (tree.link parent child).Acyclic := by
  intro id lies
  rcases above_link above below lies with old | ⟨up, down⟩
  · exact acyclic id old
  · rcases up with rfl | up
    · exact down.elim (fun same => differ same.symm) clear
    · rcases down with rfl | down
      · exact clear up
      · exact clear (down.trans up)

end Tree

end FoldTree
