import FoldTree.Proofs.Tree.Links
import Mathlib.Data.Finset.Card
import Mathlib.Data.List.Chain

/-! Forests. Where links agree and no node from some node on stands above itself, the nodes from there
on form a finite shape, which every walk from there goes through once. Where links run in no circle
at all, the nodes of a tree form a forest whatever its root is: from just one loose node there is
just one path to each node.
-/

namespace FoldTree.Tree

variable {tree : Tree} {shape : Rose NodeId}

/-- The nodes form a forest: their links agree and run in no circle. -/
structure Forest (tree : Tree) : Prop extends tree.Linked where
  acyclic : tree.Acyclic

/-- A relation without cycles on numbers below a bound is well-founded. Witness: each number has
fewer numbers below it than those it is below.
-/
theorem wellFounded_of_bounded {r : Nat → Nat → Prop} (bound : Nat)
    (trans : ∀ {a b c}, r a b → r b c → r a c) (irrefl : ∀ a, ¬r a a)
    (bounded : ∀ {a b}, r a b → a < bound)
    : WellFounded r := by
  classical
  let below (b : Nat) : Finset Nat := (Finset.range bound).filter (r · b)
  refine Subrelation.wf (fun {a b} (here : r a b) => ?_) (measure fun b => (below b).card).wf
  refine Finset.card_lt_card (Finset.ssubset_iff_subset_ne.mpr ⟨fun c inside => ?_, fun same => ?_⟩)
  · obtain ⟨small, lower⟩ := Finset.mem_filter.mp inside
    exact Finset.mem_filter.mpr ⟨small, trans lower here⟩
  · have inside : a ∈ below b :=
      Finset.mem_filter.mpr ⟨Finset.mem_range.mpr (bounded here), here⟩
    rw [← same] at inside
    exact irrefl a (Finset.mem_filter.mp inside).2

/-! ### Above and below -/

/-- What a node stands above is a node, and so is the one above. -/
theorem Linked.lt_of_above (linked : tree.Linked) {upper lower : NodeId}
    (lies : tree.Above upper lower)
    : upper < tree.nodes.length ∧ lower < tree.nodes.length := by
  induction lies with
  | single link => exact linked.lt_of_mem link
  | tail _ link ih => exact ⟨ih.1, (linked.lt_of_mem link).2⟩

/-- What stands above a child is its parent or stands above that. -/
theorem Linked.above_child (linked : tree.Linked) {parent child upper : NodeId}
    (link : child ∈ tree.childrenOf parent) (lies : tree.Above upper child)
    : upper = parent ∨ tree.Above upper parent := by
  have same {other : NodeId} (other_link : child ∈ tree.childrenOf other) : other = parent :=
    Option.some.inj ((linked.mem_iff.mp other_link).symm.trans (linked.mem_iff.mp link))
  cases lies with
  | single last => exact Or.inl (same last)
  | tail up last => exact Or.inr (same last ▸ up)

/-- Of two nodes above a third one is the other or stands above it, by induction on the way from one
of them.
-/
theorem Linked.above_total (linked : tree.Linked) {first second lower : NodeId}
    (one : tree.Above first lower) (other : tree.Above second lower)
    : first = second ∨ tree.Above first second ∨ tree.Above second first := by
  induction one with
  | single link =>
      rcases linked.above_child link other with same | up
      · exact Or.inl same.symm
      · exact Or.inr (Or.inr up)
  | tail lies link ih =>
      rcases linked.above_child link other with rfl | up
      · exact Or.inr (Or.inl lies)
      · exact ih up

/-- A grown shape holds nothing but its root and what this stands above, by induction on it. -/
theorem Grown.above_of_mem (grown : tree.Grown shape) {id : NodeId} (member : id ∈ shape.preorder)
    : id = shape.value ∨ tree.Above shape.value id := by
  induction grown with
  | @node root node below found children _ ih =>
      rw [Rose.preorder_node, List.mem_cons, List.mem_flatMap] at member
      refine member.imp_right fun ⟨branch, inside, member⟩ => ?_
      have link : branch.value ∈ tree.childrenOf root := by
        simp only [childrenOf, found, children]
        exact List.mem_map_of_mem inside
      rcases ih branch inside member with rfl | lies
      · exact .single link
      · exact lies.head link

/-- A grown shape holds its root and all that this stands above. -/
theorem Grown.mem_preorder_iff (grown : tree.Grown shape) {id : NodeId}
    : id ∈ shape.preorder ↔ id = shape.value ∨ tree.Above shape.value id := by
  constructor
  · exact grown.above_of_mem
  · rintro (rfl | lies)
    · exact shape.value_mem_preorder
    · obtain ⟨above, listed, -⟩ := grown.lineage_of_above shape.value_mem_preorder lies
      rw [← Rose.map_fst_lineages []]
      exact List.mem_map_of_mem listed

/-! ### Finite parts -/

/-- The nodes from one node on form a finite tree: none of them stands above itself. -/
def FiniteFrom (tree : Tree) (top : NodeId) : Prop :=
  ∀ id, id = top ∨ tree.Above top id → ¬tree.Above id id

/-- What is finite from a node on is so from each of its children on. -/
theorem FiniteFrom.child {parent child : NodeId} (finite : tree.FiniteFrom parent)
    (link : child ∈ tree.childrenOf parent)
    : tree.FiniteFrom child := by
  intro id reached
  refine finite id (Or.inr ?_)
  rcases reached with rfl | lies
  · exact .single link
  · exact lies.head link

namespace Linked

variable (linked : tree.Linked)
include linked

/-- Induction over the nodes of finite parts, from the lower to the upper ones. -/
theorem finite_wellFounded
    : WellFounded fun lower upper => tree.FiniteFrom upper ∧ tree.Above upper lower :=
  wellFounded_of_bounded tree.nodes.length
    (fun first second => ⟨second.1, second.2.trans first.2⟩)
    (fun id both => both.1 id (Or.inl rfl) both.2) fun both => (linked.lt_of_above both.2).2

/-- No child of a node stands above another one where the nodes from there on are finite. -/
theorem not_above_sibling {parent first second : NodeId} (finite : tree.FiniteFrom parent)
    (one : first ∈ tree.childrenOf parent) (other : second ∈ tree.childrenOf parent)
    : ¬tree.Above first second := by
  intro lies
  rcases linked.above_child other lies with rfl | up
  · exact finite _ (Or.inl rfl) (.single one)
  · exact finite _ (Or.inl rfl) (up.head one)

/-- From every node with a finite part below it a shape is grown that holds each node once. Witness:
induction over the nodes, where the shapes of two children share no node, as one of the children
would stand above the other.
-/
theorem exists_shape {id : NodeId} (made : id < tree.nodes.length)
    (finite : tree.FiniteFrom id)
    : ∃ shape, tree.Grown shape ∧ shape.value = id ∧ shape.preorder.Nodup := by
  induction id using linked.finite_wellFounded.induction with
  | _ id ih =>
      have found := List.getElem?_eq_getElem made
      have known : tree.childrenOf id = tree.nodes[id].children := by simp only [childrenOf, found]
      have each : ∀ child ∈ tree.childrenOf id, ∃ shape,
          tree.Grown shape ∧ shape.value = child ∧ shape.preorder.Nodup := fun child member =>
        ih child ⟨finite, .single member⟩ (linked.lt_of_mem member).2 (finite.child member)
      choose! shapeOf grown value once using each
      have mem_iff {child other : NodeId} (member : child ∈ tree.childrenOf id)
          : other ∈ (shapeOf child).preorder ↔ other = child ∨ tree.Above child other := by
        rw [(grown child member).mem_preorder_iff, value child member]
      refine ⟨.node id ((tree.childrenOf id).map shapeOf), .node found ?_ ?_, rfl, ?_⟩
      · rw [← known, List.map_map]
        exact ((List.map_congr_left value).trans (List.map_id _)).symm
      · simpa using grown
      · rw [Rose.preorder_node, List.flatMap_map, List.nodup_cons, List.nodup_flatMap]
        refine ⟨fun member => ?_, once, ?_⟩
        · -- the root in the shape of a child would stand above itself
          obtain ⟨child, link, member⟩ := List.mem_flatMap.mp member
          rcases (mem_iff link).mp member with rfl | lies
          · exact finite _ (Or.inl rfl) (.single link)
          · exact finite _ (Or.inl rfl) (lies.head link)
        · -- a node in the shapes of two children would stand below both of them
          refine (linked.nodup id).imp_of_mem fun {first second} one other differ => ?_
          intro shared left right
          have apart := linked.not_above_sibling finite one other
          have apart' := linked.not_above_sibling finite other one
          rcases (mem_iff one).mp left, (mem_iff other).mp right with
            ⟨rfl | lies, same | lies'⟩
          · exact differ same
          · exact apart' lies'
          · exact apart (same ▸ lies)
          · rcases linked.above_total lies lies' with same | up | up
            · exact differ same
            · exact apart up
            · exact apart' up

/-- Iterating from a node with a finite part below it goes through this part, each node once. -/
theorem preorder_once {id : NodeId} (made : id < tree.nodes.length)
    (finite : tree.FiniteFrom id)
    : (tree.preorder id).Nodup
      ∧ ∀ other, other ∈ tree.preorder id ↔ other = id ∨ tree.Above id other := by
  obtain ⟨shape, grown, rfl, once⟩ := linked.exists_shape made finite
  have same : tree.preorder shape.value = shape.preorder := by
    rw [preorder, subtree, grown.below_eq (Nat.le_succ_of_le (grown.size_le once))]
  rw [same]
  exact ⟨once, fun _ => grown.mem_preorder_iff⟩

end Linked

namespace Forest

variable (forest : tree.Forest)
include forest

/-- Every part of a forest is finite. -/
theorem finiteFrom (top : NodeId) : tree.FiniteFrom top := fun id _ => forest.acyclic id

/-- Induction over the nodes of a forest, from the upper to the lower ones. -/
theorem above_wellFounded : WellFounded tree.Above :=
  wellFounded_of_bounded tree.nodes.length (fun first second => first.trans second)
    forest.acyclic fun lies => (forest.lt_of_above lies).1

end Forest

/-! ### Paths -/

/-- A path leads to a node: it starts at a loose node, and goes from parent to child. -/
structure LeadsTo (tree : Tree) (path : List NodeId) (id : NodeId) : Prop where
  top : ∃ root, path.head? = some root ∧ tree.parentOf root = none
  links : path.IsChain fun parent child => child ∈ tree.childrenOf parent
  last : path.getLast? = some id

/-- A path to a child goes on from one to its parent. -/
theorem LeadsTo.concat {path : List NodeId} {parent child : NodeId}
    (leads : tree.LeadsTo path parent)
    (link : child ∈ tree.childrenOf parent)
    : tree.LeadsTo (path ++ [child]) child := by
  obtain ⟨root, head, loose⟩ := leads.top
  refine ⟨⟨root, by rw [List.head?_append, head]; rfl, loose⟩, ?_, by simp⟩
  refine List.isChain_append.mpr ⟨leads.links, .singleton child, fun lower ends other new => ?_⟩
  rw [leads.last] at ends
  cases ends
  cases new
  exact link

/-- The only path to a loose node is the node alone, and every other path goes on from one to the
node's parent.
-/
theorem LeadsTo.cases {path : List NodeId} {id : NodeId} (linked : tree.Linked)
    (leads : tree.LeadsTo path id)
    : (tree.parentOf id = none ∧ path = [id])
      ∨ ∃ parent before,
          tree.parentOf id = some parent ∧ tree.LeadsTo before parent ∧ path = before ++ [id] := by
  obtain ⟨root, head, loose⟩ := leads.top
  obtain ⟨before, rfl⟩ := List.getLast?_eq_some_iff.mp leads.last
  obtain ⟨links, -, joint⟩ := List.isChain_append.mp leads.links
  cases ends : before.getLast? with
  | none =>
      cases List.getLast?_eq_none_iff.mp ends
      cases head
      exact Or.inl ⟨loose, rfl⟩
  | some parent =>
      have link := joint parent ends id rfl
      have start : before.head? = some root := by
        cases before with
        | nil => cases ends
        | cons first rest => exact head
      exact Or.inr ⟨parent, before, linked.mem_iff.mp link, ⟨⟨root, start, loose⟩, links, ends⟩, rfl⟩

/-- Just one path leads to each node of a forest. Witness: induction over the nodes from the upper to
the lower ones.
-/
theorem Forest.exists_unique_path (forest : tree.Forest) (id : NodeId)
    : ∃! path, tree.LeadsTo path id := by
  induction id using forest.above_wellFounded.induction with
  | _ id ih =>
      cases up : tree.parentOf id with
      | none =>
          refine ⟨[id], ⟨⟨id, rfl, up⟩, .singleton _, rfl⟩, fun path leads => ?_⟩
          rcases leads.cases forest.toLinked with ⟨-, same⟩ | ⟨parent, -, up', -⟩
          · exact same
          · cases up.symm.trans up'
      | some parent =>
          have link := forest.mem_iff.mpr up
          obtain ⟨before, leads, only⟩ := ih parent (.single link)
          refine ⟨before ++ [id], leads.concat link, fun path other => ?_⟩
          rcases other.cases forest.toLinked with ⟨loose, -⟩ | ⟨parent', before', up', leads', rfl⟩
          · cases up.symm.trans loose
          · cases up.symm.trans up'
            rw [only before' leads']

end FoldTree.Tree
