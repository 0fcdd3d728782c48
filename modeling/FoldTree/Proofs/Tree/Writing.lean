import FoldTree.Proofs.Tree.Forest

/-! What a node is written with. A node gets its place and its characters from the text when it is made,
and nothing that is done to a tree changes them.
-/

namespace FoldTree

/-- A node has the place of its region in a text, and the characters there. -/
structure Node.WrittenIn (source : List Char) (node : Node) : Prop where
  span : node.span = Span.ofRegion source node.region
  text : node.text = Text.slice source node.span.first (node.span.last + 1)

/-- A written node does not end before it starts. -/
theorem Node.WrittenIn.proper {source : List Char} {node : Node} (written : node.WrittenIn source)
    : node.span.first ≤ node.span.last := by
  rw [written.span]
  simp only [Span.ofRegion]
  omega

namespace Tree

variable {tree : Tree}

/-- Every node has the place of its region in the tree's text, and the characters there. -/
def Written (tree : Tree) : Prop :=
  ∀ node ∈ tree.nodes, node.WrittenIn tree.source

namespace Written

/-- A change of a node that keeps what it is written with is harmless. -/
theorem update (written : tree.Written) (id : NodeId) {f : Node → Node}
    (same : ∀ node, node.WrittenIn tree.source → (f node).WrittenIn tree.source)
    : (tree.update id f).Written := by
  intro node member
  obtain ⟨place, found⟩ := List.mem_iff_getElem?.mp member
  rw [Tree.update, List.getElem?_modify] at found
  obtain ⟨old, there, rfl⟩ := Option.map_eq_some_iff.mp found
  have start := written old (List.mem_of_getElem? there)
  split
  · exact same old start
  · exact start

/-- A new node is written with what is in the text. -/
theorem newNode (written : tree.Written) (region : Region) (terms : Terms)
    : (tree.newNode region terms).Written := by
  intro node member
  rcases List.mem_append.mp member with old | new
  · exact written node old
  · cases List.mem_singleton.mp new
    exact ⟨rfl, rfl⟩

/-- A link is harmless. -/
theorem link (written : tree.Written) (parent child : NodeId)
    : (tree.link parent child).Written := by
  refine update (update written parent fun _ old => ?_) child fun _ old => ?_
  · exact ⟨old.span, old.text⟩
  · exact ⟨old.span, old.text⟩

/-- Grafts are harmless. -/
theorem addNodes (written : tree.Written) {remarks : List Remark} {left : Tree}
    (made : tree.addNodes remarks = .ok left)
    : left.Written :=
  addNodes_preserves Written (fun _ _ id now written => (written.newNode _ _).link id now.nodes.length)
    made written

/-- Giving levels is harmless. -/
theorem foldl_setLevel (written : tree.Written) (ids : List NodeId)
    : (ids.foldl setLevel tree).Written := by
  refine List.foldlRecOn _ _ written fun now written id _ => ?_
  rw [setLevel]
  split
  · exact written
  · split
    · exact written
    · exact written.update id fun _ old => ⟨old.span, old.text⟩

/-- Declaring a root is harmless. -/
theorem setRoot (written : tree.Written) (id : NodeId) : (tree.setRoot id).Written :=
  written.update id fun _ old => ⟨old.span, old.text⟩

/-- What an edit makes of a written tree is written. By cases on the edit. -/
theorem makes (written : tree.Written) {edit : Edit} {left : Tree} (makes : edit.Makes tree left)
    : left.Written := by
  cases makes with
  | newNode region => exact written.newNode region .empty
  | addChild => exact written.link _ _
  | setRoot => exact written.setRoot _
  | addTerm | addTerms | removeTerms | setUnfolded =>
      exact written.update _ fun _ old => ⟨old.span, old.text⟩
  | setLevels => exact written.foldl_setLevel _
  | addNodes added => exact written.addNodes added
  | setBudget | shrinkBudget => exact written

/-- Every run of edits is harmless, by induction on it. -/
theorem afterAll (written : tree.Written) (edits : List Edit) : (tree.afterAll edits).Written := by
  induction edits generalizing tree with
  | nil => exact written
  | cons edit rest ih =>
      refine ih ?_
      rw [after_eq]
      cases made : edit.outcome tree with
      | error fault => exact written
      | ok left => exact written.makes (Edit.makes_of_outcome made)

/-- A tree of no nodes is written. -/
theorem empty (source : List Char) (file : Path) : (Tree.empty source file).Written := fun _ none =>
  absurd none List.not_mem_nil

mutual

/-- Growing a skeleton is harmless. -/
theorem growSkeleton {tree : Tree} (written : tree.Written) (skeleton : Rose Region)
    : (Tree.growSkeleton tree skeleton).Written := by
  cases skeleton with
  | node region below =>
      rw [Tree.growSkeleton]
      exact growBranches (written.newNode region _) tree.nodes.length below
termination_by sizeOf skeleton

/-- Growing branches is harmless. -/
theorem growBranches {tree : Tree} (written : tree.Written) (parent : NodeId)
    (branches : List (Rose Region))
    : (Tree.growBranches tree parent branches).Written := by
  cases branches with
  | nil => exact written
  | cons branch rest =>
      rw [Tree.growBranches]
      exact growBranches ((growSkeleton written branch).link parent _) parent rest
termination_by sizeOf branches

end

/-- Every tree that is built is written. -/
theorem build {source : List Char} {file : Path} {skeleton : Rose Region} {remarks : List Remark}
    (built : build source file skeleton remarks = .ok tree)
    : tree.Written := by
  obtain ⟨full, added, levelled⟩ := Outcome.bind_eq_ok.mp built
  obtain ⟨root, -, rfl⟩ := Outcome.map_eq_ok.mp levelled
  have planted := ((empty source file).growSkeleton skeleton).setRoot 0
  exact (planted.addNodes added).foldl_setLevel _

end Written

end Tree

end FoldTree
