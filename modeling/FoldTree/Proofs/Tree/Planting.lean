import FoldTree.Proofs.Joints
import FoldTree.Tree.Graft

/-! What growing a skeleton leaves behind. The nodes made before stay as they were, and the new ones
are, one by one, what the joints of the numbered skeleton say: a node for each region, under the
number of its place, linked to the places of the regions right above and below it.
-/

namespace FoldTree

/-- A folded node for a region that has no children, and no level yet. -/
def Node.fresh (source : List Char) (id : NodeId) (region : Region) (terms : List String)
    (parent : Option NodeId) : Node :=
  let span := Span.ofRegion source region
  { id
    region
    span
    text := Text.slice source span.first (span.last + 1)
    level := -1
    terms := Terms.empty.addAll terms
    children := []
    parent
    unfolded := false }

/-- A node with more children behind the others. -/
def Node.extend (node : Node) (more : List NodeId) : Node :=
  { node with children := node.children ++ more }

/-- No children more leave a node as it is. -/
@[simp]
theorem Node.extend_nil (node : Node) : node.extend [] = node := by
  simp [extend]

/-- Children can be added one after the other. -/
@[simp]
theorem Node.extend_extend (node : Node) (first second : List NodeId)
    : (node.extend first).extend second = node.extend (first ++ second) := by
  simp [extend]

namespace Tree

/-- The node for a joint of a numbered skeleton. -/
def seedling (source : List Char) (joint : Rose (NodeId × Region) × Option (NodeId × Region))
    : Node :=
  (Node.fresh source joint.1.value.1 joint.1.value.2 joint.1.value.2.terms
    (joint.2.map Prod.fst)).extend (joint.1.children.map fun branch => branch.value.1)

/-- A change to one item is not seen in what all items keep. -/
theorem map_modify_of_same {α β : Type} {f : α → α} {g : α → β} (same : ∀ a, g (f a) = g a)
    (items : List α) (i : Nat)
    : (items.modify i f).map g = items.map g := by
  apply List.ext_getElem?
  intro j
  rw [List.getElem?_map, List.getElem?_map, List.getElem?_modify]
  by_cases here : i = j
  · cases items[j]? <;> simp [here, same]
  · simp [here]

/-- A change before the end of a first list is none of what is behind it. -/
theorem modify_append_left {α : Type} {f : α → α} {i : Nat} {first : List α}
    (inside : i < first.length) (second : List α)
    : (first ++ second).modify i f = first.modify i f ++ second := by
  induction first generalizing i with
  | nil => simp at inside
  | cons a rest ih =>
      cases i with
      | zero => rfl
      | succ i => simp [ih (Nat.lt_of_succ_lt_succ inside)]

/-- A change right behind a first list is one of what comes next. -/
theorem modify_append_cons {α : Type} {f : α → α} {i : Nat} {first : List α}
    (behind : i = first.length) (a : α) (second : List α)
    : (first ++ a :: second).modify i f = first ++ f a :: second := by
  subst behind
  induction first with
  | nil => rfl
  | cons b rest ih => simp [ih]

/-- A link to the first of several new nodes shows on this node and on an older one. -/
theorem link_append (tree : Tree) {parent : NodeId} (made : parent < tree.nodes.length)
    (child : Node) (rest : List Node)
    : ({ tree with nodes := tree.nodes ++ child :: rest } : Tree).link parent tree.nodes.length
      = { tree with
          nodes := tree.nodes.modify parent (·.extend [tree.nodes.length])
            ++ { child with parent := some parent } :: rest } := by
  simp only [link, update, modify_append_left made]
  refine congrArg (fun nodes => ({ tree with nodes } : Tree)) ?_
  exact modify_append_cons (List.length_modify _ _ _).symm child rest

/-- What hangs from a node does not depend on what this node hangs from. -/
theorem map_seedling_joints (source : List Char) (t : Rose (NodeId × Region))
    : ∃ (node : Node) (rest : List Node), ∀ above : Option (NodeId × Region),
        (t.joints above).map (seedling source)
          = { node with parent := above.map Prod.fst } :: rest := by
  cases t with
  | node a below =>
      refine ⟨seedling source (.node a below, none),
        (below.flatMap (Rose.joints (some a))).map (seedling source), fun above => ?_⟩
      rw [Rose.joints_node, List.map_cons]
      rfl

mutual

/-- Growing a skeleton adds the nodes for its joints, numbered from the next id on. Witness: mutual
induction on the skeleton, with its branches.
-/
theorem growSkeleton_eq (skeleton : Rose Region) (tree : Tree)
    : growSkeleton tree skeleton
      = { tree with
          nodes := tree.nodes
            ++ ((skeleton.number Prod.mk tree.nodes.length).1.joints none).map
              (seedling tree.source) } := by
  cases skeleton with
  | node region below =>
      have started : (tree.newNode region (Terms.empty.addAll region.terms)).nodes.length
          = tree.nodes.length + 1 := by
        simp [newNode]
      have made : tree.nodes.length
          < (tree.newNode region (Terms.empty.addAll region.terms)).nodes.length := by
        rw [started]
        exact Nat.lt_succ_self _
      rw [growSkeleton, growBranches_eq below _ (some (tree.nodes.length, region)) rfl made, started]
      simp only [newNode, modify_append_cons rfl, Rose.number_node, Rose.joints_node, List.map_cons,
        Rose.jointsAll_eq_flatMap, List.append_assoc, List.cons_append, List.nil_append]
      rfl
termination_by sizeOf skeleton

/-- Growing branches adds the nodes for their joints, and links their parent to their roots. -/
theorem growBranches_eq (branches : List (Rose Region)) (tree : Tree)
    (above : Option (NodeId × Region)) {parent : NodeId} (right : above.map Prod.fst = some parent)
    (made : parent < tree.nodes.length)
    : growBranches tree parent branches
      = { tree with
          nodes := tree.nodes.modify parent (fun node => node.extend
              ((Rose.numberAll Prod.mk tree.nodes.length branches).1.map fun branch =>
                branch.value.1))
            ++ (Rose.jointsAll above
                (Rose.numberAll Prod.mk tree.nodes.length branches).1).map
              (seedling tree.source) } := by
  cases branches with
  | nil =>
      have same : tree.nodes.modify parent (fun node => node) = tree.nodes := List.modify_id _ _
      simp [growBranches, Rose.numberAll, Rose.jointsAll, same]
  | cons branch rest =>
      obtain ⟨-, after⟩ := Rose.number_preorder Prod.mk tree.nodes.length branch
      have places := Rose.number_joints tree.nodes.length above branch
      obtain ⟨child, under, nodes⟩ :=
        map_seedling_joints tree.source (branch.number Prod.mk tree.nodes.length).1
      -- the link of the first branch makes its joint hang from the parent
      have linked : (growSkeleton tree branch).link parent tree.nodes.length
          = { tree with
              nodes := tree.nodes.modify parent (·.extend [tree.nodes.length])
                ++ ((branch.number Prod.mk tree.nodes.length).1.joints above).map
                  (seedling tree.source) } := by
        rw [growSkeleton_eq branch tree, nodes, nodes, link_append tree made, right]
      have older : (tree.nodes.modify parent (·.extend [tree.nodes.length])).length
          = tree.nodes.length :=
        List.length_modify _ _ _
      have total : (tree.nodes.modify parent (·.extend [tree.nodes.length])
          ++ ((branch.number Prod.mk tree.nodes.length).1.joints above).map
            (seedling tree.source)).length
          = (branch.number Prod.mk tree.nodes.length).2 := by
        have count := congrArg List.length places
        simp only [List.length_map, List.length_range'] at count
        simp only [List.length_append, List.length_map, older, count, after]
      have made' : parent < (branch.number Prod.mk tree.nodes.length).2 :=
        after ▸ Nat.lt_of_lt_of_le made (Nat.le_add_right _ _)
      rw [growBranches, linked, growBranches_eq rest _ above right (total ▸ made')]
      simp only [total, modify_append_left (older ▸ made), List.modify_modify_eq,
        Rose.numberAll_cons, Rose.jointsAll, List.map_append, List.append_assoc, List.map_cons,
        Rose.number_value]
      refine congrArg (fun nodes => ({ tree with nodes := nodes ++ _ } : Tree)) ?_
      refine congrArg (tree.nodes.modify parent) (funext fun node => ?_)
      exact Node.extend_extend node _ _
termination_by sizeOf branches

end

end Tree

end FoldTree
