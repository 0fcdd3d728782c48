import FoldTree.Proofs.Lineage
import Mathlib.Data.List.Perm.Basic

/-! Rose trees with more leaves. Each value gets new leaves behind the branches that hang from it.
-/

namespace FoldTree.Rose

variable {α : Type}

mutual

/-- A tree with more leaves below each of its values, behind the branches there. -/
def hang (more : α → List α) : Rose α → Rose α
  | .node a below => .node a (hangAll more below ++ (more a).map fun leaf => .node leaf [])

/-- Several trees with more leaves. -/
def hangAll (more : α → List α) : List (Rose α) → List (Rose α)
  | [] => []
  | branch :: rest => branch.hang more :: hangAll more rest

end

/-- The branches get their leaves one by one, and those of the root come behind them. -/
theorem hang_node (more : α → List α) (a : α) (below : List (Rose α))
    : (node a below).hang more
      = node a (below.map (hang more) ++ (more a).map fun leaf => node leaf []) := by
  have all (branches : List (Rose α)) : hangAll more branches = branches.map (hang more) := by
    induction branches with
    | nil => rfl
    | cons branch rest ih => simp [hangAll, ih]
  rw [hang, all]

/-- The root stays. -/
@[simp]
theorem value_hang (more : α → List α) (t : Rose α) : (t.hang more).value = t.value := by
  cases t
  rw [hang_node]
  rfl

/-- The values are those from before and then all leaves, in some order, by induction on the tree. -/
theorem preorder_hang_perm (more : α → List α) (t : Rose α)
    : (t.hang more).preorder.Perm (t.preorder ++ t.preorder.flatMap more) := by
  induction t using induction with
  | node a below ih =>
      have inner : (below.flatMap fun branch => (branch.hang more).preorder).Perm
          (below.flatMap preorder ++ (below.flatMap preorder).flatMap more) := by
        refine (List.Perm.flatMap_left below ih).trans ?_
        rw [List.flatMap_assoc]
        exact (List.flatMap_append_perm below _ _).symm
      have leaves : ((more a).map fun leaf => node leaf []).flatMap preorder = more a := by
        simp [List.flatMap_map, preorder_node]
      rw [hang_node, preorder_node, preorder_node, List.flatMap_append, List.flatMap_map, leaves,
        List.flatMap_cons, List.cons_append]
      refine .cons _ ((inner.append_right _).trans ?_)
      rw [List.append_assoc]
      exact List.perm_append_comm.append_left _

end FoldTree.Rose
