import FoldTree.Rose
import Mathlib.Data.List.Nodup

/-! Values of a rose tree with their ancestors. The list of all values with their ancestors follows
the pre-order of the values, so a fact about one place of a tree is a fact about one entry.
-/

namespace FoldTree.Rose

variable {α β : Type}

/-- What holds of a tree whenever it holds of its branches holds of every tree. -/
theorem induction {motive : Rose α → Prop}
    (node : ∀ a below, (∀ branch ∈ below, motive branch) → motive (.node a below))
    (t : Rose α)
    : motive t :=
  match t with
  | .node a below => node a below fun branch _ => induction node branch
termination_by sizeOf t
decreasing_by
  simp_wf
  have := List.sizeOf_lt_of_mem ‹branch ∈ below›
  omega

/-- The values of several trees are those of each tree in turn, by induction. -/
theorem preorderAll_eq_flatMap (trees : List (Rose α))
    : preorderAll trees = trees.flatMap preorder := by
  induction trees with
  | nil => rfl
  | cons tree rest ih => simp [preorderAll, ih]

/-- The root comes first, and the values below follow branch by branch. -/
theorem preorder_node (a : α) (below : List (Rose α))
    : (node a below).preorder = a :: below.flatMap preorder := by
  rw [preorder, preorderAll_eq_flatMap]

/-- The values of two rows of trees are those of one and then those of the other. -/
theorem preorderAll_append (first second : List (Rose α))
    : preorderAll (first ++ second) = preorderAll first ++ preorderAll second := by
  simp only [preorderAll_eq_flatMap, List.flatMap_append]

/-- The root of a tree is one of its values. -/
theorem value_mem_preorder (t : Rose α) : t.value ∈ t.preorder := by
  cases t with
  | node a below => simp [preorder_node, value]

/-- A branch has no more values than the tree without its root. -/
theorem size_branch_lt {a : α} {below : List (Rose α)} {branch : Rose α} (member : branch ∈ below)
    : branch.size < (node a below).size := by
  have part : branch.preorder.length ≤ (below.flatMap preorder).length := by
    obtain ⟨before, after, split⟩ := List.append_of_mem member
    simp only [split, List.flatMap_append, List.flatMap_cons, List.length_append]
    omega
  simp only [size, preorder_node, List.length_cons]
  omega

mutual

/-- The values of a tree in pre-order, each with its ancestors, the nearest first. Given are the
ancestors of the root.
-/
def lineages (above : List α) : Rose α → List (α × List α)
  | .node a below => (a, above) :: lineagesAll (a :: above) below

/-- The values of several trees that stand below the same ancestors. -/
def lineagesAll (above : List α) : List (Rose α) → List (α × List α)
  | [] => []
  | branch :: rest => branch.lineages above ++ lineagesAll above rest

end

/-- The root stands below what is above the tree. -/
theorem root_mem_lineages {above : List α} (t : Rose α) : (t.value, above) ∈ t.lineages above := by
  cases t with
  | node a below => exact List.mem_cons_self

/-- The lineages of several trees are those of each tree in turn, by induction. -/
theorem lineagesAll_eq_flatMap (above : List α) (trees : List (Rose α))
    : lineagesAll above trees = trees.flatMap (lineages above) := by
  induction trees with
  | nil => rfl
  | cons tree rest ih => simp [lineagesAll, ih]

/-- What stands above a tree goes behind all ancestors inside of it, by induction. -/
theorem lineages_above (above : List α) (t : Rose α)
    : t.lineages above = (t.lineages []).map fun (a, up) => (a, up ++ above) := by
  induction t using induction generalizing above with
  | node a below ih =>
      simp only [lineages, lineagesAll_eq_flatMap, List.map_cons, List.nil_append, List.map_flatMap]
      refine congrArg _ (List.flatMap_congr fun branch member => ?_)
      rw [ih branch member (a :: above), ih branch member [a], List.map_map]
      simp [Function.comp_def]

/-- The same holds of several trees below the same ancestors. -/
theorem lineagesAll_above (above : List α) (trees : List (Rose α))
    : lineagesAll above trees = (lineagesAll [] trees).map fun (a, up) => (a, up ++ above) := by
  simp only [lineagesAll_eq_flatMap, List.map_flatMap]
  exact List.flatMap_congr fun tree _ => lineages_above above tree

/-- Lineages come in the pre-order of their values, by induction on the tree. -/
theorem map_fst_lineages (above : List α) (t : Rose α)
    : (t.lineages above).map Prod.fst = t.preorder := by
  induction t using induction generalizing above with
  | node a below ih =>
      simp only [lineages, preorder_node, lineagesAll_eq_flatMap, List.map_cons,
        List.map_flatMap, List.cons.injEq, true_and]
      exact List.flatMap_congr fun branch member => ih branch member (a :: above)

/-- The ancestors in a lineage are values of the tree or stand above it, by induction. -/
theorem mem_of_mem_lineage {above : List α} {t : Rose α} {lineage : α × List α}
    (member : lineage ∈ t.lineages above) {a : α} (ancestor : a ∈ lineage.1 :: lineage.2)
    : a ∈ t.preorder ∨ a ∈ above := by
  induction t using induction generalizing above with
  | node root below ih =>
      simp only [lineages, lineagesAll_eq_flatMap, preorder_node, List.mem_cons,
        List.mem_flatMap] at member ⊢
      rcases member with rfl | ⟨branch, inside, member⟩
      · rcases List.mem_cons.mp ancestor with same | older
        · exact Or.inl (Or.inl same)
        · exact Or.inr older
      · rcases ih branch inside member with value | older
        · exact Or.inl (Or.inr ⟨branch, inside, value⟩)
        · rcases List.mem_cons.mp older with same | older
          · exact Or.inl (Or.inl same)
          · exact Or.inr older

/-- All in a lineage of a tree with nothing above it are values of the tree. -/
theorem mem_preorder_of_lineage {t : Rose α} {lineage : α × List α} (listed : lineage ∈ t.lineages [])
    {a : α} (inside : a ∈ lineage.1 :: lineage.2)
    : a ∈ t.preorder :=
  (mem_of_mem_lineage listed inside).resolve_right List.not_mem_nil

mutual

/-- In the list of a tree's lineages each one but the first goes on from one before it. Witness:
mutual induction on the tree, with its branches.
-/
theorem lineages_split {above : List α} (t : Rose α) {lineage : α × List α}
    {before after : List (α × List α)} (split : t.lineages above = before ++ lineage :: after)
    : (before = [] ∧ lineage = (t.value, above))
      ∨ ∃ parent ∈ before, lineage.2 = parent.1 :: parent.2 := by
  cases t with
  | node a below =>
      rw [lineages] at split
      cases before with
      | nil => exact Or.inl ⟨rfl, (List.cons.inj split).1.symm⟩
      | cons first before =>
          obtain ⟨rfl, deeper⟩ := List.cons.inj split
          refine Or.inr ?_
          rcases lineagesAll_split below deeper with top | ⟨parent, member, up⟩
          · exact ⟨_, List.mem_cons_self, top⟩
          · exact ⟨parent, List.mem_cons_of_mem _ member, up⟩

/-- In the list of the lineages of several trees below the same ancestors, each one is that of a
root or goes on from one before it.
-/
theorem lineagesAll_split {above : List α} (trees : List (Rose α)) {lineage : α × List α}
    {before after : List (α × List α)}
    (split : lineagesAll above trees = before ++ lineage :: after)
    : lineage.2 = above ∨ ∃ parent ∈ before, lineage.2 = parent.1 :: parent.2 := by
  cases trees with
  | nil => simp [lineagesAll] at split
  | cons branch rest =>
      rw [lineagesAll, List.append_eq_append_iff] at split
      rcases split with ⟨middle, rfl, later⟩ | ⟨middle, first, later⟩
      · -- the lineage is one of a later tree
        rcases lineagesAll_split rest later with top | ⟨parent, member, up⟩
        · exact Or.inl top
        · exact Or.inr ⟨parent, List.mem_append_right _ member, up⟩
      · -- it is one of the first tree, or the first one behind it
        cases middle with
        | nil =>
            have first' : lineagesAll above rest = [] ++ lineage :: after := later.symm
            rcases lineagesAll_split rest first' with top | ⟨_, absent, _⟩
            · exact Or.inl top
            · exact absurd absent List.not_mem_nil
        | cons next middle =>
            obtain ⟨rfl, -⟩ := List.cons.inj later
            rcases lineages_split branch first with ⟨-, root⟩ | deeper
            · exact Or.inl (congrArg Prod.snd root)
            · exact Or.inr deeper

end

/-- In the list of a tree's lineages all ancestors of a value come before it, by induction on what
comes before.
-/
theorem ancestor_before {t : Rose α} {lineage : α × List α} {before after : List (α × List α)}
    (split : t.lineages [] = before ++ lineage :: after) {ancestor : α}
    (up : ancestor ∈ lineage.2)
    : ancestor ∈ before.map Prod.fst := by
  rcases lineages_split t split with ⟨-, rfl⟩ | ⟨parent, member, above⟩
  · exact absurd up List.not_mem_nil
  · obtain ⟨first, last, rfl⟩ := List.append_of_mem member
    rw [above] at up
    rcases List.mem_cons.mp up with rfl | higher
    · exact List.mem_map_of_mem member
    · rw [List.append_assoc, List.cons_append] at split
      have earlier := ancestor_before split higher
      rw [List.map_append]
      exact List.mem_append_left _ earlier
termination_by before.length

/-- Every value of a lineage has the rest of it as a lineage of its own. Witness: induction on the values
before, each of which goes on from its parent.
-/
theorem lineage_rest {t : Rose α} {lineage : α × List α} (member : lineage ∈ t.lineages [])
    (before : List α) {above : List α} {a : α} (split : lineage.1 :: lineage.2 = before ++ a :: above)
    : (a, above) ∈ t.lineages [] := by
  induction before generalizing lineage with
  | nil =>
      obtain ⟨rfl, rfl⟩ := List.cons.inj split
      exact member
  | cons first before ih =>
      obtain ⟨-, up⟩ := List.cons.inj split
      obtain ⟨left, right, place⟩ := List.append_of_mem member
      rcases lineages_split t place with ⟨-, rfl⟩ | ⟨parent, earlier, above⟩
      · -- the root of the tree has no values above it
        simp at up
      · refine ih ?_ (above ▸ up)
        rw [place]
        exact List.mem_append_left _ earlier

/-- Every value has a lineage. -/
theorem exists_lineage {t : Rose α} {a : α} (member : a ∈ t.preorder)
    : ∃ above, (a, above) ∈ t.lineages [] := by
  rw [← map_fst_lineages []] at member
  obtain ⟨⟨_, above⟩, inside, rfl⟩ := List.mem_map.mp member
  exact ⟨above, inside⟩

/-- In a tree of distinct values each of them has one lineage. -/
theorem lineage_unique {t : Rose α} {above : List α} (once : t.preorder.Nodup)
    {first second : α × List α} (member : first ∈ t.lineages above)
    (member' : second ∈ t.lineages above) (same : first.1 = second.1)
    : first = second :=
  List.inj_on_of_nodup_map ((map_fst_lineages above t).symm ▸ once) member member' same

/-- No value stands twice in a lineage of a tree of distinct values, by induction on the tree. -/
theorem lineage_nodup {t : Rose α} {above : List α} (once : t.preorder.Nodup)
    (apart : ∀ a ∈ above, a ∉ t.preorder) (distinct : above.Nodup) {lineage : α × List α}
    (member : lineage ∈ t.lineages above)
    : (lineage.1 :: lineage.2).Nodup := by
  induction t using induction generalizing above with
  | node a below ih =>
      rw [preorder_node] at once apart
      obtain ⟨fresh, once⟩ := List.nodup_cons.mp once
      rw [lineages, lineagesAll_eq_flatMap, List.mem_cons, List.mem_flatMap] at member
      have new : a ∉ above := fun inside => apart a inside List.mem_cons_self
      rcases member with rfl | ⟨branch, inside, member⟩
      · exact List.nodup_cons.mpr ⟨new, distinct⟩
      · refine ih branch inside ?_ ?_ (List.nodup_cons.mpr ⟨new, distinct⟩) member
        · rw [List.flatMap_def] at once
          exact once.sublist (List.sublist_flatten_of_mem (List.mem_map_of_mem inside))
        · intro other up among
          have under := List.mem_flatMap.mpr ⟨branch, inside, among⟩
          rcases List.mem_cons.mp up with rfl | up
          · exact fresh under
          · exact apart other up (List.mem_cons_of_mem _ under)

end FoldTree.Rose
