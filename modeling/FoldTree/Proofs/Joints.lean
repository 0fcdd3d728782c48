import FoldTree.Proofs.Subtrees

/-! The joints of a rose tree: every part with the value that it hangs from, in the pre-order of the
parts. Numbering a tree gives each joint the number of its place.
-/

namespace FoldTree.Rose

variable {α β : Type}

mutual

/-- The parts of a tree in the pre-order of their roots, each with the value right above it. Given
is the value above the tree, if there is one.
-/
def joints (above : Option α) : Rose α → List (Rose α × Option α)
  | .node a below => (.node a below, above) :: jointsAll (some a) below

/-- The joints of several trees that hang from the same value. -/
def jointsAll (above : Option α) : List (Rose α) → List (Rose α × Option α)
  | [] => []
  | branch :: rest => branch.joints above ++ jointsAll above rest

end

/-- The joints of several trees are those of each tree in turn, by induction. -/
theorem jointsAll_eq_flatMap (above : Option α) (trees : List (Rose α))
    : jointsAll above trees = trees.flatMap (joints above) := by
  induction trees with
  | nil => rfl
  | cons tree rest ih => simp [jointsAll, ih]

/-- The whole tree comes first, and its branches hang from its root. -/
theorem joints_node (above : Option α) (a : α) (below : List (Rose α))
    : (node a below).joints above = (node a below, above) :: below.flatMap (joints (some a)) := by
  rw [joints, jointsAll_eq_flatMap]

/-- The joints of a tree hold its parts, by induction. -/
theorem map_fst_joints (above : Option α) (t : Rose α)
    : (t.joints above).map Prod.fst = t.subtrees := by
  induction t using induction generalizing above with
  | node a below ih =>
      rw [joints_node, subtrees_node, List.map_cons, List.map_flatMap]
      exact congrArg _ (List.flatMap_congr fun branch member => ih branch member (some a))

/-- Every part has a joint. -/
theorem exists_joint {t part : Rose α} (above : Option α) (member : part ∈ t.subtrees)
    : ∃ parent, (part, parent) ∈ t.joints above := by
  rw [← map_fst_joints above] at member
  obtain ⟨⟨_, parent⟩, inside, rfl⟩ := List.mem_map.mp member
  exact ⟨parent, inside⟩

/-- The branches of a part hang from its root, by induction on the tree. -/
theorem branch_mem_joints {t : Rose α} {above : Option α} {a : α} {below : List (Rose α)}
    {branch : Rose α} (outer : node a below ∈ t.subtrees) (member : branch ∈ below)
    : (branch, some a) ∈ t.joints above := by
  induction t using induction generalizing above with
  | node root branches ih =>
      rw [joints_node]
      rw [subtrees_node, List.mem_cons, List.mem_flatMap] at outer
      refine List.mem_cons_of_mem _ (List.mem_flatMap.mpr ?_)
      rcases outer with same | ⟨inner, inside, outer⟩
      · cases same
        refine ⟨branch, member, ?_⟩
        cases branch with
        | node b more => simp [joints_node]
      · exact ⟨inner, inside, ih inner inside outer⟩

/-! ### Numbered trees -/

/-- The root gets the first number. -/
theorem number_value (next : Nat) (t : Rose α)
    : (t.number Prod.mk next).1.value = (next, t.value) := by
  cases t
  rfl

/-- The numbers of a numbered tree count up in its pre-order. -/
theorem number_fst (next : Nat) (t : Rose α)
    : (t.number Prod.mk next).1.preorder.map Prod.fst = List.range' next t.preorder.length := by
  rw [(number_preorder Prod.mk next t).1]
  refine List.ext_getElem (by simp) fun i _ _ => ?_
  simp

/-- The values of a numbered tree are those from before, in their order. -/
theorem number_snd (next : Nat) (t : Rose α)
    : (t.number Prod.mk next).1.preorder.map Prod.snd = t.preorder := by
  rw [(number_preorder Prod.mk next t).1]
  refine List.ext_getElem (by simp) fun i _ _ => ?_
  simp

/-- The joints of a numbered tree are numbered in their order. -/
theorem number_joints (next : Nat) (above : Option (Nat × α)) (t : Rose α)
    : ((t.number Prod.mk next).1.joints above).map (fun joint => joint.1.value.1)
      = List.range' next t.preorder.length := by
  rw [← number_fst, ← map_value_subtrees, ← map_fst_joints above, List.map_map, List.map_map]
  rfl

/-- A numbered tree has a joint for every value. -/
theorem length_number_joints (next : Nat) (above : Option (Nat × α)) (t : Rose α)
    : ((t.number Prod.mk next).1.joints above).length = t.preorder.length := by
  have count := congrArg List.length (number_joints next above t)
  rwa [List.length_map, List.length_range'] at count

/-- The joint that is found at a place of a tree numbered from zero has that number. -/
theorem number_of_getElem? {t : Rose α} {above : Option (Nat × α)} {i : Nat}
    {joint : Rose (Nat × α) × Option (Nat × α)}
    (found : ((t.number Prod.mk 0).1.joints above)[i]? = some joint)
    : joint.1.value.1 = i := by
  have number := congrArg (fun numbers => numbers[i]?) (number_joints 0 above t)
  simp only [List.getElem?_map, found, Option.map_some] at number
  obtain ⟨_, same⟩ := List.getElem?_eq_some_iff.mp number.symm
  rw [List.getElem_range', Nat.zero_add, Nat.one_mul] at same
  exact same.symm

/-- Each joint of a tree that is numbered from zero is found at its number. -/
theorem getElem?_number_joints {t : Rose α} {above : Option (Nat × α)}
    {joint : Rose (Nat × α) × Option (Nat × α)}
    (member : joint ∈ (t.number Prod.mk 0).1.joints above)
    : ((t.number Prod.mk 0).1.joints above)[joint.1.value.1]? = some joint := by
  obtain ⟨i, found⟩ := List.mem_iff_getElem?.mp member
  rwa [number_of_getElem? found]

end FoldTree.Rose
