import FoldTree.Proofs.Lineage

/-! The parts of a rose tree: every tree that hangs somewhere in it, in the pre-order of their
roots. Numbering a tree goes through its values in the same order.
-/

namespace FoldTree.Rose

variable {α β γ : Type}

mutual

/-- A tree and all trees below it, in the pre-order of their roots. -/
def subtrees : Rose α → List (Rose α)
  | .node a below => .node a below :: subtreesAll below

/-- All trees at and below some branches. -/
def subtreesAll : List (Rose α) → List (Rose α)
  | [] => []
  | branch :: rest => branch.subtrees ++ subtreesAll rest

end

/-- The trees of several branches are those of each branch in turn, by induction. -/
theorem subtreesAll_eq_flatMap (branches : List (Rose α))
    : subtreesAll branches = branches.flatMap subtrees := by
  induction branches with
  | nil => rfl
  | cons branch rest ih => simp [subtreesAll, ih]

/-- A tree comes first, and those below it follow branch by branch. -/
theorem subtrees_node (a : α) (below : List (Rose α))
    : (node a below).subtrees = node a below :: below.flatMap subtrees := by
  rw [subtrees, subtreesAll_eq_flatMap]

/-- A tree is one of its own parts. -/
theorem self_mem_subtrees (t : Rose α) : t ∈ t.subtrees := by
  cases t with
  | node a below => simp [subtrees_node]

/-- The roots of all parts of a tree are its values, by induction. -/
theorem map_value_subtrees (t : Rose α) : t.subtrees.map value = t.preorder := by
  induction t using induction with
  | node a below ih =>
      rw [subtrees_node, preorder_node, List.map_cons, List.map_flatMap]
      exact congrArg (a :: ·) (List.flatMap_congr ih)

/-- The parts of a part are parts of the tree, by induction. -/
theorem subtrees_trans {t s u : Rose α} (inner : u ∈ s.subtrees) (outer : s ∈ t.subtrees)
    : u ∈ t.subtrees := by
  induction t using induction with
  | node a below ih =>
      rw [subtrees_node, List.mem_cons, List.mem_flatMap] at outer ⊢
      rcases outer with rfl | ⟨branch, member, outer⟩
      · rw [subtrees_node, List.mem_cons, List.mem_flatMap] at inner
        exact inner
      · exact Or.inr ⟨branch, member, ih branch member outer⟩

/-- A branch of a part is a part. -/
theorem branch_mem_subtrees {t : Rose α} {a : α} {below : List (Rose α)} {branch : Rose α}
    (outer : node a below ∈ t.subtrees) (member : branch ∈ below)
    : branch ∈ t.subtrees := by
  refine subtrees_trans ?_ outer
  rw [subtrees_node, List.mem_cons, List.mem_flatMap]
  exact Or.inr ⟨branch, member, branch.self_mem_subtrees⟩

/-- Several trees change one by one. -/
theorem mapAll_eq_map (f : α → β) (branches : List (Rose α))
    : mapAll f branches = branches.map (map f) := by
  induction branches with
  | nil => rfl
  | cons branch rest ih => simp [mapAll, ih]

/-- The root changes by itself. -/
theorem value_map (f : α → β) (t : Rose α) : (t.map f).value = f t.value := by
  cases t
  rfl

/-- The branches change one by one. -/
theorem children_map (f : α → β) (t : Rose α) : (t.map f).children = t.children.map (map f) := by
  cases t
  rw [map, mapAll_eq_map]
  rfl

/-- The values of a tree change one by one, by induction. -/
theorem preorder_map (f : α → β) (t : Rose α) : (t.map f).preorder = t.preorder.map f := by
  induction t using induction with
  | node a below ih =>
      rw [map, mapAll_eq_map, preorder_node, preorder_node, List.map_cons, List.flatMap_map,
        List.map_flatMap]
      exact congrArg (f a :: ·) (List.flatMap_congr ih)

/-- The parts of a tree change with its values, by induction. -/
theorem subtrees_map (f : α → β) (t : Rose α) : (t.map f).subtrees = t.subtrees.map (map f) := by
  induction t using induction with
  | node a below ih =>
      rw [map, mapAll_eq_map, subtrees_node, subtrees_node, List.map_cons, List.flatMap_map,
        List.map_flatMap, map, mapAll_eq_map]
      exact congrArg (_ :: ·) (List.flatMap_congr ih)

/-- Numbering a tree numbers its branches from the next number on. -/
theorem number_node (f : Nat → α → β) (next : Nat) (a : α) (below : List (Rose α))
    : (node a below).number f next
      = (.node (f next a) (numberAll f (next + 1) below).1, (numberAll f (next + 1) below).2) :=
  rfl

/-- Numbering several trees goes on behind the first. -/
theorem numberAll_cons (f : Nat → α → β) (next : Nat) (branch : Rose α) (rest : List (Rose α))
    : numberAll f next (branch :: rest)
      = ((branch.number f next).1 :: (numberAll f (branch.number f next).2 rest).1,
          (numberAll f (branch.number f next).2 rest).2) :=
  rfl

mutual

/-- Numbering goes through the values in pre-order, each with its place. -/
theorem number_preorder (f : Nat → α → β) (next : Nat) (t : Rose α)
    : (t.number f next).1.preorder = t.preorder.mapIdx (fun i a => f (next + i) a)
      ∧ (t.number f next).2 = next + t.preorder.length := by
  cases t with
  | node a below =>
      obtain ⟨values, count⟩ := numberAll_preorder f (next + 1) below
      simp only [number_node, preorder, List.mapIdx_cons, Nat.add_zero, values, count,
        List.length_cons]
      refine ⟨?_, by omega⟩
      simp only [Nat.add_assoc, Nat.add_comm 1]

/-- Numbering several trees goes through the values of one after the other. -/
theorem numberAll_preorder (f : Nat → α → β) (next : Nat) (branches : List (Rose α))
    : preorderAll (numberAll f next branches).1
        = (preorderAll branches).mapIdx (fun i a => f (next + i) a)
      ∧ (numberAll f next branches).2 = next + (preorderAll branches).length := by
  cases branches with
  | nil => simp [numberAll, preorderAll]
  | cons branch rest =>
      obtain ⟨first, middle⟩ := number_preorder f next branch
      obtain ⟨later, after⟩ := numberAll_preorder f (next + branch.preorder.length) rest
      simp only [numberAll_cons, middle, preorderAll, first, later, after, List.mapIdx_append,
        List.length_append]
      have places (i : Nat)
          : next + branch.preorder.length + i = next + (i + branch.preorder.length) := by
        omega
      exact ⟨by simp only [places], by omega⟩

end

/-- Numbering goes on behind the first of two rows of trees, by induction on it. -/
theorem numberAll_append (f : Nat → α → β) (next : Nat) (first second : List (Rose α))
    : (numberAll f next (first ++ second)).1
      = (numberAll f next first).1
        ++ (numberAll f (next + (preorderAll first).length) second).1 := by
  induction first generalizing next with
  | nil => rfl
  | cons t rest ih =>
      rw [List.cons_append, numberAll_cons, numberAll_cons, ih, (number_preorder f next t).2,
        preorderAll, List.length_append, Nat.add_assoc, List.cons_append]

/-- Trees have as many parts as values. -/
theorem length_subtreesAll (trees : List (Rose α))
    : (subtreesAll trees).length = (preorderAll trees).length := by
  rw [subtreesAll_eq_flatMap, preorderAll_eq_flatMap, List.length_flatMap, List.length_flatMap]
  congr 1
  refine List.map_congr_left fun t _ => ?_
  rw [← map_value_subtrees, List.length_map]

/-- Changing all values twice is changing them once, by induction. -/
theorem map_map (f : α → β) (g : β → γ) (t : Rose α) : (t.map f).map g = t.map (g ∘ f) := by
  induction t using induction with
  | node a below ih =>
      simp only [map, mapAll_eq_map, List.map_map]
      exact congrArg (node (g (f a))) (List.map_congr_left ih)

mutual

/-- What the numbers of a numbered tree have no part in is as it was before. -/
theorem map_number {f : Nat → α → β} {g : β → γ} {h : α → γ} (same : ∀ i a, g (f i a) = h a)
    (next : Nat) (t : Rose α)
    : (t.number f next).1.map g = t.map h := by
  cases t with
  | node a below =>
      rw [number_node, map, map, same, mapAll_numberAll same (next + 1) below]

/-- The same holds of several trees. -/
theorem mapAll_numberAll {f : Nat → α → β} {g : β → γ} {h : α → γ} (same : ∀ i a, g (f i a) = h a)
    (next : Nat) (branches : List (Rose α))
    : mapAll g (numberAll f next branches).1 = mapAll h branches := by
  cases branches with
  | nil => rfl
  | cons branch rest =>
      rw [numberAll_cons, mapAll, mapAll, map_number same next branch, mapAll_numberAll same _ rest]

end

section

variable {δ : Type} {f : Nat → γ → δ} {g : α → γ} {f' : Nat → α → β} {g' : β → δ}

mutual

/-- Values may be changed before they are numbered or after. -/
theorem number_map (same : ∀ i a, f i (g a) = g' (f' i a)) (next : Nat) (t : Rose α)
    : (t.map g).number f next = ((t.number f' next).1.map g', (t.number f' next).2) := by
  cases t with
  | node a below =>
      rw [map, number_node, number_node, numberAll_mapAll same (next + 1) below, same, map]

/-- The same holds of several trees. -/
theorem numberAll_mapAll (same : ∀ i a, f i (g a) = g' (f' i a)) (next : Nat)
    (branches : List (Rose α))
    : numberAll f next (mapAll g branches)
      = (mapAll g' (numberAll f' next branches).1, (numberAll f' next branches).2) := by
  cases branches with
  | nil => rfl
  | cons branch rest =>
      rw [mapAll, numberAll_cons, numberAll_cons, number_map same next branch,
        numberAll_mapAll same _ rest, mapAll]

end

end

mutual

/-- The parts of a tree as a tree: each value gives way to the part that it is the root of. -/
def partTree : Rose α → Rose (Rose α)
  | .node a below => .node (.node a below) (partTreeAll below)

/-- The parts of several trees as trees. -/
def partTreeAll : List (Rose α) → List (Rose (Rose α))
  | [] => []
  | branch :: rest => branch.partTree :: partTreeAll rest

end

/-- The roots of the parts are the values from before, by induction. -/
theorem map_value_partTree (t : Rose α) : t.partTree.map value = t := by
  induction t using induction with
  | node a below ih =>
      have branches : mapAll value (partTreeAll below) = below := by
        clear a
        induction below with
        | nil => rfl
        | cons branch rest ih' =>
            rw [partTreeAll, mapAll, ih branch List.mem_cons_self,
              ih' fun other member => ih other (List.mem_cons_of_mem _ member)]
      rw [partTree, map, branches]
      rfl

end FoldTree.Rose
