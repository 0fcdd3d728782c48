import FoldTree.Proofs.Subtrees
import FoldTree.Source.Comment
import Mathlib

/-! The innermost region around a range. In a skeleton whose regions nest and keep apart, a region
that holds a range of characters is the only one of its siblings that does, so the way down to the
innermost one passes through all regions that hold the range, in whatever order the siblings come.
-/

namespace FoldTree

namespace Rose

variable {α : Type}

/-- The part of a tree at an address: the indexes of the children that lead to it from the root. -/
def part? (t : Rose α) : List Nat → Option (Rose α)
  | [] => some t
  | index :: rest =>
    match t.children[index]? with
    | some branch => branch.part? rest
    | none => none

/-- Behind the first index of an address a part belongs to that branch. -/
theorem part?_cons {t part : Rose α} {index : Nat} {rest : List Nat}
    (there : t.part? (index :: rest) = some part)
    : ∃ branch, t.children[index]? = some branch ∧ branch.part? rest = some part := by
  rw [part?] at there
  split at there
  · exact ⟨_, ‹_›, there⟩
  · cases there

/-- Trees with the same values, where siblings may stand in another order at any place. -/
inductive Rearranged : Rose α → Rose α → Prop
  | refl (t : Rose α) : Rearranged t t
  | siblings (a : α) {below below' : List (Rose α)} (order : below.Perm below')
    : Rearranged (.node a below) (.node a below')
  | branch (a : α) (before after : List (Rose α)) {branch branch' : Rose α}
    (inside : Rearranged branch branch')
    : Rearranged (.node a (before ++ branch :: after)) (.node a (before ++ branch' :: after))
  | trans {t t' t'' : Rose α} (first : Rearranged t t') (second : Rearranged t' t'')
    : Rearranged t t''

/-- The root keeps its value. -/
theorem Rearranged.value_eq {t t' : Rose α} (rearranged : Rearranged t t') : t'.value = t.value := by
  induction rearranged with
  | refl t => rfl
  | siblings a order => rfl
  | branch a before after inside ih => rfl
  | trans first second ih ih' => exact ih'.trans ih

end Rose

namespace Region

/-- The offsets of the characters of a region. -/
def offsets (region : Region) : Set Int :=
  Set.Ico region.start region.stop

/-- A region holds a range of characters just if their offsets are all among its own. -/
theorem contains_iff_subset {region : Region} {first behind : Int} (proper : first < behind)
    : region.contains first behind = true ↔ Set.Ico first behind ⊆ region.offsets := by
  rw [offsets, Set.Ico_subset_Ico_iff proper, contains, Bool.and_eq_true, decide_eq_true_eq,
    decide_eq_true_eq]

/-- Regions without a common offset do not both hold a range of characters. -/
theorem not_contains_of_disjoint {one other : Region} {first behind : Int} (proper : first < behind)
    (apart : Disjoint one.offsets other.offsets) (holds : one.contains first behind = true)
    : other.contains first behind = false := by
  by_contra both
  rw [Bool.not_eq_false, contains_iff_subset proper] at both
  rw [contains_iff_subset proper] at holds
  have start : first ∈ Set.Ico first behind := Set.left_mem_Ico.mpr proper
  exact Set.disjoint_left.mp apart (holds start) (both start)

end Region

namespace Source

variable {first behind : Int} {skeleton : Rose Region}

/-- Below some skeletons, the first one that holds a range has the innermost region around it. -/
theorem innermostOf_eq (first behind : Int) (branches : List (Rose Region))
    : innermostOf first behind branches
      = (branches.find? fun branch => branch.value.contains first behind).map
          (innermost first behind) := by
  induction branches with
  | nil => rfl
  | cons branch rest ih =>
      rw [innermostOf]
      cases holds : branch.value.contains first behind with
      | true => simp [holds]
      | false => simp [holds, ih]

/-- A skeleton whose regions nest: each branch lies inside of what is above it, and no two branches
have an offset in common.
-/
inductive Laminar : Rose Region → Prop
  | node {region : Region} {below : List (Rose Region)}
    (inside : ∀ branch ∈ below, branch.value.offsets ⊆ region.offsets)
    (apart : below.Pairwise fun one other => Disjoint one.value.offsets other.value.offsets)
    (branches : ∀ branch ∈ below, Laminar branch)
    : Laminar (.node region below)

/-- The regions of a branch nest too. -/
theorem Laminar.branches {region : Region} {below : List (Rose Region)}
    (laminar : Laminar (.node region below))
    : ∀ branch ∈ below, Laminar branch := by
  cases laminar
  assumption

/-- All parts of a skeleton whose regions nest lie inside of its root, by induction on the address.
-/
theorem Laminar.offsets_subset {part : Rose Region} {address : List Nat} (laminar : Laminar skeleton)
    (there : skeleton.part? address = some part)
    : part.value.offsets ⊆ skeleton.value.offsets := by
  induction address generalizing skeleton with
  | nil =>
      cases there
      exact subset_rfl
  | cons index rest ih =>
      cases laminar with
      | node inside apart branches =>
          obtain ⟨branch, found, deeper⟩ := Rose.part?_cons there
          have member := List.mem_of_getElem? found
          exact (ih (branches branch member) deeper).trans (inside branch member)

/-- A region that holds a range is the root of a skeleton whose regions nest, or lies in a branch
that holds it.
-/
theorem Laminar.part?_cases {other : List Nat} {outer : Rose Region} {region : Region}
    {below : List (Rose Region)} (laminar : Laminar (.node region below)) (proper : first < behind)
    (there : (Rose.node region below).part? other = some outer)
    (holds : outer.value.contains first behind = true)
    : other = []
      ∨ ∃ index rest branch, other = index :: rest
          ∧ below[index]? = some branch ∧ branch.value.contains first behind = true
          ∧ branch.part? rest = some outer := by
  cases other with
  | nil => exact .inl rfl
  | cons index rest =>
      obtain ⟨branch, found, deeper⟩ := Rose.part?_cons there
      have within := (laminar.branches branch (List.mem_of_getElem? found)).offsets_subset deeper
      rw [Region.contains_iff_subset proper] at holds
      refine .inr ⟨index, rest, branch, rfl, found, ?_, deeper⟩
      exact (Region.contains_iff_subset proper).mpr (holds.trans within)

/-- Of the branches of a skeleton whose regions nest at most one holds a range of characters. -/
theorem Laminar.index_unique {region : Region} {below : List (Rose Region)}
    (laminar : Laminar (.node region below)) (proper : first < behind) {i j : Nat}
    {one other : Rose Region} (found : below[i]? = some one) (found' : below[j]? = some other)
    (holds : one.value.contains first behind = true)
    (holds' : other.value.contains first behind = true)
    : i = j := by
  cases laminar with
  | node inside apart branches =>
      by_contra differ
      obtain ⟨bound, rfl⟩ := List.getElem?_eq_some_iff.mp found
      obtain ⟨bound', rfl⟩ := List.getElem?_eq_some_iff.mp found'
      have disjoint : Disjoint below[i].value.offsets below[j].value.offsets := by
        rcases Nat.lt_or_gt_of_ne differ with less | more
        · exact List.pairwise_iff_getElem.mp apart i j bound bound' less
        · exact (List.pairwise_iff_getElem.mp apart j i bound' bound more).symm
      rw [Region.not_contains_of_disjoint proper disjoint holds] at holds'
      cases holds'

/-- An address leads to the innermost region around a range: the region there holds the range, none
directly below it does, and every region that does lies on the way from the root to it.
-/
structure InnermostAt (skeleton : Rose Region) (first behind : Int) (address : List Nat)
    (part : Rose Region) : Prop where
  there : skeleton.part? address = some part
  around : part.value.contains first behind = true
  beside : ∀ branch ∈ part.children, branch.value.contains first behind = false
  onTheWay : ∀ other outer,
    skeleton.part? other = some outer
    → outer.value.contains first behind = true
    → other <+: address

/-- There is at most one innermost region around a range. -/
theorem InnermostAt.unique {address other : List Nat} {part outer : Rose Region}
    (innermost : InnermostAt skeleton first behind address part)
    (innermost' : InnermostAt skeleton first behind other outer)
    : other = address ∧ outer = part := by
  have up := innermost.onTheWay other outer innermost'.there innermost'.around
  have down := innermost'.onTheWay address part innermost.there innermost.around
  obtain rfl : other = address := up.eq_of_length_le down.length_le
  exact ⟨rfl, Option.some.inj (innermost'.there.symm.trans innermost.there)⟩

/-- The way down ends at the innermost region, by induction on the skeleton: where no branch holds
the range its root is the innermost region, and else one branch has all regions below the root that
hold it.
-/
theorem Laminar.exists_innermostAt (laminar : Laminar skeleton) (proper : first < behind)
    (inside : skeleton.value.contains first behind = true)
    : ∃ address part,
        part.value = innermost first behind skeleton
        ∧ InnermostAt skeleton first behind address part := by
  induction skeleton using Rose.induction with
  | node region below ih =>
      rw [innermost, innermostOf_eq]
      cases held : below.find? fun branch => branch.value.contains first behind with
      | none =>
          have beside : ∀ branch ∈ below, branch.value.contains first behind = false := by
            simpa using List.find?_eq_none.mp held
          refine ⟨[], .node region below, rfl, rfl, inside, beside,
            fun other outer there holds => ?_⟩
          rcases laminar.part?_cases proper there holds
            with rfl | ⟨index, rest, branch, rfl, found, holds, -⟩
          · exact List.prefix_rfl
          · rw [beside branch (List.mem_of_getElem? found)] at holds
            cases holds
      | some branch =>
          have holds : branch.value.contains first behind = true := by
            simpa using List.find?_some held
          have member := List.mem_of_find?_eq_some held
          obtain ⟨index, found⟩ := List.getElem?_of_mem member
          obtain ⟨address, part, same, there, around, beside, above⟩ :=
            ih branch member (laminar.branches branch member) holds
          refine ⟨index :: address, part, same, ?_, around, beside, ?_⟩
          · simp only [Rose.part?, Rose.children, found, there]
          · intro other outer there' holds'
            rcases laminar.part?_cases proper there' holds'
              with rfl | ⟨index', rest, branch', rfl, found', within, deeper⟩
            · exact List.nil_prefix
            · obtain rfl := laminar.index_unique proper found found' holds within
              obtain rfl := Option.some.inj (found.symm.trans found')
              exact List.cons_prefix_cons.mpr ⟨rfl, above rest outer deeper holds'⟩

/-- Regions nest in whatever order siblings stand, by induction on how they are rearranged. -/
theorem Laminar.rearranged {skeleton' : Rose Region} (laminar : Laminar skeleton)
    (rearranged : skeleton.Rearranged skeleton')
    : Laminar skeleton' := by
  induction rearranged with
  | refl t => exact laminar
  | siblings region order =>
      cases laminar with
      | node inside apart branches =>
          refine .node (fun branch member => inside branch (order.mem_iff.mpr member)) ?_
            fun branch member => branches branch (order.mem_iff.mpr member)
          exact (order.pairwise_iff fun disjoint => disjoint.symm).mp apart
  | @branch region before after branch branch' rearranged ih =>
      cases laminar with
      | node inside apart branches =>
          -- inside of one branch nothing changes that its siblings or the region around can see
          have value := rearranged.value_eq
          have nested := ih (branches branch (by simp))
          refine .node ?_ ?_ ?_
          · intro other member
            rcases List.mem_append.mp member with earlier | here
            · exact inside other (by simp [earlier])
            · rcases List.mem_cons.mp here with rfl | later
              · rw [value]
                exact inside branch (by simp)
              · exact inside other (by simp [later])
          · simp only [List.pairwise_append, List.pairwise_cons, List.forall_mem_cons, value]
              at apart ⊢
            exact apart
          · intro other member
            rcases List.mem_append.mp member with earlier | here
            · exact branches other (by simp [earlier])
            · rcases List.mem_cons.mp here with rfl | later
              · exact nested
              · exact branches other (by simp [later])
  | trans first second ih ih' => exact ih' (ih laminar)

/-- In whatever order siblings stand whose regions nest, the same one holds a range first: no other
one does.
-/
theorem Laminar.find?_perm {region : Region} {below below' : List (Rose Region)}
    (laminar : Laminar (.node region below)) (proper : first < behind) (order : below.Perm below')
    : below'.find? (fun branch => branch.value.contains first behind)
      = below.find? fun branch => branch.value.contains first behind := by
  cases held : below.find? fun branch => branch.value.contains first behind with
  | none =>
      rw [List.find?_eq_none] at held ⊢
      exact fun branch member => held branch (order.mem_iff.mpr member)
  | some branch =>
      have member := order.mem_iff.mp (List.mem_of_find?_eq_some held)
      have holds : branch.value.contains first behind = true := by
        simpa using List.find?_some held
      cases held' : below'.find? fun branch => branch.value.contains first behind with
      | none => exact absurd holds (List.find?_eq_none.mp held' branch member)
      | some other =>
          have holds' : other.value.contains first behind = true := by
            simpa using List.find?_some held'
          obtain ⟨i, found⟩ := List.getElem?_of_mem member
          obtain ⟨j, found'⟩ := List.getElem?_of_mem (List.mem_of_find?_eq_some held')
          obtain rfl := (laminar.rearranged (.siblings region order)).index_unique
            proper found found' holds holds'
          exact found'.symm.trans found

/-- Where siblings stand in another order, the innermost region is the same, by induction on how
they are rearranged.
-/
theorem Laminar.innermost_rearranged {skeleton' : Rose Region} (laminar : Laminar skeleton)
    (proper : first < behind) (rearranged : skeleton.Rearranged skeleton')
    : innermost first behind skeleton' = innermost first behind skeleton := by
  induction rearranged with
  | refl t => rfl
  | @siblings region below below' order =>
      rw [innermost, innermost, innermostOf_eq, innermostOf_eq, laminar.find?_perm proper order]
  | @branch region before after branch branch' rearranged ih =>
      cases laminar with
      | node inside apart branches =>
          have deeper := ih (branches branch (by simp))
          rw [innermost, innermost, innermostOf_eq, innermostOf_eq, List.find?_append,
            List.find?_append, List.find?_cons, List.find?_cons, rearranged.value_eq]
          cases before.find? fun branch => branch.value.contains first behind with
          | some other => rfl
          | none =>
              cases branch.value.contains first behind with
              | true => simp [deeper]
              | false => rfl
  | trans first second ih ih' => exact (ih' (laminar.rearranged first)).trans (ih laminar)

/-- In a skeleton whose regions nest the way down comes to the one innermost region around a range
of characters inside of the root, and does so in whatever order siblings stand.
-/
theorem Laminar.innermost_unique (laminar : Laminar skeleton) (proper : first < behind)
    (inside : skeleton.value.contains first behind = true)
    : (∃ address part,
        part.value = innermost first behind skeleton
        ∧ InnermostAt skeleton first behind address part
        ∧ ∀ other outer, InnermostAt skeleton first behind other outer →
            other = address ∧ outer = part)
      ∧ ∀ skeleton', skeleton.Rearranged skeleton' →
          innermost first behind skeleton' = innermost first behind skeleton := by
  obtain ⟨address, part, value, least⟩ := laminar.exists_innermostAt proper inside
  exact ⟨⟨address, part, value, least, fun other outer => least.unique⟩,
    fun skeleton' => laminar.innermost_rearranged proper⟩

/-- A block of some extent, with nothing below it but what is given. -/
def blockAt (key : Nat) (start length : Int) (below : List (Rose Region)) : Rose Region :=
  .node ⟨key, start, length, RegionKind.block.word, none, []⟩ below

/-- Two blocks that touch. The second one has all of its extent in a block below it, and that has an
empty one.
-/
def touchingBlocks : Rose Region :=
  blockAt 0 0 9 [blockAt 1 0 4 [], blockAt 2 4 5 [blockAt 3 4 5 [blockAt 4 5 0 []]]]

/-- The regions of these blocks nest. -/
theorem laminar_touchingBlocks : Laminar touchingBlocks := by
  have leaf (key : Nat) (start length : Int) : Laminar (blockAt key start length []) :=
    .node (by simp) .nil (by simp)
  have third : Laminar (blockAt 3 4 5 [blockAt 4 5 0 []]) := by
    refine .node ?_ (List.pairwise_singleton _ _) ?_
    · simp [blockAt, Rose.value, Region.offsets, Region.stop]
    · exact List.forall_mem_singleton.mpr (leaf 4 5 0)
  have second : Laminar (blockAt 2 4 5 [blockAt 3 4 5 [blockAt 4 5 0 []]]) := by
    refine .node ?_ (List.pairwise_singleton _ _) (List.forall_mem_singleton.mpr third)
    simp [blockAt, Rose.value, Region.offsets, Region.stop]
  refine .node ?_ (List.pairwise_pair.mpr ?_) ?_
  · simp [blockAt, Rose.value, Region.offsets, Region.stop, Set.Ico_subset_Ico]
  · simp [blockAt, Rose.value, Region.offsets, Region.stop]
  · exact List.forall_mem_cons.mpr ⟨leaf 1 0 4, List.forall_mem_singleton.mpr second⟩

/-- Where the second block starts, the one below it is the innermost, whichever of the two that touch
comes first.
-/
theorem touchingBlocks_innermost
    : Laminar touchingBlocks
      ∧ (4 : Int) < 6
      ∧ touchingBlocks.value.contains 4 6 = true
      ∧ (innermost 4 6 touchingBlocks).key = 3
      ∧ (∃ address part,
          part.value = innermost 4 6 touchingBlocks
          ∧ InnermostAt touchingBlocks 4 6 address part)
      ∧ (innermost 4 6
          (blockAt 0 0 9 [blockAt 2 4 5 [blockAt 3 4 5 [blockAt 4 5 0 []]], blockAt 1 0 4 []])).key = 3 := by
  have proper : (4 : Int) < 6 := by decide
  have inside : touchingBlocks.value.contains 4 6 = true := by decide
  have key : (innermost 4 6 touchingBlocks).key = 3 := by decide
  obtain ⟨⟨address, part, value, least, -⟩, same⟩ :=
    laminar_touchingBlocks.innermost_unique proper inside
  refine ⟨laminar_touchingBlocks, proper, inside, key, ⟨address, part, value, least⟩, ?_⟩
  exact (congrArg Region.key (same _ (.siblings _ (.swap _ _ _)))).trans key

end Source

end FoldTree
