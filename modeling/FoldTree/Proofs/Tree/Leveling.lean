import FoldTree.Proofs.Tree.History
import FoldTree.Proofs.Tree.Levels

/-! Levels under edits. Giving levels takes a node on level zero for the root and passes it by, and a
node stays on level zero once it was declared the root. So a node gets the level next to its
parent's just where it was never declared the root.
-/

namespace FoldTree.Tree

variable {tree other : Tree} {crowned : NodeId → Prop} {root : NodeId}

/-- The level of a node. -/
def levelAt (tree : Tree) (id : NodeId) : Option Int :=
  tree.nodes[id]?.map Node.level

/-- A node that has a level is there. -/
theorem lt_of_levelAt {id : NodeId} {level : Int} (has : tree.levelAt id = some level)
    : id < tree.nodes.length := by
  obtain ⟨_, found, -⟩ := Option.map_eq_some_iff.mp has
  exact (List.getElem?_eq_some_iff.mp found).1

/-- A node that is there has a level. -/
theorem exists_levelAt {id : NodeId} (made : id < tree.nodes.length)
    : ∃ level, tree.levelAt id = some level :=
  ⟨_, by rw [levelAt, List.getElem?_eq_getElem made]; rfl⟩

/-- What is linked below a reached node is below the first one. -/
theorem above_of_link {top parent child : NodeId} (reached : parent = top ∨ tree.Above top parent)
    (link : child ∈ tree.childrenOf parent)
    : tree.Above top child := by
  rcases reached with rfl | up
  · exact .single link
  · exact up.tail link

/-! ### Declared roots -/

/-- An edit declares a node the root. -/
def Edit.Crowns (tree : Tree) (id : NodeId) : Edit → Prop
  | .setRoot name => ∃ node, tree.find name = .ok node ∧ node.id = id
  | _ => False

/-- An edit that fails declares nothing. -/
theorem Edit.not_crowns {edit : Edit} {fault : Fault} (fails : edit.outcome tree = .error fault)
    (id : NodeId)
    : ¬edit.Crowns tree id := by
  intro crowns
  cases edit with
  | setRoot name =>
      obtain ⟨node, found, -⟩ := crowns
      simp [outcome, found, Except.map] at fails
  | _ => exact crowns

/-- Some edit of a run declares a node the root. -/
def EverRoot : Tree → List Edit → NodeId → Prop
  | _, [], _ => False
  | tree, edit :: rest, id => edit.Crowns tree id ∨ (tree.after edit).EverRoot rest id

/-- Just the crowned nodes are on level zero, the root is one of them, and no node is below the level
of loose nodes.
-/
structure Ranked (tree : Tree) (crowned : NodeId → Prop) : Prop where
  zero : ∀ id level, tree.levelAt id = some level → (level = 0 ↔ crowned id)
  low : ∀ id level, tree.levelAt id = some level → -1 ≤ level
  root : ∀ id, tree.root = some id → crowned id
  known : ∀ id, crowned id → id < tree.nodes.length

/-- A tree of no nodes has no levels. -/
theorem empty_ranked (source : List Char) (file : Path)
    : (empty source file).Ranked fun _ => False :=
  ⟨nofun, nofun, nofun, nofun⟩

/-! ### Edits that leave levels alone -/

/-- One tree has the root and the levels of another, and perhaps loose nodes more. -/
def KeepsLevels (tree other : Tree) : Prop :=
  other.root = tree.root
    ∧ ∃ fresh,
        other.nodes.map Node.level = tree.nodes.map Node.level ++ List.replicate fresh (-1)

namespace KeepsLevels

/-- A tree keeps its own levels. -/
theorem refl (tree : Tree) : tree.KeepsLevels tree :=
  ⟨rfl, 0, (List.append_nil _).symm⟩

/-- Levels that are kept twice are kept. -/
theorem trans {first second third : Tree} (before : first.KeepsLevels second)
    (after : second.KeepsLevels third)
    : first.KeepsLevels third := by
  obtain ⟨root, fresh, levels⟩ := before
  obtain ⟨root', fresh', levels'⟩ := after
  refine ⟨root'.trans root, fresh + fresh', ?_⟩
  rw [levels', levels, List.append_assoc, List.replicate_append_replicate]

/-- A change of one node that leaves its level keeps levels. -/
theorem update (tree : Tree) (id : NodeId) {f : Node → Node}
    (same : ∀ node, (f node).level = node.level)
    : tree.KeepsLevels (tree.update id f) :=
  ⟨rfl, 0, (map_modify_of_same same tree.nodes id).trans (List.append_nil _).symm⟩

/-- A new node is loose. -/
theorem newNode (tree : Tree) (region : Region) (terms : Terms)
    : tree.KeepsLevels (tree.newNode region terms) := by
  refine ⟨rfl, 1, ?_⟩
  rw [Tree.newNode, List.map_append]
  rfl

/-- A link keeps levels. -/
theorem link (tree : Tree) (parent child : NodeId)
    : tree.KeepsLevels (tree.link parent child) := by
  have upper := update tree parent (f := fun node => { node with
    children := node.children ++ [child] }) fun _ => rfl
  exact upper.trans (update _ child fun _ => rfl)

/-- Grafting keeps levels: its nodes are new. -/
theorem addNodes {remarks : List Remark} {left : Tree} (made : tree.addNodes remarks = .ok left)
    : tree.KeepsLevels left := by
  refine addNodes_preserves tree.KeepsLevels (fun remark _ id now keeps => keeps.trans ?_) made
    (.refl tree)
  exact (newNode now _ _).trans (link _ id now.nodes.length)

/-- Where levels are kept, a node has its level from before, or is new and loose. -/
theorem levelAt (keeps : tree.KeepsLevels other) {id : NodeId} {level : Int}
    (has : other.levelAt id = some level)
    : tree.levelAt id = some level ∨ tree.nodes.length ≤ id ∧ level = -1 := by
  obtain ⟨-, fresh, levels⟩ := keeps
  rw [Tree.levelAt, ← List.getElem?_map, levels] at has
  rcases Nat.lt_or_ge id tree.nodes.length with old | new
  · rw [List.getElem?_append_left (by rwa [List.length_map]), List.getElem?_map] at has
    exact Or.inl has
  · rw [List.getElem?_append_right (by rwa [List.length_map])] at has
    exact Or.inr ⟨new, List.eq_of_mem_replicate (List.mem_of_getElem? has)⟩

/-- Where levels are kept, just the same nodes are on level zero. -/
theorem ranked (keeps : tree.KeepsLevels other) (ranked : tree.Ranked crowned)
    : other.Ranked crowned := by
  have longer : tree.nodes.length ≤ other.nodes.length := by
    obtain ⟨-, fresh, levels⟩ := keeps
    have count := congrArg List.length levels
    simp only [List.length_map, List.length_append] at count
    omega
  refine ⟨fun id level has => ?_, fun id level has => ?_, fun id top => ?_, fun id crown => ?_⟩
  · rcases keeps.levelAt has with old | ⟨new, rfl⟩
    · exact ranked.zero id level old
    · refine iff_of_false (by decide) fun crown => ?_
      exact absurd (ranked.known id crown) (Nat.not_lt.mpr new)
  · rcases keeps.levelAt has with old | ⟨-, rfl⟩
    · exact ranked.low id level old
    · exact Int.le_refl _
  · exact ranked.root id (keeps.1 ▸ top)
  · exact Nat.lt_of_lt_of_le (ranked.known id crown) longer

end KeepsLevels

/-! ### Giving levels -/

/-- Giving levels makes no nodes. -/
theorem length_foldl_setLevel (tree : Tree) (ids : List NodeId)
    : (ids.foldl setLevel tree).nodes.length = tree.nodes.length := by
  simpa using congrArg List.length (setLevels_flat tree ids).2.2

/-- A node that is given no level has its own, by induction on the nodes that are given one. -/
theorem levelAt_foldl_setLevel (tree : Tree) {ids : List NodeId} {id : NodeId} (other : id ∉ ids)
    : (ids.foldl setLevel tree).levelAt id = tree.levelAt id := by
  induction ids generalizing tree with
  | nil => rfl
  | cons first rest ih =>
      rw [List.mem_cons, not_or] at other
      rw [List.foldl_cons, ih _ other.2, levelAt, getElem?_setLevel, Option.map_map, levelAt]
      simp [other.1, Function.comp_def]

/-- A node on level zero stays there. -/
theorem levelAt_setLevel_zero {id : NodeId} (zero : tree.levelAt id = some 0) (place : NodeId)
    : (tree.setLevel id).levelAt place = tree.levelAt place := by
  rw [levelAt, getElem?_setLevel, Option.map_map, levelAt]
  by_cases same : place = id
  · subst same
    obtain ⟨node, found, level⟩ := Option.map_eq_some_iff.mp zero
    simp [found, level]
  · simp [same, Function.comp_def]

/-- Any other node gets the level next to its parent's. -/
theorem levelAt_setLevel_self {id parent : NodeId} {level above : Int}
    (has : tree.levelAt id = some level) (other : level ≠ 0)
    (up : tree.parentOf id = some parent) (upper : tree.levelAt parent = some above)
    : (tree.setLevel id).levelAt id = some (above + 1) := by
  obtain ⟨node, found, rfl⟩ := Option.map_eq_some_iff.mp has
  obtain ⟨holder, found', rfl⟩ := Option.map_eq_some_iff.mp upper
  rw [parentOf, found, Option.bind_some] at up
  rw [levelAt, getElem?_setLevel, found]
  simp [other, levelUnder, up, found']

/-! ### Parents first -/

/-- Each node of a list but one comes behind its parent. -/
def ParentsFirst (tree : Tree) (top : NodeId) (ids : List NodeId) : Prop :=
  ∀ before id after, ids = before ++ id :: after
    → id = top ∨ ∃ parent ∈ before, id ∈ tree.childrenOf parent

/-- The front of a list with parents first has them first. -/
theorem ParentsFirst.of_append {front back : List NodeId}
    (first : tree.ParentsFirst root (front ++ back))
    : tree.ParentsFirst root front := by
  rintro before id after rfl
  exact first before id (after ++ back) (by simp)

/-- The node above in a lineage has the one below among its children, by induction on the depth. -/
theorem child_of_lineage_below {depth : Nat} {top : NodeId} {above : List NodeId}
    (start : ∀ parent rest, above = parent :: rest → top ∈ tree.childrenOf parent)
    {lineage : NodeId × List NodeId} (member : lineage ∈ (tree.below depth top).lineages above)
    {parent : NodeId} {rest : List NodeId} (up : lineage.2 = parent :: rest)
    : lineage.1 ∈ tree.childrenOf parent := by
  induction depth generalizing top above with
  | zero =>
      cases List.mem_singleton.mp member
      exact start parent rest up
  | succ depth ih =>
      rw [below, Rose.lineages, Rose.lineagesAll_eq_flatMap, List.mem_cons, List.mem_flatMap]
        at member
      rcases member with rfl | ⟨_, inside, member⟩
      · exact start parent rest up
      · obtain ⟨child, link, rfl⟩ := List.mem_map.mp inside
        refine ih (fun parent rest same => ?_) member
        obtain ⟨rfl, -⟩ := List.cons.inj same
        exact link

/-- Iterating from a node comes to parents first, however deep it goes. -/
theorem preorder_parentsFirst (tree : Tree) (top : NodeId)
    : tree.ParentsFirst top (tree.preorder top) := by
  intro before id after same
  rw [preorder, ← Rose.map_fst_lineages []] at same
  obtain ⟨front, _, split, rfl, behind⟩ := List.map_eq_append_iff.mp same
  obtain ⟨lineage, rest, rfl, rfl, -⟩ := List.map_eq_cons_iff.mp behind
  rcases Rose.lineages_split _ split with ⟨-, first⟩ | ⟨parent, member, up⟩
  · refine Or.inl ((congrArg Prod.fst first).trans ?_)
    unfold subtree
    cases tree.nodes.length <;> rfl
  · have here : lineage ∈ (tree.subtree top).lineages [] :=
      split ▸ List.mem_append_right _ List.mem_cons_self
    exact Or.inr ⟨parent.1, List.mem_map_of_mem member,
      child_of_lineage_below (fun _ _ same => absurd same.symm (List.cons_ne_nil _ _)) here up⟩

/-- A node that can get its level: it is crowned, or its parent has got a proper one. -/
def Due (tree : Tree) (crowned : NodeId → Prop) (id : NodeId) : Prop :=
  crowned id
    ∨ ∃ parent above, tree.parentOf id = some parent ∧ tree.levelAt parent = some above ∧ 0 ≤ above

/-- A node that gets its level is crowned and on level zero, or below its parent. -/
theorem Ranked.levelAt_setLevel (ranked : tree.Ranked crowned) {id : NodeId}
    (due : tree.Due crowned id) {level : Int}
    (found : (tree.setLevel id).levelAt id = some level)
    : (crowned id ∧ level = 0) ∨ (¬crowned id ∧ 1 ≤ level) := by
  have made : id < tree.nodes.length := by
    rw [← tree.length_foldl_setLevel [id]]
    exact lt_of_levelAt found
  obtain ⟨before, has⟩ := exists_levelAt made
  by_cases crown : crowned id
  · have zero := (ranked.zero id before has).mpr crown
    rw [levelAt_setLevel_zero (zero ▸ has), has] at found
    exact Or.inl ⟨crown, (Option.some.inj found).symm.trans zero⟩
  · obtain ⟨parent, above, up, upper, proper⟩ := due.resolve_left crown
    have other : before ≠ 0 := fun zero => crown ((ranked.zero id before has).mp zero)
    rw [levelAt_setLevel_self has other up upper] at found
    cases found
    exact Or.inr ⟨crown, by omega⟩

/-- Giving a node its level leaves just the crowned nodes on level zero. -/
theorem Ranked.setLevel (ranked : tree.Ranked crowned) {id : NodeId}
    (due : tree.Due crowned id)
    : (tree.setLevel id).Ranked crowned := by
  have count : (tree.setLevel id).nodes.length = tree.nodes.length :=
    tree.length_foldl_setLevel [id]
  have old {place : NodeId} (other : place ≠ id)
      : (tree.setLevel id).levelAt place = tree.levelAt place :=
    tree.levelAt_foldl_setLevel (List.not_mem_cons_of_ne_of_not_mem other List.not_mem_nil)
  refine ⟨fun place level found => ?_, fun place level found => ?_, fun place top => ?_,
    fun place crown => count ▸ ranked.known place crown⟩
  · by_cases same : place = id
    · subst same
      rcases ranked.levelAt_setLevel due found with ⟨crown, rfl⟩ | ⟨plain, above⟩
      · exact iff_of_true rfl crown
      · exact iff_of_false (by omega) plain
    · exact ranked.zero place level (old same ▸ found)
  · by_cases same : place = id
    · subst same
      rcases ranked.levelAt_setLevel due found with ⟨-, rfl⟩ | ⟨-, above⟩ <;> omega
    · exact ranked.low place level (old same ▸ found)
  · exact ranked.root place ((tree.setLevels_flat [id]).1 ▸ top)

/-- While levels are given out with parents first, just the crowned nodes are on level zero, and no
node that has got its level is below it. Witness: induction on the nodes that have got theirs.
-/
theorem Ranked.foldl_setLevel (ranked : tree.Ranked crowned) (linked : tree.Linked)
    (crown : crowned root) {ids : List NodeId} (first : tree.ParentsFirst root ids)
    : (ids.foldl Tree.setLevel tree).Ranked crowned
      ∧ ∀ id ∈ ids, ∀ level, (ids.foldl Tree.setLevel tree).levelAt id = some level → 0 ≤ level := by
  induction ids using List.reverseRecOn with
  | nil => exact ⟨ranked, nofun⟩
  | append_singleton ids id ih =>
      obtain ⟨now, proper⟩ := ih first.of_append
      have due : (ids.foldl Tree.setLevel tree).Due crowned id := by
        rcases first ids id [] rfl with rfl | ⟨parent, before, link⟩
        · exact Or.inl crown
        · have made := (linked.lt_of_mem link).1
          rw [← tree.length_foldl_setLevel ids] at made
          obtain ⟨above, upper⟩ := exists_levelAt made
          have up := parentOf_of_flat (tree.setLevels_flat ids).2.2 id
          exact Or.inr ⟨parent, above, up.trans (linked.mem_iff.mp link), upper,
            proper parent before above upper⟩
      rw [List.foldl_append, List.foldl_cons, List.foldl_nil]
      refine ⟨now.setLevel due, fun place member level found => ?_⟩
      by_cases same : place = id
      · subst same
        rcases now.levelAt_setLevel due found with ⟨-, rfl⟩ | ⟨-, above⟩ <;> omega
      · have old := (List.mem_append.mp member).resolve_right (by simpa using same)
        have kept := (ids.foldl Tree.setLevel tree).levelAt_foldl_setLevel
          (List.not_mem_cons_of_ne_of_not_mem same List.not_mem_nil)
        exact proper place old level (kept ▸ found)

/-- A node that is declared the root joins those on level zero. -/
theorem Ranked.setRoot (ranked : tree.Ranked crowned) {id : NodeId}
    (made : id < tree.nodes.length)
    : (tree.setRoot id).Ranked fun other => crowned other ∨ other = id := by
  have levels (place : NodeId) : (tree.setRoot id).levelAt place
      = (tree.levelAt place).map fun level => if place = id then 0 else level := by
    simp only [levelAt, Tree.setRoot, update, List.getElem?_modify]
    by_cases same : place = id
    · cases tree.nodes[place]? <;> simp [same]
    · cases tree.nodes[place]? <;> simp [same, Ne.symm same]
  refine ⟨fun place level found => ?_, fun place level found => ?_, fun place top => ?_,
    fun place crown => ?_⟩
  · rw [levels] at found
    obtain ⟨before, has, rfl⟩ := Option.map_eq_some_iff.mp found
    by_cases same : place = id
    · simp [same]
    · simpa [same] using ranked.zero place before has
  · rw [levels] at found
    obtain ⟨before, has, rfl⟩ := Option.map_eq_some_iff.mp found
    split
    · decide
    · exact ranked.low place before has
  · exact Or.inr (Option.some.inj top).symm
  · have count : (tree.setRoot id).nodes.length = tree.nodes.length := by
      simp [Tree.setRoot, update]
    rcases crown with crown | rfl
    · exact count ▸ ranked.known place crown
    · exact count ▸ made

/-! ### Runs -/

/-- What an edit makes has just the nodes on level zero that were crowned or that it declares the root.
By cases on the edit.
-/
theorem Ranked.makes (ranked : tree.Ranked crowned) (linked : tree.Linked) {edit : Edit}
    {left : Tree} (makes : edit.Makes tree left)
    : left.Ranked fun id => crowned id ∨ edit.Crowns tree id := by
  -- all edits but a declaration and a pass of levels leave the levels of all nodes
  have kept (keeps : tree.KeepsLevels left) (plain : ∀ id, ¬edit.Crowns tree id)
      : left.Ranked fun id => crowned id ∨ edit.Crowns tree id := by
    simpa only [plain, or_false] using keeps.ranked ranked
  cases makes with
  | newNode region => exact kept (.newNode tree region .empty) fun _ => id
  | addChild => exact kept (.link tree _ _) fun _ => id
  | @setRoot name node found =>
      have known := (List.getElem?_eq_some_iff.mp (linked.numbered.of_find found)).1
      have same (id : NodeId) : (Edit.setRoot name).Crowns tree id ↔ id = node.id := by
        simp only [Edit.Crowns, found, Except.ok.injEq, exists_eq_left', eq_comm]
      simpa only [same] using ranked.setRoot known
  | addTerm | addTerms | removeTerms | setUnfolded =>
      exact kept (.update tree _ fun _ => rfl) fun _ => id
  | @setLevels root rooted =>
      have pass := ranked.foldl_setLevel linked (ranked.root root rooted)
        (tree.preorder_parentsFirst root)
      simpa only [Edit.Crowns, or_false] using pass.1
  | addNodes added => exact kept (.addNodes added) fun _ => id
  | setBudget | shrinkBudget => exact kept (.refl tree) fun _ => id

/-- What a run of edits leaves behind has just the nodes on level zero that were crowned before or
that the run declares the root, by induction on the run.
-/
theorem Ranked.afterAll (ranked : tree.Ranked crowned) (linked : tree.Linked)
    (edits : List Edit)
    : (tree.afterAll edits).Ranked fun id => crowned id ∨ tree.EverRoot edits id := by
  induction edits generalizing tree crowned with
  | nil =>
      simp only [EverRoot, or_false]
      exact ranked
  | cons edit rest ih =>
      have next : (tree.after edit).Ranked fun id => crowned id ∨ edit.Crowns tree id := by
        rw [after_eq]
        cases made : edit.outcome tree with
        | error fault =>
            have plain (id : NodeId) : ¬edit.Crowns tree id := Edit.not_crowns made id
            simp only [plain, or_false]
            exact ranked
        | ok left => exact ranked.makes linked (Edit.makes_of_outcome made)
      simp only [EverRoot, ← or_assoc]
      exact ih next (linked.after edit).1

/-- Giving levels along a finite tree of links puts a child of a reached node on the level next to
this node's, unless the child is crowned. Witness: when the child gets its level, its parent has
got its own, and neither gets another one.
-/
theorem Ranked.levels_child (ranked : tree.Ranked crowned) (linked : tree.Linked)
    (rooted : tree.root = some root) (finite : tree.FiniteFrom root) {parent child : NodeId}
    (reached : parent = root ∨ tree.Above root parent) (link : child ∈ tree.childrenOf parent)
    : ∃ above below,
        ((tree.preorder root).foldl Tree.setLevel tree).levelAt parent = some above
        ∧ ((tree.preorder root).foldl Tree.setLevel tree).levelAt child = some below
        ∧ 0 ≤ above
        ∧ (crowned child → below = 0)
        ∧ (¬crowned child → below = above + 1) := by
  have crown := ranked.root root rooted
  have first := tree.preorder_parentsFirst root
  obtain ⟨once, members⟩ := linked.preorder_once (ranked.known root crown) finite
  obtain ⟨final, proper⟩ := ranked.foldl_setLevel linked crown first
  have lies := above_of_link reached link
  obtain ⟨before, after, split⟩ := List.append_of_mem ((members child).mpr (Or.inr lies))
  obtain ⟨above, upper⟩ := exists_levelAt
    (tree.length_foldl_setLevel (tree.preorder root) ▸ (linked.lt_of_mem link).1)
  obtain ⟨below, lower⟩ := exists_levelAt
    (tree.length_foldl_setLevel (tree.preorder root) ▸ (linked.lt_of_mem link).2)
  refine ⟨above, below, upper, lower, proper parent ((members parent).mpr reached) above upper,
    (final.zero child below lower).mpr, fun plain => ?_⟩
  rw [split] at first once upper lower
  obtain ⟨other, early, link'⟩ := (first before child after rfl).resolve_left
    fun same => plain (same ▸ crown)
  obtain rfl : other = parent :=
    Option.some.inj ((linked.mem_iff.mp link').symm.trans (linked.mem_iff.mp link))
  obtain ⟨fresh, apart⟩ := List.nodup_middle.mp once |> List.nodup_cons.mp
  rw [List.mem_append, not_or] at fresh
  have late : other ∉ after := fun member =>
    (List.nodup_append.mp apart).2.2 other early other member rfl
  have differ : other ≠ child := fun same => fresh.1 (same ▸ early)
  rw [List.foldl_append, List.foldl_cons] at upper lower
  rw [levelAt_foldl_setLevel _ late] at upper
  rw [levelAt_foldl_setLevel _ fresh.2] at lower
  -- the parent has its last level when the child, still on its first one, gets its own
  have settled := (before.foldl Tree.setLevel tree).levelAt_foldl_setLevel
    (List.not_mem_cons_of_ne_of_not_mem differ List.not_mem_nil)
  obtain ⟨start, has⟩ := exists_levelAt (linked.lt_of_mem link).2
  have low : start ≠ 0 := fun zero => plain ((ranked.zero child start has).mp zero)
  have up := (parentOf_of_flat (tree.setLevels_flat before).2.2 child).trans
    (linked.mem_iff.mp link)
  have given := levelAt_setLevel_self ((tree.levelAt_foldl_setLevel fresh.1).trans has) low up
    (settled.symm.trans upper)
  exact Option.some.inj (lower.symm.trans given)

/-- Giving levels after any edits of an empty tree, where the nodes that the root reaches form a
finite tree: it does not fail, and the root is on level zero. A child of a reached node is on the
level next to its parent's unless some edit declared it the root; then it is on level zero. So the
levels of all reached nodes count the steps from the root just if no other one of them ever was it.
-/
theorem afterAll_levels (source : List Char) (file : Path) (edits : List Edit) {root : NodeId}
    (rooted : ((empty source file).afterAll edits).root = some root)
    (finite : ((empty source file).afterAll edits).FiniteFrom root)
    : let tree := (empty source file).afterAll edits
      let everRoot := (empty source file).EverRoot edits
      ∃ levelled,
        tree.setLevels = .ok levelled
        ∧ levelled.levelAt root = some 0
        ∧ (∀ parent child,
            (parent = root ∨ tree.Above root parent)
            → child ∈ tree.childrenOf parent
            → ∃ above below,
                levelled.levelAt parent = some above
                ∧ levelled.levelAt child = some below
                ∧ 0 ≤ above
                ∧ (everRoot child → below = 0)
                ∧ (¬everRoot child → below = above + 1))
        ∧ ((∀ parent child,
              (parent = root ∨ tree.Above root parent)
              → child ∈ tree.childrenOf parent
              → levelled.levelAt child = (levelled.levelAt parent).map (· + 1))
            ↔ ∀ id, tree.Above root id → ¬everRoot id) := by
  intro tree everRoot
  have linked : tree.Linked := ((empty_linked source file).afterAll edits).1
  have ranked : tree.Ranked everRoot := by
    simpa only [false_or] using (empty_ranked source file).afterAll (empty_linked source file) edits
  have crown := ranked.root root rooted
  have each (parent child : NodeId) (reached : parent = root ∨ tree.Above root parent)
      (link : child ∈ tree.childrenOf parent) :=
    ranked.levels_child linked rooted finite reached link
  obtain ⟨final, -⟩ := ranked.foldl_setLevel linked crown (tree.preorder_parentsFirst root)
  refine ⟨(tree.preorder root).foldl Tree.setLevel tree, ?_, ?_, each, ?_⟩
  · simp only [setLevels, rootId, show tree.root = some root from rooted, Except.map]
  · obtain ⟨level, has⟩ := exists_levelAt (final.known root crown)
    rw [has, (final.zero root level has).mpr crown]
  · constructor
    · intro all id lies ever
      obtain ⟨parent, up, link⟩ := Relation.TransGen.tail'_iff.mp lies
      have reached := Relation.reflTransGen_iff_eq_or_transGen.mp up
      obtain ⟨above, below, upper, lower, proper, zero, -⟩ := each parent id reached link
      have next := all parent id reached link
      rw [upper, lower, Option.map_some, zero ever, Option.some.injEq] at next
      omega
    · intro never parent child reached link
      obtain ⟨above, below, upper, lower, -, -, next⟩ := each parent child reached link
      rw [upper, lower, Option.map_some, next (never child (above_of_link reached link))]

/-- A node that was the root before another one was put above it stays on level zero. -/
theorem formerRoot_afterAll_levels
    : let region : Region := ⟨0, 0, 3, "module", none, []⟩
      let edits : List Edit :=
        [.newNode region, .newNode region, .setRoot 1, .addChild 0 1, .setRoot 0]
      let tree := (empty [] ⟨[], [['a']]⟩).afterAll edits
      tree.root = some 0
        ∧ tree.FiniteFrom 0
        ∧ ∃ levelled,
            tree.setLevels = .ok levelled
            ∧ levelled.levelAt 0 = some 0
            ∧ levelled.levelAt 1 = some 0
            ∧ 1 ∈ tree.childrenOf 0 := by
  intro region edits tree
  have never : (empty [] ⟨[], [['a']]⟩).NeverLoops edits := by
    refine ⟨fun _ _ => False.elim, fun _ _ => False.elim, fun _ _ => False.elim, ?_,
      fun _ _ => False.elim, trivial⟩
    exact Edit.open_of_childless rfl rfl (by decide) rfl
  have acyclic := ((empty_linked [] ⟨[], [['a']]⟩).afterAll edits).2.2 never (empty_acyclic _ _)
  have finite : tree.FiniteFrom 0 := fun id _ => acyclic id
  have ever : (empty [] ⟨[], [['a']]⟩).EverRoot edits 1 :=
    Or.inr (Or.inr (Or.inl ⟨_, rfl, rfl⟩))
  have link : 1 ∈ tree.childrenOf 0 := by decide
  obtain ⟨levelled, made, top, each, -⟩ := afterAll_levels [] ⟨[], [['a']]⟩ edits rfl finite
  obtain ⟨above, below, -, lower, -, zero, -⟩ := each 0 1 (Or.inl rfl) link
  exact ⟨rfl, finite, levelled, made, top, zero ever ▸ lower, link⟩

end FoldTree.Tree
