import FoldTree.Proofs.Tree.Forest

/-! What holds of a tree whatever has been done to it. Each edit is harmless to a tree whose links
agree, and so is every run of edits; only an attachment can close a circle, and where none does, the
nodes form a forest.
-/

namespace FoldTree.Tree

variable {tree : Tree}

/-- Links and nodes do not depend on the rest of a tree. -/
theorem Linked.of_nodes (linked : tree.Linked) {other : Tree} (same : other.nodes = tree.nodes)
    : tree.Follows other := by
  refine linked.follows (fun id node found => ⟨node, same ▸ found, .refl node⟩)
    (fun id node found => linked.numbered id node (same ▸ found)) fun id => ?_
  simp only [childrenOf, parentOf, same, and_self]

/-- Harmless steps one after the other are harmless, by induction on them. -/
theorem Follows.foldl {α : Type} {step : Tree → α → Tree} {base : Tree}
    (harmless : ∀ (now : Tree) (item : α), base.Follows now → now.Follows (step now item))
    (items : List α) (start : base.Follows tree)
    : base.Follows (items.foldl step tree) := by
  induction items generalizing tree with
  | nil => exact start
  | cons item rest ih => exact ih (start.trans (harmless tree item start))

/-! ### Grafts and levels -/

/-- A node with no children stands above none. -/
theorem not_above_of_childless {upper : NodeId} (bare : tree.childrenOf upper = [])
    (lower : NodeId)
    : ¬tree.Above upper lower := by
  intro lies
  obtain ⟨child, link, -⟩ := Relation.TransGen.head'_iff.mp lies
  rw [bare] at link
  exact absurd link List.not_mem_nil

/-- A graft is harmless: its node is new, so it has no parent and stands above none. -/
theorem Linked.graft (linked : tree.Linked) {id : NodeId} (made : id < tree.nodes.length)
    (remark : Remark)
    : tree.Follows (tree.graft id remark) := by
  have start := linked.newNode remark.region (Terms.empty.addAll remark.terms)
  have count : (tree.newNode remark.region (Terms.empty.addAll remark.terms)).nodes.length
      = tree.nodes.length + 1 := by
    simp [Tree.newNode]
  have links := tree.links_newNode remark.region (Terms.empty.addAll remark.terms)
    tree.nodes.length
  have beyond : tree.nodes[tree.nodes.length]? = none := List.getElem?_eq_none (Nat.le_refl _)
  have bare : tree.childrenOf tree.nodes.length = [] := by simp only [childrenOf, beyond]
  have loose : tree.parentOf tree.nodes.length = none := by simp only [parentOf, beyond]; rfl
  rw [Tree.graft]
  generalize tree.newNode remark.region (Terms.empty.addAll remark.terms) = grown at *
  have above : id < grown.nodes.length := count ▸ Nat.lt_succ_of_lt made
  have below : tree.nodes.length < grown.nodes.length := count ▸ Nat.lt_succ_self _
  obtain ⟨linked', continues⟩ := start.linked.link above below (links.2.trans loose)
  refine start.trans ⟨linked', continues, fun acyclic => acyclic.link above below ?_ ?_⟩
  · exact Nat.ne_of_gt made
  · exact not_above_of_childless (links.1.trans bare) id

/-- Grafting at a node is harmless. -/
theorem Linked.graftAt (linked : tree.Linked) (remarks : List Remark) (id : NodeId)
    : tree.Follows (graftAt remarks id tree) := by
  cases found : tree.nodes[id]? with
  | none =>
      rw [graftAt_of_missing found]
      exact .refl linked
  | some node =>
      rw [Tree.graftAt]
      refine Follows.foldl (fun now remark follows => ?_) _ (.refl linked)
      obtain ⟨later, there, -⟩ := follows.continues id node found
      exact follows.linked.graft (List.getElem?_eq_some_iff.mp there).1 remark

/-- Grafting along the walk from the root is harmless. -/
theorem Linked.addNodes (linked : tree.Linked) {remarks : List Remark} {left : Tree}
    (made : tree.addNodes remarks = .ok left)
    : tree.Follows left := by
  obtain ⟨root, -, rfl⟩ := Outcome.map_eq_ok.mp made
  refine walk_preserves tree.Follows (fun id _ now follows => ?_) _ root () (.refl linked)
  exact follows.trans (follows.linked.graftAt remarks id)

/-- Giving levels is harmless. -/
theorem Linked.foldl_setLevel (linked : tree.Linked) (ids : List NodeId)
    : tree.Follows (ids.foldl setLevel tree) := by
  refine Follows.foldl (fun now id follows => ?_) _ (.refl linked)
  rw [setLevel]
  split
  · exact .refl follows.linked
  · split
    · exact .refl follows.linked
    · exact follows.linked.update id (fun _ => rfl) (fun _ => rfl) fun _ =>
        ⟨rfl, rfl, rfl, fun _ up => up, fun unfolded => unfolded⟩

/-- Giving terms is harmless. -/
theorem Linked.addTerms (linked : tree.Linked) (id : NodeId) (terms : List String)
    : tree.Follows (tree.addTerms id terms) :=
  linked.update id (fun _ => rfl) (fun _ => rfl) fun _ =>
    ⟨rfl, rfl, rfl, fun _ up => up, fun unfolded => unfolded⟩

/-! ### Edits -/

/-- A node that is found stands in the tree by its own id. -/
theorem Numbered.of_find (numbered : tree.Numbered) {name : Int} {node : Node}
    (found : tree.find name = .ok node)
    : tree.nodes[node.id]? = some node := by
  have placed {place : Nat} (there : tree.nodes[place]? = some node)
      : tree.nodes[node.id]? = some node := by
    rwa [numbered place node there]
  unfold find at found
  dsimp only at found
  -- a negative name counts from the last node, and may still be off
  split at found
  · rename_i there
    cases found
    split at there
    · split at there
      · cases there
      · exact placed there
    · exact placed there
  · cases found

/-- An edit attaches a child: both nodes are known, and the child is loose. -/
def Edit.Attaches (tree : Tree) (parent child : NodeId) : Edit → Prop
  | .addChild upper lower =>
    ∃ above below,
      tree.find upper = .ok above
      ∧ tree.find lower = .ok below
      ∧ above.id = parent
      ∧ below.id = child
      ∧ below.parent = none
  | _ => False

/-- No attachment of an edit closes a circle: the child is not the parent, nor stands above it. -/
def Edit.Open (tree : Tree) (edit : Edit) : Prop :=
  ∀ parent child, edit.Attaches tree parent child → child ≠ parent ∧ ¬tree.Above child parent

/-- Attaching a node with no children to another node closes no circle. -/
theorem Edit.open_of_childless {upper lower : Int} {above below : Node}
    (upward : tree.find upper = .ok above) (downward : tree.find lower = .ok below)
    (differ : below.id ≠ above.id) (bare : tree.childrenOf below.id = [])
    : (Edit.addChild upper lower).Open tree := by
  rintro _ _ ⟨above', below', upward', downward', rfl, rfl, -⟩
  cases upward.symm.trans upward'
  cases downward.symm.trans downward'
  exact ⟨differ, not_above_of_childless bare above.id⟩

/-- An attachment keeps links in agreement, and makes no cycle unless it closes a circle. -/
theorem Linked.addChild (linked : tree.Linked) {upper lower : Int} {above below : Node}
    (upward : tree.find upper = .ok above) (downward : tree.find lower = .ok below)
    (loose : tree.parentOf below.id = none)
    : (tree.link above.id below.id).Linked
      ∧ tree.Continues (tree.link above.id below.id)
      ∧ ((Edit.addChild upper lower).Open tree → tree.Acyclic
          → (tree.link above.id below.id).Acyclic) := by
  have found := linked.numbered.of_find downward
  have up : below.parent = none := by rwa [parentOf, found] at loose
  -- the child is loose, so only a circle could make the link wrong
  have made := (List.getElem?_eq_some_iff.mp (linked.numbered.of_find upward)).1
  have made' := (List.getElem?_eq_some_iff.mp found).1
  obtain ⟨linked', continues⟩ := linked.link made made' loose
  refine ⟨linked', continues, fun unclosed acyclic => ?_⟩
  obtain ⟨differ, clear⟩ := unclosed above.id below.id
    ⟨above, below, upward, downward, rfl, rfl, up⟩
  exact acyclic.link made made' differ clear

/-- What an edit makes keeps links in agreement and all nodes going on, and has no cycle unless the edit
closes a circle. By cases on the edit.
-/
theorem Linked.makes (linked : tree.Linked) {edit : Edit} {left : Tree}
    (makes : edit.Makes tree left)
    : left.Linked
      ∧ tree.Continues left
      ∧ (edit.Open tree → tree.Acyclic → left.Acyclic) := by
  -- all edits but attachments are harmless, whether or not they are open
  have harmless (follows : tree.Follows left)
      : left.Linked ∧ tree.Continues left ∧ (edit.Open tree → tree.Acyclic → left.Acyclic) :=
    ⟨follows.linked, follows.continues, fun _ => follows.acyclic⟩
  cases makes with
  | newNode region => exact harmless (linked.newNode region .empty)
  | addChild upward downward loose => exact linked.addChild upward downward loose
  | @setRoot _ node =>
      have levelled := linked.update node.id (f := fun node => { node with level := 0 })
        (fun _ => rfl) (fun _ => rfl)
        fun _ => ⟨rfl, rfl, rfl, fun _ up => up, fun unfolded => unfolded⟩
      exact harmless (levelled.trans (levelled.linked.of_nodes rfl))
  | addTerm | addTerms => exact harmless (linked.addTerms _ _)
  | removeTerms =>
      refine harmless (linked.update _ (fun _ => rfl) (fun _ => rfl) fun _ => ?_)
      exact ⟨rfl, rfl, rfl, fun _ up => up, fun unfolded => unfolded⟩
  | setUnfolded =>
      refine harmless (linked.update _ (fun _ => rfl) (fun _ => rfl) fun _ => ?_)
      exact ⟨rfl, rfl, rfl, fun _ up => up, fun _ => rfl⟩
  | setLevels => exact harmless (linked.foldl_setLevel _)
  | addNodes added => exact harmless (linked.addNodes added)
  | setBudget | shrinkBudget => exact harmless (linked.of_nodes rfl)

/-- What an edit leaves behind, made or not, is as sound as the tree before. -/
theorem Linked.after (linked : tree.Linked) (edit : Edit)
    : (tree.after edit).Linked
      ∧ tree.Continues (tree.after edit)
      ∧ (edit.Open tree → tree.Acyclic → (tree.after edit).Acyclic) := by
  rw [after_eq]
  cases made : edit.outcome tree with
  | error fault => exact ⟨linked, .refl tree, fun _ acyclic => acyclic⟩
  | ok left => exact linked.makes (Edit.makes_of_outcome made)

/-! ### Runs -/

/-- No edit of a run attaches a node under itself or under one that it stands above. -/
def NeverLoops : Tree → List Edit → Prop
  | _, [] => True
  | tree, edit :: rest => edit.Open tree ∧ (tree.after edit).NeverLoops rest

/-- What a run of edits leaves behind is as sound as the tree before, by induction on the run. -/
theorem Linked.afterAll (linked : tree.Linked) (edits : List Edit)
    : (tree.afterAll edits).Linked
      ∧ tree.Continues (tree.afterAll edits)
      ∧ (tree.NeverLoops edits → tree.Acyclic → (tree.afterAll edits).Acyclic) := by
  induction edits generalizing tree with
  | nil => exact ⟨linked, .refl tree, fun _ acyclic => acyclic⟩
  | cons edit rest ih =>
      obtain ⟨linked', continues, acyclic⟩ := linked.after edit
      obtain ⟨linked'', continues', acyclic'⟩ := ih linked'
      exact ⟨linked'', continues.trans continues', fun never start =>
        acyclic' never.2 (acyclic never.1 start)⟩

/-- A tree of no nodes has no links to disagree. -/
theorem empty_linked (source : List Char) (file : Path) : (empty source file).Linked :=
  ⟨(fun _ _ found => nomatch found), fun _ _ => rfl⟩

/-- A tree of no nodes has no cycle. -/
theorem empty_acyclic (source : List Char) (file : Path) : (empty source file).Acyclic := fun id =>
  not_above_of_childless rfl id

/-- Whatever edits are carried out on an empty tree, failing ones among them, every node has the id
of its place, and is listed as a child once by its parent and by no other node; every term counts at
least once; an edit that fails leaves the tree as it was; and whatever edits come after, all nodes
keep their ids, their places, their parents and their being unfolded. If no edit attached a node
under itself or under one that it stands above, then just one path from just one loose node leads to
each node, and iterating from it goes through it and all nodes below, each of them once.
-/
theorem afterAll_sound (source : List Char) (file : Path) (edits : List Edit)
    : let tree := (empty source file).afterAll edits
      tree.Numbered
      ∧ (∀ parent child, (tree.childrenOf parent).count child
          = if tree.parentOf child = some parent then 1 else 0)
      ∧ (∀ node ∈ tree.nodes, ∀ entry ∈ node.terms.entries, 1 ≤ entry.2)
      ∧ (∀ (edit : Edit) (fault : Fault) (left : Tree),
          edit.perform.run tree = .error fault left → left = tree)
      ∧ (∀ more, tree.Continues (tree.afterAll more))
      ∧ ((empty source file).NeverLoops edits
          → ∀ id < tree.nodes.length,
              (∃! path, tree.LeadsTo path id)
              ∧ (tree.preorder id).Nodup
              ∧ ∀ other, other ∈ tree.preorder id ↔ other = id ∨ tree.Above id other) := by
  obtain ⟨linked, -, acyclic⟩ := (empty_linked source file).afterAll edits
  refine ⟨linked.numbered, linked.links, ?_, ?_, ?_, ?_⟩
  · intro node _ entry member
    exact node.terms.listed.positive entry member
  · intro edit fault left fails
    rw [edit.run_perform] at fails
    cases made : edit.outcome ((empty source file).afterAll edits) with
    | ok tree => simp [made, settled] at fails
    | error other =>
        rw [made] at fails
        cases fails
        rfl
  · intro more
    exact (linked.afterAll more).2.1
  · intro never id made
    have forest : Forest _ := ⟨linked, acyclic never (empty_acyclic source file)⟩
    exact ⟨forest.exists_unique_path id, linked.preorder_once made (forest.finiteFrom id)⟩

/-- Iterating along a chain of three nodes, made with two edits that fail, goes through all three. -/
theorem chain_afterAll_sound
    : let region : Region := ⟨0, 0, 3, "module", none, []⟩
      let edits : List Edit :=
        [.newNode region, .newNode region, .newNode region, .addChild 0 1, .addChild 1 (-1),
          .addChild 0 2, .shrinkBudget (-1)]
      let tree := (empty [] ⟨[], [['a']]⟩).afterAll edits
      (empty [] ⟨[], [['a']]⟩).NeverLoops edits
        ∧ (∃! path, tree.LeadsTo path 2)
        ∧ tree.preorder 0 = [0, 1, 2] := by
  intro region edits tree
  have never : (empty [] ⟨[], [['a']]⟩).NeverLoops edits := by
    refine ⟨fun _ _ => False.elim, fun _ _ => False.elim, fun _ _ => False.elim, ?_, ?_, ?_,
      fun _ _ => False.elim, trivial⟩
    · exact Edit.open_of_childless rfl rfl (by decide) rfl
    · exact Edit.open_of_childless rfl rfl (by decide) rfl
    · rintro _ _ ⟨_, below, -, found, -, -, loose⟩
      cases found
      cases loose
  have sound := (afterAll_sound [] ⟨[], [['a']]⟩ edits).2.2.2.2.2 never
  exact ⟨never, (sound 2 (by decide)).1, by decide⟩

end FoldTree.Tree
