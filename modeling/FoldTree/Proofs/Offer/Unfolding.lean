import FoldTree.Proofs.Offer.Marks
import FoldTree.Proofs.Tree.Ancestry

/-! What unfolding a node does to the costs of all nodes. The node itself becomes free, and what it
cost is taken off every folded node that hangs below it by folded nodes only; all other costs stay.
So no cost rises when more nodes are unfolded.
-/

namespace FoldTree.Tree

variable {tree : Tree} {shape : Rose NodeId} {marks : List NodeId} {opened id : NodeId}

/-- A folded node hangs below another one, and all nodes between the two are folded. -/
structure HiddenBelow (tree : Tree) (upper lower : NodeId) : Prop where
  above : tree.Above upper lower
  folded : tree.folded lower = true
  between : ∀ middle, tree.Above upper middle → tree.Above middle lower
    → tree.folded middle = true

/-! ### Lineages -/

/-- What stands above the first nodes of a lineage counts for these if they all are folded. Witness:
induction on the first nodes.
-/
theorem accrued_append (before above : List NodeId)
    : tree.accrued (before ++ above)
      = tree.accrued before + if before.all tree.folded then tree.accrued above else 0 := by
  induction before with
  | nil => exact (Int.zero_add _).symm
  | cons first before ih =>
      cases shut : tree.folded first with
      | false => simp [accrued_cons_unfolded shut, shut]
      | true =>
          rw [List.cons_append, accrued_cons_folded shut, accrued_cons_folded shut, ih]
          simp [shut, Int.add_assoc]

/-- No node of a finite tree stands above itself, as no lineage names a node twice. -/
theorem Forms.not_above_self (forms : tree.Forms shape) (reached : id ∈ shape.preorder)
    : ¬tree.Above id id := by
  intro lies
  obtain ⟨above, listed, inside⟩ := forms.grown.lineage_of_above reached lies
  exact (List.nodup_cons.mp (forms.lineage_nodup listed)).1 inside

/-- The nodes above one of a finite tree are just those in its lineage. -/
theorem Forms.above_iff (forms : tree.Forms shape) {above : List NodeId}
    (listed : (id, above) ∈ shape.lineages []) {upper : NodeId} (reached : upper ∈ shape.preorder)
    : tree.Above upper id ↔ upper ∈ above := by
  constructor
  · intro lies
    obtain ⟨other, listed', inside⟩ := forms.grown.lineage_of_above reached lies
    cases Rose.lineage_unique forms.once listed listed' rfl
    exact inside
  · intro inside
    exact forms.above_of_lineage listed inside

section

variable (forms : tree.Forms shape) {before above : List NodeId}
  (listed : (id, before ++ opened :: above) ∈ shape.lineages [])

include forms listed

/-- The nodes between one of a finite tree and another above it stand in the lineage before that. -/
theorem Forms.mem_between_iff {middle : NodeId}
    : middle ∈ before ↔ tree.Above opened middle ∧ tree.Above middle id := by
  have within {other : NodeId} (member : other ∈ before ++ opened :: above)
      : other ∈ shape.preorder :=
    Rose.mem_preorder_of_lineage listed (List.mem_cons_of_mem _ member)
  have reached := within (List.mem_append_right before List.mem_cons_self)
  have rest : (opened, above) ∈ shape.lineages [] :=
    Rose.lineage_rest listed (id :: before) rfl
  constructor
  · intro inside
    obtain ⟨first, last, rfl⟩ := List.append_of_mem inside
    have listed' : (middle, last ++ opened :: above) ∈ shape.lineages [] :=
      Rose.lineage_rest listed (id :: first) (by simp)
    have reached' := within (List.mem_append_left _ inside)
    exact ⟨(forms.above_iff listed' reached).mpr (by simp), (forms.above_iff listed reached').mpr
      (List.mem_append_left _ inside)⟩
  · rintro ⟨lower, upper⟩
    obtain ⟨up, listed', -⟩ := forms.grown.lineage_of_above reached lower
    have reached' : middle ∈ shape.preorder := by
      rw [← Rose.map_fst_lineages []]
      exact List.mem_map_of_mem listed'
    rcases List.mem_append.mp ((forms.above_iff listed reached').mp upper) with inside | beyond
    · exact inside
    · -- from further up, links would lead from the node to itself
      refine absurd ?_ (forms.not_above_self reached)
      rcases List.mem_cons.mp beyond with rfl | beyond
      · exact lower
      · exact lower.trans ((forms.above_iff rest reached').mpr beyond)

/-- A node is hidden below one of its lineage if it is folded and so are all before that. -/
theorem Forms.hiddenBelow_iff
    : tree.HiddenBelow opened id ↔ (id :: before).all tree.folded = true := by
  have reached : opened ∈ shape.preorder :=
    Rose.mem_preorder_of_lineage listed (by simp)
  have lies : tree.Above opened id := (forms.above_iff listed reached).mpr (by simp)
  rw [List.all_cons, Bool.and_eq_true, List.all_eq_true]
  constructor
  · intro hidden
    refine ⟨hidden.folded, fun middle inside => ?_⟩
    obtain ⟨lower, upper⟩ := (forms.mem_between_iff listed).mp inside
    exact hidden.between middle lower upper
  · rintro ⟨folded, between⟩
    exact ⟨lies, folded, fun middle lower upper =>
      between middle ((forms.mem_between_iff listed).mpr ⟨lower, upper⟩)⟩

end

/-! ### Marks -/

/-- Marks on other nodes leave what a lineage comes to, by induction on it. -/
theorem accrued_mark {lineage : List NodeId} (apart : ∀ id ∈ lineage, id ∉ marks)
    : (tree.mark marks).accrued lineage = tree.accrued lineage := by
  induction lineage with
  | nil => rfl
  | cons id above ih =>
      have rest := ih fun other member => apart other (List.mem_cons_of_mem _ member)
      have kept : (tree.mark marks).folded id = tree.folded id := by
        simp [folded_mark, apart id List.mem_cons_self]
      have nets := netLines_of_faces (tree.mark_faces marks).2 id
      cases shut : tree.folded id with
      | false => rw [accrued_cons_unfolded (kept.trans shut), accrued_cons_unfolded shut]
      | true =>
          rw [accrued_cons_folded (kept.trans shut), accrued_cons_folded shut, nets, rest]

/-- A lineage without broken nodes comes to no more under marks, by induction on it: a marked node
starts from nothing, and all others show what they did.
-/
theorem accrued_mark_le {lineage : List NodeId}
    (sound : ∀ id ∈ lineage, tree.isBroken id = false)
    : (tree.mark marks).accrued lineage ≤ tree.accrued lineage := by
  induction lineage with
  | nil => exact Int.le_refl 0
  | cons id above ih =>
      have rest := ih fun other member => sound other (List.mem_cons_of_mem _ member)
      have nets := netLines_of_faces (tree.mark_faces marks).2 id
      cases still : (tree.mark marks).folded id with
      | false =>
          rw [accrued_cons_unfolded still]
          exact accrued_nonneg sound
      | true =>
          have before : tree.folded id = true := by
            rw [folded_mark, Bool.and_eq_true] at still
            exact still.1
          rw [accrued_cons_folded still, accrued_cons_folded before, nets]
          exact Int.add_le_add_left rest _

/-- Unfolding a node makes it free, takes what it came to off the nodes that are hidden below it, and
leaves what every other lineage comes to. By cases on where the node stands in a lineage.
-/
theorem Forms.accrued_opened (forms : tree.Forms shape) {above up : List NodeId}
    (listed : (id, above) ∈ shape.lineages []) (own : (opened, up) ∈ shape.lineages [])
    : (id = opened → (tree.mark [opened]).accrued (id :: above) = 0)
      ∧ (tree.HiddenBelow opened id
          → (tree.mark [opened]).accrued (id :: above)
            = tree.accrued (id :: above) - tree.accrued (opened :: up))
      ∧ (id ≠ opened
          → ¬tree.HiddenBelow opened id
          → (tree.mark [opened]).accrued (id :: above) = tree.accrued (id :: above)) := by
  have reached : opened ∈ shape.preorder := by
    rw [← Rose.map_fst_lineages []]
    exact List.mem_map_of_mem own
  have free (lineage : List NodeId) : (tree.mark [opened]).accrued (opened :: lineage) = 0 :=
    accrued_cons_unfolded (by simp [folded_mark])
  by_cases inside : opened ∈ above
  · obtain ⟨before, rest, rfl⟩ := List.append_of_mem inside
    have same := Rose.lineage_rest listed (id :: before) rfl
    cases Rose.lineage_unique forms.once own same rfl
    have distinct := forms.lineage_nodup listed
    have apart : ∀ other ∈ id :: before, other ∉ [opened] := by
      intro other member absent
      cases List.mem_singleton.mp absent
      exact (List.nodup_append.mp distinct).2.2 _ member _ List.mem_cons_self rfl
    have differ : id ≠ opened := fun same => apart id List.mem_cons_self (by simp [same])
    -- what comes before the node counts as it did, and what comes from there on counts no more
    have old := tree.accrued_append (id :: before) (opened :: up)
    have new : (tree.mark [opened]).accrued (id :: before ++ opened :: up)
        = tree.accrued (id :: before) := by
      rw [accrued_append, accrued_mark apart, free, ite_self, Int.add_zero]
    refine ⟨fun same => absurd same differ, fun hidden => ?_, fun _ visible => ?_⟩
    · rw [(forms.hiddenBelow_iff listed).mp hidden, if_pos rfl] at old
      exact new.trans (Int.sub_eq_iff_eq_add.mpr old).symm
    · rw [if_neg fun all => visible ((forms.hiddenBelow_iff listed).mpr all), Int.add_zero] at old
      exact new.trans old.symm
  · refine ⟨fun same => same ▸ free above, fun hidden => ?_, fun differ _ => ?_⟩
    · exact absurd ((forms.above_iff listed reached).mp hidden.above) inside
    · refine accrued_mark fun other member absent => ?_
      cases List.mem_singleton.mp absent
      rcases List.mem_cons.mp member with same | member
      · exact differ same.symm
      · exact inside member

section

variable (forms : tree.Forms shape) {table : OfferTable} (returned : tree.baseline = .ok table)

include forms returned

/-- A pass that returns comes to no broken node, and offers what each lineage comes to. -/
theorem Forms.of_baseline_ok
    : (∀ id ∈ shape.preorder, tree.isBroken id = false)
      ∧ table = (shape.lineages []).map (tree.offerAt fun _ => none) := by
  rw [forms.baseline_eq, unlessBroken] at returned
  split at returned
  · cases returned
  · rename_i unbroken
    refine ⟨fun id member => ?_, (Except.ok.inj returned).symm⟩
    simpa using List.find?_eq_none.mp unbroken id member

/-- A pass that returns also does so under marks: these break no node. -/
theorem Forms.baseline_mark (marks : List NodeId)
    : (tree.mark marks).baseline
      = .ok ((shape.lineages []).map ((tree.mark marks).offerAt fun _ => none)) := by
  have unbroken : shape.preorder.find? (tree.mark marks).isBroken = none := by
    refine List.find?_eq_none.mpr fun id member => ?_
    have before := (forms.of_baseline_ok returned).1 id member
    rw [isBroken_mark, folded_mark]
    rw [isBroken] at before
    cases shut : tree.folded id <;> simp_all
  rw [(forms.mark marks).baseline_eq, unlessBroken, unbroken]

/-- When a node of a tree with costs is unfolded, all nodes still have costs. Its own becomes nothing;
folded nodes that hang below it by folded nodes only cost less by what it cost; all others, those
outside of its subtree among them, cost what they did. However many nodes are unfolded, no cost
rises.
-/
theorem Forms.unfolding_costs
    : (∀ opened ∈ shape.preorder,
        ∃ cost later,
          table.lookup opened = some ⟨cost, none⟩
          ∧ (tree.setUnfolded opened).baseline = .ok later
          ∧ later.map Prod.fst = table.map Prod.fst
          ∧ ∀ id ∈ shape.preorder,
              ∃ before after,
                table.lookup id = some ⟨before, none⟩
                ∧ later.lookup id = some ⟨after, none⟩
                ∧ (id = opened → after = 0)
                ∧ (tree.HiddenBelow opened id → after = before - cost)
                ∧ (id ≠ opened → ¬tree.HiddenBelow opened id → after = before))
      ∧ ∀ marks,
          ∃ later,
            (tree.mark marks).baseline = .ok later
            ∧ later.map Prod.fst = table.map Prod.fst
            ∧ ∀ id ∈ shape.preorder,
                ∃ before after,
                  table.lookup id = some ⟨before, none⟩
                  ∧ later.lookup id = some ⟨after, none⟩
                  ∧ after ≤ before := by
  obtain ⟨sound, rfl⟩ := forms.of_baseline_ok returned
  have keys (tree tree' : Tree)
      : ((shape.lineages []).map (tree.offerAt fun _ => none)).map Prod.fst
        = ((shape.lineages []).map (tree'.offerAt fun _ => none)).map Prod.fst := by
    rw [List.map_map, List.map_map]
    rfl
  constructor
  · intro opened reached
    obtain ⟨up, listed⟩ := Rose.exists_lineage reached
    have own := forms.lookup_offers (fun _ => none) listed
    refine ⟨_, _, own, forms.baseline_mark returned [opened], keys _ _, fun id member => ?_⟩
    obtain ⟨above, listed'⟩ := Rose.exists_lineage member
    exact ⟨_, _, forms.lookup_offers (fun _ => none) listed',
      (forms.mark [opened]).lookup_offers (fun _ => none) listed',
      forms.accrued_opened listed' listed⟩
  · intro marks
    refine ⟨_, forms.baseline_mark returned marks, keys _ _, fun id member => ?_⟩
    obtain ⟨above, listed⟩ := Rose.exists_lineage member
    refine ⟨_, _, forms.lookup_offers (fun _ => none) listed,
      (forms.mark marks).lookup_offers (fun _ => none) listed, accrued_mark_le fun other inside => ?_⟩
    exact sound other (Rose.mem_preorder_of_lineage listed inside)

end

/-- Of the five lines, whose second node is unfolded, the root costs two lines. When it is unfolded too,
the node on the last line costs two lines less, and the node below the second one what it did.
-/
theorem fiveLines_unfolding_costs
    : fiveLines.Forms fiveLinesShape
      ∧ ∃ table later,
          fiveLines.baseline = .ok table
          ∧ (fiveLines.setUnfolded 0).baseline = .ok later
          ∧ table.lookup 0 = some ⟨2, none⟩
          ∧ table.lookup 2 = later.lookup 2
          ∧ table.lookup 3 = some ⟨2, none⟩
          ∧ later.lookup 3 = some ⟨0, none⟩ := by
  obtain ⟨table, returned⟩ : ∃ table, fiveLines.baseline = .ok table := ⟨_, rfl⟩
  obtain ⟨cost, later, asked, returned', -, costs⟩ :=
    (fiveLines_forms.unfolding_costs returned).1 0 (by decide)
  have known : fiveLines.baseline.toOption.map (fun table =>
      [0, 3].map fun id => (table.lookup id).map (·.cost)) = some [some 2, some 2] := by
    decide +kernel
  have below : (2, [1] ++ [0]) ∈ fiveLinesShape.lineages [] := by decide
  have last : (3, [] ++ [0]) ∈ fiveLinesShape.lineages [] := by decide
  have visible : ¬fiveLines.HiddenBelow 0 2 := by
    rw [fiveLines_forms.hiddenBelow_iff below]
    decide +kernel
  have hidden : fiveLines.HiddenBelow 0 3 := by
    rw [fiveLines_forms.hiddenBelow_iff last]
    decide +kernel
  obtain ⟨before, after, old, new, -, -, same⟩ := costs 2 (by decide)
  obtain ⟨before', after', old', new', -, less, -⟩ := costs 3 (by decide)
  cases same (by decide) visible
  cases less hidden
  simp only [returned, Except.toOption, Option.map_some, List.map_cons, List.map_nil, asked, old',
    Option.some.injEq, List.cons.injEq, and_true] at known
  obtain ⟨rfl, rfl⟩ := known
  exact ⟨fiveLines_forms, table, later, returned, returned', asked, old.trans new.symm, old', new'⟩

end FoldTree.Tree
