import FoldTree.Console.Run
import FoldTree.Proofs.Offer.Dues
import FoldTree.Proofs.Offer.Marks
import FoldTree.Proofs.Outcome
import FoldTree.Proofs.Tree.Levels

/-! Paying for nodes one after the other. Each node is charged what the pass over costs asks for it at
its turn. Over a tree as it was built, the charges are the bill of the dues: nothing for a node that
is unfolded already, and least in all where ancestors are paid for first.
-/

namespace FoldTree.Tree

variable {tree : Tree} {shape : Rose NodeId} {before : List NodeId} {budget : Float} {id : NodeId}

/-- What the offers of the moment ask for a node. -/
def charge (tree : Tree) (id : NodeId) : Except Fault Int := do
  match (← tree.baseline).lookup id with
  | none => throw (.unreachable id)
  | some offer => return offer.cost

/-- Paying for a node spends its charge and unfolds it. -/
theorem pay_eq (tree : Tree) (id : NodeId)
    : tree.pay id
      = (tree.charge id >>= tree.shrinkBudget).map fun next => next.setUnfolded id := by
  rw [pay, charge]
  cases tree.baseline with
  | error fault => rfl
  | ok table =>
      simp only [Outcome.ok_bind]
      cases table.lookup id with
      | none => rfl
      | some offer =>
          simp only [Outcome.pure_eq_ok, Outcome.ok_bind]
          cases tree.shrinkBudget offer.cost <;> rfl

/-- What is charged when nodes are requested one after the other, up to the first request that
cannot be paid.
-/
def charges (tree : Tree) : List Int → List Int
  | [] => []
  | id :: rest =>
    if 0 ≤ id ∧ id < tree.nodes.length then
      match tree.charge id.toNat, tree.pay id.toNat with
      | .ok cost, .ok next => cost :: next.charges rest
      | _, _ => []
    else []

/-- What is charged in all for some nodes in the order in which they are given. -/
def total (tree : Tree) (ids : List NodeId) : Int :=
  (tree.charges (ids.map Int.ofNat)).sum

/-- A payment that succeeds spends a charge. -/
theorem pay_ok {next : Tree} (payed : tree.pay id = .ok next)
    : ∃ cost, tree.charge id = .ok cost ∧ next.budget = tree.budget - Float.ofInt cost := by
  rw [pay_eq] at payed
  cases charged : tree.charge id with
  | error fault => simp [charged, Except.map] at payed
  | ok cost =>
      simp only [charged, Outcome.ok_bind, shrinkBudget] at payed
      split at payed
      · simp [Except.map] at payed
      · cases payed
        exact ⟨cost, rfl, rfl⟩

/-- What a run of payments leaves of the budget is the budget less one charge after the other, by
induction on the requests.
-/
theorem budget_unfolded {ids : List Int} {last : Tree}
    (ran : Console.unfolded tree ids = .ok last)
    : last.budget
      = (tree.charges ids).foldl (fun budget cost => budget - Float.ofInt cost) tree.budget := by
  induction ids generalizing tree with
  | nil =>
      cases ran
      rfl
  | cons id rest ih =>
      rw [Console.unfolded] at ran
      rw [charges]
      split at ran
      · rename_i made
        rw [if_pos made]
        split at ran
        · simp only [Console.treeFault] at ran
          split at ran <;> cases ran
        · rename_i next payed
          obtain ⟨cost, charged, left⟩ := pay_ok payed
          simp only [charged, payed, List.foldl_cons, ← left]
          exact ih ran
      · cases ran

/-- The tree after some nodes have been paid for, with what is left to spend. -/
def paid (tree : Tree) (before : List NodeId) (budget : Float) : Tree :=
  { tree.mark before with budget }

/-- Payments make no node. -/
theorem length_paid (tree : Tree) (before : List NodeId) (budget : Float)
    : (tree.paid before budget).nodes.length = tree.nodes.length :=
  tree.length_mark before

/-- A tree keeps its shape when nodes are paid for. -/
theorem Forms.paid (forms : tree.Forms shape) (before : List NodeId) (budget : Float)
    : (tree.paid before budget).Forms shape := by
  have same (id : NodeId) : (tree.paid before budget).faceAt id = (tree.mark before).faceAt id := rfl
  exact (forms.mark before).of_faces same rfl

/-- A tree that is spanned by its root, in which no node shows less than its children do. -/
structure Sound (tree : Tree) (shape : Rose NodeId) : Prop extends tree.Spans shape where
  nets : ∀ id ∈ shape.preorder, 0 ≤ tree.netLines id

/-- A tree that is spanned by its root is sound if all its nodes have unique costs. -/
theorem Spans.sound (spans : tree.Spans shape)
    (costs : ∀ node ∈ tree.nodes, ∃ cost, tree.uniqueCost node = .ok cost)
    : tree.Sound shape := by
  refine ⟨spans, ?_⟩
  intro id reached
  obtain ⟨node, found⟩ := spans.grown.found reached
  obtain ⟨cost, fine⟩ := costs node (List.mem_of_getElem? found)
  rw [uniqueCost_eq found] at fine
  split at fine
  · cases fine
  · rename_i enough
    exact Int.not_lt.mp enough

/-- All nodes of a spanned tree are folded. -/
theorem Spans.folded_eq (spans : tree.Spans shape) (reached : id ∈ shape.preorder)
    : tree.folded id = true := by
  obtain ⟨node, found⟩ := spans.grown.found reached
  simp [Tree.folded, found, spans.folded node (List.mem_of_getElem? found)]

/-- Payments change no net lines. -/
theorem netLines_paid (tree : Tree) (before : List NodeId) (budget : Float) (id : NodeId)
    : (tree.paid before budget).netLines id = tree.netLines id :=
  netLines_of_faces (tree.mark_faces before).2 id

/-- After some payments a lineage comes to what is due for it. -/
theorem Sound.accrued_paid (sound : tree.Sound shape) {lineage : List NodeId}
    (reached : ∀ id ∈ lineage, id ∈ shape.preorder)
    : (tree.paid before budget).accrued lineage = tree.due before lineage := by
  have folds (id : NodeId) (member : id ∈ lineage)
      : (tree.paid before budget).folded id = decide (id ∉ before) := by
    have marked : (tree.paid before budget).folded id = (tree.mark before).folded id := rfl
    rw [marked, folded_mark, sound.folded_eq (reached id member), Bool.true_and]
  have nets : (tree.paid before budget).netLines = tree.netLines :=
    funext (tree.netLines_paid before budget)
  induction lineage with
  | nil => rfl
  | cons id above ih =>
      have rest := ih (fun other member => reached other (List.mem_cons_of_mem _ member))
        fun other member => folds other (List.mem_cons_of_mem _ member)
      have here := folds id List.mem_cons_self
      by_cases done : id ∈ before
      · rw [due_paid done, accrued_cons_unfolded (by simpa [done] using here)]
      · rw [due_unpaid done, accrued_cons_folded (by simpa [done] using here), rest, nets]

/-- After some payments a node is charged what is due for it. -/
theorem Sound.charge_paid (sound : tree.Sound shape) (reached : id ∈ shape.preorder)
    : (tree.paid before budget).charge id = .ok (tree.due before (shape.lineageOf id)) := by
  have forms := sound.toForms.paid before budget
  have unbroken : shape.preorder.find? (tree.paid before budget).isBroken = none := by
    apply List.find?_eq_none.mpr
    intro other member
    have net := sound.nets other member
    rw [← tree.netLines_paid before budget] at net
    simp [isBroken, Int.not_lt.mpr net]
  obtain ⟨above, listed⟩ := Rose.exists_lineage reached
  have offer := forms.lookup_offers (fun _ => none) listed
  have within : ∀ other ∈ id :: above, other ∈ shape.preorder := fun other member =>
    Rose.mem_preorder_of_lineage listed member
  rw [charge, forms.baseline_eq, unlessBroken, unbroken, Rose.lineageOf_eq sound.once listed,
    ← sound.accrued_paid within]
  simp only [Outcome.ok_bind, offer]
  rfl

/-- A payment spends what is due, and the node has been paid for. -/
theorem Sound.pay_paid (sound : tree.Sound shape) (reached : id ∈ shape.preorder)
    : (tree.paid before budget).pay id
      = .ok (tree.paid (before ++ [id])
          (budget - Float.ofInt (tree.due before (shape.lineageOf id)))) := by
  have positive : 0 ≤ tree.due before (shape.lineageOf id) :=
    due_nonneg fun other member => sound.nets other (sound.toForms.mem_lineageOf reached member).1
  rw [pay_eq, sound.charge_paid reached, Outcome.ok_bind, shrinkBudget,
    if_neg (Int.not_lt.mpr positive)]
  simp only [Except.map, paid, mark, List.foldl_append, List.foldl_cons, List.foldl_nil]
  rfl

/-! ### The loop -/

/-- Requests for nodes are all paid for, and charged by the bill, by induction on them. -/
theorem Sound.charges_eq (sound : tree.Sound shape) {ids : List NodeId}
    (reached : ∀ id ∈ ids, id ∈ shape.preorder)
    : (tree.paid before budget).charges (ids.map Int.ofNat) = tree.bill shape before ids
      ∧ ∃ last, Console.unfolded (tree.paid before budget) (ids.map Int.ofNat) = .ok last := by
  induction ids generalizing before budget with
  | nil => exact ⟨rfl, _, rfl⟩
  | cons id rest ih =>
      have here := reached id List.mem_cons_self
      have valid : 0 ≤ Int.ofNat id
          ∧ Int.ofNat id < ((tree.paid before budget).nodes.length : Int) := by
        rw [length_paid]
        exact ⟨Int.natCast_nonneg id, Int.ofNat_lt.mpr (sound.reached_iff.mp here)⟩
      have payed : (tree.paid before budget).pay (Int.ofNat id).toNat = .ok _ := sound.pay_paid here
      have charged : (tree.paid before budget).charge (Int.ofNat id).toNat = .ok _ :=
        sound.charge_paid here
      obtain ⟨later, last, ran⟩ := ih fun other member => reached other (List.mem_cons_of_mem _ member)
      rw [List.map_cons, charges, if_pos valid, Console.unfolded, if_pos valid, charged, payed, bill]
      exact ⟨congrArg (_ :: ·) later, last, ran⟩

/-- A request for a node that has been paid for is charged nothing. Witness: induction on the
requests, each of which that is paid for joins those from before.
-/
theorem Sound.charges_again (sound : tree.Sound shape) {ids : List Int} {i : Nat} {request cost : Int}
    (asked : ids[i]? = some request) (again : request ∈ ids.take i ∨ request.toNat ∈ before)
    (charged : ((tree.paid before budget).charges ids)[i]? = some cost)
    : cost = 0 := by
  induction ids generalizing before budget i with
  | nil => simp at asked
  | cons first rest ih =>
      rw [charges] at charged
      split at charged
      · rename_i valid
        rw [length_paid] at valid
        have made : first.toNat < tree.nodes.length := by omega
        have reached : first.toNat ∈ shape.preorder := sound.reached_iff.mpr made
        simp only [sound.charge_paid reached, sound.pay_paid reached] at charged
        cases i with
        | zero =>
            -- the first request has been paid for before the loop
            simp only [List.getElem?_cons_zero, Option.some.injEq] at asked charged
            subst asked
            have done : first.toNat ∈ before := again.resolve_left List.not_mem_nil
            rw [← charged, Rose.lineageOf, due_paid done]
        | succ i =>
            -- a later one has been, or will be when the first request is paid
            rw [List.getElem?_cons_succ] at asked charged
            refine ih asked ?_ charged
            rw [List.take_succ_cons, List.mem_cons] at again
            rcases again with (rfl | later) | done
            · exact Or.inr (List.mem_append_right _ List.mem_cons_self)
            · exact Or.inl later
            · exact Or.inr (List.mem_append_left _ done)
      · simp at charged

/-- Every row of valid requests is paid for, with a charge for each. -/
theorem Sound.pays (sound : tree.Sound shape) {ids : List Int}
    (valid : ∀ id ∈ ids, 0 ≤ id ∧ id < tree.nodes.length)
    : (∃ last, Console.unfolded tree ids = .ok last) ∧ (tree.charges ids).length = ids.length := by
  have numbers : (ids.map Int.toNat).map Int.ofNat = ids := by
    rw [List.map_map]
    refine (List.map_congr_left fun id member => ?_).trans (List.map_id' ids)
    exact Int.toNat_of_nonneg (valid id member).1
  have reached : ∀ id ∈ ids.map Int.toNat, id ∈ shape.preorder := by
    intro id member
    obtain ⟨request, inside, rfl⟩ := List.mem_map.mp member
    obtain ⟨low, high⟩ := valid request inside
    exact sound.reached_iff.mpr ((Int.toNat_lt low).mpr high)
  obtain ⟨charges, ran⟩ : (tree.paid [] tree.budget).charges ((ids.map Int.toNat).map Int.ofNat) = _
      ∧ ∃ last, Console.unfolded (tree.paid [] tree.budget) _ = .ok last :=
    sound.charges_eq reached
  rw [numbers] at charges ran
  exact ⟨ran, (congrArg List.length charges).trans (by rw [length_bill, List.length_map])⟩

section

variable {ids other : List NodeId}

/-- The total is that of the bill when nothing has been paid for. -/
theorem Sound.total_eq (sound : tree.Sound shape) (reached : ∀ id ∈ ids, id ∈ shape.preorder)
    : tree.total ids = (tree.bill shape [] ids).sum := by
  have charged : (tree.paid [] tree.budget).charges (ids.map Int.ofNat) = tree.bill shape [] ids :=
    (sound.charges_eq reached).1
  exact congrArg List.sum charged

/-- With ancestors first, the total is that of the shares. -/
theorem Sound.total_first (sound : tree.Sound shape) (once : ids.Nodup)
    (reached : ∀ id ∈ ids, id ∈ shape.preorder) (first : tree.AncestorsFirst ids)
    : tree.total ids = (ids.map (tree.share shape ids)).sum := by
  have distinct : ([] ++ ids).Nodup := once
  rw [sound.total_eq reached, sound.toForms.bill_eq_share distinct reached first]
  rfl

/-- No order comes to less than one with ancestors first. -/
theorem Sound.total_le (sound : tree.Sound shape) (once : ids.Nodup)
    (reached : ∀ id ∈ ids, id ∈ shape.preorder) (perm : ids.Perm other)
    (first : tree.AncestorsFirst ids)
    : tree.total ids ≤ tree.total other := by
  have distinct : ([] ++ other).Nodup := perm.nodup_iff.mp once
  have reached' (id : NodeId) (member : id ∈ other) : id ∈ shape.preorder :=
    reached id (perm.mem_iff.mpr member)
  calc tree.total ids
      = (ids.map (tree.share shape ids)).sum := sound.total_first once reached first
    _ = (other.map (tree.share shape other)).sum := share_sum_perm perm
    _ ≤ (tree.bill shape [] other).sum :=
          sound.toForms.share_sum_le_bill sound.nets distinct reached'
    _ = tree.total other := (sound.total_eq reached').symm

/-- All nodes together come to the lines of the root beyond its first, with ancestors first. -/
theorem Sound.total_all (sound : tree.Sound shape) (perm : ids.Perm shape.preorder)
    (first : tree.AncestorsFirst ids)
    : tree.total ids = tree.extraLines shape.value := by
  have reached (id : NodeId) (member : id ∈ ids) : id ∈ shape.preorder := perm.mem_iff.mp member
  have shares : shape.preorder.map (tree.share shape shape.preorder)
      = shape.preorder.map tree.netLines :=
    List.map_congr_left fun id member => sound.toForms.share_all member
  calc tree.total ids
      = (ids.map (tree.share shape ids)).sum :=
          sound.total_first (perm.nodup_iff.mpr sound.once) reached first
    _ = (shape.preorder.map (tree.share shape shape.preorder)).sum := share_sum_perm perm
    _ = (shape.preorder.map tree.netLines).sum := by rw [shares]
    _ = tree.extraLines shape.value := sound.grown.netLines_sum

end

/-- Over a tree as it was built, in which all nodes have unique costs, every row of valid requests is
paid, and the budget shrinks by one charge after the other. A node that is unfolded already is
charged nothing. For the nodes of a set, all orders in which no node comes before one that it stands
below come to the same in total, and no order comes to less; there are such orders. For all nodes
together that total is the lines of the root beyond its first.
-/
theorem build_payments {source : List Char} {file : Path} {skeleton : Rose Region}
    {remarks : List Remark} (built : build source file skeleton remarks = .ok tree)
    (costs : ∀ node ∈ tree.nodes, ∃ cost, tree.uniqueCost node = .ok cost)
    : (∀ ids : List Int,
          ((∀ id ∈ ids, 0 ≤ id ∧ id < tree.nodes.length)
            → (∃ last, Console.unfolded tree ids = .ok last)
              ∧ (tree.charges ids).length = ids.length)
          ∧ (∀ last,
              Console.unfolded tree ids = .ok last
              → last.budget
                = (tree.charges ids).foldl (fun budget cost => budget - Float.ofInt cost)
                    tree.budget)
          ∧ ∀ (i : Nat) (id cost : Int),
              ids[i]? = some id
              → id ∈ ids.take i
              → (tree.charges ids)[i]? = some cost
              → cost = 0)
      ∧ (∀ ids : List NodeId,
          ids.Nodup
          → (∀ id ∈ ids, id < tree.nodes.length)
          → (∃ first, ids.Perm first ∧ tree.AncestorsFirst first)
            ∧ ∀ other,
                ids.Perm other
                → tree.AncestorsFirst ids
                → tree.total ids ≤ tree.total other
                  ∧ (tree.AncestorsFirst other → tree.total other = tree.total ids))
      ∧ ∀ ids,
          ids.Perm (List.range tree.nodes.length)
          → tree.AncestorsFirst ids
          → ∃ root node,
              tree.root = some root
              ∧ tree.nodes[root]? = some node
              ∧ tree.total ids = node.span.lineCount - 1 := by
  obtain ⟨shape, spans, -⟩ := build_spans built
  have sound := spans.sound costs
  refine ⟨fun ids => ⟨sound.pays, fun last => budget_unfolded, ?_⟩, ?_, ?_⟩
  · intro i id cost asked again charged
    -- nothing has been paid for when the loop starts
    have charged' : ((tree.paid [] tree.budget).charges ids)[i]? = some cost := charged
    exact sound.charges_again asked (Or.inl again) charged'
  · intro ids once made
    have reached (id : NodeId) (member : id ∈ ids) : id ∈ shape.preorder :=
      spans.reached_iff.mpr (made id member)
    refine ⟨spans.exists_ancestorsFirst once reached, ?_⟩
    intro other perm first
    have least := sound.total_le once reached perm first
    refine ⟨least, ?_⟩
    intro first'
    -- two orders with ancestors first are each no more than the other
    have least' := sound.total_le (perm.nodup_iff.mp once)
      (fun id member => reached id (perm.mem_iff.mpr member)) perm.symm first'
    exact Int.le_antisymm least' least
  · intro ids all first
    obtain ⟨node, found⟩ := spans.grown.found shape.value_mem_preorder
    refine ⟨shape.value, node, spans.root, found, ?_⟩
    rw [sound.total_all (all.trans spans.all.symm) first, extraLines]
    simp only [found]

/-- The regions of five lines: one over all of them, one on the middle three with a region of two
lines in it, and one on the last line.
-/
def fiveRegions : Rose Region :=
  .node ⟨0, 0, 9, "block", none, []⟩
    [.node ⟨1, 2, 5, "block", none, []⟩ [.node ⟨2, 4, 3, "block", none, []⟩ []],
      .node ⟨3, 8, 1, "block", none, []⟩ []]

/-- The tree that is built from these regions. -/
def fiveBuilt : Except Fault Tree :=
  build ['a', '\n', 'b', '\n', 'c', '\n', 'd', '\n', 'e'] ⟨[], [['a']]⟩ fiveRegions []

/-- The five lines come to four when all nodes are paid for from the outside in, and to no less the
other way round. A second payment for a node is nothing.
-/
theorem fiveBuilt_payments
    : ∃ tree,
        fiveBuilt = .ok tree
        ∧ tree.total [0, 1, 2, 3] = 4
        ∧ tree.total [0, 1, 2, 3] ≤ tree.total [2, 3, 1, 0]
        ∧ ∀ cost, (tree.charges [2, 1, 2])[2]? = some cost → cost = 0 := by
  obtain ⟨tree, made⟩ : ∃ tree, fiveBuilt = .ok tree := ⟨_, rfl⟩
  have seen : (fiveBuilt.toOption.map fun tree =>
        (tree.nodes.all (fun node => (tree.uniqueCost node).toOption.isSome), tree.root,
          tree.preorder 0, tree.nodes.map fun node => node.span.lineCount))
      = some (true, some 0, [0, 1, 2, 3], [5, 3, 2, 1]) := by
    decide +kernel
  simp only [made, Except.toOption, Option.map_some, Option.some.injEq, Prod.mk.injEq,
    List.all_eq_true] at seen
  obtain ⟨fine, root, order, lines⟩ := seen
  have costs (node : Node) (member : node ∈ tree.nodes)
      : ∃ cost, tree.uniqueCost node = .ok cost := by
    have some := fine node member
    cases outcome : tree.uniqueCost node with
    | ok cost => exact ⟨cost, rfl⟩
    | error fault => simp [outcome] at some
  obtain ⟨shape, spans, -⟩ := build_spans made
  have value : shape.value = 0 := Option.some.inj (spans.root.symm.trans root)
  have preorder : shape.preorder = [0, 1, 2, 3] := by
    rw [← order, ← value, Tree.preorder, spans.subtree_eq]
  have first : tree.AncestorsFirst [0, 1, 2, 3] := preorder ▸ spans.ancestorsFirst
  have length : tree.nodes.length = 4 := by simpa using congrArg List.length lines
  obtain ⟨loop, orders, whole⟩ := build_payments made costs
  refine ⟨tree, made, ?_, ?_, fun cost => ?_⟩
  · obtain ⟨place, node, same, found, total⟩ := whole [0, 1, 2, 3] (length ▸ .refl _) first
    rw [root, Option.some.injEq] at same
    subst same
    have shown := congrArg (fun counts => counts[0]?) lines
    rw [List.getElem?_map, found] at shown
    have five : node.span.lineCount = 5 := Option.some.inj shown
    rw [total, five]
    rfl
  · exact ((orders [0, 1, 2, 3] (by decide) (by simp [length])).2 [2, 3, 1, 0] (by decide) first).1
  · exact (loop [2, 1, 2]).2.2 2 2 cost rfl (by decide)

end FoldTree.Tree
