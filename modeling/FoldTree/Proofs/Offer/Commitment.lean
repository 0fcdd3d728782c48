import FoldTree.Proofs.Offer.Marks

/-! Commits to a pass and marks on its tree. Committing nodes to a pass comes to the same as marking
them unfolded and making the pass again: the working sets hold the same nodes and the same terms,
and differ at most in an order that no content model sees.
-/

namespace FoldTree

/-- Two questions that differ at most in the order of their terms or nodes, which is no part of what
is asked.
-/
inductive SamplerCall.Alike : SamplerCall → SamplerCall → Prop
  | surprise {terms terms' : Terms} (same : terms.toMultiset = terms'.toMultiset)
    (project file : String) (node : NodeId)
    : Alike (.surprise terms project file node) (.surprise terms' project file node)
  | minusCond {terms terms' given given' : Terms} (same : terms.toMultiset = terms'.toMultiset)
    (known : given.toMultiset = given'.toMultiset) (project file : String) (node : NodeId)
    : Alike (.minusCond terms given project file node) (.minusCond terms' given' project file node)
  | cond {terms terms' given given' : Terms} (same : terms.toMultiset = terms'.toMultiset)
    (known : given.toMultiset = given'.toMultiset) (project file : String) (node : NodeId)
    : Alike (.cond terms given project file node) (.cond terms' given' project file node)
  | logProb {terms terms' : Terms} (same : terms.toMultiset = terms'.toMultiset) (shift : Float)
    (project file : String) (node : NodeId)
    : Alike (.logProb shift terms project file node) (.logProb shift terms' project file node)
  | specific {terms terms' : Terms} (same : terms.toMultiset = terms'.toMultiset) (shift : Float)
    (variant project file : String) (node : NodeId)
    : Alike (.specific shift terms variant project file node)
        (.specific shift terms' variant project file node)
  | klDiv {nodes nodes' : List NodeId} (same : nodes.Perm nodes') (variant project file : String)
    : Alike (.klDiv variant project file nodes) (.klDiv variant project file nodes')

/-- A content model that answers what it is asked: the same to questions that are alike. -/
def Sampler.Orderless (sampler : Sampler) : Prop :=
  ∀ ⦃call other : SamplerCall⦄, call.Alike other → sampler call = sampler other

/-- What is taken out of a multiset depends on the terms that the other one has, not on their
order.
-/
theorem Terms.without_congr (terms : Terms) {other other' : Terms}
    (same : other.toMultiset = other'.toMultiset)
    : terms.without other = terms.without other' := by
  have contains (term : String) : other.contains term = other'.contains term :=
    Bool.eq_iff_iff.mpr (by rw [contains_iff_mem, contains_iff_mem, same])
  ext1
  simp only [without, contains]

namespace WorkingSet

variable {set other : WorkingSet}

/-- Two working sets that hold the same nodes and the same terms, maybe in another order. -/
structure Alike (set other : WorkingSet) : Prop where
  ids : set.ids.Perm other.ids
  terms : set.terms.toMultiset = other.terms.toMultiset

/-- Sums over the same nodes are alike. -/
theorem Sums.alike {tree other' : Tree} (sums : set.Sums tree) (sums' : other.Sums other')
    (terms : ∀ id, tree.termsAt id = other'.termsAt id)
    (members : ∀ id, id ∈ set.ids ↔ id ∈ other.ids)
    : set.Alike other := by
  have ids := (List.perm_ext_iff_of_nodup sums.once sums'.once).mpr members
  refine ⟨ids, ?_⟩
  rw [sums.sum, sums'.sum, (ids.map fun id => (tree.termsAt id).toMultiset).sum_eq]
  simp only [terms]

/-- Sets that are alike hold the same nodes. -/
theorem Alike.contains (alike : set.Alike other) (id : NodeId)
    : set.contains id = other.contains id := by
  simp only [WorkingSet.contains, List.contains_eq_mem, alike.ids.mem_iff]

/-- Sets that are alike stay so when a node is put into both. -/
theorem Alike.push (alike : set.Alike other) {node node' : Node} (id : node.id = node'.id)
    (terms : node.terms = node'.terms)
    : (set.push node).Alike (other.push node') where
  ids := by
    simp only [WorkingSet.push, id]
    exact alike.ids.append_right _
  terms := by simp only [WorkingSet.push, Terms.toMultiset_plus, alike.terms, terms]

end WorkingSet

namespace Pass

open Scoring

variable {pass : Pass} {sampler : Option Sampler} {tree : Tree} {shape : Rose NodeId}
variable {working working' : WorkingSet} {node node' : Node}

section

variable (alike : working.Alike working') (id : node.id = node'.id)
  (terms : node.terms = node'.terms)

include alike id terms

/-- Nodes of the same id and terms are scored with sets that are alike. -/
theorem scoringSet_alike
    : (pass.scoringSet working node).Alike (pass.scoringSet working' node') := by
  have pushes : pass.pushes working node = pass.pushes working' node' := by
    simp only [Pass.pushes, id, alike.contains]
  simp only [scoringSet, pushes]
  split
  · exact alike.push id terms
  · exact alike

/-- The questions about nodes of the same id and terms are alike, or there are none. -/
theorem question?_alike
    : Option.Rel SamplerCall.Alike (pass.question? working node)
        (pass.question? working' node') := by
  unfold question?
  rw [id]
  cases pass.profit.policy with
  | surprising => exact .some (.surprise alike.terms _ _ _)
  | condSurprising =>
      rw [pass.fileTerms.without_congr alike.terms]
      exact .some (.minusCond rfl alike.terms _ _ _)
  | condSurprising2 =>
      rw [terms]
      exact .some (.cond rfl alike.terms _ _ _)
  | likely => exact .some (.logProb alike.terms _ _ _ _)
  | specific => exact .some (.specific alike.terms _ _ _ _ _)
  | klDiv => exact .some (.klDiv alike.ids _ _ _)
  | noContentModel => exact .none

/-- Scoring comes to the same with sets that are alike, be it a profit or a fault. -/
theorem scoreOutcome_alike (orderless : ∀ model, sampler = some model → model.Orderless)
    : pass.scoreOutcome sampler working node = pass.scoreOutcome sampler working' node' := by
  have sets : (pass.scoringSet working node).Alike (pass.scoringSet working' node') :=
    scoringSet_alike alike id terms
  have asked : Option.Rel SamplerCall.Alike (pass.question? (pass.scoringSet working node) node)
      (pass.question? (pass.scoringSet working' node') node') :=
    question?_alike sets id terms
  have checked : pass.checked node = pass.checked node' := by
    funext profit
    simp only [Pass.checked, id]
  have answers : pass.answer sampler (pass.scoringSet working node) node
      = pass.answer sampler (pass.scoringSet working' node') node' := by
    simp only [answer]
    generalize pass.question? (pass.scoringSet working node) node = question at asked ⊢
    generalize pass.question? (pass.scoringSet working' node') node' = question' at asked ⊢
    cases asked with
    | none => rfl
    | @some call call' same =>
        cases sampler with
        | none => rfl
        | some model => simp only [answerTo, orderless model rfl same]
  simp only [scoreOutcome, answers, checked]

end

/-- The commits of some nodes, one after the other. -/
def commits (ids : List NodeId) : List (Option Sampler × Action) :=
  ids.map fun id => (none, .commit id)

/-- A node is committed where its id is among those of the commits. -/
theorem mem_commits {ids : List NodeId} {id : NodeId}
    : (∃ model, (model, Action.commit id) ∈ commits ids) ↔ id ∈ ids := by
  simp [commits]

/-- The terms of several nodes together depend on nothing else of these nodes. -/
theorem termsOf_congr {nodes nodes' : List Node}
    (same : nodes.map (·.terms) = nodes'.map (·.terms))
    : termsOf nodes = termsOf nodes' := by
  have sum (nodes : List Node)
      : termsOf nodes = (nodes.map (·.terms)).foldl Terms.plus .empty := by
    rw [termsOf, List.foldl_map]
  rw [sum, sum, same]

/-- A pass is made of a tree with marks just as without them: only the working set differs. -/
theorem start_mark (forms : tree.Forms shape) (settings : Settings) (sampler : Option Sampler)
    (marks : List NodeId)
    : (Pass.start (tree.mark marks) settings sampler).map Prod.fst
      = (Pass.start tree settings sampler).map Prod.fst := by
  have fileTerms := termsOf_congr (tree.map_terms_nodesAt_mark marks shape.preorder)
  simp only [Pass.start, forms.reachable_eq, (forms.mark marks).reachable_eq, Tree.fileId,
    Tree.file_mark]
  split
  · rfl
  · change Except.ok _ = Except.ok _
    simp only [fileTerms]

/-- The working set after some commits is alike to the one that a pass starts with where the same
nodes are marked. Witness: both are sums over the unfolded nodes, and the same ones.
-/
theorem commits_alike (forms : tree.Forms shape) {settings settings' : Settings}
    {state fresh : State} {pass' : Pass}
    (made : Pass.start tree settings sampler = .ok (pass, state)) {marks ids : List NodeId}
    (made' : Pass.start (tree.mark marks) settings' sampler = .ok (pass', fresh))
    (reached : ∀ id ∈ marks, id ∈ shape.preorder) (same : ∀ id, id ∈ ids ↔ id ∈ marks)
    : (pass.run tree state (commits ids)).2.working.Alike fresh.working := by
  obtain ⟨started, first⟩ := start_sums forms made
  obtain ⟨sums', members'⟩ := start_sums (forms.mark marks) made'
  obtain ⟨sums, members⟩ := run_sums pass (commits ids) ⟨forms.numbered, rfl, fun _ => rfl⟩ started
  -- both are about the same terms, so it is left to compare the nodes that are in
  refine sums.alike sums' (fun id => (tree.termsAt_mark marks id).symm) fun id => ?_
  rw [members, first, mem_commits, same, members', Tree.folded_mark]
  constructor
  · rintro (⟨inside, opened⟩ | ⟨marked, -⟩)
    · exact ⟨inside, by simp [opened]⟩
    · exact ⟨reached id marked, by simp [marked]⟩
  · rintro ⟨inside, opened⟩
    rcases Bool.and_eq_false_iff.mp opened with opened | marked
    · exact .inl ⟨inside, opened⟩
    · obtain ⟨node, found⟩ := forms.grown.found inside
      exact .inr ⟨by simpa using marked, (List.getElem?_eq_some_iff.mp found).1⟩

/-- A pass over a tree to which nodes are committed is alike to a new pass over the tree with these
nodes marked unfolded, whatever the order of the commits and however often a node is committed: both
are about the same terms of the file, their working sets hold the same nodes and terms, and every
node scores the same with both, or fails the same way, by a content model that answers only what it
is asked.
-/
theorem commits_eq_marks (forms : tree.Forms shape) (settings : Settings)
    (sampler : Option Sampler) {marks ids : List NodeId}
    (reached : ∀ id ∈ marks, id ∈ shape.preorder) (same : ∀ id, id ∈ ids ↔ id ∈ marks)
    : (∀ fault,
        Pass.start tree settings sampler = .error fault
        ↔ Pass.start (tree.mark marks) settings sampler = .error fault)
      ∧ ∀ pass state,
          Pass.start tree settings sampler = .ok (pass, state)
          → ∃ fresh,
              Pass.start (tree.mark marks) settings sampler = .ok (pass, fresh)
              ∧ (pass.run tree state (commits ids)).2.working.ids.Perm fresh.working.ids
              ∧ (pass.run tree state (commits ids)).2.working.terms.toMultiset
                = fresh.working.terms.toMultiset
              ∧ ((∀ model, sampler = some model → model.Orderless)
                → ∀ (id : NodeId) (node marked : Node),
                    tree.nodes[id]? = some node
                    → (tree.mark marks).nodes[id]? = some marked
                    → ((pass.score sampler node).result
                          (pass.run tree state (commits ids)).2).1
                      = ((pass.score sampler marked).result fresh).1) := by
  have alike := start_mark forms settings sampler marks
  constructor
  · intro fault
    cases made : Pass.start tree settings sampler <;>
      cases made' : Pass.start (tree.mark marks) settings sampler <;>
      simp_all [Except.map]
  · intro pass state made
    rw [made] at alike
    cases made' : Pass.start (tree.mark marks) settings sampler with
    | error fault => simp [made', Except.map] at alike
    | ok session =>
        obtain ⟨pass', fresh⟩ := session
        simp only [made', Except.map, Except.ok.injEq] at alike
        subst alike
        have working := commits_alike forms made made' reached same
        refine ⟨fresh, rfl, working.ids, working.terms, fun orderless id node marked found found' => ?_⟩
        rw [Tree.getElem?_mark, found, Option.map_some, Option.some.injEq] at found'
        subst found'
        rw [score_result, score_result]
        exact scoreOutcome_alike working rfl rfl orderless

/-- A content model that is surprised by every occurrence of a term, and by nothing else. -/
def counting : Sampler
  | .surprise terms _ _ _ => .ok (Float.ofNat terms.toMultiset.card)
  | _ => .ok 0.0

/-- How many occurrences there are does not depend on an order. -/
theorem counting_orderless : counting.Orderless := by
  rintro _ _ (⟨same, _, _, _⟩ | _ | _ | _ | _ | _)
  · simp only [counting, same]
  all_goals rfl

/-- Over the five lines, where one node is unfolded already, three commits of two nodes leave the
working set that marks of the two leave, and the root scores the same with both.
-/
theorem fiveLines_commits_eq_marks
    : ∃ pass state fresh,
        Pass.start Tree.fiveLines surprised (some counting) = .ok (pass, state)
        ∧ Pass.start (Tree.fiveLines.mark [2, 3]) surprised (some counting) = .ok (pass, fresh)
        ∧ fresh.working.ids = [1, 2, 3]
        ∧ (pass.run Tree.fiveLines state (commits [3, 2, 3])).2.working.ids.Perm [1, 2, 3]
        ∧ ∀ node ∈ Tree.fiveLines.nodes[0]?, ∀ marked ∈ (Tree.fiveLines.mark [2, 3]).nodes[0]?,
            ((pass.score (some counting) node).result
                (pass.run Tree.fiveLines state (commits [3, 2, 3])).2).1
              = ((pass.score (some counting) marked).result fresh).1 := by
  have made : Pass.start Tree.fiveLines surprised (some counting) = .ok (_, _) := rfl
  have made' : Pass.start (Tree.fiveLines.mark [2, 3]) surprised (some counting) = .ok (_, _) := rfl
  have same (id : NodeId) : id ∈ [3, 2, 3] ↔ id ∈ [2, 3] := by
    simp only [List.mem_cons, List.not_mem_nil]
    grind
  obtain ⟨fresh, given, ids, -, scores⟩ :=
    (commits_eq_marks Tree.fiveLines_forms surprised (some counting) (by decide +kernel) same).2 _ _
      made
  have places : fresh.working.ids = [1, 2, 3] := by
    rw [← (Prod.mk.inj (Except.ok.inj (made'.symm.trans given))).2]
    decide +kernel
  refine ⟨_, _, fresh, made, given, places, places ▸ ids, fun node found marked found' => ?_⟩
  exact scores (fun model same => Option.some.inj same ▸ counting_orderless) 0 node marked found
    found'

end Pass

end FoldTree
