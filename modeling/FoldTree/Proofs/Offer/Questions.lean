import FoldTree.Proofs.Offer.Marks
import FoldTree.Proofs.Tree.Ancestry
import Mathlib.Algebra.Order.BigOperators.Group.List
import Mathlib.Algebra.Order.Group.Multiset

/-! The questions of a pass over its whole life. What is known of a file when a node is asked about
never exceeds what the file had when the pass was made: the working set counts each node once, and
so do the terms of the file. So what is known and what is left over part the terms of the file.
-/

namespace FoldTree

/-! ### Terms that are left over -/

/-- A multiset that counts more lists more. -/
theorem Terms.contains_of_le {terms more : Terms} (le : terms.toMultiset ≤ more.toMultiset)
    {term : String} (listed : terms.contains term = true)
    : more.contains term = true :=
  (contains_iff_mem more term).mpr (Multiset.mem_of_le le ((contains_iff_mem terms term).mp listed))

/-- Terms that are left over and terms that are known part the terms of a file: nothing is known
that the file does not have, no term is in both parts, each of the file is in one of them, and those
that are left over are so with all their occurrences.
-/
structure Terms.Parted (file left known : Terms) : Prop where
  bounded : ∀ term, known.count term ≤ file.count term
  apart : ∀ term, ¬(left.contains term = true ∧ known.contains term = true)
  covered : ∀ term,
    file.contains term = true → Xor (left.contains term = true) (known.contains term = true)
  full : ∀ term, left.contains term = true → left.count term = file.count term

/-- What is left of a file parts its terms from those that are known, if these are terms of the
file.
-/
theorem Terms.parted_without {file known : Terms} (le : known.toMultiset ≤ file.toMultiset)
    : Terms.Parted file (file.without known) known where
  bounded term := by
    rw [← count_toMultiset, ← count_toMultiset]
    exact Multiset.count_le_of_le term le
  apart term both := by simp [contains_without, both.2] at both
  covered term listed := by
    rw [contains_without, listed]
    cases known.contains term <;> simp [Xor]
  full term left := by
    rw [contains_without, Bool.and_eq_true, Bool.not_eq_true'] at left
    rw [count_without, left.2, if_neg Bool.false_ne_true]

namespace Pass

open Scoring

variable {pass : Pass} {sampler : Option Sampler} {tree now : Tree} {shape : Rose NodeId}
variable {working : WorkingSet} {node : Node} {state : State} {settings : Settings}

/-- What a question shows of a file and of the node that it is about, where it shows what is known:
the known terms and the others part those of the file, and the node's own are known; or else the
node's own terms may be added to the known ones, unless the node is in the working set already.
-/
def Fits (file : Terms) (tree : Tree) (working : WorkingSet) : SamplerCall → Prop
  | .minusCond left known _ _ id =>
    Terms.Parted file left known
      ∧ ∀ term, (tree.termsAt id).contains term = true → left.contains term = false
  | .cond own known _ _ id =>
    own = tree.termsAt id
      ∧ (id ∉ working.ids
        → ∀ term, known.count term + (tree.termsAt id).count term ≤ file.count term)
  | _ => True

/-! ### What is known -/

/-- A working set of reached nodes, each counted once. -/
structure Holds (tree : Tree) (shape : Rose NodeId) (working : WorkingSet) : Prop where
  sums : working.Sums tree
  reached : ∀ id ∈ working.ids, id ∈ shape.preorder

/-- A working set of reached nodes has no more terms than these. -/
theorem Holds.le (holds : Holds tree shape working)
    : working.terms.toMultiset
      ≤ (shape.preorder.map fun id => (tree.termsAt id).toMultiset).sum := by
  obtain ⟨ids, same, inside⟩ := holds.sums.once.subperm holds.reached
  rw [holds.sums.sum, ← (same.map _).sum_eq]
  exact (inside.map _).sum_le_sum fun terms _ => Multiset.zero_le terms

/-- A reached node may be inserted. -/
theorem Holds.insert (holds : Holds tree shape working) (reached : node.id ∈ shape.preorder)
    (terms : tree.termsAt node.id = node.terms)
    : Holds tree shape (working.insert node) where
  sums := holds.sums.insert terms
  reached id member := by
    rcases WorkingSet.mem_insert.mp member with old | rfl
    · exact holds.reached id old
    · exact reached

/-- A node that is put into the working set for a question is inserted. -/
theorem scoringSet_of_addsNode (adds : pass.profit.policy.addsNode = true)
    : pass.scoringSet working node = working.insert node := by
  unfold scoringSet pushes WorkingSet.insert
  rw [adds]
  cases working.contains node.id <;> rfl

/-- A node that is kept out of the working set for a question leaves it. -/
theorem scoringSet_of_keepsOut (keeps : pass.profit.policy.addsNode = false)
    : pass.scoringSet working node = working := by
  simp [scoringSet, pushes, keeps]

/-- A node of the working set has its terms there. -/
theorem Holds.le_of_mem (holds : Holds tree shape working) {id : NodeId} (member : id ∈ working.ids)
    : (tree.termsAt id).toMultiset ≤ working.terms.toMultiset := by
  have alone : [(tree.termsAt id).toMultiset].Sublist
      (working.ids.map fun id => (tree.termsAt id).toMultiset) :=
    List.singleton_sublist.mpr (List.mem_map_of_mem member)
  rw [holds.sums.sum]
  simpa using alone.sum_le_sum fun terms _ => Multiset.zero_le terms

/-- Every question about a reached node is of the policy's kind and fits the terms of the file.
Witness: cases on the policy. One that asks about the rest of the file puts the node into the
working set, and one that keeps it out could still put it in.
-/
theorem fits_of_mem_scoreQuestions (holds : Holds tree shape working)
    (all : pass.fileTerms.toMultiset
      = (shape.preorder.map fun id => (tree.termsAt id).toMultiset).sum)
    (reached : node.id ∈ shape.preorder) (terms : tree.termsAt node.id = node.terms)
    {call : SamplerCall} (asked : call ∈ pass.scoreQuestions sampler working node)
    : call.policy = pass.profit.policy ∧ Fits pass.fileTerms tree working call := by
  have question : pass.question? (pass.scoringSet working node) node = some call := by
    unfold scoreQuestions questions at asked
    split at asked
    · exact Option.mem_toList.mp asked
    · cases asked
  refine ⟨(hands_of_question? question).policy_eq, ?_⟩
  have inserted := holds.insert reached terms
  have room : (working.insert node).terms.toMultiset ≤ pass.fileTerms.toMultiset :=
    all ▸ inserted.le
  unfold question? at question
  cases policy : pass.profit.policy <;> rw [policy] at question <;> cases question
  case surprising | likely | specific | klDiv => exact trivial
  case condSurprising =>
    rw [scoringSet_of_addsNode (by rw [policy]; rfl)]
    refine ⟨Terms.parted_without room, fun term own => ?_⟩
    have among : node.id ∈ (working.insert node).ids := WorkingSet.mem_insert.mpr (.inr rfl)
    have known := Terms.contains_of_le (inserted.le_of_mem among) own
    simp [Terms.contains_without, known]
  case condSurprising2 =>
    rw [scoringSet_of_keepsOut (by rw [policy]; rfl)]
    refine ⟨terms.symm, fun fresh term => ?_⟩
    have absent : working.contains node.id = false := by simpa [WorkingSet.contains] using fresh
    have sum : working.insert node = working.push node := by simp [WorkingSet.insert, absent]
    rw [terms, ← Terms.count_plus, ← Terms.count_toMultiset, ← Terms.count_toMultiset]
    rw [sum] at room
    exact Multiset.count_le_of_le term room

/-! ### The questions of a step -/

section

variable {α β : Type} {fits : SamplerCall → Prop}

/-- A step that leaves the working set as it is and asks some questions after those asked before,
all of one kind.
-/
def Puts (working : WorkingSet) (fits : SamplerCall → Prop) (step : Scoring α) : Prop :=
  ∀ calls, ∃ asked,
    (step.result ⟨working, calls⟩).2 = ⟨working, calls ++ asked⟩ ∧ ∀ call ∈ asked, fits call

/-- A value alone asks nothing. -/
theorem Puts.pure (value : α) : Puts working fits (Pure.pure value) := fun calls =>
  ⟨[], by simp [result_pure], by simp⟩

/-- A fault asks nothing. -/
theorem Puts.throw (fault : Fault) : Puts working fits (throw fault : Scoring α) := fun calls =>
  ⟨[], by simp [result_throw], by simp⟩

/-- Steps in a row ask the questions of the first and then, if it has a value, those of the next. -/
theorem Puts.bind {step : Scoring α} {next : α → Scoring β} (first : Puts working fits step)
    (later : ∀ value, Puts working fits (next value))
    : Puts working fits (step >>= next) := by
  intro calls
  obtain ⟨asked, left, good⟩ := first calls
  rw [result_bind]
  rcases outcome : step.result ⟨working, calls⟩ with ⟨fault | value, after⟩ <;>
    rw [outcome] at left <;> subst left
  · exact ⟨asked, rfl, good⟩
  · obtain ⟨more, left, fine⟩ := later value (calls ++ asked)
    refine ⟨asked ++ more, by rw [left, List.append_assoc], fun call member => ?_⟩
    exact (List.mem_append.mp member).elim (good call) (fine call)

/-- A step from a state adds its questions to those asked before. -/
theorem Puts.asked {step : Scoring α} (puts : Puts state.working fits step)
    : ∃ asked, (step.result state).2.calls = state.calls ++ asked ∧ ∀ call ∈ asked, fits call := by
  obtain ⟨asked, left, good⟩ := puts state.calls
  exact ⟨asked, congrArg State.calls left, good⟩

/-- Scoring a node asks the questions about it. -/
theorem score_puts (good : ∀ call ∈ pass.scoreQuestions sampler working node, fits call)
    : Puts working fits (pass.score sampler node) := fun calls =>
  ⟨pass.scoreQuestions sampler working node, by rw [score_result], good⟩

/-- An offer for a node asks the questions about it, or none if the node is unfolded. -/
theorem offer_puts (good : ∀ call ∈ pass.scoreQuestions sampler working node, fits call)
    (above : Int)
    : Puts working fits (pass.offer sampler now node above) := by
  refine Puts.bind (fun calls => ⟨_, by rw [reported_result], ?_⟩) fun profit => ?_
  · intro call member
    simp only [reportQuestions] at member
    split at member
    · cases member
    · exact good call member
  · cases now.offerFor node above profit with
    | ok result => exact Puts.pure result
    | error fault => exact Puts.throw (.tree fault)

mutual

/-- A walk asks the questions about its nodes, over any shape and from any cost. -/
theorem offersBelow_puts (above : Int) (part : Rose NodeId)
    (good : ∀ id ∈ part.preorder, ∀ node, now.nodes[id]? = some node →
      ∀ call ∈ pass.scoreQuestions sampler working node, fits call)
    : Puts working fits (pass.offersBelow sampler now above part) := by
  cases part with
  | node id below =>
      rw [Rose.preorder] at good
      obtain ⟨here, under⟩ := List.forall_mem_cons.mp good
      unfold offersBelow
      split
      · exact Puts.pure []
      · rename_i node found
        exact Puts.bind (offer_puts (here node found) above) fun result =>
          Puts.bind (offersAll_puts result.2 below under) fun rest => Puts.pure _
termination_by sizeOf part

/-- Walks over several shapes ask the questions about the nodes of all. -/
theorem offersAll_puts (above : Int) (parts : List (Rose NodeId))
    (good : ∀ id ∈ Rose.preorderAll parts, ∀ node, now.nodes[id]? = some node →
      ∀ call ∈ pass.scoreQuestions sampler working node, fits call)
    : Puts working fits (pass.offersAll sampler now above parts) := by
  cases parts with
  | nil => exact Puts.pure []
  | cons branch rest =>
      rw [Rose.preorderAll] at good
      obtain ⟨first, later⟩ := List.forall_mem_append.mp good
      exact Puts.bind (offersBelow_puts above branch first) fun first =>
        Puts.bind (offersAll_puts above rest later) fun others => Puts.pure _
termination_by sizeOf parts

end

end

/-! ### The questions of a run -/

/-- Walks from a reached node come to reached nodes only, by induction on the depth. -/
theorem preorder_subset (forms : tree.Forms shape) {id : NodeId} (reached : id ∈ shape.preorder)
    : tree.preorder id ⊆ shape.preorder := by
  have closed {parent child : NodeId} (up : parent ∈ shape.preorder)
      (link : child ∈ tree.childrenOf parent)
      : child ∈ shape.preorder := by
    obtain ⟨above, listed⟩ := Rose.exists_lineage up
    exact Rose.mem_preorder_of_lineage (forms.grown.listed_child listed link) List.mem_cons_self
  have below (depth : Nat) (top : NodeId) (up : top ∈ shape.preorder)
      : (tree.below depth top).preorder ⊆ shape.preorder := by
    induction depth generalizing top with
    | zero => simpa [Tree.below, Rose.preorder_node] using up
    | succ depth ih =>
        intro other member
        rw [Tree.below, Rose.preorder_node, List.mem_cons, List.mem_flatMap] at member
        rcases member with rfl | ⟨branch, inside, member⟩
        · exact up
        · obtain ⟨child, link, rfl⟩ := List.mem_map.mp inside
          exact ih child (closed up link) member
  exact below tree.nodes.length id reached

/-- Whether an action is about a node of a shape. Any node may be unfolded. -/
def Action.Within (shape : Rose NodeId) : Action → Prop
  | .commit id | .score id | .offer id _ | .walk id _ => id ∈ shape.preorder
  | .unfold _ => True

/-- Actions do nothing to a tree but to mark nodes unfolded, by induction on them. -/
theorem exists_marks (pass : Pass) (actions : List (Option Sampler × Action)) (now : Tree)
    (state : State)
    : ∃ marks, (pass.run now state actions).1 = now.mark marks := by
  induction actions generalizing now state with
  | nil => exact ⟨[], rfl⟩
  | cons action rest ih =>
      obtain ⟨model, action⟩ := action
      obtain ⟨marks, same⟩ := ih (pass.act model now state action).1
        (pass.act model now state action).2
      have step : ∃ first, (pass.act model now state action).1 = now.mark first := by
        cases action with
        | commit id => exact ⟨[], by simp only [act]; split <;> rfl⟩
        | score id => exact ⟨[], by simp only [act]; split <;> rfl⟩
        | offer id above => exact ⟨[], by simp only [act]; split <;> rfl⟩
        | walk id above => exact ⟨[], rfl⟩
        | unfold id => exact ⟨[id], rfl⟩
      obtain ⟨first, marked⟩ := step
      refine ⟨first ++ marks, same.trans ?_⟩
      rw [marked, Tree.mark, Tree.mark, Tree.mark, List.foldl_append]

/-- The working set of a run about reached nodes holds reached nodes, each counted once. -/
theorem run_holds (forms : tree.Forms shape)
    (made : Pass.start tree settings sampler = .ok (pass, state))
    {actions : List (Option Sampler × Action)} (within : ∀ step ∈ actions, step.2.Within shape)
    : Holds tree shape (pass.run tree state actions).2.working := by
  obtain ⟨started, first⟩ := start_sums forms made
  obtain ⟨sums, members⟩ := run_sums pass actions ⟨forms.numbered, rfl, fun _ => rfl⟩ started
  refine ⟨sums, fun id member => ?_⟩
  rcases (members id).mp member with old | ⟨⟨model, committed⟩, -⟩
  · exact ((first id).mp old).1
  · exact within _ committed

/-- An action on a marked tree about reached nodes asks questions that fit. Witness: cases on the
action. Marks change no terms and no links, so that every node that the action comes to is a reached
node with the terms from before.
-/
theorem act_questions (forms : tree.Forms shape) (holds : Holds tree shape state.working)
    (all : pass.fileTerms.toMultiset
      = (shape.preorder.map fun id => (tree.termsAt id).toMultiset).sum)
    (marks : List NodeId) {action : Action} (within : action.Within shape) (model : Option Sampler)
    : ∃ asked,
        (pass.act model (tree.mark marks) state action).2.calls = state.calls ++ asked
        ∧ ∀ call ∈ asked,
            call.policy = pass.profit.policy ∧ Fits pass.fileTerms tree state.working call := by
  have good (id : NodeId) (reached : id ∈ shape.preorder) (node : Node)
      (found : (tree.mark marks).nodes[id]? = some node)
      : ∀ call ∈ pass.scoreQuestions model state.working node,
          call.policy = pass.profit.policy ∧ Fits pass.fileTerms tree state.working call := by
    have named := (forms.mark marks).numbered id node found
    have terms : tree.termsAt id = node.terms := by
      rw [← tree.termsAt_mark marks id, Tree.termsAt, found]
    subst named
    exact fun call => fits_of_mem_scoreQuestions holds all reached terms
  have none : ∃ asked, state.calls = state.calls ++ asked
      ∧ ∀ call ∈ asked,
          call.policy = pass.profit.policy ∧ Fits pass.fileTerms tree state.working call :=
    ⟨[], by simp, by simp⟩
  cases action with
  | commit id => simp only [act]; split <;> exact none
  | unfold id => exact none
  | score id =>
      simp only [act]
      split
      · rename_i node found
        exact (score_puts (good id within node found)).asked
      · exact none
  | offer id above =>
      simp only [act]
      split
      · rename_i node found
        exact (offer_puts (good id within node found) above).asked
      · exact none
  | walk id above =>
      have walked := offersBelow_puts above ((tree.mark marks).subtree id) fun other member =>
        good other (preorder_subset (forms.mark marks) within member)
      exact walked.asked

/-- Whatever is done with a pass over the reached nodes of a tree, every question asked in it is of
the policy's kind and fits the terms that the file had when the pass was made: these are the terms
of the reached nodes, each node counted once; what is known and what is left over part them, with
the node's own terms among the known ones; or the node's own terms may be added to the known ones
without there being more of any than in the file, if the node is not in the working set at that
moment.
-/
theorem run_questions (forms : tree.Forms shape)
    (made : Pass.start tree settings sampler = .ok (pass, state))
    : pass.fileTerms.toMultiset = (shape.preorder.map fun id => (tree.termsAt id).toMultiset).sum
      ∧ state.calls = []
      ∧ ∀ actions : List (Option Sampler × Action),
          (∀ step ∈ actions, step.2.Within shape)
          → ∀ model action,
              action.Within shape
              → let session := pass.run tree state actions
                ∃ asked,
                  (pass.act model session.1 session.2 action).2.calls = session.2.calls ++ asked
                  ∧ ∀ call ∈ asked,
                      call.policy = pass.profit.policy
                      ∧ Fits pass.fileTerms tree session.2.working call := by
  have all := fileTerms_eq forms made
  obtain ⟨-, -, fresh⟩ := start_ok forms made
  refine ⟨all, by rw [fresh], fun actions within model action reached => ?_⟩
  obtain ⟨marks, marked⟩ := exists_marks pass actions tree state
  have asked := act_questions forms (run_holds forms made within) all marks reached model
  rwa [← marked] at asked

/-- The five lines with terms on all nodes but the last, one of them on two nodes. -/
def termedLines : Tree :=
  ((Tree.fiveLines.addTerms 0 ["order"]).addTerms 1 ["queue"]).addTerms 2 ["order", "push"]

/-- The five lines have their shape with terms as without, for terms are in no face. -/
theorem termedLines_forms : termedLines.Forms Tree.fiveLinesShape := by
  have same (tree : Tree) (id other : NodeId) (terms : List String)
      : (tree.addTerms id terms).faceAt other = tree.faceAt other :=
    Tree.faceAt_update tree id fun _ => rfl
  exact Tree.fiveLines_forms.of_faces (fun id => by simp only [termedLines, same]) rfl

/-- Settings for scores of what is left of the file. -/
def surprisedOfRest : Settings :=
  { surprised with profitType := "CondSurprising", profit := ⟨.condSurprising, "CondSurprising"⟩ }

/-- After a commit, the one question about a node of the five lines is about the rest of the file.
-/
theorem termedLines_run_questions
    : termedLines.Forms Tree.fiveLinesShape
      ∧ ∃ pass state,
          Pass.start termedLines surprisedOfRest (some silent) = .ok (pass, state)
          ∧ let session := pass.run termedLines state [(none, .commit 3)]
            ∃ call,
              (pass.act (some silent) session.1 session.2 (.score 0)).2.calls = [call]
              ∧ call.policy = .condSurprising
              ∧ Fits pass.fileTerms termedLines session.2.working call := by
  refine ⟨termedLines_forms, _, _, rfl, ?_⟩
  have made : Pass.start termedLines surprisedOfRest (some silent) = .ok (_, _) := rfl
  obtain ⟨-, -, questions⟩ := run_questions termedLines_forms made
  obtain ⟨asked, calls, fits⟩ := questions [(none, .commit 3)]
    (fun step member =>
      List.mem_singleton.mp member ▸ (by decide : 3 ∈ Tree.fiveLinesShape.preorder))
    (some silent) (.score 0) (by decide : 0 ∈ Tree.fiveLinesShape.preorder)
  have one : asked.length = 1 := by
    have count := congrArg List.length calls
    exact count.symm
  obtain ⟨call, rfl⟩ := List.length_eq_one_iff.mp one
  exact ⟨call, calls, fits call (List.mem_singleton_self call)⟩

end Pass

end FoldTree
