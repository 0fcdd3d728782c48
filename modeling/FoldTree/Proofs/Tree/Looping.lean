import FoldTree.Proofs.Tree.Forest
import FoldTree.Proofs.Tree.Recursion

/-! Loops over a stack as recursive walks. What is pending in a loop is what the walks under way have still
before them, so that the loop makes the calls of the recursion, one a round, and ends just if that does.
-/

namespace FoldTree

variable {ε σ α : Type} {children : σ → NodeId → List NodeId} {operate : Operation ε σ α}

/-- What a stage of a walk has before it, as it lies on the stack. -/
def Stage.pending (children : σ → NodeId → List NodeId) (state : σ) : Stage α → List (NodeId × α)
  | .visit id above => [(id, above)]
  | .below id value place => Loop.pile value ((children state id).drop place)

namespace Loop

/-- The first of some siblings comes off the stack first. -/
theorem pile_cons (value : α) (first : NodeId) (rest : List NodeId)
    : pile value (first :: rest) = pile value rest ++ [(first, value)] := by
  simp only [pile, List.reverse_cons, List.map_append, List.map_cons, List.map_nil]

/-- Rounds can be counted in two parts, by induction on the first. -/
theorem run_add (first later : Nat) (now : Loop ε σ α)
    : run children operate (first + later) now
      = run children operate later (run children operate first now) := by
  induction first generalizing now with
  | zero => rw [Nat.zero_add, run]
  | succ first ih =>
      rw [Nat.succ_add]
      exact ih (now.next children operate)

/-- Nothing happens once nothing is pending, by induction on the rounds. -/
theorem run_ended {now : Loop ε σ α} (ended : now.stack = []) (rounds : Nat)
    : run children operate rounds now = now := by
  have still : now.next children operate = now := by simp only [next, ended, List.getLast?_nil]
  induction rounds with
  | zero => rfl
  | succ rounds ih => rw [run, still, ih]

/-- Every round in which something is pending makes a call. -/
theorem length_calls_next {now : Loop ε σ α} (pending : now.stack ≠ [])
    : (now.next children operate).calls.length = now.calls.length + 1 := by
  have top := List.getLast?_eq_some_getLast pending
  rcases called : operate (now.stack.getLast pending).1 (now.stack.getLast pending).2 now.state with
    ⟨fault | value, after⟩
  all_goals simp only [next, top, called, List.length_append, List.length_singleton]

/-- As long as something is pending, there are as many calls as rounds, by induction on these. -/
theorem length_calls_run (rounds : Nat) (now : Loop ε σ α)
    (pending : (run children operate rounds now).stack ≠ [])
    : (run children operate rounds now).calls.length = now.calls.length + rounds := by
  induction rounds generalizing now with
  | zero => rfl
  | succ rounds ih =>
      have before : now.stack ≠ [] := by
        intro ended
        rw [run_ended ended] at pending
        exact pending ended
      rw [run, ih _ pending, length_calls_next before]
      omega

/-- Rounds take back no call, by induction on them. -/
theorem length_calls_le (rounds : Nat) (now : Loop ε σ α)
    : now.calls.length ≤ (run children operate rounds now).calls.length := by
  induction rounds generalizing now with
  | zero => exact Nat.le_refl _
  | succ rounds ih =>
      by_cases ended : now.stack = []
      · rw [run_ended ended]
      · have later := ih (now.next children operate)
        rw [length_calls_next ended] at later
        exact Nat.le_of_succ_le later

section

variable {id : NodeId} {above : α} {state later : σ} (made rest : List (NodeId × α))

/-- A call that fails ends the loop. -/
theorem next_failed {fault : ε} (called : operate id above state = (.error fault, later))
    : next children operate ⟨state, made, none, rest ++ [(id, above)]⟩
      = ⟨later, made ++ [(id, above)], some fault, []⟩ := by
  simp only [next, List.getLast?_concat, called]

/-- A call that comes to a value puts the node's children on the stack. -/
theorem next_visited {value : α} (called : operate id above state = (.ok value, later))
    : next children operate ⟨state, made, none, rest ++ [(id, above)]⟩
      = ⟨later, made ++ [(id, above)], none, rest ++ pile value (children later id)⟩ := by
  simp only [next, List.getLast?_concat, List.dropLast_concat, called]

end

/-- The loop when a walk has come to an outcome: it goes on with the rest of the stack, or a fault has
ended it.
-/
def past (made rest calls : List (NodeId × α)) (last : σ) : Except ε α → Loop ε σ α
  | .ok _ => ⟨last, made ++ calls, none, rest⟩
  | .error fault => ⟨last, made ++ calls, some fault, []⟩

end Loop

/-- Of the children from a place on, the one at the place comes off the stack first. -/
theorem Stage.pending_below {id child : NodeId} {value : α} {place : Nat} {state : σ}
    (here : (children state id)[place]? = some child)
    : (Stage.below id value place).pending children state
      = (Stage.below id value (place + 1)).pending children state ++ [(child, value)] := by
  rw [pending, pending, Recurses.drop_of_getElem? here, Loop.pile_cons]

namespace Recurses

variable {stage : Stage α} {state last : σ} {calls : List (NodeId × α)} {outcome : Except ε α}

/-- After a completed walk from a child, what its parent has before it still lies on the stack. -/
theorem pending_eq (appends : operate.Appends children) {id child : NodeId} {value other : α}
    {place : Nat} (here : (children state id)[place]? = some child)
    (walk : Recurses children operate (.visit child value) state calls (.ok other) last) (later : Nat)
    : (Stage.below id value later).pending children last
      = (Stage.below id value later).pending children state := by
  rw [Stage.pending, Stage.pending, walk.children_of_child appends (List.mem_of_getElem? here)]

/-- A loop gets past whatever a walk has before it, with one round for each call. Witness: induction on the
walk, with anything below on the stack. After a completed walk from a child, its parent's other children
are still those on the stack.
-/
theorem run_eq (appends : operate.Appends children)
    (walk : Recurses children operate stage state calls outcome last)
    (made rest : List (NodeId × α))
    : Loop.run children operate calls.length
        ⟨state, made, none, rest ++ stage.pending children state⟩
      = Loop.past made rest calls last outcome := by
  induction walk generalizing made rest with
  | failed called => exact Loop.next_failed made rest called
  | @visited id above _ _ _ _ _ outcome called _ ih =>
      rw [List.length_cons, Loop.run, Stage.pending, Loop.next_visited made rest called]
      refine (ih (made ++ [(id, above)]) rest).trans ?_
      cases outcome <;> simp only [Loop.past, List.append_assoc, List.singleton_append]
  | @done id value place state none =>
      have short := List.getElem?_eq_none_iff.mp none
      have nothing : (Stage.below id value place).pending children state = [] := by
        rw [Stage.pending, List.drop_eq_nil_of_le short]
        rfl
      rw [nothing, Loop.past, List.append_nil, List.append_nil]
      rfl
  | broken here _ ih =>
      rw [Stage.pending_below here, ← List.append_assoc]
      exact ih made _
  | @onward id child value _ place state middle last calls more outcome here walk _ first second =>
      -- the child's own walk leaves the other children on the stack, from which the rest goes on
      have head := first made (rest ++ (Stage.below id value (place + 1)).pending children state)
      have tail := second (made ++ calls) rest
      rw [walk.pending_eq appends here] at tail
      rw [Stage.pending_below here, ← List.append_assoc, List.length_append, Loop.run_add]
      refine (congrArg _ head).trans (tail.trans ?_)
      cases outcome <;> simp only [Loop.past, List.append_assoc]

/-- After the rounds of a completed walk from a child, a loop has its parent's other children before it. -/
theorem run_behind (appends : operate.Appends children) {id child : NodeId} {value other : α}
    {place : Nat} (here : (children state id)[place]? = some child)
    (walk : Recurses children operate (.visit child value) state calls (.ok other) last)
    (made rest : List (NodeId × α)) {rounds : Nat} (enough : calls.length ≤ rounds)
    : Loop.run children operate rounds
        ⟨state, made, none, rest ++ (Stage.below id value place).pending children state⟩
      = Loop.run children operate (rounds - calls.length)
          ⟨last, made ++ calls, none,
            rest ++ (Stage.below id value (place + 1)).pending children last⟩ := by
  have first := walk.run_eq appends made
    (rest ++ (Stage.below id value (place + 1)).pending children state)
  rw [walk.pending_eq appends here, Stage.pending_below here, ← List.append_assoc]
  conv_lhs => rw [← Nat.add_sub_cancel' enough, Loop.run_add]
  exact congrArg _ first

end Recurses

/-- Where a loop gets past all that a stage has before it, a walk comes to an outcome from there. Witness:
induction on the rounds. A walk from a child takes at least one of them, so that fewer are left for the
children behind it.
-/
theorem Operation.Appends.exists_recurses (appends : operate.Appends children) (rounds : Nat)
    (stage : Stage α) (state : σ) (made rest : List (NodeId × α))
    (ended : (Loop.run children operate rounds
      ⟨state, made, none, rest ++ stage.pending children state⟩).stack = [])
    : ∃ calls outcome last,
        Recurses children operate stage state calls outcome last
        ∧ calls.length ≤ rounds := by
  induction rounds using Nat.strong_induction_on generalizing stage state made rest with
  | _ rounds ih =>
  -- a visit takes the first round, and what is below it the others
  have visits (id : NodeId) (above : α) (state : σ) (made rest : List (NodeId × α))
      (ended : (Loop.run children operate rounds
        ⟨state, made, none, rest ++ [(id, above)]⟩).stack = [])
      : ∃ calls outcome last,
          Recurses children operate (.visit id above) state calls outcome last
          ∧ calls.length ≤ rounds := by
    cases rounds with
    | zero => exact absurd ended (by simp [Loop.run])
    | succ rounds =>
        rcases called : operate id above state with ⟨fault | value, after⟩
        · exact ⟨_, _, _, .failed called, Nat.le_add_left 1 rounds⟩
        · rw [Loop.run, Loop.next_visited made rest called] at ended
          obtain ⟨calls, outcome, last, below, bound⟩ :=
            ih rounds (Nat.lt_succ_self _) (.below id value 0) after _ rest ended
          exact ⟨_, outcome, last, .visited called below, Nat.succ_le_succ bound⟩
  cases stage with
  | visit id above => exact visits id above state made rest ended
  | below id value place =>
      cases here : (children state id)[place]? with
      | none => exact ⟨[], .ok value, state, .done here, Nat.zero_le _⟩
      | some child =>
          have top := ended
          rw [Stage.pending_below here, ← List.append_assoc] at top
          obtain ⟨calls, outcome, middle, walk, bound⟩ := visits child value state made _ top
          cases outcome with
          | error fault => exact ⟨calls, .error fault, middle, .broken here walk, bound⟩
          | ok other =>
              have positive : 0 < calls.length := by
                obtain ⟨more, rfl⟩ := walk.exists_cons
                exact Nat.succ_pos _
              -- the rounds that are left go to the children behind this one
              rw [walk.run_behind appends here made rest bound] at ended
              obtain ⟨more, outcome, last, behind, less⟩ :=
                ih (rounds - calls.length) (by omega) (.below id value (place + 1)) middle _ rest ended
              refine ⟨_, outcome, last, .onward here walk behind, ?_⟩
              rw [List.length_append]
              omega

/-- However long a loop from a node goes on, it makes no more than some number of calls. -/
def Operation.Bounded (children : σ → NodeId → List NodeId) (operate : Operation ε σ α) (root : NodeId)
    (prev : α) (state : σ) (bound : Nat) : Prop :=
  ∀ rounds,
    (Loop.run children operate rounds ⟨state, [], none, [(root, prev)]⟩).calls.length ≤ bound

/-- Where the number of calls is bounded, a walk comes to an end. -/
theorem Operation.Appends.exists_recurses_of_bounded (appends : operate.Appends children)
    {root : NodeId} {prev : α} {state : σ} {bound : Nat}
    (bounded : operate.Bounded children root prev state bound)
    : ∃ calls outcome last, Recurses children operate (.visit root prev) state calls outcome last := by
  have ended : (Loop.run children operate (bound + 1) ⟨state, [], none, [(root, prev)]⟩).stack = [] := by
    -- with something left to do there would be one call more than the bound
    by_contra pending
    have count := Loop.length_calls_run (bound + 1) _ pending
    have few := bounded (bound + 1)
    rw [List.length_nil] at count
    omega
  obtain ⟨calls, outcome, last, walk, -⟩ :=
    appends.exists_recurses (bound + 1) (.visit root prev) state [] [] ended
  exact ⟨calls, outcome, last, walk⟩

/-! ### Traversal -/

namespace Recurses

variable {root : NodeId} {prev : α} {state last : σ} {calls : List (NodeId × α)}
  {outcome : Except ε α}

/-- A completed walk through the children of a node gives the node's own value, by induction on it. -/
theorem value_of_below {id : NodeId} {value result : α} {place : Nat}
    (walk : Recurses children operate (.below id value place) state calls (.ok result) last)
    : result = value := by
  generalize comes : Except.ok result = outcome at walk
  generalize at_stage : Stage.below id value place = stage at walk
  induction walk generalizing place with
  | failed | visited => nomatch at_stage
  | done =>
      cases at_stage
      exact Except.ok.inj comes
  | broken => nomatch comes
  | onward _ _ _ _ rest =>
      cases at_stage
      exact rest comes rfl

/-- A loop that is past a walk has no fault just if the walk was completed, and then with the node's value
as its outcome.
-/
theorem outcome_past {id : NodeId} {value : α} {place : Nat} (made rest : List (NodeId × α))
    (walk : Recurses children operate (.below id value place) state calls outcome last)
    : (Loop.past made rest calls last outcome).outcome value = outcome := by
  cases outcome with
  | error fault => rfl
  | ok result =>
      rw [walk.value_of_below]
      rfl

/-- A loop that has nothing else before it ends with a walk if its rounds are not fewer than the calls. -/
theorem run_enough {stage : Stage α} (appends : operate.Appends children)
    (walk : Recurses children operate stage state calls outcome last) (made : List (NodeId × α))
    {rounds : Nat} (enough : calls.length ≤ rounds)
    : Loop.run children operate rounds ⟨state, made, none, stage.pending children state⟩
      = Loop.past made [] calls last outcome := by
  have ended : (Loop.past made [] calls last outcome).stack = [] := by cases outcome <;> rfl
  have past := walk.run_eq appends made []
  rw [List.nil_append] at past
  rw [← Nat.add_sub_cancel' enough, Loop.run_add, past, Loop.run_ended ended]

/-- The calls of a walk are as many as a loop makes, however long it goes on. -/
theorem bounded (appends : operate.Appends children)
    (walk : Recurses children operate (.visit root prev) state calls outcome last)
    : operate.Bounded children root prev state calls.length := by
  intro rounds
  have all := walk.run_enough appends [] (Nat.le_add_left calls.length rounds)
  rw [Stage.pending] at all
  calc (Loop.run children operate rounds ⟨state, [], none, [(root, prev)]⟩).calls.length
    _ ≤ (Loop.run children operate calls.length
          (Loop.run children operate rounds ⟨state, [], none, [(root, prev)]⟩)).calls.length :=
        Loop.length_calls_le calls.length _
    _ = (Loop.past [] [] calls last outcome).calls.length := by rw [← Loop.run_add, all]
    _ = calls.length := by cases outcome <;> rfl

/-- A traversal makes the calls of a recursive walk if its rounds are not fewer. -/
theorem traverse?_eq (appends : operate.Appends children)
    (walk : Recurses children operate (.visit root prev) state calls outcome last) {rounds : Nat}
    (enough : calls.length ≤ rounds + 1)
    : Loop.traverse? children operate rounds root prev state = some (calls, outcome, last) := by
  cases walk with
  | failed called => rw [Loop.traverse?, called]
  | @visited _ _ value _ after _ calls _ called below =>
      have all := below.run_enough appends [(root, prev)] (Nat.le_of_succ_le_succ enough)
      have ended : (Loop.past [(root, prev)] [] calls last outcome).stack = [] := by
        cases outcome <;> rfl
      rw [Stage.pending, List.drop_zero] at all
      simp only [Loop.traverse?, called, all, ended, List.isEmpty_nil, if_true,
        below.outcome_past [(root, prev)] []]
      cases outcome <;> rfl

/-- A sweep makes the calls of a recursive walk if its rounds are not fewer. -/
theorem sweep?_eq (appends : operate.Appends children)
    (walk : Recurses children operate (.visit root prev) state calls outcome last) {rounds : Nat}
    (enough : calls.length ≤ rounds)
    : Loop.sweep? children operate rounds root prev state
      = some (calls, outcome.map fun _ => (), last) := by
  have all := walk.run_enough appends [] enough
  have ended : (Loop.past [] [] calls last outcome).stack = [] := by cases outcome <;> rfl
  rw [Stage.pending] at all
  simp only [Loop.sweep?, all, ended, List.isEmpty_nil, if_true]
  cases outcome <;> rfl

end Recurses

/-- A traversal that ends makes the calls of a recursive walk. -/
theorem Operation.Appends.recurses_of_traverse? (appends : operate.Appends children) {rounds : Nat}
    {root : NodeId} {prev : α} {state last : σ} {calls : List (NodeId × α)} {outcome : Except ε α}
    (ends : Loop.traverse? children operate rounds root prev state = some (calls, outcome, last))
    : Recurses children operate (.visit root prev) state calls outcome last := by
  -- some walk there is, and the traversal makes the calls of no other
  have exists_walk : ∃ calls outcome last,
      Recurses children operate (.visit root prev) state calls outcome last
      ∧ calls.length ≤ rounds + 1 := by
    rcases called : operate root prev state with ⟨fault | value, after⟩
    · exact ⟨_, _, _, .failed called, Nat.le_add_left 1 rounds⟩
    · simp only [Loop.traverse?, called] at ends
      split at ends
      · rename_i ended
        obtain ⟨calls, outcome, last, below, bound⟩ :=
          appends.exists_recurses rounds (.below root value 0) after [(root, prev)] []
            (List.isEmpty_iff.mp ended)
        exact ⟨_, outcome, last, .visited called below, Nat.succ_le_succ bound⟩
      · nomatch ends
  obtain ⟨calls', outcome', last', walk, enough⟩ := exists_walk
  cases (walk.traverse?_eq appends enough).symm.trans ends
  exact walk

end FoldTree
