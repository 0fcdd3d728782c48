import Mathlib.Data.List.SplitBy

/-! Items of a list fall into groups, in which each goes on the one before. There is just one way to make
the groups as large as can be.
-/

namespace FoldTree

variable {α β : Type} {goesOn : α → α → Prop} {items : List α} {groups : List (List α)} {a : α}

/-- Items fall into groups that are as large as can be: in each of them every item goes on the one
before, and no group could go on with the next one.
-/
structure Grouped (goesOn : α → α → Prop) (items : List α) (groups : List (List α)) : Prop where
  flatten : groups.flatten = items
  filled : ∀ group ∈ groups, group ≠ []
  runs : ∀ group ∈ groups, group.IsChain goesOn
  apart : groups.IsChain fun group next =>
    ∀ last ∈ group.getLast?, ∀ first ∈ next.head?, ¬goesOn last first

/-- There is just one way to group items: they are split where one does not go on the one before. -/
theorem grouped_iff [DecidableRel goesOn]
    : Grouped goesOn items groups
      ↔ items.splitBy (fun one next => decide (goesOn one next)) = groups := by
  rw [List.splitBy_eq_iff]
  constructor
  · intro grouped
    refine ⟨grouped.flatten.symm, fun none => grouped.filled [] none rfl,
      fun group member => by simpa using grouped.runs group member, ?_⟩
    refine grouped.apart.imp_of_mem_imp fun group next member member' stops => ?_
    have here := grouped.filled group member
    have there := grouped.filled next member'
    exact ⟨here, there, decide_eq_false
      (stops _ (List.getLast?_eq_some_getLast here) _ (List.head?_eq_some_head there))⟩
  · rintro ⟨flatten, filled, runs, apart⟩
    refine ⟨flatten.symm, fun group member none => filled (none ▸ member),
      fun group member => by simpa using runs group member, apart.imp ?_⟩
    rintro group next ⟨here, there, stops⟩ last ends first starts
    cases (List.getLast?_eq_some_getLast here).symm.trans ends
    cases (List.head?_eq_some_head there).symm.trans starts
    exact of_decide_eq_false stops

/-- No items make no groups. -/
theorem Grouped.nil : Grouped goesOn [] [] :=
  ⟨rfl, fun _ none => absurd none List.not_mem_nil, fun _ none => absurd none List.not_mem_nil, .nil⟩

/-- An item that the first one goes on joins its group. -/
theorem Grouped.join {next : α} {rest : List α}
    (grouped : Grouped goesOn items ((next :: rest) :: groups)) (goes : goesOn a next)
    : Grouped goesOn (a :: items) ((a :: next :: rest) :: groups) := by
  refine ⟨congrArg (a :: ·) grouped.flatten, ?_, ?_, ?_⟩
  · rintro group (_ | ⟨_, member⟩)
    · exact List.cons_ne_nil _ _
    · exact grouped.filled group (List.mem_cons_of_mem _ member)
  · rintro group (_ | ⟨_, member⟩)
    · exact .cons_cons goes (grouped.runs _ List.mem_cons_self)
    · exact grouped.runs group (List.mem_cons_of_mem _ member)
  · -- the end of the first group is what it was
    obtain ⟨first, others⟩ := List.isChain_cons.mp grouped.apart
    exact List.isChain_cons.mpr ⟨fun later member last ends => first later member last
      (by rwa [List.getLast?_cons_cons] at ends), others⟩

/-- An item that no other goes on makes a group of its own. -/
theorem Grouped.open (grouped : Grouped goesOn items groups)
    (stops : ∀ first ∈ items.head?, ¬goesOn a first)
    : Grouped goesOn (a :: items) ([a] :: groups) := by
  refine ⟨congrArg (a :: ·) grouped.flatten, ?_, ?_, ?_⟩
  · rintro group (_ | ⟨_, member⟩)
    · exact List.cons_ne_nil _ _
    · exact grouped.filled group member
  · rintro group (_ | ⟨_, member⟩)
    · exact .singleton a
    · exact grouped.runs group member
  · refine List.isChain_cons.mpr ⟨?_, grouped.apart⟩
    rintro next first last ends item starts
    cases ends
    obtain ⟨others, rfl⟩ := List.head?_eq_some_iff.mp first
    refine stops item ?_
    rw [← grouped.flatten, List.flatten_cons, List.head?_append, starts]
    rfl

/-- An item that goes on the last one joins its group. -/
theorem Grouped.joinLast {group : List α} (grouped : Grouped goesOn items (groups ++ [group]))
    (goes : ∀ last ∈ group.getLast?, goesOn last a)
    : Grouped goesOn (items ++ [a]) (groups ++ [group ++ [a]]) := by
  have filled := grouped.filled group (List.mem_append_right _ List.mem_cons_self)
  refine ⟨?_, ?_, ?_, ?_⟩
  · rw [← grouped.flatten]
    simp
  · intro other member
    rcases List.mem_append.mp member with member | new
    · exact grouped.filled other (List.mem_append_left _ member)
    · cases List.mem_singleton.mp new
      exact List.append_ne_nil_of_left_ne_nil filled [a]
  · intro other member
    rcases List.mem_append.mp member with member | new
    · exact grouped.runs other (List.mem_append_left _ member)
    · cases List.mem_singleton.mp new
      refine List.isChain_append.mpr ⟨grouped.runs group ?_, .singleton a, fun last ends next starts => ?_⟩
      · exact List.mem_append_right _ List.mem_cons_self
      · cases starts
        exact goes last ends
  · -- the start of the last group is what it was
    obtain ⟨others, -, joint⟩ := List.isChain_append.mp grouped.apart
    refine List.isChain_append.mpr ⟨others, .singleton _, fun before member next new => ?_⟩
    cases new
    rw [List.head?_append_of_ne_nil _ filled]
    exact joint before member group rfl

/-- An item that goes on no other makes a group of its own. -/
theorem Grouped.openLast (grouped : Grouped goesOn items groups)
    (stops : ∀ last ∈ items.getLast?, ¬goesOn last a)
    : Grouped goesOn (items ++ [a]) (groups ++ [[a]]) := by
  refine ⟨?_, ?_, ?_, ?_⟩
  · rw [← grouped.flatten]
    simp
  · intro group member
    rcases List.mem_append.mp member with member | new
    · exact grouped.filled group member
    · cases List.mem_singleton.mp new
      exact List.cons_ne_nil _ _
  · intro group member
    rcases List.mem_append.mp member with member | new
    · exact grouped.runs group member
    · cases List.mem_singleton.mp new
      exact .singleton a
  · refine List.isChain_append.mpr ⟨grouped.apart, .singleton _, fun before member next new => ?_⟩
    cases new
    rintro last ends first starts
    cases starts
    obtain ⟨others, rfl⟩ := List.getLast?_eq_some_iff.mp member
    refine stops last ?_
    rw [← grouped.flatten, List.flatten_append, List.flatten_singleton, List.getLast?_append, ends]
    rfl

/-- What items stand for is grouped as they are. -/
theorem Grouped.map {f : β → α} {items : List β} {groups : List (List β)}
    (grouped : Grouped (fun one next => goesOn (f one) (f next)) items groups)
    : Grouped goesOn (items.map f) (groups.map (List.map f)) := by
  refine ⟨?_, ?_, ?_, ?_⟩
  · rw [← grouped.flatten, List.map_flatten]
  · intro image member
    obtain ⟨group, inside, rfl⟩ := List.mem_map.mp member
    exact fun none => grouped.filled group inside (List.map_eq_nil_iff.mp none)
  · intro image member
    obtain ⟨group, inside, rfl⟩ := List.mem_map.mp member
    exact (List.isChain_map f).mpr (grouped.runs group inside)
  · refine (List.isChain_map _).mpr (grouped.apart.imp fun group next apart => ?_)
    simpa using apart

end FoldTree
