import FoldTree.Profit.Policy
import FoldTree.Proofs.Text.Trimming

/-! The names of policies. A trimmed name in lower case is the word of a policy or starts with the
word of a family; no name does so for two policies, so the order in which they are tried does not
matter. The name that a profit function keeps chooses that profit function again.
-/

namespace FoldTree

namespace Policy

variable {key : List Char} {policy other : Policy}

/-- Whether a trimmed name in lower case chooses a policy: it is the policy's word, or the policy is
a family and its word is how the name starts.
-/
def Chosen (policy : Policy) (key : List Char) : Prop :=
  policy.key = key ∨ policy.isFamily = true ∧ policy.key <+: key

instance (policy : Policy) (key : List Char) : Decidable (policy.Chosen key) :=
  inferInstanceAs (Decidable (policy.key = key ∨ policy.isFamily = true ∧ policy.key <+: key))

/-- The word of a policy chooses no other one. -/
theorem Chosen.eq_of_key (chosen : policy.Chosen other.key) : policy = other := by
  revert chosen
  cases policy <;> cases other <;> decide +kernel

/-- A name chooses one policy at most. Of two families that a name starts with, the shorter word
would be how the longer one starts.
-/
theorem Chosen.unique (chosen : policy.Chosen key) (also : other.Chosen key) : policy = other := by
  rcases chosen with rfl | ⟨family, starts⟩
  · exact also.eq_of_key.symm
  · rcases also with rfl | ⟨otherFamily, otherStarts⟩
    · exact Chosen.eq_of_key (.inr ⟨family, starts⟩)
    · rcases List.prefix_or_prefix_of_prefix starts otherStarts with shorter | shorter
      · exact Chosen.eq_of_key (.inr ⟨family, shorter⟩)
      · exact (Chosen.eq_of_key (.inr ⟨otherFamily, shorter⟩)).symm

/-- Every policy is tried. -/
theorem mem_all (policy : Policy) : policy ∈ all := by
  cases policy <;> decide

/-- What is found for a name is what it chooses. -/
theorem chosen_of_ofKey? (found : ofKey? key = some policy) : policy.Chosen key := by
  unfold ofKey? at found
  split at found
  · rename_i tried
    cases found
    have same := List.find?_some tried
    exact .inl (beq_iff_eq.mp same)
  · have starts := List.find?_some found
    rw [Bool.and_eq_true, List.isPrefixOf_iff_prefix] at starts
    exact .inr starts

/-- Something is found for a name that chooses a policy. -/
theorem isSome_ofKey? (chosen : policy.Chosen key) : (ofKey? key).isSome := by
  unfold ofKey?
  split
  · rfl
  · rename_i absent
    rw [List.find?_isSome]
    rcases chosen with same | ⟨family, starts⟩
    · exact absurd (beq_iff_eq.mpr same) (List.find?_eq_none.mp absent policy (mem_all policy))
    · refine ⟨policy, mem_all policy, ?_⟩
      rw [Bool.and_eq_true, List.isPrefixOf_iff_prefix]
      exact ⟨family, starts⟩

/-- A policy is found for a name just where the name chooses it. -/
theorem ofKey?_eq_some : ofKey? key = some policy ↔ policy.Chosen key := by
  constructor
  · exact chosen_of_ofKey?
  · intro chosen
    obtain ⟨found, same⟩ := Option.isSome_iff_exists.mp (isSome_ofKey? chosen)
    rw [same, (chosen_of_ofKey? same).unique chosen]

/-- A name chooses some policy if it is the word of one, or starts as one of the two families. -/
theorem exists_chosen
    : (∃ policy : Policy, policy.Chosen key)
      ↔ (∃ policy : Policy, policy.key = key)
        ∨ "specific".toList <+: key ∨ "kldiv".toList <+: key := by
  have specific : Policy.specific.key = "specific".toList := by decide +kernel
  have klDiv : Policy.klDiv.key = "kldiv".toList := by decide +kernel
  constructor
  · rintro ⟨policy, same | ⟨family, starts⟩⟩
    · exact .inl ⟨policy, same⟩
    · cases policy <;> cases family
      · exact .inr (.inl (specific ▸ starts))
      · exact .inr (.inr (klDiv ▸ starts))
  · rintro (⟨policy, same⟩ | starts | starts)
    · exact ⟨policy, .inl same⟩
    · exact ⟨.specific, .inr ⟨rfl, specific ▸ starts⟩⟩
    · exact ⟨.klDiv, .inr ⟨rfl, klDiv ▸ starts⟩⟩

end Policy

namespace ProfitFunction

variable {name : String} {profit : ProfitFunction}

/-- A name resolves to the policy that it chooses, trimmed and in lower case, with the trimmed
name.
-/
theorem ofName?_eq_some
    : ofName? name = some profit
      ↔ profit.policy.Chosen (Text.lower (Text.trim name.toList))
        ∧ profit.name = String.ofList (Text.trim name.toList) := by
  obtain ⟨policy, kept⟩ := profit
  unfold ofName?
  rw [Option.map_eq_some_iff]
  constructor
  · rintro ⟨found, same, equal⟩
    cases equal
    exact ⟨Policy.ofKey?_eq_some.mp same, rfl⟩
  · rintro ⟨chosen, equal⟩
    cases equal
    exact ⟨policy, Policy.ofKey?_eq_some.mpr chosen, rfl⟩

/-- A name can be resolved just where it chooses some policy. -/
theorem isSome_ofName?
    : (ofName? name).isSome
      ↔ ∃ policy : Policy, policy.Chosen (Text.lower (Text.trim name.toList)) := by
  rw [Option.isSome_iff_exists]
  constructor
  · rintro ⟨profit, found⟩
    exact ⟨profit.policy, (ofName?_eq_some.mp found).1⟩
  · rintro ⟨policy, chosen⟩
    exact ⟨⟨policy, String.ofList (Text.trim name.toList)⟩, ofName?_eq_some.mpr ⟨chosen, rfl⟩⟩

/-- A name that is resolved chooses the policy that it resolves to and no other one. -/
theorem chosen_iff (found : ofName? name = some profit) (policy : Policy)
    : policy.Chosen (Text.lower (Text.trim name.toList)) ↔ policy = profit.policy := by
  obtain ⟨chosen, -⟩ := ofName?_eq_some.mp found
  constructor
  · intro other
    exact other.unique chosen
  · intro same
    rw [same]
    exact chosen

/-- The name that is kept resolves to the same profit function: it is trimmed already. -/
theorem ofName?_name (found : ofName? name = some profit) : ofName? profit.name = some profit := by
  obtain ⟨chosen, kept⟩ := ofName?_eq_some.mp found
  have trimmed : Text.trim profit.name.toList = Text.trim name.toList := by
    rw [kept, String.toList_ofList, Text.trim_trim]
  apply ofName?_eq_some.mpr
  rw [trimmed]
  exact ⟨chosen, kept⟩

end ProfitFunction

end FoldTree
