import FoldTree.Proofs.Profit.Names
import FoldTree.Proofs.Settings.Loading

/-! Settings that are changed, one change after the other. A change gives texts for named fields to
the settings that stand then, and one that fails leaves those as they are. Whatever is changed, the
settings are those that the last texts of successful changes make at once.
-/

namespace FoldTree.Settings

/-- Texts for named fields, given one after the other. -/
abbrev Change := List (String × String)

variable {texts : Texts} {settings next first : Settings} {given change : Change} {field : Field}

/-! ### Texts in the form in which settings keep them -/

/-- A text for a field as settings keep it: that for unfolded nodes in lower case, any other one as
it is.
-/
def Field.kept : Field → String → String
  | .profitType, text | .project, text => text
  | .unfoldedProfit, text => String.ofList (Text.lower text.toList)

/-- Settings keep the texts that they are made from. -/
theorem get_texts (made : ofTexts texts = .ok settings) (field : Field)
    : settings.texts.get field = field.kept (texts.get field) := by
  obtain ⟨-, unfolded, type, project⟩ := ofTexts_eq_ok.mp made
  cases field with
  | profitType => exact type
  | project => exact project
  | unfoldedProfit => exact word_of_ofWord? unfolded

/-- What settings keep stays when it is given to them again. -/
theorem kept_get_texts (settings : Settings) (field : Field)
    : field.kept (settings.texts.get field) = settings.texts.get field := by
  cases field with
  | profitType => rfl
  | project => rfl
  | unfoldedProfit =>
      have low (mode : UnfoldedProfit) : Field.unfoldedProfit.kept mode.word = mode.word := by
        cases mode <;> decide +kernel
      exact low settings.unfoldedProfit

/-- Texts of which settings keep the same make the same settings. -/
theorem ofTexts_congr {other : Texts} (made : ofTexts texts = .ok settings)
    (same : ∀ field : Field, field.kept (other.get field) = field.kept (texts.get field))
    : ofTexts other = .ok settings := by
  obtain ⟨profit, unfolded, type, project⟩ := ofTexts_eq_ok.mp made
  have sameType : other.profitType = texts.profitType := same .profitType
  have sameProject : other.project = texts.project := same .project
  have sameMode : String.ofList (Text.lower other.unfoldedProfit.toList)
      = String.ofList (Text.lower texts.unfoldedProfit.toList) := same .unfoldedProfit
  apply ofTexts_eq_ok.mpr
  rw [sameType, sameProject, sameMode]
  exact ⟨profit, unfolded, type, project⟩

/-! ### Texts given one after the other -/

/-- Only texts for fields are assigned, by induction on what is assigned. -/
theorem Texts.known_of_assign {assigned : Texts} (made : texts.assign given = .ok assigned)
    : Known given := by
  induction given generalizing texts with
  | nil => exact List.forall_mem_nil _
  | cons entry rest ih =>
      obtain ⟨name, value⟩ := entry
      rw [assign] at made
      split at made
      · cases made
      · rename_i field found
        refine List.forall_mem_cons.mpr ⟨?_, ih made⟩
        exact Option.isSome_iff_exists.mpr ⟨field, found⟩

/-- Texts in front, with texts for named fields assigned to them, make settings where all names are
those of fields and the last text of each field, or else the one in front, makes them.
-/
theorem assign_ofTexts {front : Texts}
    : (front.assign given >>= ofTexts) = .ok settings
      ↔ Known given
        ∧ ∃ texts : Texts, ofTexts texts = .ok settings
          ∧ ∀ field : Field,
              texts.get field = (given.reverse.lookup field.word).getD (front.get field) := by
  constructor
  · intro made
    obtain ⟨assigned, assigns, makes⟩ := Outcome.bind_eq_ok.mp made
    have known := Texts.known_of_assign assigns
    obtain ⟨texts, same, gets⟩ := front.assign_known known
    cases same.symm.trans assigns
    exact ⟨known, assigned, makes, gets⟩
  · rintro ⟨known, texts, makes, gets⟩
    obtain ⟨assigned, assigns, last⟩ := front.assign_known known
    have same : assigned = texts :=
      Texts.eq_of_get fun field => (last field).trans (gets field).symm
    rw [assigns, same]
    exact makes

/-- A change can be made just where the texts of the settings, with those of the change assigned to
them, make settings. The name of what is derived is that of no field, so it is not let in either
way.
-/
theorem replace_eq_ok
    : settings.replace change = .ok next
      ↔ (settings.texts.assign change >>= ofTexts) = .ok next := by
  unfold replace
  split
  · rename_i derived
    obtain ⟨entry, member, same⟩ := List.any_eq_true.mp derived
    have unknown : Field.ofWord? "profit_function" = none := by decide
    constructor
    · intro made
      cases made
    · intro made
      have isField := (assign_ofTexts.mp made).1 entry member
      rw [beq_iff_eq.mp same, unknown] at isField
      cases isField
  · rfl

/-- Settings that are made and then changed are made at once, with the texts of the change behind
the others.
-/
theorem ofFields_append (made : ofFields given = .ok settings)
    (changed : settings.replace change = .ok next)
    : ofFields (given ++ change) = .ok next := by
  obtain ⟨known, before, makes, gets⟩ := assign_ofTexts.mp made
  obtain ⟨later, after, follows, changes⟩ := assign_ofTexts.mp (replace_eq_ok.mp changed)
  obtain ⟨texts, same, last⟩ := ofFields_known (known.append later)
  rw [same]
  refine ofTexts_congr follows fun field => ?_
  rw [last, changes, List.reverse_append, List.lookup_append]
  cases change.reverse.lookup field.word with
  | some value => rfl
  | none =>
      -- the settings give back what they keep of the text before the change
      rw [Option.none_or, Option.getD_none, ← gets, kept_get_texts, get_texts makes]

/-- A change leaves the texts of fields that it does not name. -/
theorem get_replace (changed : settings.replace change = .ok next)
    (unnamed : ∀ entry ∈ change, entry.1 ≠ field.word)
    : next.texts.get field = settings.texts.get field := by
  obtain ⟨-, texts, makes, gets⟩ := assign_ofTexts.mp (replace_eq_ok.mp changed)
  have absent : change.reverse.lookup field.word = none := by
    apply List.lookup_eq_none_iff.mpr
    intro entry member
    exact bne_iff_ne.mpr (unnamed entry (List.mem_reverse.mp member)).symm
  rw [get_texts makes, gets, absent, Option.getD_none, kept_get_texts]

/-- The last text that is given for each field. -/
def latest (given : Change) : Change :=
  layerOf fun field => given.reverse.lookup field.word

/-- Only the last text of each field matters where all names are those of fields. -/
theorem ofFields_latest (known : Known given) : ofFields (latest given) = ofFields given := by
  obtain ⟨texts, same, gets⟩ := ofFields_known known
  obtain ⟨others, equal, last⟩ := ofFields_known (known_layerOf _)
  rw [same, latest, equal]
  congr 1
  apply Texts.eq_of_get
  intro field
  rw [last, gets, lookup_layerOf]

/-! ### Chains of changes -/

/-- Settings after one change and another. A change that fails leaves them as they are. -/
def changed (settings : Settings) (changes : List Change) : Settings :=
  changes.foldl
    (fun current change =>
      match current.replace change with
      | .ok next => next
      | .error _ => current)
    settings

/-- The changes that do not fail, each made to the settings after those in front of it. -/
def succeeding (settings : Settings) : List Change → List Change
  | [] => []
  | change :: rest =>
    match settings.replace change with
    | .ok next => change :: next.succeeding rest
    | .error _ => settings.succeeding rest

/-- Changes of which none fails, from the settings that the first is made to, to those that the last
one makes.
-/
inductive Leads : Settings → List Change → Settings → Prop
  | unchanged (settings : Settings) : Leads settings [] settings
  | change {settings next last : Settings} {change : Change} {rest : List Change}
    (made : settings.replace change = .ok next) (later : Leads next rest last)
    : Leads settings (change :: rest) last

/-- A change that fails leaves the settings as they are. -/
theorem changed_append_error {changes : List Change} {fault : Fault}
    (failed : (settings.changed changes).replace change = .error fault)
    : settings.changed (changes ++ [change]) = settings.changed changes := by
  unfold changed at failed ⊢
  rw [List.foldl_append, List.foldl_cons, List.foldl_nil]
  simp only [failed]

/-- The changes that succeed lead to where all changes lead, by induction on the changes. -/
theorem leads_succeeding (settings : Settings) (changes : List Change)
    : Leads settings (settings.succeeding changes) (settings.changed changes) := by
  induction changes generalizing settings with
  | nil => exact .unchanged settings
  | cons change rest ih =>
      simp only [succeeding, changed, List.foldl_cons]
      cases made : settings.replace change with
      | ok next => exact .change made (ih next)
      | error fault => exact ih settings

namespace Leads

variable {changes : List Change} {last : Settings}

/-- Texts that made the settings make those that changes lead to, with the texts of the changes
behind them, by induction on the changes.
-/
theorem ofFields (leads : Leads settings changes last)
    (made : Settings.ofFields given = .ok settings)
    : Settings.ofFields (given ++ changes.flatten) = .ok last := by
  induction leads generalizing given with
  | unchanged => rwa [List.flatten_nil, List.append_nil]
  | change step _ ih =>
      rw [List.flatten_cons, ← List.append_assoc]
      exact ih (ofFields_append made step)

/-- Changes leave the text of a field that none of them names, by induction on the changes. -/
theorem get_texts (leads : Leads settings changes last)
    (unnamed : ∀ change ∈ changes, ∀ entry ∈ change, entry.1 ≠ field.word)
    : last.texts.get field = settings.texts.get field := by
  induction leads with
  | unchanged => rfl
  | change step _ ih =>
      obtain ⟨here, later⟩ := List.forall_mem_cons.mp unnamed
      exact (ih later).trans (get_replace step here)

end Leads

/-- Settings keep the last text that was given for each field. -/
theorem get_texts_of_ofFields (made : ofFields given = .ok settings) (field : Field)
    : settings.texts.get field
      = field.kept ((given.reverse.lookup field.word).getD (Texts.default.get field)) := by
  obtain ⟨-, texts, makes, gets⟩ := assign_ofTexts.mp made
  rw [get_texts makes, gets]

/-- Settings that are made from texts hold the profit function of their own name. -/
theorem ofName?_profitType (made : ofFields given = .ok settings)
    : ProfitFunction.ofName? settings.profitType = some settings.profit := by
  obtain ⟨texts, -, makes⟩ := Outcome.bind_eq_ok.mp made
  obtain ⟨profit, -, type, -⟩ := ofTexts_eq_ok.mp makes
  rw [type]
  exact profit

/-- Settings that are made from texts and then changed, where changes may fail. The profit function
is the one of its name, and what is chosen for unfolded nodes is one of the two words. What no
successful change names stays, and a failed change leaves everything as it is. Of the first texts
and those of successful changes, the last one for each field is what the settings keep, and these
texts make the settings at once. A name resolves where, trimmed and in lower case, it is the word of
a policy or starts with one of two words; it does so for one policy only, and the name that is kept
resolves to the same.
-/
theorem changed_eq_ofFields (made : ofFields given = .ok first) (changes : List Change)
    : let last := first.changed changes
      let succeeded := first.succeeding changes
      let texts := given ++ succeeded.flatten
      (ProfitFunction.ofName? last.profitType = some last.profit
        ∧ (last.unfoldedProfit.word = "courtesy" ∨ last.unfoldedProfit.word = "suppress")
        ∧ (∀ field : Field,
            (∀ change ∈ succeeded, ∀ entry ∈ change, entry.1 ≠ field.word)
            → last.texts.get field = first.texts.get field
              ∧ (field = .profitType → last.profit = first.profit))
        ∧ (∀ change fault, last.replace change = .error fault
            → first.changed (changes ++ [change]) = last)
        ∧ Leads first succeeded last
        ∧ (∀ field : Field,
            last.texts.get field
              = field.kept ((texts.reverse.lookup field.word).getD (Texts.default.get field)))
        ∧ ofFields (latest texts) = .ok last)
      ∧ ∀ name : String,
          let key := Text.lower (Text.trim name.toList)
          ((ProfitFunction.ofName? name).isSome
            ↔ (∃ policy : Policy, Text.lower policy.word.toList = key)
              ∨ "specific".toList <+: key ∨ "kldiv".toList <+: key)
          ∧ ∀ profit, ProfitFunction.ofName? name = some profit
            → (∀ policy : Policy, policy.Chosen key ↔ policy = profit.policy)
              ∧ ProfitFunction.ofName? profit.name = some profit := by
  intro last succeeded texts
  have leads := leads_succeeding first changes
  have makes := leads.ofFields made
  have resolved := ofName?_profitType makes
  refine ⟨⟨resolved, ?_, ?_, ?_, leads, get_texts_of_ofFields makes, ?_⟩, ?_⟩
  · cases last.unfoldedProfit with
    | courtesy => exact .inl rfl
    | suppress => exact .inr rfl
  · intro field unnamed
    have stays := leads.get_texts unnamed
    refine ⟨stays, ?_⟩
    rintro rfl
    have sameName : last.profitType = first.profitType := stays
    rw [sameName, ofName?_profitType made] at resolved
    exact (Option.some.inj resolved).symm
  · intro change fault failed
    exact changed_append_error failed
  · rw [ofFields_latest (assign_ofTexts.mp makes).1]
    exact makes
  · intro name key
    refine ⟨ProfitFunction.isSome_ofName?.trans Policy.exists_chosen, ?_⟩
    intro profit found
    exact ⟨ProfitFunction.chosen_iff found, ProfitFunction.ofName?_name found⟩

/-- Changes of which the first one and the last two fail: a policy that there is not, a field that
there is not, and one that is derived.
-/
def brokenChanges : List Change :=
  [[("cur_proj", "lost"), ("profit_type", "Bogus")], [("cur_proj", "shop")],
    [("nope", "x")], [("profit_function", "Likely")]]

/-- The second change alone is made; what is chosen for unfolded nodes is given in capitals first
and goes through the changes in lower case.
-/
theorem brokenChanges_changed
    : let given := [("profit_type", " KLDivTopic\t"), ("unfolded_profit", "SUPPRESS")]
      let first : Settings := ⟨" KLDivTopic\t", "", .suppress, ⟨.klDiv, "KLDivTopic"⟩⟩
      let last : Settings := ⟨" KLDivTopic\t", "shop", .suppress, ⟨.klDiv, "KLDivTopic"⟩⟩
      ofFields given = .ok first
        ∧ first.changed brokenChanges = last
        ∧ first.succeeding brokenChanges = [[("cur_proj", "shop")]]
        ∧ ofFields (latest (given ++ [("cur_proj", "shop")])) = .ok last
        ∧ ProfitFunction.ofName? " KLDivTopic\t" = some ⟨.klDiv, "KLDivTopic"⟩
        ∧ ProfitFunction.ofName? "KLDivTopic" = some ⟨.klDiv, "KLDivTopic"⟩ := by
  intro given first last
  have made : ofFields given = .ok first := rfl
  have changes : first.changed brokenChanges = last := by decide +kernel
  have succeeded : first.succeeding brokenChanges = [[("cur_proj", "shop")]] := by decide +kernel
  obtain ⟨settled, named⟩ := changed_eq_ofFields made brokenChanges
  obtain ⟨resolved, -, -, -, -, -, once⟩ := settled
  rw [changes, succeeded] at once
  rw [changes] at resolved
  exact ⟨made, changes, succeeded, once, resolved, ((named _).2 _ resolved).2⟩

end FoldTree.Settings
