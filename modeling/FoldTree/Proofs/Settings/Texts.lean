import FoldTree.Proofs.Entries
import FoldTree.Proofs.Outcome
import FoldTree.Settings.Layers
import Mathlib

/-! Texts from several layers. Named texts are assigned one after the other, so of several for a
field the last one stays, whatever is given for other fields; where every name is that of a field,
assigning never fails.
-/

namespace FoldTree.Settings

variable {texts : Texts} {field : Field} {word : String}

/-- The text for a field. -/
def Texts.get (texts : Texts) : Field → String
  | .profitType => texts.profitType
  | .project => texts.project
  | .unfoldedProfit => texts.unfoldedProfit

/-- A text that is replaced is replaced for its field only. -/
theorem Texts.get_set (value : String) (field other : Field)
    : (texts.set value field).get other = if field = other then value else texts.get other := by
  cases field <;> cases other <;> rfl

/-- Texts that agree for every field are the same. -/
theorem Texts.eq_of_get {other : Texts} (same : ∀ field, texts.get field = other.get field)
    : texts = other := by
  obtain ⟨profitType, project, unfoldedProfit⟩ := texts
  obtain rfl : profitType = other.profitType := same .profitType
  obtain rfl : project = other.project := same .project
  obtain rfl : unfoldedProfit = other.unfoldedProfit := same .unfoldedProfit
  rfl

/-- A name is that of a field if it is the word for it. -/
theorem Field.ofWord?_eq_some : Field.ofWord? word = some field ↔ field.word = word := by
  constructor
  · intro found
    simpa using List.find?_some found
  · rintro rfl
    cases field <;> decide

/-- No two fields share a word. -/
theorem Field.word_injective {field other : Field} (same : field.word = other.word)
    : field = other :=
  Option.some.inj ((ofWord?_eq_some.mpr rfl).symm.trans (ofWord?_eq_some.mpr same.symm))

/-- Whether every name is that of a field. -/
def Known {α : Type} (entries : List (String × α)) : Prop :=
  ∀ entry ∈ entries, (Field.ofWord? entry.1).isSome

instance {α : Type} (entries : List (String × α)) : Decidable (Known entries) :=
  inferInstanceAs (Decidable (∀ entry ∈ entries, (Field.ofWord? entry.1).isSome))

/-- Known names after known names. -/
theorem Known.append {α : Type} {entries more : List (String × α)} (known : Known entries)
    (later : Known more)
    : Known (entries ++ more) :=
  fun entry member => (List.mem_append.mp member).elim (known entry) (later entry)

/-- Texts for known names are assigned, and the last one for a field stays, by induction on what is
assigned.
-/
theorem Texts.assign_known (texts : Texts) {fields : List (String × String)} (known : Known fields)
    : ∃ assigned, texts.assign fields = .ok assigned
      ∧ ∀ field,
          assigned.get field = (fields.reverse.lookup field.word).getD (texts.get field) := by
  induction fields generalizing texts with
  | nil => exact ⟨texts, rfl, fun _ => rfl⟩
  | cons first rest ih =>
      obtain ⟨field, found⟩ := Option.isSome_iff_exists.mp (known first List.mem_cons_self)
      have same : field.word = first.1 := Field.ofWord?_eq_some.mp found
      obtain ⟨assigned, made, gets⟩ := ih (texts.set first.2 field) fun entry member =>
        known entry (List.mem_cons_of_mem _ member)
      refine ⟨assigned, ?_, fun other => ?_⟩
      · simp only [assign, found, made]
      · rw [gets, Texts.get_set, List.reverse_cons, List.lookup_append]
        cases rest.reverse.lookup other.word with
        | some value => rfl
        | none =>
            by_cases equal : field = other
            · subst equal
              simp [same, List.lookup]
            · have apart : other.word ≠ first.1 := fun word =>
                equal (Field.word_injective (same.trans word.symm))
              simp [equal, List.lookup, beq_false_of_ne apart]

/-! ### Layers -/

/-- What is asked for with a text stands in its layer. -/
theorem mem_askedLayer {asked : List (String × Option String)} {name value : String}
    : (name, value) ∈ askedLayer asked ↔ (name, some value) ∈ asked := by
  simp only [askedLayer, List.mem_filterMap, Option.map_eq_some_iff, Prod.mk.injEq, Prod.exists]
  constructor
  · rintro ⟨name, given, member, text, rfl, rfl, rfl⟩
    exact member
  · intro member
    exact ⟨name, some value, member, value, rfl, rfl, rfl⟩

/-- No name comes twice in the layer if it is not asked for twice, by induction. -/
theorem nodup_askedLayer {asked : List (String × Option String)}
    (once : (asked.map Prod.fst).Nodup)
    : ((askedLayer asked).map Prod.fst).Nodup := by
  induction asked with
  | nil => exact .nil
  | cons first rest ih =>
      obtain ⟨name, given⟩ := first
      obtain ⟨fresh, later⟩ := List.nodup_cons.mp once
      cases given with
      | none => exact ih later
      | some value =>
          refine List.nodup_cons.mpr ⟨fun member => fresh ?_, ih later⟩
          obtain ⟨entry, kept, same⟩ := List.mem_map.mp member
          exact List.mem_map.mpr ⟨_, mem_askedLayer.mp kept, same⟩

/-- What is asked for a field, where no name is asked for twice. -/
theorem lookup_askedLayer {asked : List (String × Option String)}
    (once : (asked.map Prod.fst).Nodup) (name : String)
    : (askedLayer asked).reverse.lookup name = (asked.lookup name).join := by
  have kept := nodup_askedLayer once
  refine Option.ext fun value => ?_
  rw [Entries.lookup_reverse kept, Entries.lookup_eq_some_iff kept, mem_askedLayer,
    Option.join_eq_some_iff, Entries.lookup_eq_some_iff once]

/-- Texts for some fields, under their words. -/
def layerOf (text : Field → Option String) : List (String × String) :=
  Field.all.filterMap fun field => (text field).map fun text => (field.word, text)

/-- What a layer gives for a field. -/
theorem lookup_layerOf (text : Field → Option String) (field : Field)
    : (layerOf text).reverse.lookup field.word = text field := by
  unfold layerOf
  cases profit : text .profitType <;>
    cases project : text .project <;>
    cases mode : text .unfoldedProfit <;>
    simp only [Field.all, List.filterMap_cons, List.filterMap_nil, profit, project, mode,
      Option.map_some, Option.map_none] <;>
    cases field <;> simp only [profit, project, mode] <;> rfl

/-- A layer gives texts under the words of fields. -/
theorem known_layerOf (text : Field → Option String) : Known (layerOf text) := by
  intro entry member
  obtain ⟨field, -, given⟩ := List.mem_filterMap.mp member
  obtain ⟨value, -, rfl⟩ := Option.map_eq_some_iff.mp given
  exact Option.isSome_iff_exists.mpr ⟨field, Field.ofWord?_eq_some.mpr rfl⟩

/-- What the environment gives for a field. -/
theorem lookup_environmentLayer (environment : String → Option String) (field : Field)
    : (environmentLayer environment).reverse.lookup field.word
      = environment field.environmentName :=
  lookup_layerOf (fun field => environment field.environmentName) field

/-- The environment gives texts under the words of fields. -/
theorem known_environmentLayer (environment : String → Option String)
    : Known (environmentLayer environment) :=
  known_layerOf fun field => environment field.environmentName

end FoldTree.Settings
