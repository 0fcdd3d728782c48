import FoldTree.Proofs.Settings.Texts

/-! Loading settings. It goes by stages, each with faults of its own: finding the place of the
config file, looking there, decoding and reading the file, and resolving the names in what all
layers give.
-/

namespace FoldTree.Settings

variable {surroundings : Surroundings} {path : Option Path} {asked : List (String × Option String)}
variable {place : Path} {bytes : ByteArray} {fault : LoadFault}

/-! ### Resolving names -/

/-- Texts make settings just where both of their names can be resolved. -/
theorem ofTexts_eq_ok {texts : Texts} {settings : Settings}
    : ofTexts texts = .ok settings
      ↔ ProfitFunction.ofName? texts.profitType = some settings.profit
        ∧ UnfoldedProfit.ofWord? (String.ofList (Text.lower texts.unfoldedProfit.toList))
          = some settings.unfoldedProfit
        ∧ settings.profitType = texts.profitType ∧ settings.project = texts.project := by
  obtain ⟨profitType, project, unfoldedProfit, profit⟩ := settings
  simp only [ofTexts]
  cases ProfitFunction.ofName? texts.profitType with
  | none => simp
  | some found =>
      cases UnfoldedProfit.ofWord? (String.ofList (Text.lower texts.unfoldedProfit.toList)) with
      | none => simp
      | some mode =>
          simp only [Except.ok.injEq, Settings.mk.injEq, Option.some.injEq]
          constructor
          · rintro ⟨rfl, rfl, rfl, rfl⟩
            exact ⟨rfl, rfl, rfl, rfl⟩
          · rintro ⟨rfl, rfl, rfl, rfl⟩
            exact ⟨rfl, rfl, rfl, rfl⟩

/-- The choice that a word names has that word. -/
theorem word_of_ofWord? {word : String} {mode : UnfoldedProfit}
    (found : UnfoldedProfit.ofWord? word = some mode)
    : mode.word = word := by
  simpa using List.find?_some found

/-- Texts of which a name cannot be resolved are a fault of the configuration. -/
theorem ofTexts_error {texts : Texts} {fault : Fault} (failed : ofTexts texts = .error fault)
    : (LoadFault.settings fault).isConfiguration := by
  unfold ofTexts at failed
  split at failed
  · cases failed
    rfl
  · dsimp only at failed
    split at failed <;> cases failed
    rfl

/-- Texts make no settings just where one of their names is not resolved. -/
theorem unresolved_iff {texts : Texts}
    : (∃ fault, ofTexts texts = .error fault)
      ↔ ProfitFunction.ofName? texts.profitType = none
        ∨ UnfoldedProfit.ofWord? (String.ofList (Text.lower texts.unfoldedProfit.toList))
            = none := by
  simp only [ofTexts]
  cases ProfitFunction.ofName? texts.profitType with
  | none => simp
  | some found =>
      cases UnfoldedProfit.ofWord? (String.ofList (Text.lower texts.unfoldedProfit.toList)) <;> simp

/-- Named texts under known names make the settings that the last text for each field makes. -/
theorem ofFields_known {fields : List (String × String)} (known : Known fields)
    : ∃ texts, ofFields fields = ofTexts texts
      ∧ ∀ field,
          texts.get field
            = (fields.reverse.lookup field.word).getD (Texts.default.get field) := by
  obtain ⟨texts, assigned, gets⟩ := Texts.assign_known .default known
  exact ⟨texts, by rw [ofFields, assigned]; rfl, gets⟩

/-! ### The config file -/

/-- Whether some whole number of a table has too many digits to be written. -/
def Overlong (entries : Toml.Table) : Prop :=
  ∃ entry ∈ entries, entry.2.reaches (Decimal.powerOfTen Decimal.mostDigits)

/-- Whether a config file holds a whole number of too many digits, be it one that cannot be read or
one that would have to be written for a field.
-/
def HoldsOverlong (bytes : ByteArray) : Prop :=
  ∃ text, String.fromUTF8? bytes = some text
    ∧ (Toml.read text.toList = .error .longNumber
      ∨ ∃ document entries, Toml.read text.toList = .ok document
        ∧ document.lookup "codefold" = some (.table entries) ∧ Known entries ∧ Overlong entries)

/-- The names of a table that are those of no field. -/
theorem known_iff {entries : Toml.Table}
    : Known entries
      ↔ ((entries.map (·.1)).filter fun name => (Field.ofWord? name).isNone).isEmpty := by
  simp [Known, Option.isSome_iff_ne_none]

/-- An unknown name is found before anything else. -/
theorem namedTexts_unknown (place : Path) {entries : Toml.Table} (unknown : ¬ Known entries)
    : ∃ names, namedTexts place entries = .error (.unknownNames place names) := by
  rw [known_iff, Bool.not_eq_true] at unknown
  exact ⟨_, by simp only [namedTexts, unknown]; rfl⟩

/-- A number that is too long is found where all names are known. -/
theorem namedTexts_overlong {entries : Toml.Table} (known : Known entries)
    (long : Overlong entries)
    : namedTexts place entries = .error .longNumber := by
  rw [known_iff] at known
  have found : (entries.any fun entry =>
      entry.2.reaches (Decimal.powerOfTen Decimal.mostDigits)) = true := List.any_eq_true.mpr long
  simp only [namedTexts, known, found]
  rfl

/-- A table of settings gives texts if it has known names and no number that is too long. -/
theorem namedTexts_known {entries : Toml.Table} (known : Known entries)
    (short : ¬ Overlong entries)
    : namedTexts place entries = .ok (entries.map fun entry => (entry.1, entry.2.plainText)) := by
  rw [known_iff] at known
  have found : (entries.any fun entry =>
      entry.2.reaches (Decimal.powerOfTen Decimal.mostDigits)) = false :=
    Bool.eq_false_iff.mpr fun long => short (List.any_eq_true.mp long)
  simp only [namedTexts, known, found]
  rfl

/-- A config file that is not UTF-8. -/
theorem configTexts_notUnicode (broken : ¬ bytes.IsValidUTF8)
    : configTexts place bytes = .error .notUnicode := by
  have undecoded : String.fromUTF8? bytes = none := dif_neg broken
  simp only [configTexts, documentOf, undecoded]
  rfl

/-- A config file with a number that is too long. -/
theorem configTexts_overlong (long : HoldsOverlong bytes)
    : configTexts place bytes = .error .longNumber := by
  obtain ⟨text, decoded, stopped | ⟨document, entries, read, found, known, long⟩⟩ := long
  · simp only [configTexts, documentOf, decoded, stopped]
    rfl
  · have entered : section? place document = .ok entries := by simp only [section?, found]
    simp only [configTexts, documentOf, decoded, read, Except.mapError, Outcome.ok_bind, entered,
      namedTexts_overlong known long]

/-- Why loading stops with what is no fault of the configuration: there is no place to look for a
config file, it cannot be told whether it is there, it is not UTF-8, or a number in it is too long.
-/
inductive Stops (surroundings : Surroundings) (path : Option Path) : LoadFault → Prop
  | noHome (ungiven : path = none)
    (noConfig : filled surroundings.environment "CODEFOLD_CONFIG" = none)
    (noDirectory : filled surroundings.environment "XDG_CONFIG_HOME" = none)
    (noHome : homePath? surroundings.environment = none)
    : Stops surroundings path .noHome
  | untold {place : Path} (placed : configPlace surroundings path = .ok place)
    (untold : surroundings.fileAt place = .untold)
    : Stops surroundings path (.untoldConfig place)
  | notUnicode {place : Path} {bytes : ByteArray}
    (placed : configPlace surroundings path = .ok place)
    (there : surroundings.fileAt place = .file bytes) (broken : ¬ bytes.IsValidUTF8)
    : Stops surroundings path .notUnicode
  | longNumber {place : Path} {bytes : ByteArray}
    (placed : configPlace surroundings path = .ok place)
    (there : surroundings.fileAt place = .file bytes) (long : HoldsOverlong bytes)
    : Stops surroundings path .longNumber

/-- Where loading stops, no settings come of it. -/
theorem Stops.load (stops : Stops surroundings path fault)
    : load surroundings path asked = .error fault ∧ fault.isConfiguration = false := by
  have loads {place : Path} (placed : configPlace surroundings path = .ok place)
      (failed : configLayer surroundings place path.isSome = .error fault)
      : Settings.load surroundings path asked = .error fault := by
    simp only [Settings.load, placed, Outcome.ok_bind, failed, Outcome.error_bind]
  cases stops with
  | noHome ungiven noConfig noDirectory noHome =>
      subst ungiven
      exact ⟨by
        simp only [Settings.load, configPlace, configPath, noConfig, noDirectory, noHome,
          Outcome.error_bind], rfl⟩
  | untold placed untold => exact ⟨loads placed (by simp only [configLayer, untold]), rfl⟩
  | notUnicode placed there broken =>
      exact ⟨loads placed (by simp only [configLayer, there, configTexts_notUnicode broken]), rfl⟩
  | longNumber placed there long =>
      exact ⟨loads placed (by simp only [configLayer, there, configTexts_overlong long]), rfl⟩

end FoldTree.Settings
