import FoldTree.Proofs.Settings.Loading
import FoldTree.Proofs.Toml.Keys

/-! Merging layers. Each field takes its text from what is asked for, else from the environment,
else from the config file, else from the default texts, whatever the other fields take; only what
comes out of this has to be resolved.
-/

namespace FoldTree.Settings

variable {surroundings : Surroundings} {path : Option Path} {asked : List (String × Option String)}
variable {place : Path} {document : Toml.Table}

/-- Whether there is nothing at a place. -/
def Missing (surroundings : Surroundings) (place : Path) : Prop :=
  surroundings.fileAt place = .missing ∨ surroundings.fileAt place = .blocked

/-- The document of a config file that can be read; where there is none, the document of nothing. -/
inductive Holds (surroundings : Surroundings) (place : Path) : Toml.Table → Prop
  | file {bytes : ByteArray} {text : String} {document : Toml.Table}
    (there : surroundings.fileAt place = .file bytes)
    (decoded : String.fromUTF8? bytes = some text) (read : Toml.read text.toList = .ok document)
    : Holds surroundings place document
  | nothing (missing : Missing surroundings place) : Holds surroundings place []

/-- The text that a document gives a field. -/
def documentText (document : Toml.Table) (field : Field) : Option String :=
  match document.lookup "codefold" with
  | some (.table entries) => (entries.lookup field.word).map (·.plainText)
  | _ => none

/-- The text for a field: of what is asked for, the environment, the config file and the default the
first that has one.
-/
def firstText (asked : List (String × Option String)) (environment : String → Option String)
    (document : Toml.Table) (field : Field) : String :=
  ((asked.lookup field.word).join <|> environment field.environmentName
    <|> documentText document field).getD (Texts.default.get field)

/-- The first text for each field. -/
def firstTexts (asked : List (String × Option String)) (environment : String → Option String)
    (document : Toml.Table) : Texts where
  profitType := firstText asked environment document .profitType
  project := firstText asked environment document .project
  unfoldedProfit := firstText asked environment document .unfoldedProfit

/-- The first text for a field. -/
theorem get_firstTexts (environment : String → Option String) (field : Field)
    : (firstTexts asked environment document).get field
      = firstText asked environment document field := by
  cases field <;> rfl

/-- No table of a document that is held has a key twice. -/
theorem Holds.keyed (held : Holds surroundings place document) : document.Keyed := by
  cases held with
  | file there decoded read => exact Toml.read_keyed read
  | nothing missing => exact .nil

/-- Where nothing is, the document of nothing is held. -/
theorem Holds.of_missing (held : Holds surroundings place document)
    (missing : Missing surroundings place)
    : document = [] := by
  cases held with
  | file there decoded read => rcases missing with missing | missing <;> simp [there] at missing
  | nothing missing => rfl

/-- The config file gives what the table of settings in its document gives. -/
theorem Holds.configLayer {isAsked : Bool} (held : Holds surroundings place document)
    (present : ¬ (isAsked ∧ Missing surroundings place))
    : configLayer surroundings place isAsked = section? place document >>= namedTexts place := by
  cases held with
  | file there decoded read =>
      simp only [Settings.configLayer, there, configTexts, documentOf, decoded, read,
        Except.mapError, Outcome.ok_bind]
  | nothing missing =>
      have unasked : isAsked = false := Bool.eq_false_iff.mpr fun isAsked =>
        present ⟨isAsked, missing⟩
      have empty : section? place [] >>= namedTexts place = .ok [] := rfl
      rcases missing with missing | missing <;> simp [Settings.configLayer, missing, unasked, empty]

/-- Where the config file gives texts, each field takes the first text that there is for it. -/
theorem ofFields_layers {entries : Toml.Table} (held : Holds surroundings place document)
    (entered : section? place document = .ok entries) (named : Known entries)
    (once : (asked.map Prod.fst).Nodup) (known : Known (askedLayer asked))
    : ofFields ((entries.map fun entry => (entry.1, entry.2.plainText))
          ++ environmentLayer surroundings.environment ++ askedLayer asked)
        = ofTexts (firstTexts asked surroundings.environment document) := by
  have given : Known (entries.map fun entry => (entry.1, entry.2.plainText)) := by
    intro entry member
    obtain ⟨before, inside, rfl⟩ := List.mem_map.mp member
    exact named before inside
  obtain ⟨texts, same, gets⟩ := ofFields_known
    ((given.append (known_environmentLayer surroundings.environment)).append known)
  have distinct : (entries.map Prod.fst).Nodup := by
    unfold section? at entered
    split at entered <;> cases entered
    · exact .nil
    · rename_i found
      exact (held.keyed.of_lookup found).ofTable.once
  have written (field : Field)
      : (entries.map fun entry => (entry.1, entry.2.plainText)).reverse.lookup field.word
        = documentText document field := by
    have once : ((entries.map fun entry => (entry.1, entry.2.plainText)).map Prod.fst).Nodup := by
      rw [List.map_map]
      exact distinct
    rw [Entries.lookup_reverse once, Entries.lookup_map]
    unfold section? at entered
    unfold documentText
    split at entered <;> cases entered
    · rename_i absent
      simp [absent]
    · rename_i found
      simp [found]
  -- the last text for a name counts, so the layers are looked through from behind
  refine same.trans (congrArg ofTexts (Texts.eq_of_get fun field => ?_))
  rw [get_firstTexts, gets, List.reverse_append, List.reverse_append, List.lookup_append,
    List.lookup_append, lookup_askedLayer once, lookup_environmentLayer, written]
  simp only [firstText, Option.orElse_eq_orElse, Option.orElse_eq_or]

/-- Whether there is a table of settings in a document, or none needed, with known names and no
number that is too long.
-/
def Writable (document : Toml.Table) : Prop :=
  ∀ value, document.lookup "codefold" = some value
    → ∃ entries, value = .table entries ∧ Known entries ∧ ¬ Overlong entries

/-- How loading goes with a document that is held: a file is asked for and is not there, its
settings are no table, a name in them is not known, a number in them is too long, or else the first
text for each field is resolved.
-/
inductive Course (surroundings : Surroundings) (path : Option Path)
    (asked : List (String × Option String)) (place : Path) (document : Toml.Table)
    : Except LoadFault Settings → Prop
  | missing (absent : path.isSome ∧ Missing surroundings place)
    (bare : document.lookup "codefold" = none)
    : Course surroundings path asked place document (.error (.missingConfig place))
  | notTable {value : Toml.Value} (found : document.lookup "codefold" = some value)
    (other : ∀ entries, value ≠ .table entries)
    : Course surroundings path asked place document (.error (.notTable place))
  | unknown {entries : Toml.Table} {names : List String}
    (found : document.lookup "codefold" = some (.table entries)) (unknown : ¬ Known entries)
    : Course surroundings path asked place document (.error (.unknownNames place names))
  | overlong {entries : Toml.Table} (present : ¬ (path.isSome ∧ Missing surroundings place))
    (found : document.lookup "codefold" = some (.table entries)) (named : Known entries)
    (long : Overlong entries)
    : Course surroundings path asked place document (.error .longNumber)
  | resolved (present : ¬ (path.isSome ∧ Missing surroundings place))
    (writable : Writable document)
    : Course surroundings path asked place document
      ((ofTexts (firstTexts asked surroundings.environment document)).mapError .settings)

/-- Loading with a document that is held goes one of these ways. -/
theorem load_course (placed : configPlace surroundings path = .ok place)
    (held : Holds surroundings place document) (once : (asked.map Prod.fst).Nodup)
    (known : Known (askedLayer asked))
    : Course surroundings path asked place document (load surroundings path asked) := by
  by_cases missing : path.isSome ∧ Missing surroundings place
  · have stops : load surroundings path asked = .error (.missingConfig place) := by
      obtain ⟨isAsked, absent | absent⟩ := missing <;>
        simp only [load, placed, Outcome.ok_bind, configLayer, absent, isAsked, if_true,
          Outcome.error_bind]
    exact stops ▸ .missing missing (held.of_missing missing.2 ▸ rfl)
  · -- with a file, or with none that is asked for, it is up to the table of settings
    have layer := held.configLayer missing
    have failing (fault : LoadFault)
        (failed : (section? place document >>= namedTexts place) = .error fault)
        : load surroundings path asked = .error fault := by
      simp only [load, placed, Outcome.ok_bind, layer, failed, Outcome.error_bind]
    have going {entries : Toml.Table} (entered : section? place document = .ok entries)
        (named : Known entries) (short : ¬ Overlong entries) (writable : Writable document)
        : Course surroundings path asked place document (load surroundings path asked) := by
      have goes : load surroundings path asked
          = (ofTexts (firstTexts asked surroundings.environment document)).mapError .settings := by
        simp only [load, placed, Outcome.ok_bind, layer, entered, namedTexts_known named short,
          ofFields_layers held entered named once known]
      exact goes ▸ .resolved missing writable
    cases found : document.lookup "codefold" with
    | none =>
        have entered : section? place document = .ok [] := by simp only [section?, found]
        refine going entered ?_ ?_ (by simp [Writable, found])
        · exact fun _ member => absurd member List.not_mem_nil
        · rintro ⟨_, member, _⟩
          exact absurd member List.not_mem_nil
    | some value =>
        by_cases table : ∃ entries, value = .table entries
        · obtain ⟨entries, rfl⟩ := table
          have entered : section? place document = .ok entries := by simp only [section?, found]
          by_cases named : Known entries
          · by_cases long : Overlong entries
            · have stops := failing .longNumber (by
                simp only [entered, Outcome.ok_bind, namedTexts_overlong named long])
              exact stops ▸ .overlong missing found named long
            · refine going entered named long fun value same => ?_
              rw [found] at same
              cases same
              exact ⟨entries, rfl, named, long⟩
          · obtain ⟨names, unnamed⟩ := namedTexts_unknown place named
            have stops := failing (.unknownNames place names) (by
              simp only [entered, Outcome.ok_bind, unnamed])
            exact stops ▸ .unknown found named
        · have other : ∀ entries, value ≠ .table entries := fun entries same =>
            table ⟨entries, same⟩
          have stops := failing (.notTable place) (by
            cases value with
            | table entries => exact absurd rfl (other entries)
            | _ => simp only [section?, found, Outcome.error_bind])
          exact stops ▸ .notTable found other

namespace Course

variable {result : Except LoadFault Settings}

/-- Settings that are loaded are those of the first texts. -/
theorem settings {settings : Settings}
    (course : Course surroundings path asked place document (.ok settings))
    : ofTexts (firstTexts asked surroundings.environment document) = .ok settings := by
  generalize outcome : Except.ok settings = result at course
  cases course with
  | resolved present writable => exact Outcome.mapError_eq_ok.mp outcome.symm
  | _ => cases outcome

/-- When loading fails with a fault of the configuration. -/
theorem configuration (course : Course surroundings path asked place document result)
    : (∃ fault, result = .error fault ∧ fault.isConfiguration)
      ↔ (path.isSome ∧ Missing surroundings place)
        ∨ (∃ value, document.lookup "codefold" = some value ∧ ∀ entries, value ≠ .table entries)
        ∨ (∃ entries, document.lookup "codefold" = some (.table entries) ∧ ¬ Known entries)
        ∨ (∃ fault, ofTexts (firstTexts asked surroundings.environment document) = .error fault)
          ∧ ¬ ∃ entries, document.lookup "codefold" = some (.table entries) ∧ Overlong entries := by
  cases course with
  | missing absent bare => exact ⟨fun _ => .inl absent, fun _ => ⟨_, rfl, rfl⟩⟩
  | notTable found other =>
      exact ⟨fun _ => .inr (.inl ⟨_, found, other⟩), fun _ => ⟨_, rfl, rfl⟩⟩
  | unknown found unknown =>
      exact ⟨fun _ => .inr (.inr (.inl ⟨_, found, unknown⟩)), fun _ => ⟨_, rfl, rfl⟩⟩
  | overlong present found named long =>
      -- nothing but such a number is wrong here, and that is no fault of the configuration
      constructor
      · rintro ⟨fault, same, configured⟩
        cases same
        cases configured
      · rintro (absent | ⟨value, here, other⟩ | ⟨entries, here, unknown⟩ | ⟨-, short⟩)
        · exact absurd absent present
        · exact absurd (Option.some.inj (here.symm.trans found)) (other _)
        · cases found.symm.trans here
          exact absurd named unknown
        · exact absurd ⟨_, found, long⟩ short
  | resolved present writable =>
      constructor
      · rintro ⟨fault, failed, -⟩
        obtain ⟨inner, unresolved, -⟩ := Outcome.mapError_eq_error.mp failed
        refine .inr (.inr (.inr ⟨⟨inner, unresolved⟩, fun ⟨entries, found, long⟩ => ?_⟩))
        obtain ⟨same, equal, -, short⟩ := writable _ found
        cases equal
        exact short long
      · rintro (absent | ⟨value, here, other⟩ | ⟨entries, here, unknown⟩ | ⟨⟨fault, failed⟩, -⟩)
        · exact absurd absent present
        · obtain ⟨entries, same, -⟩ := writable _ here
          exact absurd same (other entries)
        · obtain ⟨same, equal, named, -⟩ := writable _ here
          cases equal
          exact absurd named unknown
        · exact ⟨_, Outcome.mapError_eq_error.mpr ⟨fault, failed, rfl⟩, ofTexts_error failed⟩

/-- When loading fails with what is no fault of the configuration. -/
theorem stops (course : Course surroundings path asked place document result)
    : (∃ fault, result = .error fault ∧ fault.isConfiguration = false)
      ↔ ∃ entries, document.lookup "codefold" = some (.table entries) ∧ Known entries
        ∧ Overlong entries := by
  constructor
  · rintro ⟨fault, failed, stopped⟩
    cases course with
    | overlong present found named long => exact ⟨_, found, named, long⟩
    | resolved present writable =>
        obtain ⟨inner, unresolved, rfl⟩ := Outcome.mapError_eq_error.mp failed
        rw [ofTexts_error unresolved] at stopped
        cases stopped
    | _ =>
        cases failed
        cases stopped
  · rintro ⟨entries, here, known, long⟩
    cases course with
    | missing absent bare => cases bare.symm.trans here
    | notTable found other => exact absurd (Option.some.inj (found.symm.trans here)) (other _)
    | unknown found unknown =>
        cases found.symm.trans here
        exact absurd known unknown
    | overlong present found named long => exact ⟨_, rfl, rfl⟩
    | resolved present writable =>
        obtain ⟨same, equal, -, short⟩ := writable _ here
        cases equal
        exact absurd long short

end Course

/-- What is loaded depends on a document by its table of settings alone. -/
theorem load_congr {other : Surroundings} {changed : Toml.Table}
    (placed : configPlace surroundings path = .ok place)
    (held : Holds surroundings place document) (holds : Holds other place changed)
    (environment : other.environment = surroundings.environment)
    (missing : Missing other place ↔ Missing surroundings place)
    (same : changed.lookup "codefold" = document.lookup "codefold")
    : load other path asked = load surroundings path asked := by
  have moved : configPlace other path = .ok place := by
    rw [← placed]
    simp only [configPlace, environment]
  have layers
      : configLayer other place path.isSome = configLayer surroundings place path.isSome := by
    by_cases absent : path.isSome ∧ Missing surroundings place
    · have stops {world : Surroundings} (absent : path.isSome ∧ Missing world place)
          : configLayer world place path.isSome = .error (.missingConfig place) := by
        obtain ⟨isAsked, absent | absent⟩ := absent <;>
          simp only [configLayer, absent, isAsked, if_true]
      rw [stops absent, stops ⟨absent.1, missing.mpr absent.2⟩]
    · have there : ¬(path.isSome ∧ Missing other place) := mt (And.imp_right missing.mp) absent
      rw [held.configLayer absent, holds.configLayer there]
      simp only [section?, same]
  simp only [load, placed, moved, Outcome.ok_bind, layers, environment]

/-- Loading settings with a config file that can be read, or with none: each field is set by the
first text that there is for it. It fails with a fault of the configuration just where a file that
is asked for is not there, the settings in it are no table, a name in them is not known, or what
comes out for the profit function or for unfolded nodes is not resolved; the last does not come to
pass where a number in the settings is too long to be written, and this alone makes it fail
otherwise. Nothing else in the file makes a difference.
-/
theorem load_merged (placed : configPlace surroundings path = .ok place)
    (held : Holds surroundings place document) (once : (asked.map Prod.fst).Nodup)
    (known : Known (askedLayer asked))
    : let text := firstText asked surroundings.environment document
      let mode := String.ofList (Text.lower (text .unfoldedProfit).toList)
      let table := fun entries => document.lookup "codefold" = some (.table entries)
      (∀ settings, load surroundings path asked = .ok settings
        → settings.profitType = text .profitType ∧ settings.project = text .project
          ∧ settings.unfoldedProfit.word = mode
          ∧ ProfitFunction.ofName? (text .profitType) = some settings.profit)
      ∧ ((∃ fault, load surroundings path asked = .error fault ∧ fault.isConfiguration)
        ↔ (path.isSome ∧ Missing surroundings place)
          ∨ (∃ value, document.lookup "codefold" = some value ∧ ∀ entries, value ≠ .table entries)
          ∨ (∃ entries, table entries ∧ ¬ Known entries)
          ∨ (ProfitFunction.ofName? (text .profitType) = none
              ∨ UnfoldedProfit.ofWord? mode = none)
            ∧ ¬ ∃ entries, table entries ∧ Overlong entries)
      ∧ ((∃ fault, load surroundings path asked = .error fault ∧ fault.isConfiguration = false)
        ↔ ∃ entries, table entries ∧ Known entries ∧ Overlong entries)
      ∧ ∀ other changed, other.environment = surroundings.environment
        → (Missing other place ↔ Missing surroundings place) → Holds other place changed
        → changed.lookup "codefold" = document.lookup "codefold"
        → load other path asked = load surroundings path asked := by
  intro text mode table
  have course := load_course placed held once known
  refine ⟨fun settings loaded => ?_, ?_, ?_,
    fun other changed environment missing holds same =>
      load_congr placed held holds environment missing same⟩
  · obtain ⟨profit, unfolded, type, project⟩ := ofTexts_eq_ok.mp (loaded ▸ course).settings
    exact ⟨type, project, word_of_ofWord? unfolded, profit⟩
  · rw [course.configuration, unresolved_iff]
    rfl
  · exact course.stops

/-- Settings of a profit function that there is not and of a project. -/
def sevenProject : Toml.Table := [("profit_type", .text "x"), ("cur_proj", .integer 7)]

/-- They are read from a config file, and the environment says something about unfolded nodes. -/
def layered : Surroundings where
  environment name := if name = "CODEFOLD_UNFOLDED_PROFIT" then some "Suppress" else none
  fileAt _ := .file "codefold.profit_type='x'\ncodefold.cur_proj=7".toUTF8
  diagnosis := default

/-- The settings are what the file holds. -/
theorem layered_holds (place : Path) : Holds layered place [("codefold", .table sevenProject)] := by
  have decoded : String.fromUTF8? "codefold.profit_type='x'\ncodefold.cur_proj=7".toUTF8
      = some "codefold.profit_type='x'\ncodefold.cur_proj=7" := dif_pos (String.isValidUTF8 _)
  refine .file rfl decoded ?_
  cbv

/-- A number of one digit is not too long. -/
theorem sevenProject_short : ¬ Overlong sevenProject := by
  have least (digits : Nat) (digit : 1 ≤ digits) : 7 < Decimal.powerOfTen digits :=
    Nat.lt_of_lt_of_le (by decide : 7 < 10 ^ 1) (Nat.pow_le_pow_right (by decide) digit)
  simpa [Overlong, sevenProject, Toml.Value.reaches] using least _ (by decide)

/-- What is asked for wins over the file, and does so for its own field only. -/
theorem layered_merged
    : let asked := [("profit_type", some "Likely"), ("cur_proj", none)]
      let text := firstText asked layered.environment [("codefold", .table sevenProject)]
      load layered (some (Path.ofText "c.toml")) asked
          = .ok ⟨"Likely", "7", .suppress, ⟨.likely, "Likely"⟩⟩
        ∧ "Likely" = text .profitType ∧ "7" = text .project
        ∧ UnfoldedProfit.suppress.word
          = String.ofList (Text.lower (text .unfoldedProfit).toList) := by
  intro asked text
  have held := layered_holds (Path.ofText "c.toml")
  have layer : configLayer layered (Path.ofText "c.toml") true
      = .ok (sevenProject.map fun entry => (entry.1, entry.2.plainText)) := by
    have entered : section? (Path.ofText "c.toml") [("codefold", .table sevenProject)]
        = .ok sevenProject := rfl
    rw [held.configLayer (by simp [Missing, layered]), entered, Outcome.ok_bind,
      namedTexts_known (by decide) sevenProject_short]
  have loaded : load layered (some (Path.ofText "c.toml")) asked
      = .ok ⟨"Likely", "7", .suppress, ⟨.likely, "Likely"⟩⟩ := by
    simp only [load, configPlace, Outcome.ok_bind, Option.isSome_some, layer]
    cbv
  have merged := (load_merged rfl held (by decide) (by decide)).1 _ loaded
  exact ⟨loaded, merged.1, merged.2.1, merged.2.2.1⟩

end FoldTree.Settings
