import FoldTree.Settings.Basic
import FoldTree.Surroundings
import FoldTree.Toml.Document

/-! Where settings come from, each layer winning over those before it: the default texts, the
config file, the environment, and what is asked for explicitly.
-/

namespace FoldTree.Settings

/-- Why no settings can be loaded. -/
inductive LoadFault where
  | noHome
  | untoldConfig (path : Path)
  | missingConfig (path : Path)
  | unreadableConfig (path : Path)
  | notUnicode
  | longNumber
  | notTable (path : Path)
  | unknownNames (path : Path) (names : List String)
  | settings (fault : Fault)
deriving DecidableEq

/-- What is said when no settings can be loaded. For a config file that cannot be read, it ends in
what its reader says of it.
-/
def LoadFault.message (diagnosis : Path → String) : LoadFault → String
  | .noHome => "Could not determine home directory."
  | .untoldConfig path => s!"Could not look for {path.text}"
  | .missingConfig path => s!"Config file not found: {path.text}"
  | .unreadableConfig path => s!"Cannot read config {path.text}: {diagnosis path}"
  | .notUnicode => "Config file is not UTF-8"
  | .longNumber => "Config file holds a number of too many digits"
  | .notTable path => s!"[codefold] in {path.text} must be a table"
  | .unknownNames path names => s!"Unknown settings in {path.text}: " ++ ", ".intercalate names
  | .settings fault => fault.message

/-- Whether a fault is one of the configuration, and not of its surroundings or of a caller. -/
def LoadFault.isConfiguration : LoadFault → Bool
  | .noHome | .untoldConfig _ | .notUnicode | .longNumber => false
  | .settings (.unknownField _) | .settings (.derivedField _) => false
  | _ => true

/-- A variable that is set to some text, if it is. -/
def filled (environment : String → Option String) (name : String) : Option String :=
  (environment name).filter fun text => !text.isEmpty

/-- The home directory: what the variable for it says, without slashes at the end. Where the
variable is not set, the directory of the account stands for it, if there is one.
-/
def homePath? (environment : String → Option String) : Option Path := do
  let home ← environment "HOME"
  let chars := (home.toList.reverse.dropWhile (· == '/')).reverse
  if chars.head? = some '~' then none
  return Path.ofText (if chars.isEmpty then "/" else String.ofList chars)

/-- The path of the config file: as the environment says, else in its directory for such files,
else in that of the home directory.
-/
def configPath (environment : String → Option String) : Except LoadFault Path :=
  match filled environment "CODEFOLD_CONFIG", filled environment "XDG_CONFIG_HOME" with
  | some path, _ => .ok (Path.ofText path)
  | none, some directory => .ok ((Path.ofText directory).join (.ofText "codefold/config.toml"))
  | none, none =>
    match homePath? environment with
    | some home => .ok (home.join (.ofText ".config/codefold/config.toml"))
    | none => .error .noHome

/-- The document in a config file. -/
def documentOf (path : Path) (bytes : ByteArray) : Except LoadFault Toml.Table :=
  match String.fromUTF8? bytes with
  | none => .error .notUnicode
  | some text => (Toml.read text.toList).mapError fun
    | .malformed => .unreadableConfig path
    | .longNumber => .longNumber

/-- The table of settings in a document; there need be none. -/
def section? (path : Path) (document : Toml.Table) : Except LoadFault Toml.Table :=
  match document.lookup "codefold" with
  | none => .ok []
  | some (.table entries) => .ok entries
  | some _ => .error (.notTable path)

/-- The named texts of a table of settings. All its names have to be those of fields, and its
numbers have to be short enough to be written.
-/
def namedTexts (path : Path) (entries : Toml.Table) : Except LoadFault (List (String × String)) :=
  let unknown := (entries.map (·.1)).filter fun name => (Field.ofWord? name).isNone
  if !unknown.isEmpty then .error (.unknownNames path (unknown.mergeSort fun a b => decide (a ≤ b)))
  else if entries.any fun entry => entry.2.reaches (Decimal.powerOfTen Decimal.mostDigits) then
    .error .longNumber
  else .ok (entries.map fun entry => (entry.1, entry.2.plainText))

/-- The named texts that a config file gives. -/
def configTexts (path : Path) (bytes : ByteArray) : Except LoadFault (List (String × String)) := do
  let document ← documentOf path bytes
  let entries ← section? path document
  namedTexts path entries

/-- The named texts of the config file at a path. One that was not asked for may be missing. -/
def configLayer (surroundings : Surroundings) (path : Path) (isAsked : Bool) :
    Except LoadFault (List (String × String)) :=
  match surroundings.fileAt path with
  | .file bytes => configTexts path bytes
  | .directory | .sealed => .error (.unreadableConfig path)
  | .untold => .error (.untoldConfig path)
  | .missing | .blocked => if isAsked then .error (.missingConfig path) else .ok []

/-- The named texts that the environment gives. -/
def environmentLayer (environment : String → Option String) : List (String × String) :=
  Field.all.filterMap fun field =>
    (environment field.environmentName).map fun text => (field.word, text)

/-- The named texts that are asked for; those without a text do not count. -/
def askedLayer (asked : List (String × Option String)) : List (String × String) :=
  asked.filterMap fun (name, text) => text.map fun text => (name, text)

/-- The place of the config file: a given path, or else the usual one. -/
def configPlace (surroundings : Surroundings) (path : Option Path) : Except LoadFault Path :=
  match path with
  | some path => .ok path
  | none => configPath surroundings.environment

/-- Loads settings from all layers, with the config file at a given path or at its usual one. -/
def load (surroundings : Surroundings) (path : Option Path)
    (asked : List (String × Option String)) : Except LoadFault Settings := do
  let place ← configPlace surroundings path
  let fromConfig ← configLayer surroundings place path.isSome
  (ofFields (fromConfig ++ environmentLayer surroundings.environment ++ askedLayer asked)).mapError
    .settings

end FoldTree.Settings
