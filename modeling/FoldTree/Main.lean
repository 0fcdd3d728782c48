import FoldTree.Console.Run

/-! The program: it reads its environment and the files that a command may need, runs the command,
and writes what comes out.
-/

namespace FoldTree

/-- The environment variables that a run asks for. -/
def variableNames : List String :=
  ["CODEFOLD_CONFIG", "XDG_CONFIG_HOME", "HOME"]
    ++ Settings.Field.all.map Settings.Field.environmentName

/-- Reads the variables that are set. -/
def readEnvironment : IO (List (String × String)) :=
  variableNames.filterMapM fun name => do
    return (← IO.getEnv name).map fun text => (name, text)

/-- Reads what is at a path. -/
def readFile (path : Path) : IO FileState := do
  try return .file (← IO.FS.readBinFile path.text)
  catch error =>
    match error with
    | .inappropriateType .. => return .directory
    | .permissionDenied .. => return .sealed
    | .invalidArgument .. => return .untold
    | _ => return .missing

/-- Reads what a command may need. -/
def readSurroundings (command : Console.Command) : IO Surroundings := do
  let found ← readEnvironment
  let environment := fun name => found.lookup name
  let config := match Settings.configPath environment with
    | .ok path => [path]
    | .error _ => []
  let files ← (command.file :: config).mapM fun path => do return (path, ← readFile path)
  return {
    environment
    fileAt := fun path => (files.lookup path).getD .missing
    diagnosis := ⟨fun _ => "not a source", fun _ => "not a config file"⟩ }

/-- The text of a fault that breaks off a run. -/
def Console.Escape.message (diagnosis : Diagnosis) : Console.Escape → String
  | .file path .directory => s!"{path.text} is a directory"
  | .file path .sealed => s!"{path.text} is not to be read"
  | .file path _ => s!"No file {path.text}"
  | .settings fault => fault.message diagnosis.config
  | .outline fault => fault.message diagnosis.source
  | .tree fault => fault.message
  | .markup => "A closing tag has nothing to close"

/-- The words for arguments that make no command. -/
def usage : String :=
  "Usage: [--verbose] (tree FILE | terms FILE | options FILE) [--json] [OPTIONS]"

end FoldTree

open FoldTree

/-- Runs the command that the arguments make. -/
def main (arguments : List String) : IO UInt32 := do
  let some command := Console.Command.ofArguments? arguments |
    IO.eprintln usage
    return 2
  let surroundings ← readSurroundings command
  match command.run surroundings with
  | .misused =>
    IO.eprintln usage
    return 2
  | .done code output =>
    IO.print output
    return code.toUInt32
  | .broken fault output =>
    IO.print output
    IO.eprintln (fault.message surroundings.diagnosis)
    return 1
