import FoldTree.Path

/-! What a run finds around it: environment variables, files, and what is said of files that are not
to be read.
-/

namespace FoldTree

/-- What is at a path: nothing, nothing because a file stands in the way, what cannot be told (of a
name that is too long, or in a directory that is not to be searched), a directory, a file that is
not to be read, or a file.
-/
inductive FileState where
  | missing
  | blocked
  | untold
  | directory
  | sealed
  | file (bytes : ByteArray)

/-- What the readers of a language say of a file that they cannot read, as a source and as a config
file. The words are theirs, so that a run finds them as it finds the file.
-/
structure Diagnosis where
  source : Path → String
  config : Path → String
deriving Inhabited

/-- The environment variables and the files that a run finds, with what is said of the latter. -/
structure Surroundings where
  environment : String → Option String
  fileAt : Path → FileState
  diagnosis : Diagnosis

end FoldTree
