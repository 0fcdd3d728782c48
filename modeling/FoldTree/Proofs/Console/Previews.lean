import FoldTree.Proofs.Console.Columns
import FoldTree.Proofs.Console.Listing

/-! The table of offers against the same offers as JSON. Both list the same nodes in the same order,
with the same costs. But the table shows previews of the source without what is markup in them: one
that closes what is not open breaks the run off, and tags in others are left out. Only a preview
without markup is shown character for character.
-/

namespace FoldTree

namespace Console

open Markup

variable {surroundings : Surroundings} {tree : Tree} {file : Path} {shape : Rose NodeId}
variable {output : String}

/-! ### Texts of rows -/

end Console

end FoldTree
