import FoldTree.Term.Bag
import FoldTree.Tree.Basic

/-! The questions that a content model answers with a score. -/

namespace FoldTree

/-- One question about a file of a project. Terms are those to be scored, given terms are what is
known already; a shift is added to the score.
-/
inductive SamplerCall where
  | surprise (terms : Terms) (project file : String) (node : NodeId)
  | minusCond (terms given : Terms) (project file : String) (node : NodeId)
  | cond (terms given : Terms) (project file : String) (node : NodeId)
  | logProb (shift : Float) (terms : Terms) (project file : String) (node : NodeId)
  | specific (shift : Float) (terms : Terms) (variant project file : String) (node : NodeId)
  | klDiv (variant project file : String) (nodes : List NodeId)

/-- Why a content model gave no score. -/
structure SamplerFailure where
  message : String

/-- A content model. -/
abbrev Sampler := SamplerCall → Except SamplerFailure Float

end FoldTree
