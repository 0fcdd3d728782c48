import FoldTree.Text.Blank
import FoldTree.Text.LowerCase
import FoldTree.Text.Quoted

/-! Policies for scoring what unfolding a node would show, and the names that choose them. Some
policies are families: any name that starts with the family's word chooses it, and the content
model takes its variant from the whole name.
-/

namespace FoldTree

/-- How the content of a node is scored. -/
inductive Policy where
  | surprising
  | condSurprising
  | condSurprising2
  | likely
  | specific
  | klDiv
  | noContentModel
deriving DecidableEq, Repr

namespace Policy

/-- Every policy, in the order in which names are tried and listed. -/
def all : List Policy :=
  [.surprising, .condSurprising, .condSurprising2, .likely, .specific, .klDiv, .noContentModel]

/-- The word of a policy. -/
def word : Policy → String
  | .surprising => "Surprising"
  | .condSurprising => "CondSurprising"
  | .condSurprising2 => "CondSurprising2"
  | .likely => "Likely"
  | .specific => "Specific"
  | .klDiv => "KLDiv"
  | .noContentModel => "NoContentModel"

/-- Whether the word may be continued. -/
def isFamily : Policy → Bool
  | .specific | .klDiv => true
  | _ => false

/-- Whether a score may be below zero. -/
def allowsNegative : Policy → Bool
  | .condSurprising | .condSurprising2 | .likely | .specific | .klDiv => true
  | _ => false

/-- Whether a node is scored as part of what is unfolded. -/
def addsNode : Policy → Bool
  | .condSurprising2 => false
  | _ => true

/-- Whether scores come from a content model. -/
def needsSampler : Policy → Bool
  | .noContentModel => false
  | _ => true

/-- The word of a policy in lower case. -/
def key (policy : Policy) : List Char :=
  Text.lower policy.word.toList

/-- The word of a policy with a star where it may be continued. -/
def pattern (policy : Policy) : String :=
  if policy.isFamily then policy.word ++ "*" else policy.word

/-- The policy that a trimmed name in lower case chooses: the one of that very word, else the
family whose word it starts with.
-/
def ofKey? (name : List Char) : Option Policy :=
  match all.find? fun policy => policy.key == name with
  | some policy => some policy
  | none => all.find? fun policy => policy.isFamily && policy.key.isPrefixOf name

end Policy

/-- A policy with the name that chose it. -/
structure ProfitFunction where
  policy : Policy
  name : String
deriving DecidableEq, Repr

/-- Resolves a name. White space around it and the case of its letters do not matter; the name is
kept without that white space and in its own case.
-/
def ProfitFunction.ofName? (name : String) : Option ProfitFunction :=
  let trimmed := Text.trim name.toList
  (Policy.ofKey? (Text.lower trimmed)).map fun policy => ⟨policy, String.ofList trimmed⟩

end FoldTree
