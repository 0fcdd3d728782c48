import FoldTree.Source.Grammar.Phrases

/-! The grammar of parameter lists. -/

namespace FoldTree.Source.Grammar

open Rule

/-- Parameters by how they are given, in the order in which their words count: by place alone,
by place or name, the rest by place, by name alone with the values that stand in for them, the rest
by name, and the values that stand in for those given by place.
-/
structure Parameters where
  placed : List Expr
  named : List Expr
  rest : List Expr
  keyed : List Expr
  keyedDefaults : List Expr
  others : List Expr
  defaults : List Expr

/-- The parameters in order. -/
def Parameters.parts (p : Parameters) : List Expr :=
  p.placed ++ p.named ++ p.rest ++ p.keyed ++ p.keyedDefaults ++ p.others ++ p.defaults

/-- What the parameters read so far allow next. -/
inductive ParameterStage where
  | plain (slashAllowed defaultNeeded : Bool)
  | bareStar
  | keyed
  | ended
deriving DecidableEq

/-- Reads a parameter with the type that may stand behind it. -/
def parameter (typed : Bool) (annotated : Rule Expr) : Rule Expr := do
  let word ← anyName
  if !typed then return .labelled word []
  else if ← skipsMark ":" then return .labelled word [← annotated]
  else return .labelled word []

/-- Reads the value that stands in for a parameter, if there is one. -/
def default? (self : Phrases) : Rule (Option Expr) := do
  if ← skipsMark "=" then return some (← self.expression) else return none

/-- Reads one parameter or sign of a parameter list. Once a value stands in for one parameter given
by place, all later ones need one; a lone star needs a parameter behind it. Only the parameter for
the rest by place may have a starred type.
-/
def parameterStep (self : Phrases) (typed : Bool) (starredType : Rule Expr) :
    ParameterStage × Parameters → Rule (ParameterStage × Parameters)
  | (.ended, _) => failure
  | (stage, p) => do
    if ← skipsMark "/" then
      match stage with
      | .plain true needed =>
        if p.named.isEmpty then failure
        return (.plain false needed, { p with placed := p.named, named := [] })
      | _ => failure
    else if ← skipsMark "*" then
      match stage with
      | .plain .. =>
        if ← seesMark "," then return (.bareStar, p)
        else return (.keyed, { p with rest := [← parameter typed starredType] })
      | _ => failure
    else if ← skipsMark "**" then
      if stage = .bareStar then failure
      return (.ended, { p with others := [← parameter typed self.expression] })
    else
      let given ← parameter typed self.expression
      let value ← default? self
      match stage with
      | .plain slashAllowed needed =>
        if needed && value.isNone then failure
        return (.plain slashAllowed (needed || value.isSome),
          { p with named := p.named ++ [given], defaults := p.defaults ++ value.toList })
      | _ =>
        return (.keyed,
          { p with keyed := p.keyed ++ [given], keyedDefaults := p.keyedDefaults ++ value.toList })

/-- Reads parameters up to a closing sign, which stays. -/
def parametersFrom (self : Phrases) (typed : Bool) (starredType : Rule Expr) (closer : String) :
    Nat → ParameterStage × Parameters → Rule (List Expr)
  | 0, _ => failure
  | rounds + 1, read => do
    let after ← parameterStep self typed starredType read
    let comma ← skipsMark ","
    if ← seesMark closer then
      if after.1 = .bareStar then failure
      return after.2.parts
    else if comma then parametersFrom self typed starredType closer rounds after
    else failure

/-- Reads a parameter list up to a closing sign, which stays. -/
def parameters (self : Phrases) (typed : Bool) (starredType : Rule Expr) (closer : String) :
    Rule (List Expr) := do
  if ← seesMark closer then return []
  else
    parametersFrom self typed starredType closer self.bound
      (.plain true false, ⟨[], [], [], [], [], [], []⟩)

end FoldTree.Source.Grammar
