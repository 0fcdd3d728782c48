import FoldTree.Profit.Policy

/-! Settings of a run: the profit function, the project that the content model is asked about, and
what is reported for nodes that are unfolded already. Settings are made from texts, and the names
in them are resolved then and there.
-/

namespace FoldTree

/-- What a node that is unfolded already reports as its profit: zero, or nothing at all. -/
inductive UnfoldedProfit where
  | courtesy
  | suppress
deriving DecidableEq, Repr

namespace UnfoldedProfit

/-- The word for a choice. -/
def word : UnfoldedProfit → String
  | .courtesy => "courtesy"
  | .suppress => "suppress"

/-- The choice of a word in lower case. -/
def ofWord? (word : String) : Option UnfoldedProfit :=
  [courtesy, suppress].find? fun choice => choice.word == word

end UnfoldedProfit

/-- Settings whose names are resolved, with the text that chose the profit function. -/
structure Settings where
  profitType : String
  project : String
  unfoldedProfit : UnfoldedProfit
  profit : ProfitFunction
deriving DecidableEq, Repr

namespace Settings

/-- Why no settings can be made of some texts. -/
inductive Fault where
  | unknownField (field : String)
  | derivedField (field : String)
  | unknownProfit (name : String)
  | unknownMode (mode : String)
deriving DecidableEq, Repr

/-- What is said about texts that make no settings. -/
def Fault.message : Fault → String
  | .unknownField field => "Unknown field " ++ field
  | .derivedField field => "Derived field " ++ field
  | .unknownProfit name =>
    "Unknown profit function " ++ Text.quoted name ++ " (expected one of: "
      ++ ", ".intercalate (Policy.all.map Policy.pattern) ++ ")"
  | .unknownMode mode =>
    "unfolded_profit must be one of ('courtesy', 'suppress'), got " ++ Text.quoted mode

/-- A text for each field that is set from outside. -/
structure Texts where
  profitType : String
  project : String
  unfoldedProfit : String
deriving DecidableEq, Repr

/-- The texts that stand where nothing else is given. -/
def Texts.default : Texts where
  profitType := "NoContentModel"
  project := ""
  unfoldedProfit := "courtesy"

/-- The names of the fields that are set from outside. -/
inductive Field where
  | profitType
  | project
  | unfoldedProfit
deriving DecidableEq, Repr

namespace Field

/-- Every field. -/
def all : List Field := [.profitType, .project, .unfoldedProfit]

/-- The name under which a field is given. -/
def word : Field → String
  | .profitType => "profit_type"
  | .project => "cur_proj"
  | .unfoldedProfit => "unfolded_profit"

/-- The environment variable that gives a field. -/
def environmentName : Field → String
  | .profitType => "CODEFOLD_PROFIT_TYPE"
  | .project => "CODEFOLD_PROJECT"
  | .unfoldedProfit => "CODEFOLD_UNFOLDED_PROFIT"

/-- The field of a name. -/
def ofWord? (word : String) : Option Field :=
  all.find? fun field => field.word == word

end Field

/-- Replaces the text of one field. -/
def Texts.set (texts : Texts) (value : String) : Field → Texts
  | .profitType => { texts with profitType := value }
  | .project => { texts with project := value }
  | .unfoldedProfit => { texts with unfoldedProfit := value }

/-- The texts that make the same settings again. -/
def texts (settings : Settings) : Texts where
  profitType := settings.profitType
  project := settings.project
  unfoldedProfit := settings.unfoldedProfit.word

/-- Resolves texts: the profit function first, then, in lower case, the choice for unfolded
nodes.
-/
def ofTexts (texts : Texts) : Except Fault Settings :=
  match ProfitFunction.ofName? texts.profitType with
  | none => .error (.unknownProfit texts.profitType)
  | some profit =>
    let mode := String.ofList (Text.lower texts.unfoldedProfit.toList)
    match UnfoldedProfit.ofWord? mode with
    | none => .error (.unknownMode mode)
    | some unfoldedProfit =>
      .ok { profitType := texts.profitType, project := texts.project, unfoldedProfit, profit }

/-- Replaces the texts of named fields, in order. -/
def Texts.assign (texts : Texts) : List (String × String) → Except Fault Texts
  | [] => .ok texts
  | (name, value) :: rest =>
    match Field.ofWord? name with
    | none => .error (.unknownField name)
    | some field => (texts.set value field).assign rest

/-- Settings from named texts over the default ones. -/
def ofFields (fields : List (String × String)) : Except Fault Settings := do
  ofTexts (← Texts.default.assign fields)

/-- Settings with some fields replaced; the profit function is resolved again and cannot be
replaced itself.
-/
def replace (settings : Settings) (fields : List (String × String)) : Except Fault Settings := do
  if fields.any fun field => field.1 == "profit_function" then
    throw (.derivedField "profit_function")
  ofTexts (← settings.texts.assign fields)

end Settings

end FoldTree
