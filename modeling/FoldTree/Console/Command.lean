import FoldTree.Decimal.Numeral
import FoldTree.Path

/-! Commands and how they are given as arguments. An option is a word behind two dashes or a letter
behind one; letters may share a dash. Its value is the next argument, or stands in the same one:
behind an equals sign after a word, right behind a letter.
-/

namespace FoldTree.Console

/-- What is asked about offers. -/
structure OfferRequest where
  file : Path
  policy : Option String
  baseline : Bool
  unfold : List Int
  budget : Option Float
  asJson : Bool

/-- A command: to show the tree of a file, offers for its nodes, or its terms. -/
inductive Command where
  | tree (file : Path) (asJson : Bool)
  | options (request : OfferRequest)
  | terms (file : Path) (asJson : Bool)

/-- The file that a command is about. -/
def Command.file : Command → Path
  | .tree file _ => file
  | .terms file _ => file
  | .options request => request.file

/-- The options that commands have. -/
inductive Switch where
  | verbose
  | json
  | policy
  | baseline
  | unfold
  | budget
deriving DecidableEq

/-- How an option is written, and whether it takes a value. -/
structure Spelling where
  switch : Switch
  word : String
  letter : Option Char
  takesValue : Bool

/-- The options in front of the command. -/
def commonSpellings : List Spelling :=
  [⟨.verbose, "verbose", some 'v', false⟩]

/-- The options for the tree and its terms. -/
def plainSpellings : List Spelling :=
  [⟨.json, "json", some 'j', false⟩]

/-- The options for offers. -/
def offerSpellings : List Spelling :=
  [⟨.policy, "policy", some 'p', true⟩, ⟨.baseline, "baseline", none, false⟩,
    ⟨.unfold, "unfold", some 'u', true⟩, ⟨.budget, "budget", some 'b', true⟩,
    ⟨.json, "json", some 'j', false⟩]

/-- Options with their values, and the arguments that are no options. -/
structure Given where
  options : List (Switch × String)
  others : List String

/-- Options in front of what is given. -/
def Given.withOptions (options : List (Switch × String)) (given : Given) : Given :=
  { given with options := options ++ given.options }

/-- An argument in front of what is given. -/
def Given.withOther (argument : String) (given : Given) : Given :=
  { given with others := argument :: given.others }

/-- The options in one argument, and the one that still needs a value. -/
structure Opened where
  options : List (Switch × String)
  awaiting : Option Switch

/-- Reads an option that is a word, given with its value if the argument has one. -/
def openWord (spellings : List Spelling) (word : String) (value : Option String) :
    Option Opened := do
  let spelling ← spellings.find? fun spelling => spelling.word == word
  match spelling.takesValue, value with
  | true, some value => return ⟨[(spelling.switch, value)], none⟩
  | true, none => return ⟨[], some spelling.switch⟩
  | false, none => return ⟨[(spelling.switch, "")], none⟩
  | false, some _ => none

/-- Reads options that are letters. -/
def openLetters (spellings : List Spelling) : List Char → Option Opened
  | [] => some ⟨[], none⟩
  | letter :: rest => do
    let spelling ← spellings.find? fun spelling => spelling.letter == some letter
    if spelling.takesValue then
      if rest.isEmpty then return ⟨[], some spelling.switch⟩
      else return ⟨[(spelling.switch, String.ofList rest)], none⟩
    else
      let later ← openLetters spellings rest
      return { later with options := (spelling.switch, "") :: later.options }

/-- Reads an argument as options, if it is written as such. -/
def opened (spellings : List Spelling) (argument : String) : Option (Option Opened) :=
  match argument.toList with
  | '-' :: '-' :: word =>
    let name := word.takeWhile (· != '=')
    let value := word.drop name.length
    some (openWord spellings (String.ofList name)
      (if value.isEmpty then none else some (String.ofList (value.drop 1))))
  | '-' :: letter :: letters => some (openLetters spellings (letter :: letters))
  | _ => none

/-- Reads arguments. Two dashes end the options; so does, where options have to come first, an
argument that is none.
-/
def given (spellings : List Spelling) (optionsFirst : Bool) : List String → Option Given
  | [] => some ⟨[], []⟩
  | argument :: rest =>
    if argument = "--" then some ⟨[], rest⟩
    else
      match opened spellings argument with
      | none =>
        if optionsFirst then some ⟨[], argument :: rest⟩
        else (given spellings optionsFirst rest).map (·.withOther argument)
      | some none => none
      | some (some ⟨options, none⟩) =>
        (given spellings optionsFirst rest).map (·.withOptions options)
      | some (some ⟨options, some switch⟩) =>
        match rest with
        | [] => none
        | value :: rest =>
          (given spellings optionsFirst rest).map (·.withOptions (options ++ [(switch, value)]))

namespace Given

/-- The values of an option in the order in which they are given. -/
def values (given : Given) (switch : Switch) : List String :=
  (given.options.filter fun option => option.1 == switch).map (·.2)

/-- Whether an option is given. -/
def has (given : Given) (switch : Switch) : Bool :=
  given.options.any fun option => option.1 == switch

/-- The file, which is the only argument that is no option. -/
def file? (given : Given) : Option Path :=
  match given.others with
  | [file] => some (Path.ofText file)
  | _ => none

end Given

/-- The request for offers that arguments make. Of several values for the policy or the budget the
last counts.
-/
def OfferRequest.ofGiven? (given : Given) : Option OfferRequest := do
  let file ← given.file?
  let unfold ← (given.values .unfold).mapM fun text => Decimal.readInteger? text.toList
  let budget ← match (given.values .budget).getLast? with
    | none => some none
    | some text => (Decimal.readFloat? text.toList).map some
  return {
    file
    policy := (given.values .policy).getLast?
    baseline := given.has .baseline
    unfold
    budget
    asJson := given.has .json }

/-- The command of arguments, or nothing when they make no command. -/
def Command.ofArguments? (arguments : List String) : Option Command := do
  let common ← given commonSpellings true arguments
  match common.others with
  | "tree" :: rest => do
    let given ← given plainSpellings false rest
    return .tree (← given.file?) (given.has .json)
  | "terms" :: rest => do
    let given ← given plainSpellings false rest
    return .terms (← given.file?) (given.has .json)
  | "options" :: rest => do
    return .options (← OfferRequest.ofGiven? (← given offerSpellings false rest))
  | _ => none

end FoldTree.Console
