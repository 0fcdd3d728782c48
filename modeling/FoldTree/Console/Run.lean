import FoldTree.Console.Command
import FoldTree.Console.Display
import FoldTree.Offer.Scored
import FoldTree.Settings.Layers
import FoldTree.Source.Outline

/-! Runs of commands. A run reads what it needs from its surroundings and ends with output and an
exit code. Faults that a command expects are told in the output; others end the run at once.
-/

namespace FoldTree.Console

/-- A fault that no command expects: a file that cannot be read, settings that cannot be loaded, a
source without an outline, a tree that breaks its rules, or markup that closes what is not open.
-/
inductive Escape where
  | file (path : Path) (state : FileState)
  | settings (fault : Settings.LoadFault)
  | outline (fault : Source.Outline.Fault)
  | tree (fault : Tree.Fault)
  | markup

/-- How a run ends: its arguments make no command, it is done, or it breaks off. -/
inductive Outcome where
  | misused
  | done (code : Nat) (output : String)
  | broken (escape : Escape) (output : String)

/-- What a run comes to, or how it ends early. -/
abbrev Run := Except Outcome

/-- An outcome with output in front of its own. -/
def Outcome.after (output : String) : Outcome → Outcome
  | .misused => .misused
  | .done code later => .done code (output ++ later)
  | .broken escape later => .broken escape (output ++ later)

/-- The outcome of printing one thing after the other: the first that fails breaks off the run. -/
def Outcome.ofPrints (code : Nat) : List (Except Escape String) → Outcome
  | [] => .done code ""
  | .error escape :: _ => .broken escape ""
  | .ok output :: rest => (ofPrints code rest).after output

/-- The output for a text with markup. -/
def print (text : String) : Except Escape String :=
  match Markup.shown? text with
  | some shown => .ok (printed shown)
  | none => .error .markup

/-- The output for a table. -/
def printTable (table : Table) : Except Escape String :=
  match table.shown? with
  | some shown => .ok (output shown.lines)
  | none => .error .markup

/-- How a run ends that tells a message. -/
def told (message : String) : Outcome :=
  .ofPrints 1 [print s!"[red]{message}[/red]"]

/-- Ends a run with a message. -/
def tell {α : Type} (message : String) : Run α :=
  .error (told message)

/-- Ends a run at a fault that it does not expect. -/
def breakOff {α : Type} (escape : Escape) : Run α :=
  .error (.broken escape "")

/-- The settings for offers. -/
def loaded (surroundings : Surroundings) (policy : Option String) : Run Settings :=
  match Settings.load surroundings none [(Settings.Field.profitType.word, policy)] with
  | .ok settings => .ok settings
  | .error fault =>
    if fault.isConfiguration then tell (fault.message surroundings.diagnosis.config)
    else breakOff (.settings fault)

/-- A fault of a tree, which commands expect while they work on it. -/
def treeFault {α : Type} (fault : Tree.Fault) : Run α :=
  match fault with
  | .unknownNode _ | .unreachable _ => breakOff (.tree fault)
  | fault => tell fault.message

/-- The outline of a file. -/
def outlined (surroundings : Surroundings) (file : Path) : Run Source.Outline :=
  match surroundings.fileAt file with
  | .file bytes =>
    match Source.Outline.ofBytes bytes file with
    | .ok outline => .ok outline
    | .error fault =>
      match fault with
      | .missingLine => breakOff (.outline fault)
      | fault => tell (fault.message surroundings.diagnosis.source)
  | state => breakOff (.file file state)

/-- The tree of a file, and its root. -/
def built (surroundings : Surroundings) (file : Path) : Run (Tree × NodeId) := do
  let outline ← outlined surroundings file
  match outline.build with
  | .error fault => treeFault fault
  | .ok tree =>
    match tree.rootId with
    | .error fault => treeFault fault
    | .ok root => return (tree, root)

/-- Shows the tree of a file. -/
def runTree (surroundings : Surroundings) (file : Path) (asJson : Bool) : Run Outcome := do
  let (tree, root) ← built surroundings file
  if asJson then
    match tree.recordBelow (tree.subtree root) with
    | .ok record => return .done 0 (printedJson record)
    | .error fault => breakOff (.tree fault)
  else
    return .ofPrints 0 ((treeTexts tree root).map fun text => do print (← text.mapError .tree))

/-- Shows the terms of the nodes of a file. -/
def runTerms (surroundings : Surroundings) (file : Path) (asJson : Bool) : Run Outcome := do
  let (tree, root) ← built surroundings file
  let nodes := tree.nodesBelow root
  if asJson then return .done 0 (printedJson (termsJson nodes))
  else return .ofPrints 0 ((termTexts nodes).map print)

/-- Unfolds nodes one after the other, paying for each what it costs when its turn comes. -/
def unfolded (tree : Tree) : List Int → Run Tree
  | [] => .ok tree
  | id :: rest =>
    if 0 ≤ id ∧ id < tree.nodes.length then
      match tree.pay id.toNat with
      | .error fault => treeFault fault
      | .ok tree => unfolded tree rest
    else tell s!"No node #{id} in {tree.file.name}"

/-- The offers for the nodes of a tree: costs alone, or with the profits that settings ask for. No
content model is at hand.
-/
def offers (tree : Tree) (settings : Settings) (baseline : Bool) : Run OfferTable :=
  if baseline then
    match tree.baseline with
    | .ok table => .ok table
    | .error fault => treeFault fault
  else
    match (tree.scored settings none).1 with
    | .ok table => .ok table
    | .error (.tree fault) => treeFault fault
    | .error fault => tell fault.message

/-- Shows offers for the nodes of a file. -/
def runOptions (surroundings : Surroundings) (request : OfferRequest) : Run Outcome := do
  let settings ← loaded surroundings request.policy
  let (tree, _) ← built surroundings request.file
  let tree := match request.budget with
    | some budget => tree.setBudget budget
    | none => tree
  let tree ← unfolded tree request.unfold
  let table ← offers tree settings request.baseline
  if request.asJson then return .done 0 (printedJson (offersJson tree table))
  else
    let budget := if request.budget.isSome then [print (budgetLine tree)] else []
    return .ofPrints 0 (printTable (offerTable tree table) :: budget)

/-- Runs a command. -/
def Command.run (surroundings : Surroundings) : Command → Outcome
  | .tree file asJson => settle (runTree surroundings file asJson)
  | .terms file asJson => settle (runTerms surroundings file asJson)
  | .options request => settle (runOptions surroundings request)
where
  settle : Run Outcome → Outcome
  | .ok outcome => outcome
  | .error outcome => outcome

/-- Runs the command that arguments make. -/
def respond (surroundings : Surroundings) (arguments : List String) : Outcome :=
  match Command.ofArguments? arguments with
  | none => .misused
  | some command => command.run surroundings

end FoldTree.Console
