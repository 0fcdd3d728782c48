import FoldTree.Proofs.Console.Telling
import FoldTree.Proofs.Json.Documents
import FoldTree.Proofs.Offer.Ceiling

/-! What commands write as JSON. Each lists all nodes of the tree of its file once, in pre-order. The
output is one JSON document unless it has a budget that is not finite: profits that are not finite
are written as texts, but a budget is written as the number that it is.
-/

namespace FoldTree

namespace Json

/-- A field of an object. -/
def field? (name : String) : Json → Option Json
  | .object fields => fields.lookup name
  | _ => none

/-- A whole number. -/
def integer? : Json → Option Int
  | .integer value => some value
  | _ => none

/-- The names of the fields of an object. -/
def names : Json → List String
  | .object fields => fields.map Prod.fst
  | _ => []

/-- The whole numbers of a name in the options that an object lists. -/
def optionNumbers (name : String) (value : Json) : List Int :=
  match value.field? "options" with
  | some (.list options) => options.filterMap fun option => (option.field? name).bind integer?
  | _ => []

mutual

/-- The ids of a record and of the records below it, in the order in which they are written. -/
def recordIds : Json → List Int
  | .object fields => fieldIds fields
  | _ => []

/-- The ids in the fields of a record: its own one, and those of the records below it. -/
def fieldIds : List (String × Json) → List Int
  | [] => []
  | (name, value) :: rest =>
    (if name = "id" then value.integer?.toList
      else if name = "children" then childIds value else []) ++ fieldIds rest

/-- The ids of the records that are listed as the children of another. -/
def childIds : Json → List Int
  | .list items => itemIds items
  | _ => []

/-- The ids of several records. -/
def itemIds : List Json → List Int
  | [] => []
  | item :: rest => recordIds item ++ itemIds rest

end

end Json

namespace Console

open Markup

variable {surroundings : Surroundings} {bytes : ByteArray} {file : Path} {tree : Tree}
variable {shape : Rose NodeId} {command : Command} {output : String}

/-! ### Values without floating numbers -/

/-- Counts are no floating numbers, by induction on the entries. -/
theorem numbers_termsJson (terms : Terms) : terms.json.numbers = [] := by
  have none (entries : List (String × Nat))
      : Json.numbersOfFields (entries.map fun entry => (entry.1, Json.integer entry.2)) = [] := by
    induction entries with
    | nil => rfl
    | cons entry rest ih => simp [Json.numbersOfFields, Json.numbers, ih]
  exact none terms.entries

/-- The terms of nodes have no floating numbers, by induction on the nodes. -/
theorem numbers_nodeTerms (nodes : List Node) : (termsJson nodes).numbers = [] := by
  rw [termsJson, Json.numbers]
  induction nodes with
  | nil => rfl
  | cons node rest ih =>
      rw [List.map_cons, Json.numbersOfFields, numbers_termsJson, List.nil_append]
      exact ih

mutual

/-- The record of a shape lists its nodes, and it has no floating numbers. By induction on the shape.
-/
theorem recordBelow_lists (shape : Rose NodeId) (grown : tree.Grown shape)
    (numbered : tree.Numbered) {record : Json} (made : tree.recordBelow shape = .ok record)
    : record.recordIds = shape.preorder.map Int.ofNat ∧ record.numbers = [] := by
  cases grown with
  | @node id node below found _ grown =>
      rw [Tree.recordBelow, found] at made
      obtain ⟨fields, written, made⟩ := Outcome.bind_eq_ok.mp made
      obtain ⟨records, listed, made⟩ := Outcome.bind_eq_ok.mp made
      obtain ⟨cost, -, written⟩ := Outcome.bind_eq_ok.mp written
      obtain ⟨ids, none⟩ := recordAll_lists below grown numbered listed
      cases made
      cases written
      have same : node.id = id := numbered id node found
      constructor
      · simp [Json.recordIds, Json.fieldIds, Json.integer?, Json.childIds, ids, same, Rose.preorder]
      · simp [Json.numbers, Json.numbersOfFields, numbers_termsJson, none]
termination_by sizeOf shape

/-- The records of several shapes list their nodes, by the same induction. -/
theorem recordAll_lists (shapes : List (Rose NodeId))
    (grown : ∀ branch ∈ shapes, tree.Grown branch) (numbered : tree.Numbered)
    {records : List Json} (made : tree.recordAll shapes = .ok records)
    : Json.itemIds records = (Rose.preorderAll shapes).map Int.ofNat
      ∧ Json.numbersOfItems records = [] := by
  cases shapes with
  | nil =>
      cases made
      exact ⟨rfl, rfl⟩
  | cons branch rest =>
      obtain ⟨first, below, made⟩ := Outcome.bind_eq_ok.mp made
      obtain ⟨others, behind, made⟩ := Outcome.bind_eq_ok.mp made
      cases made
      obtain ⟨ids, none⟩ :=
        recordBelow_lists branch (grown branch List.mem_cons_self) numbered below
      obtain ⟨ids', none'⟩ := recordAll_lists rest
        (fun other member => grown other (List.mem_cons_of_mem _ member)) numbered behind
      constructor
      · rw [Json.itemIds, Rose.preorderAll, List.map_append, ids, ids']
      · rw [Json.numbersOfItems, none, none', List.append_nil]
termination_by sizeOf shapes

end

/-! ### Offers -/

/-- The JSON value for one offer. -/
def optionJson (entry : NodeId × Offer) : Json :=
  .object [("id", .integer entry.1), ("cost", .integer entry.2.cost), ("profit", entry.2.json)]

/-- The options that are listed for offers have a number of each of these. -/
theorem optionNumbers_offersJson {name : String} {number : NodeId × Offer → Int}
    (named : ∀ entry, ((optionJson entry).field? name).bind Json.integer? = some (number entry))
    (tree : Tree) (offers : OfferTable)
    : (offersJson tree offers).optionNumbers name = offers.map number := by
  have options : (offersJson tree offers).field? "options" = some (.list (offers.map optionJson)) :=
    rfl
  rw [Json.optionNumbers, options]
  dsimp only
  rw [List.filterMap_map, ← List.filterMap_eq_map]
  exact List.filterMap_congr fun entry _ => named entry

/-- The ids and the costs that are listed for offers are theirs. -/
theorem idsAndCosts_offersJson (tree : Tree) (offers : OfferTable)
    : (offersJson tree offers).optionNumbers "id" = offers.map (fun entry => Int.ofNat entry.1)
      ∧ (offersJson tree offers).optionNumbers "cost" = offers.map fun entry => entry.2.cost :=
  ⟨optionNumbers_offersJson (fun _ => rfl) tree offers,
    optionNumbers_offersJson (fun _ => rfl) tree offers⟩

/-- A profit is written as a number only if it is finite. -/
theorem numbers_offer (offer : Offer) : ∀ x ∈ offer.json.numbers, x.isFinite = true := by
  unfold Offer.json
  split
  · simp [Json.numbers]
  · split
    · simpa [Json.numbers]
    · simp [Json.numbers]

/-- Of the numbers that are written for offers only the budget can fail to be finite. -/
theorem numbers_offersJson (tree : Tree) (offers : OfferTable)
    : (∀ x ∈ (offersJson tree offers).numbers, x.isFinite = true) ↔ tree.budget.isFinite = true := by
  have options (offers : OfferTable)
      : ∀ x ∈ Json.numbersOfItems (offers.map optionJson), x.isFinite = true := by
    induction offers with
    | nil => simp [Json.numbersOfItems]
    | cons entry rest ih =>
        have one : (optionJson entry).numbers = entry.2.json.numbers := by
          simp [optionJson, Json.numbers, Json.numbersOfFields]
        rw [List.map_cons, Json.numbersOfItems, one]
        exact List.forall_mem_append.mpr ⟨numbers_offer entry.2, ih⟩
  have whole : (offersJson tree offers).numbers
      = tree.budget :: (Json.numbersOfItems (offers.map optionJson) ++ []) := rfl
  rw [whole, List.append_nil, List.forall_mem_cons]
  exact and_iff_left (options offers)

/-! ### Runs that are done -/

/-- A message does not end a run well. -/
theorem told_ne_done (message : String) : told message ≠ .done 0 output := by
  rw [told]
  cases print s!"[red]{message}[/red]" <;> rintro ⟨⟩

/-- Settings that cannot be loaded do not end a run well. -/
theorem loaded_ne_done {policy : Option String}
    : loaded surroundings policy ≠ .error (.done 0 output) := by
  unfold loaded
  split
  · exact nofun
  · split
    · exact fun same => told_ne_done _ (Except.error.inj same)
    · exact nofun

/-- Where the tree of a command cannot be built, the command is done only if that is. -/
theorem Command.done_of_built_error {outcome : Outcome}
    (stops : built surroundings command.file = .error outcome)
    (done : command.run surroundings = .done 0 output)
    : outcome = .done 0 output := by
  cases command with
  | tree file asJson =>
      dsimp only [Command.file] at stops
      rwa [run, runTree, stops] at done
  | terms file asJson =>
      dsimp only [Command.file] at stops
      rwa [run, runTerms, stops] at done
  | options request =>
      dsimp only [Command.file] at stops
      rw [run, runOptions, stops] at done
      cases loads : loaded surroundings request.policy with
      | ok settings => rwa [loads] at done
      | error outcome =>
          rw [loads] at done
          exact absurd (loads.trans (congrArg Except.error done)) loaded_ne_done

/-- A command that is done has its file. -/
theorem Command.exists_file (done : command.run surroundings = .done 0 output)
    : ∃ bytes, surroundings.fileAt command.file = .file bytes := by
  by_contra absent
  rw [not_exists] at absent
  have breaks : built surroundings command.file
      = .error (.broken (.file command.file (surroundings.fileAt command.file)) "") := by
    rw [built, outlined]
    cases there : surroundings.fileAt command.file with
    | file bytes => exact absurd there (absent bytes)
    | _ => rfl
  cases Command.done_of_built_error breaks done

/-- Whether a command asks for JSON. -/
def Command.asJson : Command → Bool
  | .tree _ asJson | .terms _ asJson => asJson
  | .options request => request.asJson

/-- The budget that is given to a command. -/
def Command.budget? : Command → Option Float
  | .options request => request.budget
  | _ => none

/-- The ids that a command lists in its JSON value, as they are written. -/
def Command.listed : Command → Json → List String
  | .tree _ _, value => value.recordIds.map toString
  | .terms _ _, value => value.names
  | .options _, value => (value.optionNumbers "id").map toString

/-- The budgets that a command writes: what is left after the payments for the nodes of a request. -/
def Command.budgetsLeft (tree : Tree) : Command → List Float
  | .options request =>
    [afterCharges (request.start tree).budget ((request.start tree).charges request.unfold)]
  | _ => []

/-- The nodes that a legible tree has are numbered like its shape. -/
theorem Legible.ids_nodesBelow (legible : Legible tree file shape)
    : (tree.nodesBelow shape.value).map (·.id) = shape.preorder := by
  rw [legible.nodesBelow_eq, Tree.nodesAt, List.map_filterMap]
  have named (id : NodeId) (member : id ∈ shape.preorder)
      : (tree.nodes[id]?).map (·.id) = some id := by
    obtain ⟨node, found⟩ := legible.grown.found member
    rw [found, Option.map_some, legible.numbered id node found]
  rw [List.filterMap_congr named, List.filterMap_some]

/-- The tree that a request starts with is legible. -/
theorem Legible.start (legible : Legible tree file shape) (request : OfferRequest)
    : Legible (request.start tree) file shape := by
  unfold OfferRequest.start
  split
  · exact legible.paid [] _
  · exact legible

/-- A command lists all nodes of a tree in a value, in pre-order, and the numbers of the value are
finite just if the budget that is left is.
-/
structure Command.Lists (command : Command) (tree : Tree) (shape : Rose NodeId) (value : Json)
    : Prop where
  ids : command.listed value = shape.preorder.map toString
  finite : (∀ x ∈ value.numbers, x.isFinite = true)
    ↔ ∀ x ∈ command.budgetsLeft tree, x.isFinite = true

/-- The record of a tree lists its nodes. -/
theorem lists_tree (legible : Legible tree file shape)
    (made : built surroundings file = .ok (tree, shape.value))
    (done : (Command.tree file true).run surroundings = .done 0 output)
    : ∃ value, output = printedJson value ∧ (Command.tree file true).Lists tree shape value := by
  rw [Command.run, runTree, made, Outcome.ok_bind] at done
  dsimp only at done
  rw [if_pos rfl, legible.subtree_eq] at done
  split at done
  · rename_i record recorded
    cases done
    obtain ⟨ids, none⟩ := recordBelow_lists shape legible.grown legible.numbered recorded
    refine ⟨record, rfl, ?_, ?_⟩
    · rw [Command.listed, ids, List.map_map]
      rfl
    · simp [none, Command.budgetsLeft]
  · cases done

/-- The terms of a tree are listed by its nodes. -/
theorem lists_terms (legible : Legible tree file shape)
    (made : built surroundings file = .ok (tree, shape.value))
    (done : (Command.terms file true).run surroundings = .done 0 output)
    : ∃ value, output = printedJson value ∧ (Command.terms file true).Lists tree shape value := by
  rw [Command.run, runTerms, made, Outcome.ok_bind] at done
  dsimp only at done
  rw [if_pos rfl] at done
  cases done
  refine ⟨_, rfl, ?_, ?_⟩
  · rw [Command.listed, termsJson, Json.names, List.map_map, ← legible.ids_nodesBelow, List.map_map]
    rfl
  · simp [numbers_nodeTerms, Command.budgetsLeft]

/-- A request that is done has come to a last tree, and shows the offers that are made there. -/
theorem OfferRequest.exists_reached {request : OfferRequest}
    (there : surroundings.fileAt request.file = .file bytes)
    (noSlash : '/' ∉ request.file.name.toList)
    (done : (Command.options request).run surroundings = .done 0 output)
    : ∃ settings last shape table,
        request.Reaches surroundings bytes request.unfold settings last
        ∧ Legible last request.file shape
        ∧ Console.offers last settings request.baseline = .ok table
        ∧ Command.run.settle (request.shown settings last) = .done 0 output := by
  rcases request.offers_cases there noSlash
    with ⟨settings, last, table, reaches, offered⟩ | ⟨message, raises⟩ | ⟨escape, escapes⟩
  · obtain ⟨⟨shape, legible⟩, shows⟩ := reaches.run_eq there noSlash
    exact ⟨settings, last, shape, table, reaches, legible, offered, shows.symm.trans done⟩
  · exact absurd ((raises.run_eq there noSlash).symm.trans done) (told_ne_done _)
  · obtain ⟨output, breaks⟩ := escapes.run_eq there noSlash
    cases breaks.symm.trans done

/-- Offers are listed by the nodes of the tree that a request starts with. The payments change what
is left of the budget, and neither the nodes nor their order.
-/
theorem lists_options {request : OfferRequest} {outline : Source.Outline}
    (legible : Legible tree request.file shape)
    (read : Source.Outline.ofBytes bytes request.file = .ok outline)
    (made : outline.build = .ok tree) (asJson : request.asJson = true)
    (there : surroundings.fileAt request.file = .file bytes)
    (noSlash : '/' ∉ request.file.name.toList)
    (done : (Command.options request).run surroundings = .done 0 output)
    : ∃ value, output = printedJson value ∧ (Command.options request).Lists tree shape value := by
  obtain ⟨settings, last, shape', table, reaches, -, offered, shows⟩ :=
    OfferRequest.exists_reached there noSlash done
  obtain ⟨outline', tree', read', made', ran⟩ := reaches.unfolded
  cases read'.symm.trans read
  cases made'.symm.trans made
  rw [OfferRequest.shown, offered, Outcome.ok_bind, if_pos asJson] at shows
  cases shows
  have paid : Legible last request.file shape :=
    exists_paid_of_unfolded (legible.start request) ran
  refine ⟨_, rfl, ?_, ?_⟩
  · rw [Command.listed, (idsAndCosts_offersJson _ _).1, ← offers_listed paid offered, List.map_map,
      List.map_map]
    rfl
  · rw [numbers_offersJson, Command.budgetsLeft, List.forall_mem_singleton,
      Tree.budget_unfolded ran]
    rfl

/-- A command that asks for JSON and is done lists all nodes of the tree of its file. -/
theorem Command.exists_lists (asJson : command.asJson = true)
    (done : command.run surroundings = .done 0 output)
    (there : surroundings.fileAt command.file = .file bytes)
    (noSlash : '/' ∉ command.file.name.toList)
    : ∃ outline tree shape value,
        Source.Outline.ofBytes bytes command.file = .ok outline
        ∧ outline.build = .ok tree
        ∧ built surroundings command.file = .ok (tree, shape.value)
        ∧ Legible tree command.file shape
        ∧ output = printedJson value
        ∧ command.Lists tree shape value := by
  rcases built_outcome there noSlash
    with ⟨fault, failed, stops⟩ | ⟨outline, tree, shape, read, made, legible, built⟩
  · exact absurd (Command.done_of_built_error stops done) (told_ne_done _)
  · have lists : ∃ value, output = printedJson value ∧ command.Lists tree shape value := by
      cases command with
      | tree file asked =>
          dsimp only [Command.asJson] at asJson
          subst asJson
          exact lists_tree legible built done
      | terms file asked =>
          dsimp only [Command.asJson] at asJson
          subst asJson
          exact lists_terms legible built done
      | options request => exact lists_options legible read made asJson there noSlash done
    obtain ⟨value, shows, lists⟩ := lists
    exact ⟨outline, tree, shape, value, read, made, built, legible, shows, lists⟩

/-! ### Budgets -/

/-- A text has at least as many bytes as characters. -/
theorem length_le_utf8ByteSize (text : String) : text.toList.length ≤ text.utf8ByteSize := by
  rw [← String.utf8Len_toList]
  induction text.toList with
  | nil => rfl
  | cons c rest ih =>
      have positive := c.utf8Size_pos
      rw [List.length_cons, String.utf8Len_cons]
      omega

/-- Unified line ends are not longer, by the recursion over the text. -/
theorem length_unifyLineEnds_le (text : List Char)
    : (Source.unifyLineEnds text).length ≤ text.length := by
  fun_induction Source.unifyLineEnds text with
  | case1 => rfl
  | case2 rest ih =>
      simp only [List.length_cons]
      omega
  | case3 c rest other ih =>
      simp only [List.length_cons]
      omega

/-- A file has at least as many bytes as its source has characters. -/
theorem length_source_le {outline : Source.Outline}
    (read : Source.Outline.ofBytes bytes file = .ok outline)
    : outline.source.length ≤ bytes.size := by
  unfold Source.Outline.ofBytes String.fromUTF8? at read
  split at read
  · cases read
  · rename_i text decoded
    split at decoded
    · cases decoded
      obtain ⟨_, _, _, -, -, -, rfl⟩ := Source.Outline.exists_of_ofText read
      exact (length_unifyLineEnds_le _).trans (length_le_utf8ByteSize _)
    · cases decoded

/-- The budget that a request starts with is finite just if the one that is given is. -/
theorem isFinite_start (fresh : tree.budget = 0.0) (request : OfferRequest)
    : (request.start tree).budget.isFinite = true
      ↔ ∀ budget, request.budget = some budget → budget.isFinite = true := by
  cases given : request.budget with
  | none =>
      have zero : (0.0 : Float).isFinite = true := by decide +kernel
      simp [OfferRequest.start, given, fresh, zero]
  | some budget => simp [OfferRequest.start, given, Tree.setBudget]

/-- A command has no budget left that is not finite, unless that is given. -/
theorem Command.isFinite_budgetsLeft (legible : Legible tree file shape) (written : tree.Written)
    (fresh : tree.budget = 0.0) (small : tree.source.length + 1 < 2 ^ 64)
    (finite : ∀ budget, command.budget? = some budget → budget.isFinite = true)
    : ∀ x ∈ command.budgetsLeft tree, x.isFinite = true := by
  cases command with
  | options request =>
      have same : (request.start tree).source = tree.source := by
        unfold OfferRequest.start
        split <;> rfl
      have written' : (request.start tree).Written := by
        unfold OfferRequest.start
        split
        · exact written
        · exact written
      have words (cost : Int)
          (member : cost ∈ (request.start tree).charges request.unfold)
          : 0 ≤ cost ∧ cost < 2 ^ 64 := by
        have bounds :=
          (legible.start request).toForms.charges_bounds written' request.unfold cost member
        rw [same] at bounds
        omega
      rw [budgetsLeft, List.forall_mem_singleton]
      exact isFinite_afterCharges words ((isFinite_start fresh request).mpr finite)
  | _ => simp [budgetsLeft]

/-- A command that is given a budget that is not finite has such a one left. -/
theorem Command.isFinite_given (fresh : tree.budget = 0.0)
    (finite : ∀ x ∈ command.budgetsLeft tree, x.isFinite = true)
    : ∀ budget, command.budget? = some budget → budget.isFinite = true := by
  cases command with
  | options request =>
      rw [budgetsLeft, List.forall_mem_singleton] at finite
      refine (isFinite_start fresh request).mp ?_
      by_contra lacking
      rw [isFinite_afterCharges_left (Bool.eq_false_of_not_eq_true lacking)] at finite
      cases finite
  | _ => exact nofun

/-! ### Documents -/

/-- What commands write as JSON lists every node of the tree of their file once, in pre-order. It is
one JSON document just if the budget that it has, if any, is finite, and so unless one is given that
is not.
-/
theorem respond_documents {arguments : List String}
    (parsed : Command.ofArguments? arguments = some command) (asJson : command.asJson = true)
    (done : respond surroundings arguments = .done 0 output)
    : ∃ bytes tree root value,
        surroundings.fileAt command.file = .file bytes
        ∧ built surroundings command.file = .ok (tree, root)
        ∧ output = printedJson value
        ∧ command.listed value = (tree.preorder root).map toString
        ∧ (tree.preorder root).Perm (List.range tree.nodes.length)
        ∧ (Json.IsDocument output → Json.Written (.value value.datum) output.toList)
        ∧ (Json.IsDocument output ↔ ∀ x ∈ command.budgetsLeft tree, x.isFinite = true)
        ∧ (Json.IsDocument output →
            ∀ budget, command.budget? = some budget → budget.isFinite = true)
        ∧ (bytes.size + 1 < 2 ^ 64 →
            (∀ budget, command.budget? = some budget → budget.isFinite = true) →
            Json.IsDocument output) := by
  rw [respond, parsed] at done
  obtain ⟨bytes, there⟩ := Command.exists_file done
  obtain ⟨outline, tree, shape, value, read, made, built, legible, rfl, lists⟩ :=
    Command.exists_lists asJson done there (Command.noSlash_file parsed)
  have drawn := (Tree.build_drawn made).ground
  have fresh : tree.budget = 0.0 := congrArg Tree.budget drawn
  have source : tree.source = outline.source := congrArg Tree.source drawn
  have document : Json.IsDocument (printedJson value)
      ↔ ∀ x ∈ command.budgetsLeft tree, x.isFinite = true :=
    (Json.isDocument_line value).trans lists.finite
  have preorder : tree.preorder shape.value = shape.preorder := by
    rw [Tree.preorder, legible.subtree_eq]
  refine ⟨bytes, tree, shape.value, value, there, built, rfl, preorder ▸ lists.ids, ?_, fun whole => ?_,
    document, fun whole => Command.isFinite_given fresh (document.mp whole),
    fun small finite => document.mpr ?_⟩
  · rw [preorder, List.perm_ext_iff_of_nodup legible.once List.nodup_range]
    intro id
    rw [legible.all, List.mem_range]
  · exact Json.written_line value ((Json.isDocument_line value).mp whole)
  · have most := length_source_le read
    exact Command.isFinite_budgetsLeft legible (Tree.Written.build made) fresh
      (by rw [source]; omega) finite

/-- What a run that is done well has written. -/
def Outcome.written? : Outcome → Option String
  | .done 0 output => some output
  | _ => none

/-- Only a run that is done well has written something. -/
theorem Outcome.eq_done {outcome : Outcome} (written : outcome.written? = some output)
    : outcome = .done 0 output := by
  unfold written? at written
  split at written
  · rw [Option.some.inj written]
  · cases written

/-- Surroundings with a home directory and a file that holds some text. -/
def withTool (text : String) : Surroundings where
  environment name := if name == "HOME" then some "/home" else none
  fileAt file := if file.text == "tool.py" then .file text.toUTF8 else .missing
  diagnosis := default

/-- What is written when the budget is no number: a word of its own that no document has. -/
def absentBudget : String :=
  "\x7b\"file\": \"tool.py\", \"budget\": NaN, "
    ++ "\"options\": [\x7b\"id\": 0, \"cost\": 0, \"profit\": \"-inf\"\x7d]\x7d\n"

/-- The arguments of a request with a budget that is no number. -/
def absentArguments : List String :=
  ["options", "tool.py", "--json", "--budget", "nan"]

/-- A budget that is no number can be given, and what is written then is no document. -/
theorem absentBudget_documents
    : ∃ command,
        Command.ofArguments? absentArguments = some command
        ∧ command.asJson = true
        ∧ respond (withTool "x = 1\n") absentArguments = .done 0 absentBudget
        ∧ ¬Json.IsDocument absentBudget := by
  have reads : (Command.ofArguments? absentArguments).map (fun command =>
        (command.asJson, command.budget?.map Float.isFinite))
      = some (true, some false) := by
    decide +kernel
  have written : (respond (withTool "x = 1\n") absentArguments).written? = some absentBudget := by
    decide +kernel
  obtain ⟨command, parsed, given⟩ := Option.map_eq_some_iff.mp reads
  obtain ⟨asJson, budget⟩ := Prod.mk.inj given
  obtain ⟨value, given, lacking⟩ := Option.map_eq_some_iff.mp budget
  have done := Outcome.eq_done written
  refine ⟨command, parsed, asJson, done, fun whole => ?_⟩
  obtain ⟨_, _, _, _, -, -, -, -, -, -, -, finite, -⟩ := respond_documents parsed asJson done
  rw [finite whole value given] at lacking
  cases lacking

end Console

end FoldTree
