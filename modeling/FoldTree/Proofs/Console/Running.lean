import FoldTree.Proofs.Console.Printing
import FoldTree.Proofs.Offer.Agreement
import FoldTree.Proofs.Offer.Payment
import FoldTree.Proofs.Source.MissingLines

/-! Runs of commands up to where they have a tree to show, and what they make of it: lines for its
nodes and their terms, which are always shown, and offers for what is left when nodes are unfolded.
-/

namespace FoldTree

open Console

/-- No lone line ends are left where they have been unified, by the recursion over the text. -/
theorem Source.plain_unifyLineEnds (text : List Char) : '\r' ∉ unifyLineEnds text := by
  fun_induction unifyLineEnds text with
  | case1 => simp
  | case2 rest ih => simpa using ih
  | case3 c rest other ih =>
      rw [List.mem_cons, not_or]
      refine ⟨?_, ih⟩
      split
      · decide
      · exact Ne.symm ‹_›

/-- No lines are missing from a text whose line ends are all newlines. -/
theorem Source.Outline.ofText_plain {source : List Char} (plain : '\r' ∉ source) (file : Path)
    : ofText source file ≠ .error .missingLine := by
  intro lacks
  obtain ⟨-, program, read, unplaced⟩ := (ofText_cases source file).2.mp lacks
  have placed := (parts?_isSome_iff read).mpr ((paired_of_plain plain).not_exceeds read)
  rw [unplaced] at placed
  cases placed

/-- A text has at least one piece. -/
theorem Text.cutAt_ne_nil (mark : Char) (text : List Char) : cutAt mark text ≠ [] := by
  cases text with
  | nil => simp [cutAt]
  | cons c rest =>
      simp only [cutAt]
      split
      · simp
      · split <;> simp

/-- The pieces of a text between occurrences of a character do not hold it, by induction on the
text.
-/
theorem Text.not_mem_cutAt (mark : Char) (text : List Char)
    : ∀ piece ∈ cutAt mark text, mark ∉ piece := by
  induction text with
  | nil => simp [cutAt]
  | cons c rest ih =>
      simp only [cutAt]
      split
      · exact absurd ‹_› (cutAt_ne_nil mark rest)
      · rename_i piece pieces cut
        rw [cut] at ih
        obtain ⟨first, others⟩ := List.forall_mem_cons.mp ih
        split
        · exact List.forall_mem_cons.mpr ⟨List.not_mem_nil, ih⟩
        · rename_i apart
          refine List.forall_mem_cons.mpr ⟨?_, others⟩
          rw [List.mem_cons, not_or]
          exact ⟨Ne.symm apart, first⟩

/-- The name of a file holds no slash. -/
theorem Path.noSlash_name (text : String) : '/' ∉ (Path.ofText text).name.toList := by
  rw [name, String.toList_ofList, lastPart]
  cases last : (Path.ofText text).parts.getLast? with
  | none => exact List.not_mem_nil
  | some part =>
      have member := List.mem_filter.mp (List.mem_of_getLast? last)
      exact Text.not_mem_cutAt '/' _ part member.1

namespace Tree

variable {tree : Tree} {shape : Rose NodeId} {id : NodeId}

/-- Whether a fault is told by commands. -/
def Fault.isTold : Fault → Bool
  | .unknownNode _ | .unreachable _ => false
  | _ => true

/-- The fault of a pass over costs is told. -/
theorem Forms.baseline_isTold (forms : tree.Forms shape) {fault : Fault}
    (failed : tree.baseline = .error fault)
    : fault.isTold := by
  rw [forms.baseline_eq, unlessBroken] at failed
  split at failed
  · rename_i id first
    obtain ⟨node, found⟩ := forms.grown.found (List.mem_of_find?_eq_some first)
    cases failed
    simp only [brokenFault, found, Fault.isTold]
  · cases failed

/-- Where the pass over costs succeeds it lists each node once, with a cost that is not negative. -/
theorem Forms.baseline_listed (forms : tree.Forms shape) {table : OfferTable}
    (costs : tree.baseline = .ok table)
    : table.map Prod.fst = shape.preorder ∧ ∀ entry ∈ table, 0 ≤ entry.2.cost := by
  rw [forms.baseline_eq, unlessBroken] at costs
  split at costs
  · cases costs
  · rename_i none
    cases costs
    constructor
    · rw [List.map_map]
      exact Rose.map_fst_lineages [] shape
    · intro entry member
      obtain ⟨lineage, inside, rfl⟩ := List.mem_map.mp member
      refine accrued_nonneg fun id above => ?_
      have reached : id ∈ shape.preorder := by simpa using Rose.mem_of_mem_lineage inside above
      simpa using List.find?_eq_none.mp none id reached

/-- A node that the root reaches is paid for, unless the pass over costs fails. -/
theorem Forms.pay_outcome (forms : tree.Forms shape) (reached : id ∈ shape.preorder)
    : (∃ budget, tree.pay id = .ok (tree.paid [id] budget))
      ∨ ∃ fault, tree.pay id = .error fault ∧ tree.baseline = .error fault := by
  cases costs : tree.baseline with
  | error fault => exact .inr ⟨fault, by simp only [pay, costs, Outcome.error_bind], rfl⟩
  | ok table =>
      obtain ⟨ids, positive⟩ := forms.baseline_listed costs
      have once : (table.map Prod.fst).Nodup := ids ▸ forms.once
      have listed : id ∈ table.map Prod.fst := ids ▸ reached
      obtain ⟨⟨id, offer⟩, member, rfl⟩ := List.mem_map.mp listed
      have found : table.lookup id = some offer := Entries.lookup_of_mem once member
      have enough : 0 ≤ offer.cost := positive _ member
      refine .inl ⟨tree.budget - Float.ofInt offer.cost, ?_⟩
      simp only [pay, costs, Outcome.ok_bind, found, shrinkBudget, if_neg (Int.not_lt.mpr enough)]
      rfl

end Tree

/-- Without a content model, offers with profits fail for want of one or for a broken node. -/
theorem Pass.scored_error {tree : Tree} {shape : Rose NodeId} (forms : tree.Forms shape)
    {settings : Settings} {fault : Pass.Fault}
    (failed : (tree.scored settings none).1 = .error fault)
    : (∃ profit, fault = .needsSampler profit)
      ∨ ∃ inner : Tree.Fault, fault = .tree inner ∧ inner.isTold := by
  cases made : Pass.start tree settings none with
  | error other =>
      have same : other = fault := by
        simpa only [Tree.scored, made, Except.error.injEq] using failed
      subst same
      simp only [start, forms.reachable_eq] at made
      split at made
      · exact .inl ⟨_, (Except.error.inj made).symm⟩
      · cases made
  | ok session =>
      obtain ⟨pass, state⟩ := session
      obtain ⟨ready, same, -⟩ := start_ok forms made
      -- without a model only the policy that asks for none gets started
      have policy : pass.profit.policy = .noContentModel := by
        rw [same]
        cases named : settings.profit.policy with
        | noContentModel => rfl
        | _ => exact absurd (ready (by rw [named]; rfl)) Bool.false_ne_true
      rw [scored_eq forms made] at failed
      rcases run : inRow ((shape.lineages []).map (pass.visit none tree state.working)) with
        ⟨outcome, asked⟩
      rw [run] at failed
      obtain rfl : outcome = .error fault := failed
      obtain ⟨visit, member, stops⟩ := inRow_error run
      obtain ⟨lineage, inside, rfl⟩ := List.mem_map.mp member
      have reached : lineage.1 ∈ shape.preorder := by
        rw [← Rose.map_fst_lineages []]
        exact List.mem_map_of_mem inside
      obtain ⟨node, found⟩ := forms.grown.found reached
      obtain ⟨profit, reported⟩ :=
        reportOutcome_noContentModel policy none state.working node
      simp only [visit, found, reported, Outcome.ok_bind] at stops
      split at stops
      · cases stops
        exact .inr ⟨_, rfl, by simp only [Tree.brokenFault, found]; rfl⟩
      · cases stops

namespace Console

open Markup

variable {surroundings : Surroundings} {bytes : ByteArray} {file : Path} {tree : Tree}
variable {shape : Rose NodeId}

/-! ### Trees of files -/

/-- What is known of the tree of a file, whatever of it is unfolded: the root reaches all nodes, and
all that is said of them can be printed.
-/
structure Legible (tree : Tree) (file : Path) (shape : Rose NodeId) : Prop
    extends tree.Forms shape where
  all : ∀ id, id ∈ shape.preorder ↔ id < tree.nodes.length
  worded : ∀ node ∈ tree.nodes, Worded node.region.kind (node.terms.entries.map Prod.fst)
  about : tree.file = file
  noSlash : '/' ∉ file.name.toList

/-- The tree of a source is built and legible. -/
theorem exists_legible {source : List Char} {outline : Source.Outline}
    (read : Source.Outline.ofText source file = .ok outline) (noSlash : '/' ∉ file.name.toList)
    : ∃ tree shape, outline.build = .ok tree ∧ Legible tree file shape := by
  have same : outline.file = file := by
    obtain ⟨_, _, _, -, -, -, rfl⟩ := Source.Outline.exists_of_ofText read
    rfl
  obtain ⟨full, shape, -, -, built, spans, -⟩ :=
    Tree.build_eq outline.source outline.file outline.skeleton outline.remarks
  have about := congrArg Tree.file (Tree.build_drawn built).ground
  exact ⟨_, shape, built, spans.toForms, fun id => spans.reached_iff,
    Source.Outline.build_worded read built, about.trans same, noSlash⟩

/-- A tree stays legible when nodes are paid for. -/
theorem Legible.paid (legible : Legible tree file shape) (before : List NodeId) (budget : Float)
    : Legible (tree.paid before budget) file shape := by
  refine ⟨legible.toForms.paid before budget, fun id => ?_, fun node member => ?_, ?_,
    legible.noSlash⟩
  · rw [tree.length_paid, legible.all]
  · obtain ⟨id, found⟩ := List.mem_iff_getElem?.mp member
    have marked : (tree.mark before).nodes[id]? = some node := found
    rw [Tree.getElem?_mark] at marked
    obtain ⟨older, there, rfl⟩ := Option.map_eq_some_iff.mp marked
    exact legible.worded older (List.mem_of_getElem? there)
  · exact (tree.file_mark before).trans legible.about

/-- The nodes that the root reaches are those of the shape. -/
theorem Legible.nodesBelow_eq (legible : Legible tree file shape)
    : tree.nodesBelow shape.value = tree.nodesAt shape.preorder := by
  rw [Tree.nodesBelow, Tree.preorder, legible.subtree_eq]
  rfl

/-- The kinds of all nodes are bare. -/
theorem Legible.kinds (legible : Legible tree file shape)
    : ∀ node ∈ tree.nodes, Bare node.region.kind.toList := fun node member =>
  bare_kind (legible.worded node member).kind

/-- Nodes of some ids are nodes of the tree. -/
theorem mem_of_mem_nodesAt {ids : List NodeId} {node : Node} (member : node ∈ tree.nodesAt ids)
    : node ∈ tree.nodes := by
  obtain ⟨id, -, found⟩ := List.mem_filterMap.mp member
  exact List.mem_of_getElem? found

/-- A file gives its tree, or a fault that is told. -/
theorem built_outcome (there : surroundings.fileAt file = .file bytes)
    (noSlash : '/' ∉ file.name.toList)
    : (∃ fault, Source.Outline.ofBytes bytes file = .error fault
        ∧ built surroundings file = tell (fault.message surroundings.diagnosis.source))
      ∨ ∃ outline tree shape, Source.Outline.ofBytes bytes file = .ok outline
          ∧ outline.build = .ok tree ∧ Legible tree file shape
          ∧ built surroundings file = .ok (tree, shape.value) := by
  cases read : Source.Outline.ofBytes bytes file with
  | error fault =>
      -- the source has no line ends but newlines, so it lacks none of its lines
      have complete : fault ≠ .missingLine := by
        rintro rfl
        unfold Source.Outline.ofBytes at read
        split at read
        · cases read
        · exact Source.Outline.ofText_plain (Source.plain_unifyLineEnds _) file read
      refine .inl ⟨fault, rfl, ?_⟩
      simp only [built, outlined, there, read]
      cases fault with
      | missingLine => exact absurd rfl complete
      | _ => rfl
  | ok outline =>
      obtain ⟨source, whole⟩ : ∃ source, Source.Outline.ofText source file = .ok outline := by
        unfold Source.Outline.ofBytes at read
        split at read
        · cases read
        · exact ⟨_, read⟩
      obtain ⟨tree, shape, made, legible⟩ := exists_legible whole noSlash
      refine .inr ⟨outline, tree, shape, rfl, made, legible, ?_⟩
      simp only [built, outlined, there, read, Outcome.ok_bind, made, Tree.rootId, legible.root]
      rfl

/-- A file whose source has no outline gives no tree. -/
theorem built_error {fault : Source.Outline.Fault}
    (there : surroundings.fileAt file = .file bytes) (noSlash : '/' ∉ file.name.toList)
    (stops : Source.Outline.ofBytes bytes file = .error fault)
    : built surroundings file = tell (fault.message surroundings.diagnosis.source) := by
  rcases built_outcome there noSlash with ⟨other, failed, made⟩ | ⟨_, _, _, read, -⟩
  · cases failed.symm.trans stops
    exact made
  · cases read.symm.trans stops

/-- The command for a tree shows it, or breaks off at the first node that has no unique cost. -/
theorem run_tree (legible : Legible tree file shape)
    (made : built surroundings file = .ok (tree, shape.value)) (asJson : Bool)
    : ∃ output, (Command.tree file asJson).run surroundings
        = match (tree.nodesBelow shape.value).mapM tree.uniqueCost with
          | .ok _ => .done 0 output
          | .error fault => .broken (.tree fault) output := by
  rw [legible.nodesBelow_eq]
  cases asJson with
  | true =>
      obtain ⟨record, same⟩ := recordBelow_costs shape legible.grown
      simp only [Command.run, runTree, made, Outcome.ok_bind, if_true, legible.subtree_eq, same]
      cases (tree.nodesAt shape.preorder).mapM tree.uniqueCost with
      | ok costs => exact ⟨_, rfl⟩
      | error fault => exact ⟨_, rfl⟩
  | false =>
      have noSlash : '/' ∉ tree.file.name.toList := legible.about ▸ legible.noSlash
      obtain ⟨heading, shows⟩ := exists_print_heading noSlash
      obtain ⟨output, prints⟩ :=
        ofPrints_lines (treeLines_nodes shape legible.grown ⟨"", true, true⟩ (by decide))
          fun node member => legible.kinds node (mem_of_mem_nodesAt member)
      have whole : (Command.tree file false).run surroundings
          = .ofPrints 0 ((treeTexts tree shape.value).map printLine) := by
        unfold printLine
        simp only [Command.run, runTree, made, Outcome.ok_bind, Bool.false_eq_true, if_false,
          Outcome.pure_eq_ok, Command.run.settle]
      refine ⟨heading ++ output, ?_⟩
      rw [whole, treeTexts, legible.subtree_eq, List.map_cons, printLine_ok, shows,
        Outcome.ofPrints, prints]
      cases (tree.nodesAt shape.preorder).mapM tree.uniqueCost <;> rfl

/-- Faults that are told end a run with their messages. -/
theorem treeFault_of_isTold {α : Type} {fault : Tree.Fault} (told : fault.isTold)
    : (treeFault fault : Run α) = tell fault.message := by
  cases fault with
  | unknownNode id => cases told
  | unreachable id => cases told
  | _ => rfl

/-- Nodes that are unfolded after others are unfolded in the tree that those leave. -/
theorem unfolded_append (tree : Tree) (before later : List Int)
    : unfolded tree (before ++ later) = unfolded tree before >>= (unfolded · later) := by
  induction before generalizing tree with
  | nil => rfl
  | cons id rest ih =>
      simp only [List.cons_append, unfolded]
      split
      · cases tree.pay id.toNat with
        | error fault => cases fault <;> rfl
        | ok next => exact ih next
      · rfl

/-- What is left when nodes are unfolded is a tree in which they are paid for, by induction on them.
-/
theorem exists_paid_of_unfolded (legible : Legible tree file shape) {ids : List Int} {last : Tree}
    (ran : unfolded tree ids = .ok last)
    : Legible last file shape := by
  induction ids generalizing tree with
  | nil =>
      cases ran
      exact legible
  | cons id rest ih =>
      rw [unfolded] at ran
      split at ran
      · rename_i made
        -- a node that is there is reached, and paying for it fails only as the pass does
        have bound : id.toNat < tree.nodes.length := by omega
        have reached : id.toNat ∈ shape.preorder := (legible.all id.toNat).mpr bound
        rcases legible.pay_outcome reached with ⟨budget, payed⟩ | ⟨fault, failed, costs⟩
        · rw [payed] at ran
          exact ih (legible.paid [id.toNat] budget) ran
        · rw [failed] at ran
          dsimp only at ran
          rw [treeFault_of_isTold (legible.baseline_isTold costs)] at ran
          cases ran
      · cases ran

/-- Nodes are all unfolded, or there is a first one that is not there or cannot be paid for. -/
theorem unfolded_outcome (tree : Tree) (ids : List Int)
    : (∃ last, unfolded tree ids = .ok last)
      ∨ ∃ (before : List Int) (id : Int) (later : List Int) (current : Tree),
          ids = before ++ id :: later
          ∧ unfolded tree before = .ok current
          ∧ (¬(0 ≤ id ∧ id < current.nodes.length)
              ∨ (0 ≤ id ∧ id < current.nodes.length)
                ∧ ∃ fault, current.pay id.toNat = .error fault) := by
  induction ids generalizing tree with
  | nil => exact .inl ⟨tree, rfl⟩
  | cons id rest ih =>
      by_cases made : 0 ≤ id ∧ id < tree.nodes.length
      · cases payed : tree.pay id.toNat with
        | error fault => exact .inr ⟨[], id, rest, tree, rfl, rfl, .inr ⟨made, fault, payed⟩⟩
        | ok next =>
            -- from here on the tree is the one that paying for the node leaves
            have step (ids : List Int) : unfolded tree (id :: ids) = unfolded next ids := by
              simp only [unfolded, if_pos made, payed]
            rcases ih next with ⟨last, ran⟩ | ⟨before, stop, later, current, split, ran, stops⟩
            · exact .inl ⟨last, (step rest).trans ran⟩
            · exact .inr ⟨id :: before, stop, later, current, congrArg (id :: ·) split,
                (step before).trans ran, stops⟩
      · exact .inr ⟨[], id, rest, tree, rfl, rfl, .inl made⟩

/-- The settings that a request is for. -/
def OfferRequest.settings (request : OfferRequest) (surroundings : Surroundings)
    : Except Settings.LoadFault Settings :=
  Settings.load surroundings none [(Settings.Field.profitType.word, request.policy)]

/-- A tree with the budget that a request gives. -/
def OfferRequest.start (request : OfferRequest) (tree : Tree) : Tree :=
  match request.budget with
  | some budget => tree.setBudget budget
  | none => tree

/-- A request with its settings comes to a tree when it has unfolded some nodes. -/
structure OfferRequest.Reaches (surroundings : Surroundings) (bytes : ByteArray)
    (request : OfferRequest) (ids : List Int) (settings : Settings) (tree : Tree) : Prop where
  loaded : request.settings surroundings = .ok settings
  unfolded : ∃ outline first,
    Source.Outline.ofBytes bytes request.file = .ok outline
    ∧ outline.build = .ok first
    ∧ unfolded (request.start first) ids = .ok tree

/-- What a request shows of a tree. -/
def OfferRequest.shown (request : OfferRequest) (settings : Settings) (tree : Tree)
    : Run Outcome := do
  let table ← offers tree settings request.baseline
  if request.asJson then return .done 0 (printedJson (offersJson tree table))
  else
    let budget := if request.budget.isSome then [print (budgetLine tree)] else []
    return .ofPrints 0 (printTable (offerTable tree table) :: budget)

section

variable {request : OfferRequest} {settings : Settings} {ids later : List Int}

/-- A run loads the settings that its request is for. -/
theorem loaded_ok (loads : request.settings surroundings = .ok settings)
    : loaded surroundings request.policy = .ok settings := by
  rw [OfferRequest.settings] at loads
  rw [loaded, loads]

/-- A tree that a request comes to is legible, and it goes on from there. -/
theorem OfferRequest.Reaches.runOptions_eq (there : surroundings.fileAt request.file = .file bytes)
    (noSlash : '/' ∉ request.file.name.toList)
    (reaches : request.Reaches surroundings bytes ids settings tree)
    (asked : request.unfold = ids ++ later)
    : (∃ shape, Legible tree request.file shape)
      ∧ runOptions surroundings request
        = Console.unfolded tree later >>= request.shown settings := by
  obtain ⟨loads, outline, first, read, built, ran⟩ := reaches
  rcases built_outcome there noSlash
    with ⟨fault, failed, -⟩ | ⟨other, same, shape, read', built', legible, made⟩
  · cases failed.symm.trans read
  · cases read'.symm.trans read
    cases built'.symm.trans built
    have started : Legible (request.start first) request.file shape := by
      unfold start
      split
      · exact legible.paid [] _
      · exact legible
    refine ⟨⟨shape, exists_paid_of_unfolded started ran⟩, ?_⟩
    have goes
        : Console.unfolded (request.start first) request.unfold
          = Console.unfolded tree later := by
      rw [asked, unfolded_append, ran, Outcome.ok_bind]
    unfold start at goes
    rw [runOptions, loaded_ok loads, Outcome.ok_bind, made, Outcome.ok_bind, ← goes]
    rfl

/-- The nodes that a legible tree has are those of its shape. -/
theorem Legible.mem_nodesAt (legible : Legible tree file shape) {node : Node}
    : node ∈ tree.nodesAt shape.preorder ↔ node ∈ tree.nodes := by
  refine ⟨mem_of_mem_nodesAt, fun member => ?_⟩
  obtain ⟨id, found⟩ := List.mem_iff_getElem?.mp member
  have bound : id < tree.nodes.length := (List.getElem?_eq_some_iff.mp found).1
  exact List.mem_filterMap.mpr ⟨id, (legible.all id).mpr bound, found⟩

/-- The offers for costs alone fail as the pass over costs does. -/
theorem offers_baseline_error (legible : Legible tree file shape) {fault : Tree.Fault}
    (failed : tree.baseline = .error fault)
    : offers tree settings true = tell fault.message := by
  simp only [offers, if_true, failed, treeFault_of_isTold (legible.baseline_isTold failed)]

/-- The offers with profits fail as the pass over them does. -/
theorem offers_scored_error (legible : Legible tree file shape) {fault : Pass.Fault}
    (failed : (tree.scored settings none).1 = .error fault)
    : offers tree settings false = tell fault.message := by
  rcases Pass.scored_error legible.toForms failed with ⟨profit, rfl⟩ | ⟨inner, rfl, told⟩
  · simp only [offers, Bool.false_eq_true, if_false, failed]
  · simp only [offers, Bool.false_eq_true, if_false, failed, treeFault_of_isTold told]
    rfl

/-- The offers that are made for a legible tree are for all of its nodes. -/
theorem offers_listed (legible : Legible tree file shape) {baseline : Bool} {table : OfferTable}
    (made : offers tree settings baseline = .ok table)
    : table.map Prod.fst = shape.preorder := by
  cases baseline with
  | true =>
      cases costs : tree.baseline with
      | error fault =>
          rw [offers_baseline_error legible costs] at made
          cases made
      | ok listed =>
          simp only [offers, if_true, costs] at made
          cases made
          exact (legible.baseline_listed costs).1
  | false =>
      rcases ran : tree.scored settings none with ⟨fault | listed, calls⟩
      · rw [offers_scored_error legible (congrArg Prod.fst ran)] at made
        cases made
      · simp only [offers, Bool.false_eq_true, if_false, ran] at made
        cases made
        have ids := (legible.baseline_listed (Pass.baseline_of_scored ran)).1
        rwa [OfferTable.unscored, List.map_map] at ids

/-- Offers are made unless the pass over costs fails, or that over profits where they are asked for.
-/
theorem offers_outcome (tree : Tree) (settings : Settings) (baseline : Bool)
    : (∃ table, offers tree settings baseline = .ok table)
      ∨ (baseline = true ∧ ∃ fault, tree.baseline = .error fault)
      ∨ baseline = false ∧ ∃ fault, (tree.scored settings none).1 = .error fault := by
  cases baseline with
  | true =>
      cases costs : tree.baseline with
      | error fault => exact .inr (.inl ⟨rfl, fault, rfl⟩)
      | ok table => exact .inl ⟨table, by simp only [offers, if_true, costs]⟩
  | false =>
      cases ran : (tree.scored settings none).1 with
      | error fault => exact .inr (.inr ⟨rfl, fault, rfl⟩)
      | ok table => exact .inl ⟨table, by simp only [offers, Bool.false_eq_true, if_false, ran]⟩

variable {table : OfferTable}

/-- What a request shows of its offers can be shown if it is JSON, or if all previews can. -/
theorem OfferRequest.shown_done (legible : Legible tree file shape)
    (offered : offers tree settings request.baseline = .ok table)
    (shows : request.asJson = true
      ∨ ∀ node ∈ tree.nodes, (shown? (String.ofList (tree.preview node))).isSome)
    : ∃ output, request.shown settings tree = .ok (.done 0 output) := by
  rw [OfferRequest.shown, offered, Outcome.ok_bind]
  by_cases asJson : request.asJson = true
  · rw [if_pos asJson]
    exact ⟨_, rfl⟩
  · rw [if_neg asJson]
    have noSlash : '/' ∉ tree.file.name.toList := legible.about ▸ legible.noSlash
    have previews := shows.resolve_left asJson
    have visible (node : Node) (member : node ∈ tree.nodesAt (table.map Prod.fst)) :=
      previews node (mem_of_mem_nodesAt member)
    obtain ⟨offers, prints⟩ := (printTable_offers noSlash legible.kinds).mpr visible
    rw [prints]
    split
    · obtain ⟨line, prints⟩ := exists_print_budgetLine tree
      rw [prints]
      exact ⟨_, rfl⟩
    · exact ⟨_, rfl⟩

/-- A preview that cannot be shown breaks a run off. -/
theorem OfferRequest.shown_garbled (legible : Legible tree file shape)
    (offered : offers tree settings request.baseline = .ok table) (asText : request.asJson = false)
    {node : Node} (member : node ∈ tree.nodes)
    (garbled : shown? (String.ofList (tree.preview node)) = none)
    : request.shown settings tree = .ok (.broken .markup "") := by
  have noSlash : '/' ∉ tree.file.name.toList := legible.about ▸ legible.noSlash
  have fails : ¬∃ output, printTable (offerTable tree table) = .ok output := by
    rw [printTable_offers noSlash legible.kinds, offers_listed legible offered]
    intro shows
    have visible := shows node (legible.mem_nodesAt.mpr member)
    rw [garbled] at visible
    cases visible
  have stops := (printTable_outcome (offerTable tree table)).2.resolve_left fails
  rw [OfferRequest.shown, offered, Outcome.ok_bind, asText, if_neg Bool.false_ne_true, stops]
  rfl

end

end Console

end FoldTree
