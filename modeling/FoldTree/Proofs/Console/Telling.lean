import FoldTree.Proofs.Console.Running
import Mathlib

/-! What commands say when something goes wrong, and what breaks them off. All that goes wrong with
the settings, the source or the offers of a command is told as a message, but for settings that
cannot be loaded for reasons outside of them. The command for a tree asks for unique costs with
nobody to tell that there is none. A message is shown as it is just if it has no markup, and
previews can have markup that cannot be shown.
-/

namespace FoldTree.Console

open Markup

/-- Whether a command has the settings that it needs. -/
def Command.IsReady (surroundings : Surroundings) : Command → Prop
  | .options request => ∃ settings, request.settings surroundings = .ok settings
  | _ => True

/-- What a command has to say when something goes wrong that it expects: with its settings, its
source, a node that it is to unfold, or the offers for the tree that it comes to.
-/
inductive Command.Raises (surroundings : Surroundings) (bytes : ByteArray) : Command → String → Prop
  | settings {request : OfferRequest} {fault : Settings.LoadFault}
      (stops : request.settings surroundings = .error fault)
      (expected : fault.isConfiguration = true)
      : Raises surroundings bytes (.options request)
          (fault.message surroundings.diagnosis.config)
  | source {command : Command} {fault : Source.Outline.Fault} (ready : command.IsReady surroundings)
      (stops : Source.Outline.ofBytes bytes command.file = .error fault)
      : Raises surroundings bytes command (fault.message surroundings.diagnosis.source)
  | absence {request : OfferRequest} {before later : List Int} {id : Int} {settings : Settings}
      {tree : Tree} (asked : request.unfold = before ++ id :: later)
      (reaches : request.Reaches surroundings bytes before settings tree)
      (absent : ¬(0 ≤ id ∧ id < tree.nodes.length))
      : Raises surroundings bytes (.options request) s!"No node #{id} in {request.file.name}"
  | payment {request : OfferRequest} {before later : List Int} {id : Int} {settings : Settings}
      {tree : Tree} {fault : Tree.Fault} (asked : request.unfold = before ++ id :: later)
      (reaches : request.Reaches surroundings bytes before settings tree)
      (present : 0 ≤ id ∧ id < tree.nodes.length) (stops : tree.pay id.toNat = .error fault)
      : Raises surroundings bytes (.options request) fault.message
  | costs {request : OfferRequest} {settings : Settings} {tree : Tree} {fault : Tree.Fault}
      (reaches : request.Reaches surroundings bytes request.unfold settings tree)
      (baseline : request.baseline = true) (stops : tree.baseline = .error fault)
      : Raises surroundings bytes (.options request) fault.message
  | profits {request : OfferRequest} {settings : Settings} {tree : Tree} {fault : Pass.Fault}
      (reaches : request.Reaches surroundings bytes request.unfold settings tree)
      (baseline : request.baseline = false) (stops : (tree.scored settings none).1 = .error fault)
      : Raises surroundings bytes (.options request) fault.message

/-- What breaks a command off: settings that cannot be loaded for reasons outside of them, a node of
the tree to be shown that has no unique cost, or an offer to be shown whose preview cannot be.
-/
inductive Command.Escapes (surroundings : Surroundings) (bytes : ByteArray)
    : Command → Escape → Prop
  | settings {request : OfferRequest} {fault : Settings.LoadFault}
      (stops : request.settings surroundings = .error fault) (other : fault.isConfiguration = false)
      : Escapes surroundings bytes (.options request) (.settings fault)
  | cost {file : Path} {asJson : Bool} {outline : Source.Outline} {tree : Tree} {root : NodeId}
      {fault : Tree.Fault} (read : Source.Outline.ofBytes bytes file = .ok outline)
      (made : outline.build = .ok tree) (starts : tree.rootId = .ok root)
      (stops : (tree.nodesBelow root).mapM tree.uniqueCost = .error fault)
      : Escapes surroundings bytes (.tree file asJson) (.tree fault)
  | preview {request : OfferRequest} {settings : Settings} {tree : Tree} {table : OfferTable}
      {node : Node} (reaches : request.Reaches surroundings bytes request.unfold settings tree)
      (offered : offers tree settings request.baseline = .ok table)
      (asText : request.asJson = false) (member : node ∈ tree.nodes)
      (garbled : shown? (String.ofList (tree.preview node)) = none)
      : Escapes surroundings bytes (.options request) .markup

variable {surroundings : Surroundings} {bytes : ByteArray} {tree : Tree}
variable {command : Command} {message : String} {escape : Escape}

/-- A request is about the file that is given for it. -/
theorem OfferRequest.file_ofGiven? {given : Given} {request : OfferRequest}
    (asked : ofGiven? given = some request)
    : given.file? = some request.file := by
  obtain ⟨file, only, asked⟩ := Option.bind_eq_some_iff.mp asked
  obtain ⟨unfold, -, asked⟩ := Option.bind_eq_some_iff.mp asked
  dsimp only at asked
  split at asked
  · cases asked
    exact only
  · obtain ⟨budget, -, asked⟩ := Option.bind_eq_some_iff.mp asked
    cases asked
    exact only

/-- The name of a file that is given holds no slash. -/
theorem Given.noSlash_file {given : Given} {file : Path} (only : given.file? = some file)
    : '/' ∉ file.name.toList := by
  unfold file? at only
  split at only
  · cases only
    exact Path.noSlash_name _
  · cases only

/-- The name of the file that a command is about holds no slash. -/
theorem Command.noSlash_file {arguments : List String}
    (parsed : ofArguments? arguments = some command)
    : '/' ∉ command.file.name.toList := by
  obtain ⟨common, -, named⟩ := Option.bind_eq_some_iff.mp parsed
  split at named
  · obtain ⟨given, -, named⟩ := Option.bind_eq_some_iff.mp named
    obtain ⟨file, only, named⟩ := Option.bind_eq_some_iff.mp named
    cases named
    exact Given.noSlash_file only
  · obtain ⟨given, -, named⟩ := Option.bind_eq_some_iff.mp named
    obtain ⟨file, only, named⟩ := Option.bind_eq_some_iff.mp named
    cases named
    exact Given.noSlash_file only
  · obtain ⟨given, -, named⟩ := Option.bind_eq_some_iff.mp named
    obtain ⟨request, asked, named⟩ := Option.bind_eq_some_iff.mp named
    cases named
    exact Given.noSlash_file (OfferRequest.file_ofGiven? asked)
  · cases named

section

variable {request : OfferRequest} {settings : Settings}

/-- A request that has unfolded all its nodes shows what is left. -/
theorem OfferRequest.Reaches.run_eq
    (reaches : request.Reaches surroundings bytes request.unfold settings tree)
    (there : surroundings.fileAt request.file = .file bytes)
    (noSlash : '/' ∉ request.file.name.toList)
    : (∃ shape, Legible tree request.file shape)
      ∧ (Command.options request).run surroundings
        = Command.run.settle (request.shown settings tree) := by
  obtain ⟨legible, goes⟩ := reaches.runOptions_eq there noSlash (List.append_nil _).symm
  refine ⟨legible, ?_⟩
  rw [Command.run, goes, Console.unfolded, Outcome.ok_bind]

/-- Offers that are made for a request are shown, unless it is for text and a preview cannot be. -/
theorem OfferRequest.Reaches.ends {table : OfferTable}
    (reaches : request.Reaches surroundings bytes request.unfold settings tree)
    (there : surroundings.fileAt request.file = .file bytes)
    (noSlash : '/' ∉ request.file.name.toList)
    (offered : offers tree settings request.baseline = .ok table)
    : (∃ output, (Command.options request).run surroundings = .done 0 output)
      ∨ ∃ escape, (Command.options request).Escapes surroundings bytes escape := by
  obtain ⟨⟨shape, legible⟩, shows⟩ := reaches.run_eq there noSlash
  by_cases clear : request.asJson = true
    ∨ ∀ node ∈ tree.nodes, (shown? (String.ofList (tree.preview node))).isSome
  · obtain ⟨output, ends⟩ := OfferRequest.shown_done legible offered clear
    refine .inl ⟨output, ?_⟩
    rw [shows, ends]
    rfl
  · rw [not_or] at clear
    obtain ⟨asText, hidden⟩ := clear
    push Not at hidden
    obtain ⟨node, member, garbled⟩ := hidden
    exact .inr ⟨_, .preview reaches offered (Bool.eq_false_of_not_eq_true asText) member
      (Option.not_isSome_iff_eq_none.mp garbled)⟩

/-- A request comes to offers, has something to say, or breaks off: its settings come first, then the
tree, then one node after the other.
-/
theorem OfferRequest.offers_cases (there : surroundings.fileAt request.file = .file bytes)
    (noSlash : '/' ∉ request.file.name.toList)
    : (∃ settings tree table,
        request.Reaches surroundings bytes request.unfold settings tree
        ∧ offers tree settings request.baseline = .ok table)
      ∨ (∃ message, (Command.options request).Raises surroundings bytes message)
      ∨ ∃ escape, (Command.options request).Escapes surroundings bytes escape := by
  cases loads : request.settings surroundings with
  | error fault =>
      cases expected : fault.isConfiguration with
      | true => exact .inr (.inl ⟨_, .settings loads expected⟩)
      | false => exact .inr (.inr ⟨_, .settings loads expected⟩)
  | ok settings =>
      rcases built_outcome there noSlash
        with ⟨fault, stops, -⟩ | ⟨outline, tree, shape, read, made, -, -⟩
      · exact .inr (.inl ⟨_, .source ⟨settings, loads⟩ stops⟩)
      · rcases unfolded_outcome (request.start tree) request.unfold
          with ⟨last, ran⟩ | ⟨before, id, later, current, asked, ran, stops⟩
        · have reaches : request.Reaches surroundings bytes request.unfold settings last :=
            ⟨loads, outline, tree, read, made, ran⟩
          rcases offers_outcome last settings request.baseline
            with ⟨table, offered⟩ | ⟨baseline, fault, stops⟩ | ⟨baseline, fault, stops⟩
          · exact .inl ⟨settings, last, table, reaches, offered⟩
          · exact .inr (.inl ⟨_, .costs reaches baseline stops⟩)
          · exact .inr (.inl ⟨_, .profits reaches baseline stops⟩)
        · have reaches : request.Reaches surroundings bytes before settings current :=
            ⟨loads, outline, tree, read, made, ran⟩
          rcases stops with absent | ⟨present, fault, stops⟩
          · exact .inr (.inl ⟨_, .absence asked reaches absent⟩)
          · exact .inr (.inl ⟨_, .payment asked reaches present stops⟩)

end

/-- A command tells what it has to say. -/
theorem Command.Raises.run_eq (raises : command.Raises surroundings bytes message)
    (there : surroundings.fileAt command.file = .file bytes)
    (noSlash : '/' ∉ command.file.name.toList)
    : command.run surroundings = told message := by
  cases raises with
  | settings stops expected =>
      rw [OfferRequest.settings] at stops
      rw [run, runOptions, loaded, stops]
      dsimp only
      rw [if_pos expected]
      rfl
  | source ready stops =>
      have made := built_error there noSlash stops
      cases command with
      | tree file asJson =>
          dsimp only [Command.file] at made
          rw [run, runTree, made]
          rfl
      | terms file asJson =>
          dsimp only [Command.file] at made
          rw [run, runTerms, made]
          rfl
      | options request =>
          obtain ⟨settings, loads⟩ := ready
          dsimp only [Command.file] at made
          rw [run, runOptions, loaded_ok loads, Outcome.ok_bind, made]
          rfl
  | absence asked reaches absent =>
      obtain ⟨⟨shape, legible⟩, goes⟩ := reaches.runOptions_eq there noSlash asked
      rw [run, goes, unfolded, if_neg absent, legible.about]
      rfl
  | @payment _ _ _ id _ tree _ asked reaches present stops =>
      obtain ⟨⟨shape, legible⟩, goes⟩ := reaches.runOptions_eq there noSlash asked
      -- every node is reached, so what fails is the pass over costs, and that is told
      have bound : id.toNat < tree.nodes.length := by omega
      have reached : id.toNat ∈ shape.preorder := (legible.all id.toNat).mpr bound
      rw [run, goes, unfolded, if_pos present, stops]
      rcases legible.pay_outcome reached with ⟨budget, payed⟩ | ⟨fault, failed, costs⟩
      · cases payed.symm.trans stops
      · cases failed.symm.trans stops
        dsimp only
        rw [treeFault_of_isTold (legible.baseline_isTold costs)]
        rfl
  | costs reaches baseline stops =>
      obtain ⟨⟨shape, legible⟩, shows⟩ := reaches.run_eq there noSlash
      rw [shows, OfferRequest.shown, baseline, offers_baseline_error legible stops]
      rfl
  | profits reaches baseline stops =>
      obtain ⟨⟨shape, legible⟩, shows⟩ := reaches.run_eq there noSlash
      rw [shows, OfferRequest.shown, baseline, offers_scored_error legible stops]
      rfl

/-- A command breaks off at what it does not expect. -/
theorem Command.Escapes.run_eq (escapes : command.Escapes surroundings bytes escape)
    (there : surroundings.fileAt command.file = .file bytes)
    (noSlash : '/' ∉ command.file.name.toList)
    : ∃ output, command.run surroundings = .broken escape output := by
  cases escapes with
  | settings stops other =>
      rw [OfferRequest.settings] at stops
      rw [run, runOptions, loaded, stops]
      dsimp only
      rw [other, if_neg Bool.false_ne_true]
      exact ⟨_, rfl⟩
  | cost read made starts stops =>
      rename_i file asJson outline tree root fault
      dsimp only [Command.file] at there noSlash
      rcases built_outcome there noSlash
        with ⟨_, failed, -⟩ | ⟨_, _, shape, read', made', legible, whole⟩
      · cases failed.symm.trans read
      · -- the tree is the one that the run builds, and its shape starts at the root
        cases read'.symm.trans read
        cases made'.symm.trans made
        have top : root = shape.value := by
          rw [Tree.rootId, legible.root] at starts
          exact (Except.ok.inj starts).symm
        obtain ⟨output, ends⟩ := run_tree legible whole asJson
        rw [ends, ← top, stops]
        exact ⟨output, rfl⟩
  | preview reaches offered asText member garbled =>
      obtain ⟨⟨shape, legible⟩, shows⟩ := reaches.run_eq there noSlash
      rw [shows, OfferRequest.shown_garbled legible offered asText member garbled]
      exact ⟨_, rfl⟩

/-- A request for offers for a file, with nothing else given. -/
def OfferRequest.plain (file : Path) : OfferRequest :=
  ⟨file, none, false, [], none, false⟩

end FoldTree.Console
