import FoldTree.Console.Run
import FoldTree.Proofs.Console.Numerals
import FoldTree.Proofs.Offer.Restoration
import FoldTree.Proofs.Outcome
import FoldTree.Proofs.Source.Wording

/-! What commands print of a tree. Texts that end all tags that they open can stand next to each
other and are shown, and so can be whatever shows numbers, kinds and terms. A file name can hold
tags but no closing ones, and those around it are closed all the same. Only previews can hold markup
that fails.
-/

namespace FoldTree.Console

namespace Markup

variable {text rest tag closing : List Char} {openTags : List (List Char)}

/-! ### Balanced texts -/

/-- A text that ends all tags that it opens, and leaves no backslashes to what follows. -/
def Balanced (text : List Char) : Prop :=
  ∃ shown, ∀ openTags rest, render openTags (pieces (text ++ rest))
    = (render openTags (pieces rest)).map (·.behind shown)

/-- A bare text is balanced. -/
theorem Bare.balanced (bare : Bare text) : Balanced text :=
  ⟨text, fun openTags rest => by rw [pieces_bare bare, render_allShown]⟩

/-- A balanced text behind a balanced one. -/
theorem Balanced.append (balanced : Balanced text) (later : Balanced rest)
    : Balanced (text ++ rest) := by
  obtain ⟨first, shows⟩ := balanced
  obtain ⟨second, shows'⟩ := later
  refine ⟨first ++ second, fun openTags more => ?_⟩
  rw [List.append_assoc, shows, shows', Option.map_map]
  congr 1
  funext shown
  simp only [Function.comp_apply, Shown.behind, List.append_assoc]

/-- A text between a tag and a closing tag, which may leave out the name. -/
def tagged (tag closing text : List Char) : List Char :=
  '[' :: (tag ++ ']' :: (text ++ '[' :: ('/' :: closing ++ [']'])))

/-- A balanced text is balanced between a tag and what closes it. -/
theorem Balanced.tagged (balanced : Balanced text)
    (opens : ∀ rest, tag? (tag ++ ']' :: rest) = some tag) (noSlash : '/' ∉ tag)
    (closes : ∀ rest, tag? ('/' :: closing ++ ']' :: rest) = some ('/' :: closing))
    (ends : ∀ openTags, close? (styleName closing) (styleName tag :: openTags) = some openTags)
    : Balanced (tagged tag closing text) := by
  obtain ⟨shown, shows⟩ := balanced
  refine ⟨shown, fun openTags rest => ?_⟩
  have whole : Markup.tagged tag closing text ++ rest
      = '[' :: (tag ++ ']' :: (text ++ '[' :: ('/' :: closing ++ ']' :: rest))) := by
    simp [Markup.tagged]
  -- behind the text its own tag is the last one that is open
  have close : render (styleName tag :: openTags) (pieces ('[' :: ('/' :: closing ++ ']' :: rest)))
      = render openTags (pieces rest) := by
    rw [pieces_tag (closes rest)]
    change (close? (styleName closing) (styleName tag :: openTags)).bind _ = _
    rw [ends, Option.bind_some]
  rw [whole, pieces_tag (opens _), render, passTag?_opening noSlash, Option.bind_eq_bind,
    Option.bind_some, shows, close]

/-- A closing tag without a name ends the last tag. -/
theorem close?_last (openTags : List (List Char))
    : close? (styleName []) (tag :: openTags) = some openTags := by
  have name : styleName [] = [] := by decide
  rw [name]
  rfl

/-- A balanced text is balanced between a tag and one that ends the last tag. -/
theorem Balanced.reset (balanced : Balanced text)
    (opens : ∀ rest, tag? (tag ++ ']' :: rest) = some tag) (noSlash : '/' ∉ tag)
    : Balanced (Markup.tagged tag [] text) :=
  balanced.tagged opens noSlash (fun _ => rfl) close?_last

/-- A balanced text is shown. -/
theorem Balanced.isSome_shown? {text : String} (balanced : Balanced text.toList)
    : (shown? text).isSome := by
  obtain ⟨shown, shows⟩ := balanced
  have whole := shows [] []
  rw [List.append_nil] at whole
  rw [shown?, whole]
  rfl

/-! ### Names with tags -/

/-- A text in front of a tag: what it leaves of its backslashes at the end comes before the tag,
which is one if none is left over.
-/
theorem pieces_before (text : List Char) (found : tag? (tag ++ ']' :: rest) = some tag)
    : let reading := read 0 0 text
      pieces (text ++ '[' :: (tag ++ ']' :: rest))
        = reading.pieces ++ (slashes (reading.held / 2)
            ++ if reading.held % 2 = 0 then .tag tag :: pieces rest
              else .shown '[' :: pieces (tag ++ ']' :: rest)) := by
  intro reading
  have whole : read 0 0 (text ++ '[' :: (tag ++ ']' :: rest))
      = (read reading.held 0 ('[' :: (tag ++ ']' :: rest))).behind reading.pieces :=
    read_append (beforeClosing?_opening _) (Nat.zero_le _)
  rw [pieces, whole]
  rcases Nat.mod_two_eq_zero_or_one reading.held with even | odd
  · rw [read_tag found even, if_pos even]
    simp [Reading.behind, pieces]
  · rw [read_escaped (found ▸ rfl) odd, if_neg (by omega)]
    simp [Reading.behind, pieces]

/-- A text without slashes opens tags and closes none. -/
theorem render_pieces_opening (noSlash : '/' ∉ text)
    : ∃ shown more, render openTags (pieces text) = some ⟨shown, more ++ openTags⟩ := by
  obtain ⟨shown, more, rendered⟩ : ∃ shown more,
      render openTags (read 0 0 text).pieces = some ⟨shown, more ++ openTags⟩ :=
    render_opening noSlash
  rw [pieces, render_append, rendered, Option.bind_some, slashes, render_shownOnly]
  exact ⟨_, more, rfl⟩

/-- A text without slashes is shown. -/
theorem isSome_shown?_of_noSlash {text : String} (noSlash : '/' ∉ text.toList)
    : (shown? text).isSome := by
  obtain ⟨shown, more, rendered⟩ : ∃ shown more,
      render [] (pieces text.toList) = some ⟨shown, more ++ []⟩ :=
    render_pieces_opening noSlash
  rw [shown?, rendered]
  rfl

/-- Where a tag is open the last one can be ended. -/
theorem isSome_render_reset (opened : openTags ≠ []) (bare : Bare text)
    : (render openTags (pieces ('[' :: '/' :: ']' :: text))).isSome := by
  have found : tag? (['/'] ++ ']' :: text) = some ['/'] := rfl
  have name : styleName [] = [] := by decide
  obtain ⟨last, others, rfl⟩ := List.exists_cons_of_ne_nil opened
  have ends : passTag? (last :: others) ['/'] = some others := by
    simp only [passTag?, name, close?]
    rfl
  change (render (last :: others) (pieces ('[' :: (['/'] ++ ']' :: text)))).isSome
  rw [pieces_tag found, render, ends, pieces_bareOnly bare]
  simp [render_shownOnly]

/-- Two tags around a name are ended, whatever tags the name opens. -/
theorem isSome_render_named (noSlash : '/' ∉ text) (bare : Bare rest)
    : (render ["cyan".toList, "bold".toList]
        (pieces (text ++ '[' :: ("/cyan".toList ++ ']' :: '[' :: '/' :: ']' :: rest)))).isSome := by
  have found
      : tag? ("/cyan".toList ++ ']' :: '[' :: '/' :: ']' :: rest) = some "/cyan".toList := rfl
  have name : styleName "cyan".toList = "cyan".toList := by decide
  obtain ⟨shown, more, rendered⟩ : ∃ shown more,
      render ["cyan".toList, "bold".toList] (read 0 0 text).pieces
        = some ⟨shown, more ++ ["cyan".toList, "bold".toList]⟩ :=
    render_opening noSlash
  rw [pieces_before text found, render_append, rendered, Option.bind_some, slashes,
    render_allShown, Option.isSome_map, Option.isSome_map]
  dsimp only
  split
  · have ends : passTag? (more ++ ["cyan".toList, "bold".toList]) "/cyan".toList
        = some ((more ++ ["cyan".toList, "bold".toList]).erase "cyan".toList) := by
      change close? (styleName "cyan".toList) _ = _
      rw [name]
      simp [close?]
    have opened : (more ++ ["cyan".toList, "bold".toList]).erase "cyan".toList ≠ [] := by
      intro none
      have length := congrArg List.length none
      rw [List.length_erase_of_mem (by simp)] at length
      simp at length
    rw [render, ends]
    exact isSome_render_reset opened bare
  · -- the name ends in a backslash that makes a text of its closing tag
    have plain : Bare "/cyan]".toList := by decide
    have whole : "/cyan".toList ++ ']' :: '[' :: '/' :: ']' :: rest
        = "/cyan]".toList ++ '[' :: '/' :: ']' :: rest := rfl
    rw [render, whole, pieces_bare plain, render_allShown, Option.isSome_map, Option.isSome_map]
    exact isSome_render_reset (by simp) bare

end Markup

open Markup

variable {tree : Tree} {node : Node} {margin : Margin}

/-- A text that is shown is printed. -/
theorem exists_print {text : String} (shown : (shown? text).isSome)
    : ∃ output, print text = .ok output := by
  obtain ⟨found, same⟩ := Option.isSome_iff_exists.mp shown
  exact ⟨printed found, by simp only [print, same]⟩

/-! ### Trees -/

/-- Bare bars make a bare margin. -/
theorem bare_margin (bare : Bare margin.bars.toList) : Bare margin.text.toList := by
  unfold Margin.text
  rw [String.toList_append]
  refine bare.append ?_
  split
  · decide
  · split <;> decide

/-- The bars below bare bars are bare. -/
theorem bare_bars_below (bare : Bare margin.bars.toList) (isLast : Bool)
    : Bare (margin.below isLast).bars.toList := by
  simp only [Margin.below]
  split
  · exact bare
  · rw [String.toList_append]
    refine bare.append ?_
    split <;> decide

/-- The words for kinds are bare. -/
theorem bare_kind (worded : ∃ kind : RegionKind, node.region.kind = kind.word)
    : Bare node.region.kind.toList := by
  obtain ⟨kind, same⟩ := worded
  rw [same]
  cases kind <;> decide

/-- The number of a node is bare. -/
theorem bare_number (id : Nat) : Bare ("#".toList ++ (toString id).toList) :=
  Bare.append (by decide) (bare_nat id)

/-- A bare text is bare between blanks. -/
theorem bare_between {text : String} (bare : Bare text.toList)
    : Bare (" ".toList ++ text.toList ++ " ".toList) :=
  (Bare.append (by decide) bare).append (by decide)

/-- The line of a node in parts: what is bare, and what is between tags. -/
theorem toList_line (bars kind : String) (id terms : Nat) (first last cost : Int)
    : (s!"{bars}[cyan]#{id}[/] {kind} [dim]lines {first}-"
        ++ s!"{last}, unique {cost}, {terms} terms[/]").toList
      = bars.toList ++ tagged "cyan".toList [] ("#".toList ++ (toString id).toList)
        ++ (" ".toList ++ kind.toList ++ " ".toList)
        ++ tagged "dim".toList [] ("lines ".toList ++ (toString first).toList ++ "-".toList
          ++ (toString last).toList ++ ", unique ".toList ++ (toString cost).toList ++ ", ".toList
          ++ (toString terms).toList ++ " terms".toList) := by
  simp only [tagged, String.toList_append, List.append_assoc, List.cons_append, List.nil_append]
  rfl

/-- The line of a node is balanced. -/
theorem balanced_line {bars kind : String} (bare : Bare bars.toList) (bare' : Bare kind.toList)
    (id terms : Nat) (first last cost : Int)
    : Balanced (s!"{bars}[cyan]#{id}[/] {kind} [dim]lines {first}-"
        ++ s!"{last}, unique {cost}, {terms} terms[/]").toList := by
  have lines : Bare ("lines ".toList ++ (toString first).toList ++ "-".toList
      ++ (toString last).toList) :=
    ((Bare.append (by decide) (bare_int first)).append (by decide)).append (bare_int last)
  have counts := (((lines.append (by decide : Bare ", unique ".toList)).append
    (bare_int cost)).append (by decide : Bare ", ".toList)).append (bare_nat terms)
  rw [toList_line]
  refine ((bare.balanced.append ?_).append (bare_between bare').balanced).append ?_
  · exact (bare_number id).balanced.reset (fun _ => rfl) (by decide)
  · exact (counts.append (by decide)).balanced.reset (fun _ => rfl) (by decide)

/-- The line of a node is printed if it has a unique cost. -/
theorem exists_print_nodeLine (bars : Bare margin.bars.toList) (kind : Bare node.region.kind.toList)
    {cost : Int} (priced : tree.uniqueCost node = .ok cost)
    : ∃ text output, nodeLine tree margin node = .ok text ∧ print text = .ok output := by
  have balanced := balanced_line (bare_margin bars) kind node.id node.terms.total
    node.span.firstLine node.span.lastLine cost
  obtain ⟨output, shows⟩ := exists_print balanced.isSome_shown?
  exact ⟨_, output, by simp only [nodeLine, priced]; rfl, shows⟩

/-- The print of a line, if there is one. -/
def printLine (line : Except Tree.Fault String) : Except Escape String := do
  print (← line.mapError .tree)

/-- A line that there is is printed. -/
theorem printLine_ok (text : String) : printLine (.ok text) = print text := rfl

/-- A line that stands for a node behind some bars. -/
def LineOf (tree : Tree) (node : Node) (line : Except Tree.Fault String) : Prop :=
  ∃ margin : Margin, Bare margin.bars.toList ∧ line = nodeLine tree margin node

mutual

/-- There is a line for each node of a shape, in pre-order, by induction on the shape. -/
theorem treeLines_nodes (shape : Rose NodeId) (grown : tree.Grown shape) (margin : Margin)
    (bars : Bare margin.bars.toList)
    : List.Forall₂ (LineOf tree) (tree.nodesAt shape.preorder) (treeLines tree margin shape) := by
  cases grown with
  | @node id node below found _ grown =>
      have rest := branchLines_nodes below grown margin bars
      simp only [treeLines, found, Rose.preorder, Tree.nodesAt, List.filterMap_cons]
      exact .cons ⟨margin, bars, rfl⟩ rest
termination_by sizeOf shape

/-- There is a line for each node of several shapes, by the same induction. -/
theorem branchLines_nodes (shapes : List (Rose NodeId))
    (grown : ∀ branch ∈ shapes, tree.Grown branch) (margin : Margin)
    (bars : Bare margin.bars.toList)
    : List.Forall₂ (LineOf tree) (tree.nodesAt (Rose.preorderAll shapes))
        (branchLines tree margin shapes) := by
  cases shapes with
  | nil => exact .nil
  | cons branch rest =>
      have first := treeLines_nodes branch (grown branch List.mem_cons_self) _
        (bare_bars_below bars rest.isEmpty)
      have others := branchLines_nodes rest
        (fun other member => grown other (List.mem_cons_of_mem _ member)) margin bars
      simp only [branchLines, Rose.preorderAll, Tree.nodesAt, List.filterMap_append]
      exact List.rel_append first others
termination_by sizeOf shapes

end

/-- Lines are printed one after the other, up to that of the first node without a unique cost. -/
theorem ofPrints_lines {nodes : List Node} {lines : List (Except Tree.Fault String)}
    (stand : List.Forall₂ (LineOf tree) nodes lines)
    (kinds : ∀ node ∈ nodes, Bare node.region.kind.toList)
    : ∃ output, Outcome.ofPrints 0 (lines.map printLine)
        = match nodes.mapM tree.uniqueCost with
          | .ok _ => .done 0 output
          | .error fault => .broken (.tree fault) output := by
  induction stand with
  | nil => exact ⟨"", rfl⟩
  | @cons node line nodes lines stands _ ih =>
      obtain ⟨margin, bars, rfl⟩ := stands
      obtain ⟨output, later⟩ := ih fun other member => kinds other (List.mem_cons_of_mem _ member)
      cases priced : tree.uniqueCost node with
      | error fault =>
          have fails : printLine (nodeLine tree margin node) = .error (.tree fault) := by
            simp only [printLine, nodeLine, priced]
            rfl
          rw [List.map_cons, fails, List.mapM_cons, priced]
          exact ⟨"", rfl⟩
      | ok cost =>
          obtain ⟨text, shown, line, prints⟩ :=
            exists_print_nodeLine bars (kinds node List.mem_cons_self) priced
          have succeeds : printLine (nodeLine tree margin node) = .ok shown := by
            rw [line, printLine_ok, prints]
          refine ⟨shown ++ output, ?_⟩
          rw [List.map_cons, succeeds, Outcome.ofPrints, later, List.mapM_cons, priced,
            Outcome.ok_bind]
          cases nodes.mapM tree.uniqueCost <;> rfl

mutual

/-- The record of a shape is made if all its nodes have unique costs, and else fails for the first
that has none, by induction on the shape.
-/
theorem recordBelow_costs (shape : Rose NodeId) (grown : tree.Grown shape)
    : ∃ record, tree.recordBelow shape
        = ((tree.nodesAt shape.preorder).mapM tree.uniqueCost).map fun _ => record := by
  cases grown with
  | @node id node below found _ grown =>
      obtain ⟨records, rest⟩ := recordAll_costs below grown
      simp only [Tree.nodesAt] at rest
      simp only [Tree.recordBelow, found, Rose.preorder, Tree.nodesAt, List.filterMap_cons,
        List.mapM_cons, Tree.nodeFields, rest]
      cases tree.uniqueCost node with
      | error fault => exact ⟨.null, rfl⟩
      | ok cost =>
          cases ((Rose.preorderAll below).filterMap (tree.nodes[·]?)).mapM tree.uniqueCost with
          | error fault => exact ⟨.null, rfl⟩
          | ok costs => exact ⟨_, rfl⟩
termination_by sizeOf shape

/-- The records of several shapes are made alike, by the same induction. -/
theorem recordAll_costs (shapes : List (Rose NodeId))
    (grown : ∀ branch ∈ shapes, tree.Grown branch)
    : ∃ records, tree.recordAll shapes
        = ((tree.nodesAt (Rose.preorderAll shapes)).mapM tree.uniqueCost).map fun _ => records := by
  cases shapes with
  | nil => exact ⟨[], rfl⟩
  | cons branch rest =>
      obtain ⟨first, below⟩ := recordBelow_costs branch (grown branch List.mem_cons_self)
      obtain ⟨others, behind⟩ := recordAll_costs rest
        (fun other member => grown other (List.mem_cons_of_mem _ member))
      simp only [Tree.nodesAt] at below behind
      simp only [Tree.recordAll, Rose.preorderAll, Tree.nodesAt, List.filterMap_append,
        List.mapM_append, below, behind]
      refine ⟨first :: others, ?_⟩
      cases (branch.preorder.filterMap fun id => tree.nodes[id]?).mapM tree.uniqueCost with
      | error fault => rfl
      | ok costs =>
          cases ((Rose.preorderAll rest).filterMap fun id => tree.nodes[id]?).mapM tree.uniqueCost
            <;> rfl
termination_by sizeOf shapes

end

/-- The heading over a tree in parts: what is bare, tags, and a name. -/
theorem toList_heading (name : String) (count : Nat)
    : s!"\n[bold]Fold tree for [cyan]{name}[/cyan][/] ({count} nodes)\n".toList
      = "\n".toList ++ '[' :: ("bold".toList ++ ']' :: ("Fold tree for ".toList
        ++ '[' :: ("cyan".toList ++ ']' :: (name.toList ++ '[' :: ("/cyan".toList
          ++ ']' :: '[' :: '/' :: ']' :: (" (".toList ++ (toString count).toList
            ++ " nodes)\n".toList)))))) := by
  simp only [String.toList_append, List.append_assoc]
  rfl

/-- The heading over a tree is printed, whatever tags are in the name of the file. -/
theorem exists_print_heading (noSlash : '/' ∉ tree.file.name.toList)
    : ∃ output, print (treeHeading tree) = .ok output := by
  have counted : Bare (" (".toList ++ (toString tree.nodes.length).toList ++ " nodes)\n".toList) :=
    (Bare.append (by decide) (bare_nat _)).append (by decide)
  have bold (rest : List Char) : tag? ("bold".toList ++ ']' :: rest) = some "bold".toList := rfl
  have cyan (rest : List Char) : tag? ("cyan".toList ++ ']' :: rest) = some "cyan".toList := rfl
  have opens (tags : List (List Char))
      : passTag? tags "bold".toList = some ("bold".toList :: tags)
        ∧ passTag? tags "cyan".toList = some ("cyan".toList :: tags) := by
    have names : styleName "bold".toList = "bold".toList
        ∧ styleName "cyan".toList = "cyan".toList := by decide
    exact ⟨names.1 ▸ passTag?_opening (by decide), names.2 ▸ passTag?_opening (by decide)⟩
  have start : Bare "\n".toList := by decide
  have words : Bare "Fold tree for ".toList := by decide
  have whole : (treeHeading tree).toList = _ := toList_heading tree.file.name tree.nodes.length
  refine exists_print ?_
  -- up to the name the tags are those of the heading itself
  rw [shown?, Option.isSome_map, whole, pieces_bare start, render_allShown, Option.isSome_map,
    pieces_tag (bold _), render, (opens _).1, Option.bind_eq_bind, Option.bind_some,
    pieces_bare words, render_allShown, Option.isSome_map, pieces_tag (cyan _), render,
    (opens _).2, Option.bind_eq_bind, Option.bind_some]
  exact isSome_render_named noSlash counted

/-! ### Terms -/

/-- A row is read if each text of it can be. -/
theorem isSome_mapM {α β : Type} {f : α → Option β} {items : List α}
    : (items.mapM f).isSome ↔ ∀ item ∈ items, (f item).isSome := by
  induction items with
  | nil => simp
  | cons first rest ih =>
      rw [List.mapM_cons, List.forall_mem_cons, ← ih]
      cases f first <;> cases rest.mapM f <;> simp

/-- A table is printed just if its title and all texts in it are shown, and else fails on markup. -/
theorem printTable_outcome (table : Table)
    : ((∃ output, printTable table = .ok output)
        ↔ (shown? table.title).isSome ∧ ∀ row ∈ table.rows, ∀ text ∈ row, (shown? text).isSome)
      ∧ ((∃ output, printTable table = .ok output) ∨ printTable table = .error .markup) := by
  have rows : (table.rows.mapM fun row : List String => row.mapM shown?).isSome
      ↔ ∀ row ∈ table.rows, ∀ text ∈ row, (shown? text).isSome :=
    isSome_mapM.trans (forall₂_congr fun _ _ => isSome_mapM)
  rw [← rows]
  simp only [printTable, Table.shown?]
  cases shown? table.title <;>
    cases table.rows.mapM fun row : List String => row.mapM shown? <;> simp

/-- What says that a node is unfolded is balanced behind its kind. -/
theorem balanced_kind (kind : Bare node.region.kind.toList)
    : Balanced
        (node.region.kind ++ if node.unfolded then " [green](unfolded)[/]" else "").toList := by
  have flag : " [green](unfolded)[/]".toList
      = " ".toList ++ tagged "green".toList [] "(unfolded)".toList := rfl
  rw [String.toList_append]
  refine kind.balanced.append ?_
  split
  · have apart : Bare " ".toList := by decide
    have word : Bare "(unfolded)".toList := by decide
    rw [flag]
    exact apart.balanced.append (word.balanced.reset (fun _ => rfl) (by decide))
  · have none : Bare "".toList := by decide
    exact none.balanced

/-- The texts of the row for an offer are shown just if the preview is. -/
theorem offerRow_shown {offer : Offer} (kind : Bare node.region.kind.toList)
    : (∀ text ∈ offerRow tree node offer, (shown? text).isSome)
      ↔ (shown? (String.ofList (tree.preview node))).isSome := by
  have lines : Bare s!"{node.span.firstLine}-{node.span.lastLine}".toList := by
    rw [String.toList_append, String.toList_append]
    exact (Bare.append (bare_int _) (by decide)).append (bare_int _)
  simp only [offerRow, List.forall_mem_cons, (bare_nat node.id).balanced.isSome_shown?,
    (balanced_kind kind).isSome_shown?, lines.balanced.isSome_shown?,
    (bare_int offer.cost).balanced.isSome_shown?,
    (isNumeral_shortProfit offer).bare.balanced.isSome_shown?, true_and]
  simp

/-- The table of offers is printed just if the previews of all nodes in it are shown. -/
theorem printTable_offers {offers : OfferTable} (noSlash : '/' ∉ tree.file.name.toList)
    (kinds : ∀ node ∈ tree.nodes, Bare node.region.kind.toList)
    : (∃ output, printTable (offerTable tree offers) = .ok output)
      ↔ ∀ node ∈ tree.nodesAt (offers.map Prod.fst),
          (shown? (String.ofList (tree.preview node))).isSome := by
  have title : (shown? (offerTable tree offers).title).isSome := by
    have parts : (offerTable tree offers).title.toList
        = "Unfold options for ".toList ++ tree.file.name.toList := String.toList_append
    have words : '/' ∉ "Unfold options for ".toList := by decide
    refine isSome_shown?_of_noSlash ?_
    rw [parts, List.mem_append, not_or]
    exact ⟨words, noSlash⟩
  rw [(printTable_outcome _).1, and_iff_right title]
  constructor
  · intro shown node member
    obtain ⟨id, inside, found⟩ := List.mem_filterMap.mp member
    obtain ⟨⟨id, offer⟩, listed, rfl⟩ := List.mem_map.mp inside
    have row : offerRow tree node offer ∈ (offerTable tree offers).rows :=
      List.mem_filterMap.mpr ⟨(id, offer), listed, by simp only [found, Option.map_some]⟩
    exact (offerRow_shown (kinds node (List.mem_of_getElem? found))).mp (shown _ row)
  · intro shown row member
    obtain ⟨⟨id, offer⟩, listed, made⟩ := List.mem_filterMap.mp member
    obtain ⟨node, found, rfl⟩ := Option.map_eq_some_iff.mp made
    have inside : node ∈ tree.nodesAt (offers.map Prod.fst) :=
      List.mem_filterMap.mpr ⟨id, List.mem_map_of_mem listed, found⟩
    exact (offerRow_shown (kinds node (List.mem_of_getElem? found))).mpr (shown node inside)

/-- The line about the budget is printed. -/
theorem exists_print_budgetLine (tree : Tree) : ∃ output, print (budgetLine tree) = .ok output := by
  have line (lines : String)
      : s!"[dim]Remaining budget: {lines} lines[/]".toList
        = tagged "dim".toList []
            ("Remaining budget: ".toList ++ lines.toList ++ " lines".toList) := by
    simp only [tagged, String.toList_append, List.append_assoc, List.cons_append]
    rfl
  have words : Bare ("Remaining budget: ".toList
      ++ (Decimal.general 6 tree.budget).toList ++ " lines".toList) :=
    (Bare.append (by decide) (isNumeral_general 6 _).bare).append (by decide)
  have whole : (budgetLine tree).toList = _ := line (Decimal.general 6 tree.budget)
  refine exists_print (Balanced.isSome_shown? ?_)
  rw [whole]
  exact words.balanced.reset (fun _ => rfl) (by decide)

end FoldTree.Console
