import FoldTree.Proofs.Source.BreakingOff
import FoldTree.Proofs.Source.FinalNewline
import FoldTree.Proofs.Source.MissingLines
import FoldTree.Proofs.Source.MovedRegions
import FoldTree.Proofs.Source.UniqueCosts

/-! Line ends of two characters. A text that is read with a carriage return left before each newline
has the outline of the text without them, with all offsets moved, so the trees have the same nodes on
the same lines, and these cost the same. Only a text that breaks off behind its last newline may be a
program in one of the two forms alone; its lines do not fit together in either.
-/

namespace FoldTree

open Text (returned shifted)

namespace Source

variable {source : List Char}

/-! ### Programs -/

/-- A character in front of a text whose carriage returns all have newlines behind them. -/
theorem Paired.cons {c : Char} {rest : List Char} (next : c = '\r' → rest.head? = some '\n')
    (paired : Paired rest)
    : Paired (c :: rest) := by
  intro before after split
  cases before with
  | nil =>
      obtain ⟨here, rfl⟩ := List.cons.inj split
      exact next here
  | cons d before => exact paired before after (List.cons.inj split).2

/-- Every carriage return that a text has got has its newline behind it, by induction. -/
theorem paired_returned (plain : '\r' ∉ source) : Paired (returned source) := by
  induction source with
  | nil => exact paired_of_plain List.not_mem_nil
  | cons c rest ih =>
      rw [List.mem_cons, not_or] at plain
      by_cases newline : c = '\n'
      · rw [newline, Text.returned_newline]
        exact .cons (fun _ => rfl) (.cons nofun (ih plain.2))
      · rw [Text.returned_cons newline]
        exact .cons (fun here => absurd here.symm plain.1) (ih plain.2)

/-- The newlines of a text come back when its line ends are unified, by induction. -/
theorem unifyLineEnds_returned (plain : '\r' ∉ source)
    : unifyLineEnds (returned source) = source := by
  induction source with
  | nil => rfl
  | cons c rest ih =>
      rw [List.mem_cons, not_or] at plain
      by_cases newline : c = '\n'
      · subst newline
        rw [Text.returned_newline, unifyLineEnds, ih plain.2]
      · rw [Text.returned_cons newline, unifyLineEnds, if_neg (Ne.symm plain.1), ih plain.2]
        intro after here
        exact absurd here.symm plain.1

/-- A text without carriage returns ends its last line where its last character is a newline. -/
theorem endsLine_eq (plain : '\r' ∉ source) : endsLine source = (source.getLast? == some '\n') := by
  rw [endsLine, List.getLast?_eq_head?_reverse]
  split
  · rename_i others ends
    exact absurd (List.mem_reverse.mp (by simp [ends])) plain
  · rename_i c others _ ends
    have other : c ≠ '\r' := by
      rintro rfl
      exact plain (List.mem_reverse.mp (by simp [ends]))
    simp [ends, other]
  · rename_i ends
    simp [ends]

/-- A line end of two characters at the very end does not end the last line. -/
theorem endsLine_returned (plain : '\r' ∉ source) : endsLine (returned source) = false := by
  cases source using List.reverseRecOn with
  | nil => rfl
  | append_singleton front c =>
      rw [List.mem_append, List.mem_singleton, not_or] at plain
      rw [Text.returned_append]
      by_cases newline : c = '\n'
      · rw [newline, show returned ['\n'] = ['\r', '\n'] from rfl]
        simp [endsLine]
      · rw [Text.returned_cons newline, show returned [] = [] from rfl]
        simp [endsLine, newline, Ne.symm plain.2]

/-- A text is the same program with carriage returns and without them, unless it breaks off. Where it
ends in a newline, the lexer reads one newline more behind a carriage return.
-/
theorem statements?_returned (plain : '\r' ∉ source)
    : BreaksOff source 0 ∨ statements? (returned source) = statements? source := by
  have longer : readable (returned source) = source ++ ['\n'] := by
    rw [readable, unifyLineEnds_returned plain, endsLine_returned plain]
    rfl
  have own : readable source = source ++ if source.getLast? == some '\n' then [] else ['\n'] := by
    rw [readable, unifyLineEnds_eq plain, endsLine_eq plain]
  -- the lexer adds a newline to the returned text, and to this one only if there is none
  by_cases ends : source.getLast? = some '\n'
  · rw [if_pos (beq_iff_eq.mpr ends), List.append_nil] at own
    refine (reads_longer_iff ends).imp_right fun same => ?_
    have lexed : tokens (returned source) = tokens source := by
      refine Option.ext fun all => ?_
      rw [tokens_iff, tokens_iff, longer, own, same all]
    rw [statements?, statements?, lexed]
  · rw [if_neg (mt beq_iff_eq.mp ends), ← longer] at own
    right
    rw [statements?, statements?, tokens, tokens, own]

/-! ### Trees -/

/-- A region that starts in a text stays on its lines. -/
theorem lines_move (text : List Char) {region : Region} (natural : 0 ≤ region.start)
    : (Span.ofRegion (returned text) (region.move (shifted text))).firstLine
        = (Span.ofRegion text region).firstLine
      ∧ (Span.ofRegion (returned text) (region.move (shifted text))).lastLine
        = (Span.ofRegion text region).lastLine := by
  have first := Text.lineNumber_shifted text region.start
  refine ⟨congrArg Int.ofNat first, congrArg Int.ofNat ?_⟩
  have order := Text.shifted_le_iff text region.stop region.start
  have stop : region.stop = region.start + region.length := rfl
  simp only [Region.move]
  by_cases filled : 0 < region.length
  · -- the last character is the one before the end, which has moved on past a newline in its place
    have last := Text.lineNumber_before_shifted text (show 0 ≤ region.stop - 1 by omega)
    rw [Int.sub_add_cancel] at last
    have back : region.start + max region.length 1 - 1 = region.stop - 1 := by omega
    have back' : shifted text region.start
        + max (shifted text region.stop - shifted text region.start) 1 - 1
        = shifted text region.stop - 1 := by
      omega
    rw [back, back', last]
  · rw [Int.max_eq_right (by omega), Int.max_eq_right (by omega), Int.add_sub_cancel,
      Int.add_sub_cancel, first]

/-- The tree of an outline of a text without carriage returns moves from lines to the same lines. -/
theorem alike_of_laid {outline : Outline} {found extents : List (Nat × Nat)} {parts : Rose Part}
    {comments : List Remark} (laid : outline.Laid found parts comments extents) {tree : Tree}
    {news : NodeId → List NodeId} (built : tree.Built outline.skeleton outline.remarks news)
    : tree.Alike (tree.move (returned tree.source) (shifted tree.source)) := by
  refine Tree.alike_move fun node member => ?_
  obtain ⟨id, made, rfl⟩ := List.mem_iff_getElem.mp member
  obtain ⟨around, _, _, _, ⟨node, there, same, span⟩, -, arranged⟩ :=
    laid.exists_arranged built made
  rw [List.getElem?_eq_getElem made, Option.some.injEq] at there
  subst there same
  rw [span]
  exact lines_move tree.source arranged.start

namespace Outline

/-- An outline where it has moved to when all newlines have got carriage returns. -/
def returned (outline : Outline) : Outline :=
  { outline with
    source := Text.returned outline.source
    skeleton := outline.skeleton.map (Region.move (shifted outline.source))
    remarks := outline.remarks.map (Remark.move (shifted outline.source)) }

/-- The outline that is made of the parts and the comments of a text. -/
def assembled (file : Path) (source : List Char) (parts : Rose Part) (comments : List Comment) :
    Outline :=
  let parts := numbered parts
  let skeleton := parts.map (·.region)
  let docs := docRemarks parts skeleton.size
  ⟨file, source, skeleton,
    docs ++ commentRemarks source skeleton (skeleton.size + docs.length) comments⟩

/-- A text has the outline of its parts and its comments. -/
theorem ofText_eq_ok {text : List Char} (null : ¬text.contains (Char.ofNat 0) = true)
    {program : List Stmt} (written : statements? text = some program) {parts : Rose Part}
    (made : parts? text program = some parts) {comments : List Comment}
    (commented : Comment.ofText text = some comments) (file : Path)
    : ofText text file = .ok (assembled file text parts comments) := by
  unfold ofText
  simp only [if_neg null, written, made, commented]
  rfl

/-- A text with a null character, or without statements, is no program. -/
theorem ofText_eq_notProgram {text : List Char}
    (bad : text.contains (Char.ofNat 0) = true ∨ statements? text = none) (file : Path)
    : ofText text file = .error (.notProgram file) := by
  unfold ofText
  by_cases null : text.contains (Char.ofNat 0) = true
  · rw [if_pos null]
    rfl
  · simp only [if_neg null, bad.resolve_left null]
    rfl

/-- The outline moves by its parts, each of which keeps its comments. -/
theorem assembled_returned (plain : '\r' ∉ source) {found : List (Nat × Nat)}
    (stretches : Comment.stretches .code 0 0 source = some found) {comments : List Comment}
    (commented : Comment.ofText source = some comments) (file : Path) (parts : Rose Part)
    : assembled file (Text.returned source) (parts.map (Part.returned source)) comments
      = (assembled file source parts comments).returned := by
  have size (skeleton : Rose Region) (shift : Int → Int)
      : (skeleton.map (Region.move shift)).size = skeleton.size := by
    rw [Rose.size, Rose.size, Rose.preorder_map, List.length_map]
  simp only [assembled, Outline.returned, numbered_returned, map_region_returned, size,
    docRemarks_returned, List.length_map, commentRemarks_returned plain commented stretches,
    List.map_append]

/-- The faults of a program: it cannot be parsed, or its lines do not fit together. -/
def Fault.IsOfProgram (file : Path) (fault : Fault) : Prop :=
  fault = .notProgram file ∨ fault = .brokenLines file

/-- A text whose lines do not fit together has a fault, and it lacks no lines where every carriage
return has a newline behind it.
-/
theorem exists_fault_of_broken {text : List Char} (paired : Paired text)
    (broken : Comment.ofText text = none) (file : Path)
    : ∃ fault, ofText text file = .error fault ∧ fault.IsOfProgram file := by
  obtain ⟨⟨outline, read⟩ | other | other | lacks, lacking⟩ := ofText_cases text file
  · obtain ⟨program, parts, comments, -, -, commented, -⟩ := exists_of_ofText read
    cases broken.symm.trans commented
  · exact ⟨_, other, Or.inl rfl⟩
  · exact ⟨_, other, Or.inr rfl⟩
  -- the text has as many lines as the lexer counts, so all regions have their offsets
  · obtain ⟨-, program, written, none⟩ := lacking.mp lacks
    have made := (parts?_isSome_iff written).mpr (paired.not_exceeds written)
    rw [none] at made
    cases made

/-- A text with carriage returns has the outline that has moved, or both texts have a fault. -/
theorem ofText_cases_returned (plain : '\r' ∉ source) (file : Path)
    : (∃ outline,
        ofText source file = .ok outline
        ∧ ofText (Text.returned source) file = .ok outline.returned)
      ∨ ∃ fault fault',
          ofText source file = .error fault
          ∧ ofText (Text.returned source) file = .error fault'
          ∧ fault.IsOfProgram file
          ∧ fault'.IsOfProgram file := by
  have same := Comment.ofText_returned plain
  cases commented : Comment.ofText source with
  | none =>
      obtain ⟨fault, read, isOf⟩ := exists_fault_of_broken (paired_of_plain plain) commented file
      obtain ⟨fault', read', isOf'⟩ :=
        exists_fault_of_broken (paired_returned plain) (same.trans commented) file
      exact Or.inr ⟨fault, fault', read, read', isOf, isOf'⟩
  | some comments =>
      have null : (Text.returned source).contains (Char.ofNat 0)
          = source.contains (Char.ofNat 0) := by
        simp only [List.contains_eq_mem, Text.mem_returned (show Char.ofNat 0 ≠ '\r' by decide)]
      -- a text that breaks off has no comments that can be read
      have known : statements? (Text.returned source) = statements? source :=
        (statements?_returned plain).resolve_left fun breaks => by
          cases commented.symm.trans (breaks.comments plain)
      by_cases bad : source.contains (Char.ofNat 0) = true ∨ statements? source = none
      · refine Or.inr ⟨_, _, ofText_eq_notProgram bad file, ofText_eq_notProgram ?_ file,
          Or.inl rfl, Or.inl rfl⟩
        rwa [null, known]
      · obtain ⟨fine, read⟩ := not_or.mp bad
        obtain ⟨program, written⟩ := Option.ne_none_iff_exists'.mp read
        obtain ⟨found, stretches, row⟩ := statements?_row written
        rw [unifyLineEnds_eq plain] at stretches row
        obtain ⟨parts, made⟩ := Option.isSome_iff_exists.mp
          ((parts?_isSome_iff written).mpr ((paired_of_plain plain).not_exceeds written))
        have made' := parts?_returned row
        rw [made, Option.map_some] at made'
        refine Or.inl ⟨_, ofText_eq_ok fine written made commented file, ?_⟩
        rw [ofText_eq_ok (null.symm ▸ fine) (known.trans written) made' (same.trans commented),
          assembled_returned plain stretches commented]

/-- A text without carriage returns, and the same text with one before each newline: either both have
a fault of the program, or both have trees, and the nodes of these have the same ids, kinds, names,
links, levels, terms and lines and cost the same by themselves. The bytes of the second text are read
as the first one.
-/
theorem ofText_returned_alike (plain : '\r' ∉ source) (file : Path)
    : ((∃ outline outline' tree tree',
          ofText source file = .ok outline
          ∧ ofText (Text.returned source) file = .ok outline'
          ∧ outline.build = .ok tree
          ∧ outline'.build = .ok tree'
          ∧ tree.Alike tree')
        ∨ ∃ fault fault',
            ofText source file = .error fault
            ∧ ofText (Text.returned source) file = .error fault'
            ∧ fault.IsOfProgram file
            ∧ fault'.IsOfProgram file)
      ∧ ofBytes (String.ofList (Text.returned source)).toUTF8 file = ofText source file := by
  refine ⟨(ofText_cases_returned plain file).imp_left ?_, ?_⟩
  · rintro ⟨outline, read, read'⟩
    obtain ⟨found, parts, comments, extents, same, laid⟩ := exists_laid plain read
    have counted : Tree.Counted outline.skeleton.preorder 0 := laid.skeleton ▸ laid.counted
    obtain ⟨tree, news, made, own, built⟩ :=
      Tree.exists_built outline.source outline.file counted laid.bare
    have made' : outline.returned.build
        = .ok (tree.move (Text.returned tree.source) (shifted tree.source)) := by
      rw [build, Outline.returned, own, Tree.build_move outline.source, made]
      rfl
    exact ⟨outline, outline.returned, tree, _, read, read', made, made', alike_of_laid laid built⟩
  · have bytes (text : String) : String.fromUTF8? text.toUTF8 = some text :=
      dif_pos text.isValidUTF8
    rw [ofBytes, bytes]
    simp only [String.toList_ofList, unifyLineEnds_returned plain]

/-- A function of three lines, the second of which is a comment. -/
def commentedFunction : List Char :=
  ['d', 'e', 'f', ' ', 'f', '(', ')', ':', '\n', ' ', '#', 'a', '\n', ' ', 'g', '\n']

/-- With line ends of two characters the function has the same tree of three nodes: the module, the
function and the comment.
-/
theorem commentedFunction_alike
    : '\r' ∉ commentedFunction
      ∧ ∃ outline outline' tree tree',
          ofText commentedFunction ⟨[], [['a']]⟩ = .ok outline
          ∧ ofText (Text.returned commentedFunction) ⟨[], [['a']]⟩ = .ok outline'
          ∧ outline.build = .ok tree
          ∧ outline'.build = .ok tree'
          ∧ tree.Alike tree'
          ∧ tree.nodes.map (fun node => (node.region.kind, node.span.firstLine, node.span.lastLine))
            = [("module", 1, 3), ("function", 1, 3), ("comment", 2, 2)]
          ∧ ofBytes (String.ofList (Text.returned commentedFunction)).toUTF8 ⟨[], [['a']]⟩
            = ofText commentedFunction ⟨[], [['a']]⟩ := by
  have plain : '\r' ∉ commentedFunction := by decide
  have nodes : ((ofText commentedFunction ⟨[], [['a']]⟩).toOption.bind (·.build.toOption)).map
      (fun tree => tree.nodes.map fun node =>
        (node.region.kind, node.span.firstLine, node.span.lastLine))
      = some [("module", 1, 3), ("function", 1, 3), ("comment", 2, 2)] := by
    decide +kernel
  obtain ⟨⟨outline, outline', tree, tree', read, read', built, built', alike⟩ | ⟨fault, -, read, -⟩,
    bytes⟩ := ofText_returned_alike plain ⟨[], [['a']]⟩
  · simp only [read, Except.toOption, Option.bind_some, built, Option.map_some,
      Option.some.injEq] at nodes
    exact ⟨plain, outline, outline', tree, tree', read, read', built, built', alike, nodes, bytes⟩
  · simp [read, Except.toOption] at nodes

end Outline

end Source

end FoldTree
