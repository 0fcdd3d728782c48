import FoldTree.Proofs.Outcome
import FoldTree.Proofs.Source.Attribution
import FoldTree.Proofs.Source.Places
import FoldTree.Proofs.Source.Standing
import FoldTree.Source.Outline

/-! Lines that a text lacks. The lexer takes a carriage return alone for a line end, and the table of
lines does not, so a program may reach lines that the table has no place for. The regions of such a
program have no offsets; everything else that can go wrong is told as a fault of the program.
-/

namespace FoldTree.Source

open Text (LineTable placeAt)

/-- Every carriage return of a text has a newline behind it. -/
def Paired (text : List Char) : Prop :=
  ∀ before after, text = before ++ '\r' :: after → after.head? = some '\n'

/-- What follows a character of such a text is such a text. -/
theorem Paired.tail {c : Char} {rest : List Char} (paired : Paired (c :: rest)) : Paired rest :=
  fun before after split => paired (c :: before) after (congrArg (List.cons c) split)

/-- A text without carriage returns is such a text. -/
theorem paired_of_plain {text : List Char} (plain : '\r' ∉ text) : Paired text := by
  rintro before after rfl
  exact absurd (List.mem_append_right _ List.mem_cons_self) plain

/-- Such a text has as many lines for the lexer as it has for its table, by induction. -/
theorem Paired.count_unifyLineEnds {text : List Char} (paired : Paired text)
    : (unifyLineEnds text).count '\n' = text.count '\n' := by
  fun_induction unifyLineEnds text with
  | case1 => rfl
  | case2 rest ih => simpa using ih paired.tail.tail
  | case3 c rest other ih =>
      have later := ih paired.tail
      by_cases return_ : c = '\r'
      · subst return_
        obtain ⟨after, rfl⟩ := List.head?_eq_some_iff.mp (paired [] rest rfl)
        exact absurd rfl (other after rfl)
      · rw [if_neg return_, List.count_cons, List.count_cons, later]

/-! ### Places of constructs -/

variable {source text : List Char} {found : List (Nat × Nat)}

/-- A stretch of tokens ends on a line of its text, and starts on no later one. -/
theorem Spans.lines {extent : Extent} {first behind : Nat}
    (spans : Spans text found extent first behind)
    : 1 ≤ extent.first.line
      ∧ extent.first.line ≤ extent.behind.line
      ∧ extent.behind.line ≤ 1 + text.count '\n' := by
  have part : (text.take first).count '\n' ≤ (text.take behind).count '\n' :=
    (List.take_prefix_take_left spans.le).sublist.count_le _
  have whole : (text.take behind).count '\n' ≤ text.count '\n' :=
    (List.take_sublist behind text).count_le _
  simp only [spans.place, placeAt, Text.afterAll_start]
  omega

/-- A stretch of tokens has offsets in another text just if that has its last line. -/
theorem Spans.span?_isSome_iff {extent : Extent} {first behind : Nat}
    (spans : Spans text found extent first behind)
    : (Source.span? (LineTable.ofText source) extent).isSome = true
      ↔ extent.behind.line ≤ 1 + source.count '\n' := by
  obtain ⟨low, order, -⟩ := spans.lines
  have opens := Text.byteOffset?_isSome_iff source extent.first.line extent.first.column
  have closes := Text.byteOffset?_isSome_iff source extent.behind.line extent.behind.column
  unfold Source.span?
  cases starts : (LineTable.ofText source).byteOffset? extent.first.line extent.first.column <;>
    cases stops : (LineTable.ofText source).byteOffset? extent.behind.line extent.behind.column <;>
    simp [starts, stops] at opens closes ⊢ <;> omega

/-- A construct needs lines behind the last one of a text: it makes a region, and its stretch or
that of the text that it starts with ends there.
-/
def Construct.Exceeds (source : List Char) (construct : Construct) : Prop :=
  construct.makesRegion = true ∧ ∃ extent ∈ construct.extents, 1 + source.count '\n' < extent.behind.line

/-- A construct that stands in the unified text has its places in a text just if it needs no lines
behind the last one.
-/
theorem Construct.placed_iff {construct : Construct}
    (stands : ∀ extent ∈ construct.extents, ∃ first behind, Spans text found extent first behind)
    : construct.Placed source ↔ ¬construct.Exceeds source := by
  have each : ∀ extent ∈ construct.extents,
      ((Source.span? (LineTable.ofText source) extent).isSome = true
        ↔ ¬1 + source.count '\n' < extent.behind.line) := by
    intro extent member
    obtain ⟨first, behind, spans⟩ := stands extent member
    rw [spans.span?_isSome_iff, Nat.not_lt]
  cases construct with
  | word word => simp [Placed, Exceeds, makesRegion]
  | phrase => simp [Placed, Exceeds, makesRegion]
  | module text =>
      cases text with
      | none => simp [Placed, Exceeds, span?, doc?, text?, extents]
      | some text =>
          have own := each text.1 (by simp [extents])
          simp [Placed, Exceeds, makesRegion, span?, doc?, text?, extents, own]
  | imports extent =>
      have own := each extent (by simp [extents])
      simp [Placed, Exceeds, span?, doc?, text?, extents, own]
  | block extent kind =>
      have own := each extent (by simp [extents])
      simp [Placed, Exceeds, span?, doc?, text?, extents, own]
  | definition extent sort name text =>
      have own := each extent (by simp [extents])
      cases text with
      | none => simp [Placed, Exceeds, makesRegion, span?, doc?, text?, extents, own]
      | some text =>
          have other := each text.1 (by simp [extents])
          simp [Placed, Exceeds, makesRegion, span?, doc?, text?, extents, own, other]

/-- The regions of a program have their offsets just if no construct needs lines that the text lacks. -/
theorem parts?_isSome_iff {program : List Stmt} (read : statements? source = some program)
    : (parts? source program).isSome = true
      ↔ ∀ construct ∈ (moduleConstructs program).preorder, ¬construct.Exceeds source := by
  obtain ⟨found, -, row⟩ := statements?_row read
  have stand := standIn_moduleConstructs row
  have gathered := gather_moduleConstructs source program
  rw [← Option.isSome_map, ← gathered, gather_isSome_iff]
  exact forall₂_congr fun construct member => Construct.placed_iff (stand construct member)

/-- Where every carriage return has a newline behind it, no construct needs lines that the text
lacks.
-/
theorem Paired.not_exceeds (paired : Paired source) {program : List Stmt}
    (read : statements? source = some program)
    : ∀ construct ∈ (moduleConstructs program).preorder, ¬construct.Exceeds source := by
  rintro construct member ⟨-, extent, inside, beyond⟩
  obtain ⟨found, -, row⟩ := statements?_row read
  obtain ⟨first, behind, spans⟩ := standIn_moduleConstructs row construct member extent inside
  have bound := spans.lines.2.2
  rw [paired.count_unifyLineEnds] at bound
  exact absurd beyond (Nat.not_lt.mpr bound)

namespace Outline

/-- Reading a text comes to lines that the text lacks just if it is a program whose regions have no
offsets, and nothing else goes wrong that is no fault of the program.
-/
theorem ofText_cases (source : List Char) (file : Path)
    : ((∃ outline, ofText source file = .ok outline)
          ∨ ofText source file = .error (.notProgram file)
          ∨ ofText source file = .error (.brokenLines file)
          ∨ ofText source file = .error .missingLine)
      ∧ (ofText source file = .error .missingLine
          ↔ Char.ofNat 0 ∉ source
            ∧ ∃ program, statements? source = some program ∧ parts? source program = none) := by
  unfold ofText
  by_cases null : Char.ofNat 0 ∈ source
  · have there : source.contains (Char.ofNat 0) = true := List.contains_iff_mem.mpr null
    rw [if_pos there]
    simp [null]
  · cases written : statements? source with
    | none => simp [null]
    | some program =>
        cases made : parts? source program with
        | none => simp [null, made]
        | some parts => cases commented : Comment.ofText source <;> simp [null, made]

/-- Reading a text gives an outline, or says that it is no program or that its lines do not fit
together, or it comes to lines that the text lacks. The last happens just to programs with a
construct that makes a region and that ends, or whose first text ends, on a line behind all those
that the newlines of the text make; so it never happens where every carriage return has a newline
behind it. The comments of a text have their places whatever line ends it has.
-/
theorem ofText_outcome (source : List Char) (file : Path)
    : ((∃ outline, ofText source file = .ok outline)
          ∨ ofText source file = .error (.notProgram file)
          ∨ ofText source file = .error (.brokenLines file)
          ∨ ofText source file = .error .missingLine)
      ∧ (ofText source file = .error .missingLine
          ↔ Char.ofNat 0 ∉ source
            ∧ ∃ program,
                statements? source = some program
                ∧ ∃ construct ∈ (moduleConstructs program).preorder, construct.Exceeds source)
      ∧ (Paired source → ofText source file ≠ .error .missingLine)
      ∧ ∀ comments,
          Comment.ofText source = some comments
          → ∀ block ∈ Comment.blocks comments,
              ∀ skeleton key,
                ∃ remark,
                  blockRemark (LineTable.ofText source) skeleton key block = some remark := by
  obtain ⟨cases, lacking⟩ := ofText_cases source file
  have missing : ofText source file = .error .missingLine
      ↔ Char.ofNat 0 ∉ source
        ∧ ∃ program,
            statements? source = some program
            ∧ ∃ construct ∈ (moduleConstructs program).preorder, construct.Exceeds source := by
    rw [lacking]
    refine and_congr_right fun _ => exists_congr fun program => and_congr_right fun read => ?_
    rw [← Option.not_isSome_iff_eq_none, parts?_isSome_iff read]
    simp only [not_forall, not_not, exists_prop]
  refine ⟨cases, missing, fun paired lacks => ?_, fun comments read block among skeleton key => ?_⟩
  · obtain ⟨-, program, written, construct, member, exceeds⟩ := missing.mp lacks
    exact paired.not_exceeds written construct member exceeds
  · obtain ⟨remark, made, -⟩ := exists_blockRemark read among skeleton key
    exact ⟨remark, made⟩

/-- A class behind a carriage return alone is on the second line of a text of one line. A name before
a carriage return and a newline is on the first line of a text of two, and a comment has its place.
-/
theorem loneReturn_ofText
    : let file : Path := ⟨[], [['a']]⟩
      let lone := ['x', '\r', 'c', 'l', 'a', 's', 's', ' ', 'A', ':', ' ', 'p', 'a', 's', 's']
      ofText lone file = .error .missingLine
        ∧ Paired ['x', '\r', '\n']
        ∧ ofText ['x', '\r', '\n'] file ≠ .error .missingLine
        ∧ ∃ comments block remark,
            Comment.ofText ['#', 'a'] = some comments
            ∧ block ∈ Comment.blocks comments
            ∧ blockRemark (LineTable.ofText ['#', 'a']) (.node ⟨0, 0, 2, "module", none, []⟩ []) 1 block
              = some remark := by
  intro file lone
  have beyond : (statements? lone).any (fun program =>
      (moduleConstructs program).preorder.any fun construct =>
        construct.makesRegion && construct.extents.any fun extent => 1 < extent.behind.line)
      = true := by
    decide +kernel
  obtain ⟨program, read, beyond⟩ := (Option.any_eq_true _ _).mp beyond
  obtain ⟨construct, member, beyond⟩ := List.any_eq_true.mp beyond
  obtain ⟨makes, beyond⟩ := Bool.and_eq_true_iff.mp beyond
  obtain ⟨extent, inside, beyond⟩ := List.any_eq_true.mp beyond
  have lacks : ofText lone file = .error .missingLine :=
    (ofText_outcome lone file).2.1.mpr ⟨by decide, program, read, construct, member, makes, extent,
      inside, of_decide_eq_true beyond⟩
  have paired : Paired ['x', '\r', '\n'] := by
    intro before after split
    match before with
    | [] | [_, _] => simp at split
    | [_] => simp at split; simp [← split]
    | _ :: _ :: _ :: _ => simp at split
  let comment : Comment := ⟨1, 0, ['#', 'a'], true⟩
  have written : Comment.ofText ['#', 'a'] = some [comment] := by decide
  have among : [comment] ∈ Comment.blocks [comment] := List.mem_singleton_self _
  obtain ⟨remark, made⟩ := (ofText_outcome _ file).2.2.2 _ written _ among
    (.node ⟨0, 0, 2, "module", none, []⟩ []) 1
  exact ⟨lacks, paired, (ofText_outcome _ file).2.2.1 paired, _, _, remark, written, among, made⟩

end Outline

end FoldTree.Source
