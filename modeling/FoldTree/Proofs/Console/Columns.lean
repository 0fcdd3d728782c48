import FoldTree.Console.Table
import FoldTree.Proofs.Console.Numerals
import FoldTree.Proofs.Text.Trimming
import Mathlib.Data.List.Forall2
import Mathlib.Order.Lattice

/-! Texts in the columns of a table. A column is as wide as its widest text, so no text is cut short
or broken between words. One without tabs, line ends and controls, and with no blanks at its end,
stands on one line between blanks.
-/

namespace FoldTree

namespace Text

/-- A text without newlines is one line. -/
theorem lines_of_not_mem {text : List Char} (none : '\n' ∉ text) : lines text = [text] := by
  induction text with
  | nil => rfl
  | cons c rest ih =>
      rw [List.mem_cons, not_or] at none
      rw [lines, if_neg (Ne.symm none.1), ih none.2]

end Text

namespace Console

open Markup

variable {text line : List Char} {width : Nat} {overflow : Overflow}

/-! ### Words -/

/-- A text that takes one line wherever it fits. -/
structure IsNeat (text : List Char) : Prop where
  visible : ∀ c ∈ text, c ≠ '\n' ∧ c ≠ '\t' ∧ isDropped c = false
  trimmed : Text.trimEnd text = text

instance (text : List Char) : Decidable (IsNeat text) :=
  decidable_of_iff
    (text.all (fun c => c ≠ '\n' ∧ c ≠ '\t' ∧ isDropped c = false) = true
      ∧ Text.trimEnd text = text)
    ⟨fun neat => ⟨by simpa using neat.1, neat.2⟩,
      fun neat => ⟨by simpa using neat.visible, neat.trimmed⟩⟩

/-- Nothing of a neat text is left out. -/
theorem IsNeat.shownText_eq (neat : IsNeat text) : shownText text = text :=
  List.filter_eq_self.mpr fun c member => by rw [(neat.visible c member).2.2, Bool.not_false]

/-- A neat text is one line. -/
theorem IsNeat.lines_eq (neat : IsNeat text) : Text.lines (shownText text) = [text] := by
  rw [neat.shownText_eq]
  exact Text.lines_of_not_mem fun member => (neat.visible _ member).1 rfl

/-- A neat text is as wide as it has cells. -/
theorem IsNeat.textWidth_eq {text : String} (neat : IsNeat text.toList)
    : textWidth text = Text.cells text.toList := by
  rw [textWidth, neat.lines_eq, List.map_singleton, List.foldl_cons, List.foldl_nil, Nat.zero_max]

/-- No text is wider than its column. -/
theorem Table.fits {table : Table} {row : List String} (member : row ∈ table.rows)
    (length : row.length = table.columns.length) (neat : ∀ text ∈ row, IsNeat text.toList)
    : List.Forall₂ (fun text width => IsNeat text.toList ∧ Text.cells text.toList ≤ width) row
        table.widths := by
  rw [List.forall₂_iff_get]
  refine ⟨length.trans (by rw [Table.widths, List.length_mapIdx]), fun index bound bound' => ?_⟩
  have inside : row.get ⟨index, bound⟩ ∈ row := List.get_mem _ _
  refine ⟨neat _ inside, ?_⟩
  rw [← (neat _ inside).textWidth_eq]
  simp only [Table.widths, List.get_eq_getElem, List.getElem_mapIdx]
  have listed : textWidth row[index]
      ∈ (table.columns[index].heading :: table.textsAt index).map textWidth := by
    refine List.mem_map_of_mem (List.mem_cons_of_mem _ ?_)
    rw [Table.textsAt, List.mem_map]
    exact ⟨row, member, by rw [List.getElem?_eq_getElem bound, Option.getD_some]⟩
  rw [List.foldl_max_eq_max (List.ne_nil_of_mem listed)]
  exact (List.le_max_of_mem listed).trans (Nat.le_max_right _ _)

end Console

end FoldTree
