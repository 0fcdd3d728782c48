import FoldTree.Text.Blank

/-! Texts without the white space at their ends. What is left is a part of the text that has no
white space at either end, so trimming it once more changes nothing.
-/

namespace FoldTree.Text

/-- A text starts with what is left when the blanks at its end are taken off. -/
theorem trimEnd_isPrefix (text : List Char) : trimEnd text <+: text := by
  induction text with
  | nil => exact List.nil_prefix
  | cons c rest ih =>
      rw [trimEnd]
      split
      · split
        · exact List.nil_prefix
        · exact List.prefix_append [c] rest
      · exact List.cons_prefix_cons.mpr ⟨rfl, ih⟩

/-- A text that does not end in a blank has no blanks at its end, by induction on the text. -/
theorem trimEnd_eq_self {text : List Char} (ends : ∀ c ∈ text.getLast?, isBlank c = false)
    : trimEnd text = text := by
  induction text with
  | nil => rfl
  | cons c rest ih =>
      cases rest with
      | nil =>
          have shown : isBlank c = false := ends c rfl
          simp [trimEnd, shown]
      | cons next rest =>
          rw [trimEnd, ih (by rwa [List.getLast?_cons_cons] at ends)]

/-- A text does not end in a blank when those at its end are taken off, by induction on the text. -/
theorem isBlank_getLast?_trimEnd (text : List Char)
    : ∀ c ∈ (trimEnd text).getLast?, isBlank c = false := by
  induction text with
  | nil => simp [trimEnd]
  | cons c rest ih =>
      rw [trimEnd]
      split
      · split
        · simp
        · simp_all
      · rename_i kept
        cases left : trimEnd rest with
        | nil => exact absurd left kept
        | cons first more =>
            rw [left] at ih
            rwa [List.getLast?_cons_cons]

/-- A trimmed text does not start with a blank: it starts as what follows the blanks in front. -/
theorem isBlank_head?_trim (text : List Char) : ∀ c ∈ (trim text).head?, isBlank c = false := by
  intro c first
  obtain ⟨blanks, whole⟩ := trimEnd_isPrefix (text.dropWhile isBlank)
  have starts : (text.dropWhile isBlank).head? = some c := by
    rw [← whole, List.head?_append]
    rw [trim] at first
    rw [first]
    rfl
  have shown := List.head?_dropWhile_not isBlank text
  rw [starts] at shown
  exact shown

/-- A trimmed text is trimmed. -/
theorem trim_trim (text : List Char) : trim (trim text) = trim text := by
  have starts : (trim text).dropWhile isBlank = trim text := by
    cases left : trim text with
    | nil => rfl
    | cons c rest =>
        have shown : isBlank c = false := isBlank_head?_trim text c (by rw [left]; rfl)
        exact List.dropWhile_cons_of_neg (by simp [shown])
  rw [trim, starts]
  exact trimEnd_eq_self (isBlank_getLast?_trimEnd _)

end FoldTree.Text
