import FoldTree.Offer.Basic
import FoldTree.Proofs.Console.Markup

/-! Texts of numbers: digits with signs, points and letters. They hold no markup and no blanks. -/

namespace FoldTree.Console.Markup

variable {text : List Char}

/-- Characters that are none of the two are bare. -/
theorem bare_of_forall (apart : ∀ c ∈ text, c ≠ '[' ∧ c ≠ '\\') : Bare text :=
  ⟨fun member => (apart _ member).1 rfl, fun member => (apart _ member).2 rfl⟩

/-- Whether a character is in texts of numbers: digits, signs, points and the letters of exponents
and of the words for infinity and for no number.
-/
def isNumeralChar (c : Char) : Bool :=
  c.isDigit || "+-.einfa".toList.contains c

/-- Whether a text has such characters only. -/
def IsNumeral (text : List Char) : Prop :=
  ∀ c ∈ text, isNumeralChar c

instance (text : List Char) : Decidable (IsNumeral text) :=
  decidable_of_iff (text.all isNumeralChar = true) List.all_eq_true

/-- Texts of numbers are bare. -/
theorem IsNumeral.bare (numeral : IsNumeral text) : Bare text := by
  refine bare_of_forall fun c member => ?_
  have fits := numeral c member
  constructor <;> rintro rfl <;> revert fits <;> decide

/-- One such text behind another. -/
theorem IsNumeral.append {rest : List Char} (numeral : IsNumeral text) (later : IsNumeral rest)
    : IsNumeral (text ++ rest) :=
  List.forall_mem_append.mpr ⟨numeral, later⟩

/-- A part of such a text. -/
theorem IsNumeral.subset {part : List Char} (numeral : IsNumeral text) (within : part ⊆ text)
    : IsNumeral part := fun c member => numeral c (within member)

/-- A character in front of such a text. -/
theorem IsNumeral.cons {c : Char} (numeral : IsNumeral text) (fits : isNumeralChar c)
    : IsNumeral (c :: text) :=
  List.forall_mem_cons.mpr ⟨fits, numeral⟩

/-- The digits of a natural number. -/
theorem isNumeral_toDigits (n : Nat) : IsNumeral (Nat.toDigits 10 n) := fun c member => by
  have digit : c.isDigit := Nat.isDigit_of_mem_toDigits (by decide) (by decide) member
  rw [isNumeralChar, digit, Bool.true_or]

/-- A natural number. -/
theorem isNumeral_nat (n : Nat) : IsNumeral (toString n).toList := by
  rw [Nat.toString_eq_ofList_toDigits, String.toList_ofList]
  exact isNumeral_toDigits n

/-- A whole number. -/
theorem isNumeral_int (n : Int) : IsNumeral (toString n).toList := by
  rw [Int.toString_eq_repr, Int.repr_eq_if]
  split
  · exact isNumeral_nat _
  · rw [String.toList_append]
    exact IsNumeral.append (by decide) (isNumeral_nat _)

/-- Zeros. -/
theorem isNumeral_zeros (count : Nat) : IsNumeral (Decimal.zeros count) := fun c member => by
  rw [List.eq_of_mem_replicate member]
  decide

/-- An exponent. -/
theorem isNumeral_exponentText (exponent : Int) : IsNumeral (Decimal.exponentText exponent) := by
  have digits := (isNumeral_zeros (2 - (Decimal.digitsOf exponent.natAbs).length)).append
    (isNumeral_toDigits exponent.natAbs)
  unfold Decimal.exponentText
  split <;> exact (digits.cons (by decide)).cons (by decide)

/-- Digits that are laid out. -/
theorem isNumeral_place (layout : Decimal.Layout) {number : Decimal.Digits}
    (numeral : IsNumeral number.digits)
    : IsNumeral (layout.place number) := by
  unfold Decimal.Layout.place
  dsimp only
  split
  · split
    · exact isNumeral_exponentText _
    · rename_i first rest written
      rw [written] at numeral
      obtain ⟨fits, rest'⟩ := List.forall_mem_cons.mp numeral
      refine IsNumeral.cons (IsNumeral.append ?_ (isNumeral_exponentText _)) fits
      split
      · decide
      · exact IsNumeral.cons rest' (by decide)
  · split
    · exact (((isNumeral_zeros _).append numeral).cons (by decide)).cons (by decide)
    · have whole : IsNumeral (number.digits.take number.point.toNat) :=
        numeral.subset (List.take_subset _ _)
      have part : IsNumeral (number.digits.drop number.point.toNat) :=
        numeral.subset (List.drop_subset _ _)
      refine (whole.append (isNumeral_zeros _)).append ?_
      split
      · split <;> decide
      · exact part.cons (by decide)

/-- The digits of steps on a decimal grid. -/
theorem isNumeral_ofSteps (steps : Nat) (grid : Int)
    : IsNumeral (Decimal.Digits.ofSteps steps grid).digits := by
  unfold Decimal.Digits.ofSteps
  dsimp only
  split
  · decide
  · refine (isNumeral_toDigits steps).subset fun c member => ?_
    have kept := (List.dropWhile_suffix _).subset (List.mem_reverse.mp member)
    exact List.mem_reverse.mp kept

/-- A number to a count of digits. -/
theorem isNumeral_general (count : Nat) (x : Float)
    : IsNumeral (Decimal.general count x).toList := by
  unfold Decimal.general Decimal.Layout.render
  split
  · decide
  · split <;> decide
  · rename_i negative units power finite
    dsimp only
    rw [String.toList_ofList]
    refine IsNumeral.append ?_ (isNumeral_place _ ?_)
    · split <;> decide
    · split
      · decide
      · exact isNumeral_ofSteps _ _

/-- A profit. -/
theorem isNumeral_shortProfit (offer : Offer) : IsNumeral offer.shortProfit.toList := by
  unfold Offer.shortProfit
  split
  · decide
  · split
    · decide
    · exact isNumeral_general 4 _

/-- A natural number is bare. -/
theorem bare_nat (n : Nat) : Bare (toString n).toList :=
  (isNumeral_nat n).bare

/-- A whole number is bare. -/
theorem bare_int (n : Int) : Bare (toString n).toList :=
  (isNumeral_int n).bare

end FoldTree.Console.Markup
