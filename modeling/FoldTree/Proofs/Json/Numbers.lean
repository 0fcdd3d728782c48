import FoldTree.Proofs.Decimal.Doubles
import FoldTree.Proofs.Json.Grammar
import Mathlib.Data.List.DropRight

/-! Numbers are written as JSON has them: whole ones, and doubles that are finite. Neither has a zero
in front of other digits.
-/

namespace FoldTree.Json

open Decimal

variable {text : List Char}

/-- Zeros are digits. -/
theorem isDigit_of_mem_zeros {count : Nat} {c : Char} (member : c ∈ zeros count) : c.isDigit := by
  rw [List.eq_of_mem_replicate member]
  decide

/-- A zero. -/
theorem isDigits_zero : IsDigits ['0'] :=
  ⟨List.cons_ne_nil _ _, List.forall_mem_singleton.mpr rfl⟩

/-- The digits of a natural number. -/
theorem isDigits_toDigits (n : Nat) : IsDigits (Nat.toDigits 10 n) :=
  ⟨Nat.toDigits_ne_nil, fun _ member => Nat.isDigit_of_mem_toDigits (by decide) (by decide) member⟩

/-- Only the digits of zero start with one, by induction on the digits from the right. -/
theorem eq_zero_of_leading {n : Nat} (leading : (Nat.toDigits 10 n).head? = some '0') : n = 0 := by
  induction n using Nat.strongRecOn with
  | ind n ih =>
      rw [Nat.toDigits_eq_if (by decide)] at leading
      split at leading
      · rename_i small
        have single : ∀ n < 10, n.digitChar = '0' → n = 0 := by decide
        exact single n small (Option.some.inj leading)
      · obtain ⟨c, rest, digits⟩ : ∃ c rest, Nat.toDigits 10 (n / 10) = c :: rest :=
          List.exists_cons_of_ne_nil Nat.toDigits_ne_nil
        rw [digits] at leading
        have none := ih (n / 10) (by omega) (digits ▸ leading)
        omega

/-- A natural number is a whole one. -/
theorem isWhole_toDigits (n : Nat) : IsWhole (Nat.toDigits 10 n) :=
  ⟨isDigits_toDigits n, fun leading => by
    rw [eq_zero_of_leading leading, Nat.toDigits_zero]⟩

/-- A whole number is written as one. -/
theorem isNumber_int (n : Int) : IsNumber (toString n).toList := by
  have natural (n : Nat) : (toString n).toList = Nat.toDigits 10 n := by
    rw [Nat.toString_eq_ofList_toDigits, String.toList_ofList]
  have number {sign : List Char} (signed : sign ∈ [[], ['-']]) (n : Nat)
      : IsNumber (sign ++ Nat.toDigits 10 n) := by
    have parts := IsNumber.parts signed (isWhole_toDigits n) .absent .absent
    rwa [List.append_nil, List.append_nil] at parts
  rw [Int.toString_eq_repr, Int.repr_eq_if]
  split
  · exact natural _ ▸ number List.mem_cons_self _
  · rw [String.toList_append]
    exact natural _ ▸ number (by decide) _

/-! ### Doubles -/

/-- Digits that start with a zero just if they are the one of zero itself. -/
structure IsPlaced (number : Digits) : Prop where
  digits : IsDigits number.digits
  leading : number.digits.head? = some '0' → number.digits = ['0'] ∧ number.point = 1

/-- The digits of steps on a grid, unless there are no steps on another grid than that of whole
numbers.
-/
theorem isPlaced_ofSteps {steps : Nat} {grid : Int} (placed : steps ≠ 0 ∨ grid = 0)
    : IsPlaced (.ofSteps steps grid) := by
  have digits := isDigits_toDigits steps
  obtain ⟨first, rest, written⟩ := List.exists_cons_of_ne_nil digits.nonempty
  change IsPlaced ⟨if ((Nat.toDigits 10 steps).rdropWhile (· == '0')).isEmpty then ['0']
    else (Nat.toDigits 10 steps).rdropWhile (· == '0'), grid + (Nat.toDigits 10 steps).length⟩
  split
  · rename_i none
    -- all digits are zeros, so the first one is, and there are no steps
    have zero : (first == '0') = true :=
      List.rdropWhile_eq_nil_iff.mp (List.isEmpty_iff.mp none) first (written ▸ List.mem_cons_self)
    obtain rfl : steps = 0 :=
      eq_zero_of_leading (by rw [written, beq_iff_eq.mp zero, List.head?_cons])
    obtain rfl : grid = 0 := placed.resolve_left (not_not_intro rfl)
    exact ⟨isDigits_zero, fun _ => ⟨rfl, rfl⟩⟩
  · rename_i some
    have within := List.rdropWhile_prefix (· == '0') (Nat.toDigits 10 steps)
    have nonempty : (Nat.toDigits 10 steps).rdropWhile (· == '0') ≠ [] :=
      fun none => some (by rw [none]; rfl)
    refine ⟨⟨nonempty, fun c member => digits.digits c (within.subset member)⟩, fun leading => ?_⟩
    obtain ⟨first', rest', kept⟩ := List.exists_cons_of_ne_nil nonempty
    dsimp only at leading
    rw [kept, List.head?_cons, Option.some.injEq] at leading
    rw [kept, written] at within
    have same : first' = first := (List.cons_prefix_cons.mp within).1
    have none := eq_zero_of_leading (n := steps) (by rw [written, ← same, leading, List.head?_cons])
    rw [none] at some
    exact absurd rfl some

/-- The parts of digits around a point have no zero in front of other digits. -/
theorem isWhole_front {number : Digits} (placed : IsPlaced number) (positive : 0 < number.point)
    : IsWhole (number.digits.take number.point.toNat
        ++ zeros (number.point.toNat - number.digits.length)) := by
  obtain ⟨first, rest, written⟩ := List.exists_cons_of_ne_nil placed.digits.nonempty
  obtain ⟨places, count⟩ : ∃ places, number.point.toNat = places + 1 :=
    Nat.exists_eq_succ_of_ne_zero (by omega)
  refine ⟨⟨?_, fun c member => ?_⟩, fun leading => ?_⟩
  · rw [written, count, List.take_succ_cons, List.cons_append]
    exact List.cons_ne_nil _ _
  · rcases List.mem_append.mp member with front | behind
    · exact placed.digits.digits c (List.mem_of_mem_take front)
    · exact isDigit_of_mem_zeros behind
  · rw [written, count, List.take_succ_cons, List.cons_append, List.head?_cons] at leading
    obtain ⟨zero, point⟩ := placed.leading (by rw [written, List.head?_cons, leading])
    rw [zero, point]
    rfl

/-- Digits behind zeros. -/
theorem IsDigits.behind_zeros (digits : IsDigits text) (count : Nat)
    : IsDigits (zeros count ++ text) := by
  refine ⟨List.append_ne_nil_of_right_ne_nil _ digits.nonempty, fun c member => ?_⟩
  rcases List.mem_append.mp member with front | behind
  · exact isDigit_of_mem_zeros front
  · exact digits.digits c behind

/-- Digits behind a point, or what stands for none. -/
theorem isFraction_rest {pointless rest : List Char} (without : IsFraction pointless)
    (digits : ∀ c ∈ rest, c.isDigit)
    : IsFraction (if rest.isEmpty then pointless else '.' :: rest) := by
  split
  · exact without
  · rename_i some
    exact .present ⟨fun empty => some (by rw [empty]; rfl), digits⟩

/-- An exponent is written as one. -/
theorem isExponent_exponentText (exponent : Int) : IsExponent (exponentText exponent) := by
  have padded := (isDigits_toDigits exponent.natAbs).behind_zeros
    (2 - (digitsOf exponent.natAbs).length)
  unfold exponentText
  split
  · exact @IsExponent.present 'e' ['-'] _ (by decide) (by decide) padded
  · exact @IsExponent.present 'e' ['+'] _ (by decide) (by decide) padded

/-- Digits are laid out as a number, whatever the layout. -/
theorem isNumber_place (layout : Layout) {number : Digits} (placed : IsPlaced number)
    {sign : List Char} (signed : sign ∈ [[], ['-']])
    : IsNumber (sign ++ layout.place number) := by
  have digit (c : Char) (member : c ∈ number.digits) : c.isDigit := placed.digits.digits c member
  unfold Layout.place
  dsimp only
  split
  · split
    · rename_i none
      exact absurd none placed.digits.nonempty
    · rename_i first rest written
      rw [written] at digit
      have whole : IsWhole [first] := ⟨⟨List.cons_ne_nil _ _, fun c member => by
        rw [List.mem_singleton.mp member]
        exact digit first List.mem_cons_self⟩, fun leading => by
        rw [Option.some.inj leading]⟩
      have part := isFraction_rest .absent fun c member => digit c (List.mem_cons_of_mem _ member)
      exact .parts signed whole part (isExponent_exponentText _)
  · split
    · have part := placed.digits.behind_zeros number.point.natAbs
      have parts := IsNumber.parts signed (isWhole_toDigits 0) (.present part) .absent
      rwa [List.append_nil] at parts
    · rename_i positive
      have without : IsFraction (if layout.pointZero then ['.', '0'] else []) := by
        split
        · exact .present isDigits_zero
        · exact .absent
      have part := isFraction_rest without fun c member =>
        digit c (List.mem_of_mem_drop (i := number.point.toNat) member)
      have parts := IsNumber.parts signed (isWhole_front placed (not_le.mp positive)) part .absent
      rwa [List.append_nil] at parts

/-- No steps are not above a positive quotient. -/
theorem not_below_none (ends : Bool) {low : Decimal.Quotient} (positive : low.num ≠ 0) (grid : Int)
    : low.below ends ((Decimal.Quotient.mk 0 1).shift grid) = false := by
  obtain ⟨den, nonzero, place⟩
      : ∃ den, den ≠ 0 ∧ (Decimal.Quotient.mk 0 1).shift grid = ⟨0, den⟩ := by
    unfold Decimal.Quotient.shift
    dsimp only
    split
    · exact ⟨1, one_ne_zero, by rw [Nat.zero_mul]⟩
    · refine ⟨1 * powerOfTen grid.natAbs, ?_, rfl⟩
      rw [Nat.one_mul]
      exact pow_ne_zero _ (by decide)
  rw [place, Decimal.Quotient.below, Nat.zero_mul]
  simp [positive, nonzero]

/-- Above a positive bound there are some steps. -/
theorem ne_zero_of_nearestWithin? {ends : Bool} {low value high : Decimal.Quotient} {grid : Int}
    {steps : Nat} (positive : low.num ≠ 0)
    (found : nearestWithin? ends low value high grid = some steps)
    : steps ≠ 0 := by
  rintro rfl
  have outside := not_below_none ends positive (-grid)
  unfold nearestWithin? at found
  dsimp only at found
  generalize (if (value.shift grid).round = (value.shift grid).num / (value.shift grid).den
    then (value.shift grid).num / (value.shift grid).den + 1
    else (value.shift grid).num / (value.shift grid).den) = far at found
  split at found
  · rename_i inside
    rw [Option.some.inj found, outside] at inside
    exact absurd inside Bool.false_ne_true
  · split at found
    · rename_i inside
      rw [Option.some.inj found, outside] at inside
      exact absurd inside Bool.false_ne_true
    · cases found

/-- The fewest digits above a positive bound, by induction on the tries. -/
theorem isPlaced_fewest {ends : Bool} {low value high : Decimal.Quotient} {magnitude : Int}
    {tries count : Nat} {number : Digits} (positive : low.num ≠ 0)
    (found : fewest ends low value high magnitude tries count = some number)
    : IsPlaced number := by
  induction tries generalizing count with
  | zero => cases found
  | succ tries ih =>
      rw [fewest] at found
      split at found
      · rename_i steps nearest
        cases found
        exact isPlaced_ofSteps (.inl (ne_zero_of_nearestWithin? positive nearest))
      · exact ih found

/-- The shortest digits of a positive number. -/
theorem isPlaced_shortest {units : Nat} (positive : units ≠ 0) (power : Int)
    : IsPlaced (shortest units power) := by
  unfold shortest
  dsimp only
  generalize lower : (if units = powerOfTwo 52 ∧ -1074 < power then 1 else 2) = step
  have less : step ≤ 2 := by
    rw [← lower]
    split <;> decide
  have bound : (Decimal.Quotient.scaled (4 * units - step) power 4).num ≠ 0 := by
    unfold Decimal.Quotient.scaled
    dsimp only
    split
    · dsimp only
      omega
    · exact Nat.mul_ne_zero (by omega) (pow_ne_zero _ (by decide))
  cases found : fewest (units % 2 == 0) (Decimal.Quotient.scaled (4 * units - step) power 4)
      (Decimal.Quotient.scaled units power 1) (Decimal.Quotient.scaled (4 * units + 2) power 4)
      (Decimal.Quotient.scaled units power 1).magnitude 17 1 with
  | some number => exact isPlaced_fewest bound found
  | none => exact isPlaced_ofSteps (.inr rfl)

/-- A finite double is written as a number. -/
theorem isNumber_exact {x : Float} (finite : x.isFinite = true)
    : IsNumber (Decimal.exact x).toList := by
  obtain ⟨negative, units, power, parts⟩ := exists_finite finite
  rw [Decimal.exact, Layout.render, parts]
  dsimp only
  rw [String.toList_ofList]
  refine isNumber_place _ ?_ (by cases negative <;> decide)
  split
  · exact ⟨isDigits_zero, fun _ => ⟨rfl, rfl⟩⟩
  · exact isPlaced_shortest ‹_› power

end FoldTree.Json
