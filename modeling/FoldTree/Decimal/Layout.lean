import FoldTree.Decimal.Shortest

/-! How the digits of a number are laid out: with a point in place while the exponent is small, and
with an exponent otherwise.
-/

namespace FoldTree.Decimal

/-- The choices of a number format. Positional notation is for the exponents from the first bound
to the second; a whole number may keep its point and a zero.
-/
structure Layout where
  leastPositional : Int
  mostPositional : Int
  pointZero : Bool

/-- Zeros. -/
def zeros (count : Nat) : List Char :=
  List.replicate count '0'

/-- An exponent with its sign and at least two digits. -/
def exponentText (exponent : Int) : List Char :=
  let digits := digitsOf exponent.natAbs
  'e' :: (if exponent < 0 then '-' else '+') :: (zeros (2 - digits.length) ++ digits)

/-- Lays out digits. -/
def Layout.place (layout : Layout) (number : Digits) : List Char :=
  let exponent := number.point - 1
  if exponent < layout.leastPositional ∨ layout.mostPositional < exponent then
    match number.digits with
    | [] => exponentText exponent
    | first :: rest =>
      first :: (if rest.isEmpty then [] else '.' :: rest) ++ exponentText exponent
  else if number.point ≤ 0 then
    '0' :: '.' :: zeros number.point.natAbs ++ number.digits
  else
    let whole := number.digits.take number.point.toNat
    let part := number.digits.drop number.point.toNat
    whole ++ zeros (number.point.toNat - number.digits.length) ++
      (if part.isEmpty then if layout.pointZero then ['.', '0'] else [] else '.' :: part)

/-- The text of a number whose digits are chosen by a rule from its units. -/
def Layout.render (layout : Layout) (choose : Nat → Int → Digits) (x : Float) : String :=
  match Double.ofFloat x with
  | .nan => "nan"
  | .infinite negative => if negative then "-inf" else "inf"
  | .finite negative units power =>
    let number := if units = 0 then ⟨['0'], 1⟩ else choose units power
    String.ofList ((if negative then ['-'] else []) ++ layout.place number)

/-- The shortest text that is read back as the number: positional from a ten-thousandth up to
sixteen digits, and never without a point or an exponent.
-/
def exact (x : Float) : String :=
  ({ leastPositional := -4, mostPositional := 15, pointZero := true } : Layout).render shortest x

/-- A number to a count of significant digits, without zeros at the end. -/
def general (count : Nat) (x : Float) : String :=
  ({ leastPositional := -4, mostPositional := count - 1, pointZero := false } : Layout).render
    (rounded count) x

end FoldTree.Decimal
