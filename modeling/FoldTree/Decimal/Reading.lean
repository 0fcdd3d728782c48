import FoldTree.Decimal.Shortest

/-! Doubles from decimal numbers, rounded to the nearest one. -/

namespace FoldTree.Decimal

/-- The bits of the double that is nearest to a positive quotient; a half goes to even units. The
units have fifty-three bits, or fewer at the least power of two that a unit can be, and units that
round up to a power of two carry into the exponent.
-/
def nearestBits (q : Quotient) : Nat :=
  let guess : Int := (q.num.log2 : Int) - q.den.log2
  let power := max (guess - 53) (-1074)
  let units := (Quotient.scaled q.num (-power) q.den).round
  let bits (units : Nat) (power : Int) : Nat := units + (power + 1074).toNat * powerOfTwo 52
  let result :=
    if units < powerOfTwo 53 then bits units power
    else bits (Quotient.scaled q.num (-(power + 1)) q.den).round (power + 1)
  min result (2047 * powerOfTwo 52)

/-- The double nearest to a whole number times a power of ten. Powers far beyond the range of
doubles are cut short.
-/
def toFloat (negative : Bool) (mantissa : Nat) (exponent : Int) : Float :=
  let size : Int := (digitsOf mantissa).length
  let magnitude :=
    if mantissa = 0 ∨ size + exponent < -400 then 0
    else if size + exponent > 400 then 2047 * powerOfTwo 52
    else nearestBits ((Quotient.mk mantissa 1).shift (-exponent))
  Float.ofBits (UInt64.ofNat (magnitude + if negative then powerOfTwo 63 else 0))

end FoldTree.Decimal
