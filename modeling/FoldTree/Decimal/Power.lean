/-! Powers of the two bases that numbers are written in, and how long whole numbers may be. -/

namespace FoldTree.Decimal

/-- A power of two. -/
def powerOfTwo (exponent : Nat) : Nat :=
  Nat.pow 2 exponent

/-- A power of ten. -/
def powerOfTen (exponent : Nat) : Nat :=
  Nat.pow 10 exponent

/-- The most decimal digits with which a whole number is read or written. -/
def mostDigits : Nat := 4300

end FoldTree.Decimal
