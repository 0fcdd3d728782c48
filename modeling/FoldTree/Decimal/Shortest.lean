import FoldTree.Decimal.Power

/-! Decimal digits of binary floating point numbers. A finite number is a whole number of units,
each a power of two. The shortest digits are the fewest that lie closer to the number than to any
other, and a fixed count of digits is rounded to nearest.
-/

namespace FoldTree.Decimal

/-- What the bits of a double stand for. A finite one has its sign, its units and the power of two
that a unit is.
-/
inductive Double where
  | nan
  | infinite (negative : Bool)
  | finite (negative : Bool) (units : Nat) (power : Int)

/-- Takes a double apart. -/
def Double.ofFloat (x : Float) : Double :=
  let bits := x.toBits.toNat
  let negative := bits / powerOfTwo 63 = 1
  let exponent : Nat := bits / powerOfTwo 52 % powerOfTwo 11
  let fraction := bits % powerOfTwo 52
  if exponent = 2047 then if fraction = 0 then .infinite negative else .nan
  else if exponent = 0 then .finite negative fraction (-1074)
  else .finite negative (fraction + powerOfTwo 52) ((exponent : Int) - 1075)

/-- Digits read as a fraction between a tenth and one, and the power of ten that it is times. -/
structure Digits where
  digits : List Char
  point : Int

/-- A positive quotient of two whole numbers. -/
structure Quotient where
  num : Nat
  den : Nat

/-- A whole number times a power of two, over a divisor. -/
def Quotient.scaled (units : Nat) (power : Int) (divisor : Nat) : Quotient :=
  let factor := powerOfTwo power.natAbs
  if power < 0 then ⟨units, divisor * factor⟩ else ⟨units * factor, divisor⟩

/-- A quotient divided by a power of ten. -/
def Quotient.shift (q : Quotient) (power : Int) : Quotient :=
  let factor := powerOfTen power.natAbs
  if power < 0 then ⟨q.num * factor, q.den⟩ else ⟨q.num, q.den * factor⟩

/-- The decimal digits of a whole number. -/
def digitsOf (n : Nat) : List Char :=
  Nat.toDigits 10 n

/-- The power of ten that is just above a positive quotient. -/
def Quotient.magnitude (q : Quotient) : Int :=
  if q.den ≤ q.num then (digitsOf (q.num / q.den)).length
  else
    let above := (digitsOf (q.den / q.num)).length
    if q.num * powerOfTen (above - 1) = q.den then 2 - above else 1 - above

/-- Whether a quotient is below another, or equal where ends count. -/
def Quotient.below (ends : Bool) (p q : Quotient) : Bool :=
  p.num * q.den < q.num * p.den || (ends && p.num * q.den == q.num * p.den)

/-- The whole number nearest to a quotient; a half goes to the even neighbour. -/
def Quotient.round (q : Quotient) : Nat :=
  let whole := q.num / q.den
  let rest := 2 * (q.num % q.den)
  if rest < q.den || (rest == q.den && whole % 2 == 0) then whole else whole + 1

/-- A whole number of steps on a decimal grid, written so that its last digit is no zero. -/
def Digits.ofSteps (steps : Nat) (grid : Int) : Digits :=
  let written := digitsOf steps
  let kept := (written.reverse.dropWhile (· == '0')).reverse
  { digits := if kept.isEmpty then ['0'] else kept, point := grid + written.length }

/-- The steps on a grid next to a number that lie between its bounds: the nearer one if both do. -/
def nearestWithin? (ends : Bool) (low value high : Quotient) (grid : Int) : Option Nat :=
  let scaled := value.shift grid
  let down := scaled.num / scaled.den
  let inside (steps : Nat) : Bool :=
    let place := (Quotient.mk steps 1).shift (-grid)
    low.below ends place && place.below ends high
  let near := scaled.round
  let far := if near = down then down + 1 else down
  if inside near then some near else if inside far then some far else none

/-- The fewest digits of a number between bounds, tried from a count on. -/
def fewest (ends : Bool) (low value high : Quotient) (magnitude : Int) :
    Nat → Nat → Option Digits
  | 0, _ => none
  | tries + 1, count =>
    match nearestWithin? ends low value high (magnitude - count) with
    | some steps => some (.ofSteps steps (magnitude - count))
    | none => fewest ends low value high magnitude tries (count + 1)

/-- The fewest digits that are read back as a positive number of units. The bounds are halfway to
the neighbours, which are nearer on the lower side of a power of two, and belong to the number when
its units are even. Seventeen digits always suffice.
-/
def shortest (units : Nat) (power : Int) : Digits :=
  let lower := if units = powerOfTwo 52 ∧ -1074 < power then 1 else 2
  let value := Quotient.scaled units power 1
  let low := Quotient.scaled (4 * units - lower) power 4
  let high := Quotient.scaled (4 * units + 2) power 4
  (fewest (units % 2 == 0) low value high value.magnitude 17 1).getD
    (.ofSteps value.round 0)

/-- A positive number of units rounded to a count of digits. -/
def rounded (count units : Nat) (power : Int) : Digits :=
  let value := Quotient.scaled units power 1
  let grid := value.magnitude - count
  .ofSteps (value.shift grid).round grid

end FoldTree.Decimal
