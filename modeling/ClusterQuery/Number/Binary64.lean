/-!
# Binary floating point numbers

A 64-bit floating point number is kept as its bit pattern. A finite pattern denotes
`significand · 2 ^ exponent` with a sign; arithmetic is done exactly on that form and rounded
once, to the nearest pattern and to the even one on a tie. `totalKey` is the IEEE total order
as an integer: it tells any two patterns apart.
-/

namespace ClusterQuery

/-- A 64-bit floating point number, given by its bits. -/
structure Binary64 where
  bits : UInt64
deriving DecidableEq, Repr

namespace Binary64

/-- The bits below the sign. Larger numbers of one sign have larger magnitudes. -/
def magnitude (x : Binary64) : Nat := x.bits.toNat % Nat.pow 2 63

def isNegative (x : Binary64) : Bool := Nat.pow 2 63 ≤ x.bits.toNat

/-- The magnitude of the infinities; every larger one is a NaN. -/
def infiniteMagnitude : Nat := 2047 * Nat.pow 2 52

/-- The number with the given sign and magnitude. -/
def ofMagnitude (negative : Bool) (magnitude : Nat) : Binary64 :=
  ⟨UInt64.ofNat ((if negative then Nat.pow 2 63 else 0) + magnitude)⟩

def infinity (negative : Bool) : Binary64 := ofMagnitude negative infiniteMagnitude

/-- The quiet NaN of the given sign. -/
def nan (negative : Bool) : Binary64 := ofMagnitude negative (infiniteMagnitude + Nat.pow 2 51)

def zero (negative : Bool) : Binary64 := ofMagnitude negative 0

def isNaN (x : Binary64) : Bool := infiniteMagnitude < x.magnitude

def isInfinite (x : Binary64) : Bool := x.magnitude == infiniteMagnitude

def isZero (x : Binary64) : Bool := x.magnitude == 0

/-- The whole number that a finite number's exponent scales. -/
def significand (x : Binary64) : Nat :=
  if x.magnitude < Nat.pow 2 52 then x.magnitude else Nat.pow 2 52 + x.magnitude % Nat.pow 2 52

/-- The power of two that scales a finite number's significand. -/
def exponent (x : Binary64) : Int :=
  if x.magnitude < Nat.pow 2 52 then -1074 else (x.magnitude / Nat.pow 2 52 : Nat) - 1075

/-- Numerator of the absolute value of a finite number. -/
def numerator (x : Binary64) : Nat := x.significand * Nat.pow 2 x.exponent.toNat

/-- Denominator of the absolute value of a finite number. -/
def denominator (x : Binary64) : Nat := Nat.pow 2 (-x.exponent).toNat

/-- The quotient rounded to the nearest whole number, and to the even one on a tie. -/
def roundQuotient (numerator denominator : Nat) : Nat :=
  let floor := numerator / denominator
  let twice := 2 * (numerator % denominator)
  if twice < denominator ∨ (twice = denominator ∧ floor % 2 = 0) then floor else floor + 1

/-- The binary exponent on whose grid a positive quotient is rounded: the quotient divided by
that power of two lies in `[2^52, 2^53)`, unless it is too small for a normal number. -/
def gridExponent (numerator denominator : Nat) : Int :=
  let estimate : Int := (numerator.log2 : Int) - denominator.log2
  let exact :=
    if denominator * Nat.pow 2 estimate.toNat ≤ numerator * Nat.pow 2 (-estimate).toNat then
      estimate
    else estimate - 1
  max (-1074) (exact - 52)

/-- The magnitude nearest to a quotient of whole numbers; infinite where the quotient is beyond
every finite number. -/
def nearestMagnitude (numerator denominator : Nat) : Nat :=
  if numerator = 0 then 0 else
    let grid := gridExponent numerator denominator
    let rounded :=
      roundQuotient (numerator * Nat.pow 2 (-grid).toNat) (denominator * Nat.pow 2 grid.toNat)
    min infiniteMagnitude ((grid + 1074).toNat * Nat.pow 2 52 + rounded)

/-- The number nearest to a signed quotient. -/
def ofQuotient (negative : Bool) (numerator denominator : Nat) : Binary64 :=
  ofMagnitude negative (nearestMagnitude numerator denominator)

/-- The number nearest to a whole number. -/
def ofNat (value : Nat) : Binary64 := ofQuotient false value 1

/-- The number nearest to `digits · 10 ^ exponent`. -/
def ofDecimal (negative : Bool) (digits : Nat) (exponent : Int) : Binary64 :=
  ofQuotient negative (digits * Nat.pow 10 exponent.toNat) (Nat.pow 10 (-exponent).toNat)

def mul (x y : Binary64) : Binary64 :=
  ofQuotient (x.isNegative != y.isNegative) (x.numerator * y.numerator)
    (x.denominator * y.denominator)

/-- The quotient of two finite numbers, the divisor not zero. -/
def div (x y : Binary64) : Binary64 :=
  ofQuotient (x.isNegative != y.isNegative) (x.numerator * y.denominator)
    (x.denominator * y.numerator)

/-- A finite number as a whole multiple of the least positive one, `2 ^ -1074`. -/
def units (x : Binary64) : Int :=
  let size := x.significand * Nat.pow 2 (x.exponent + 1074).toNat
  if x.isNegative then -size else size

def addFinite (x y : Binary64) : Binary64 :=
  let sum := x.units + y.units
  if sum = 0 then zero (x.isNegative && y.isNegative)
  else ofQuotient (sum < 0) sum.natAbs (Nat.pow 2 1074)

/-- The sum of two numbers. Infinities absorb finite numbers, and opposite ones give a NaN. -/
def add (x y : Binary64) : Binary64 :=
  if x.isNaN then x
  else if y.isNaN then y
  else if x.isInfinite then
    if y.isInfinite && x.isNegative != y.isNegative then nan false else x
  else if y.isInfinite then y
  else addFinite x y

def neg (x : Binary64) : Binary64 := ofMagnitude (!x.isNegative) x.magnitude

/-- Position in the IEEE total order: negative patterns below positive ones, each by magnitude. -/
def totalKey (x : Binary64) : Int :=
  if x.isNegative then -(x.magnitude : Int) - 1 else x.magnitude

/-- Position among the numbers that are no NaN; the two zeros share one. -/
def numericKey (x : Binary64) : Int :=
  if x.isNegative then -(x.magnitude : Int) else x.magnitude

/-- Numeric equality: the two zeros are equal, and a NaN equals nothing. -/
def sameNumber (x y : Binary64) : Bool :=
  !x.isNaN && !y.isNaN && x.numericKey == y.numericKey

/-- Numeric order; false where either number is a NaN. -/
def atMost (x y : Binary64) : Bool :=
  !x.isNaN && !y.isNaN && x.numericKey ≤ y.numericKey

end Binary64

end ClusterQuery
