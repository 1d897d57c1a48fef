import ClusterQuery.Number.Binary64

/-!
# Shortest decimals

The decimal that stands for a floating point number: the fewest digits that read back to it,
and among those the nearest. The search goes through the decimal grids of one to seventeen
digits. On each grid only the value's two neighbours can be nearest; every candidate is tried
by reading it back, so a decimal that is returned always denotes the number it was made from.
-/

namespace ClusterQuery

/-- The number `digits · 10 ^ exponent`. -/
structure Decimal where
  digits : Nat
  exponent : Int
deriving DecidableEq, Repr

namespace Decimal

/-- How many decimal digits a number has. -/
def digitCount (value : Nat) : Nat := (Nat.toDigits 10 value).length

/-- Exponent of the first digit of a positive quotient that is at least `10 ^ -340`. -/
def leadingExponent (numerator denominator : Nat) : Int :=
  (digitCount (numerator * Nat.pow 10 340 / denominator) : Int) - 341

/-- Whether a decimal reads back to the magnitude of `x`. -/
def denotes (x : Binary64) (decimal : Decimal) : Bool :=
  (Binary64.ofDecimal false decimal.digits decimal.exponent).magnitude == x.magnitude

/-- The decimal nearest to `x` on the grid of multiples of `10 ^ exponent`, if one of the two
neighbours of `x` on it reads back. The even neighbour is taken when both are equally near. -/
def onGrid (x : Binary64) (exponent : Int) : Option Decimal :=
  let numerator := x.numerator * Nat.pow 10 (-exponent).toNat
  let denominator := x.denominator * Nat.pow 10 exponent.toNat
  let floor := numerator / denominator
  let twice := 2 * (numerator % denominator)
  let lower : Decimal := ⟨floor, exponent⟩
  let upper : Decimal := ⟨floor + 1, exponent⟩
  let lowerFirst := twice < denominator ∨ (twice = denominator ∧ floor % 2 = 0)
  let candidates := if lowerFirst then [lower, upper] else [upper, lower]
  candidates.find? (denotes x)

/-- The exact value of a finite number. -/
def exact (x : Binary64) : Decimal :=
  ⟨x.significand * Nat.pow 2 x.exponent.toNat * Nat.pow 5 (-x.exponent).toNat, min 0 x.exponent⟩

/-- The shortest decimal of a finite number that is not zero, its sign left out. -/
def shortest (x : Binary64) : Decimal :=
  let first := leadingExponent x.numerator x.denominator
  let grids := (List.range 17).map fun (more : Nat) => first - (more : Int)
  (grids.findSome? (onGrid x)).getD (exact x)

/-- Digits with the zeros at the end removed. -/
def trimZeros (digits : List Char) : List Char :=
  (digits.reverse.dropWhile (· == '0')).reverse

/-- The significant digits of a decimal, without zeros at the end. -/
def significant (decimal : Decimal) : List Char :=
  trimZeros (Nat.toDigits 10 decimal.digits)

/-- Exponent of the first digit of a decimal. -/
def scientificExponent (decimal : Decimal) : Int :=
  decimal.exponent + digitCount decimal.digits - 1

end Decimal

end ClusterQuery
