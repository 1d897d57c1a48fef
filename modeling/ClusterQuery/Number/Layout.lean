import ClusterQuery.Number.Shortest
import ClusterQuery.Text.Numeral

/-!
# Decimal layout

Two ways to write the shortest decimal of a floating point number. The plain layout never uses
an exponent and writes whole numbers without a fraction. The document layout always shows that
a number is not a whole-number literal: it keeps `.0`, and uses a signed exponent outside
`-5 ≤ e < 16`, where `e` is the exponent of the first digit.
-/

namespace ClusterQuery.Decimal

/-- Digits placed around the point for a first digit of exponent `exponent`: the whole part and
the fraction. -/
def placed (digits : List Char) (exponent : Int) : List Char × List Char :=
  if exponent < 0 then (['0'], List.replicate (-exponent - 1).toNat '0' ++ digits)
  else
    let count := exponent.toNat + 1
    (digits.take count ++ List.replicate (count - digits.length) '0', digits.drop count)

/-- Whole part and fraction as text, the point left out when there is no fraction. -/
def joinPlain : List Char × List Char → List Char
  | (whole, []) => whole
  | (whole, fraction) => whole ++ '.' :: fraction

/-- Whole part and fraction as text with at least one digit after the point. -/
def joinPointed : List Char × List Char → List Char
  | (whole, []) => whole ++ ['.', '0']
  | (whole, fraction) => whole ++ '.' :: fraction

/-- Digits with a point after the first one, and a signed exponent. -/
def scientific (digits : List Char) (exponent : Int) : List Char :=
  let mantissa := joinPlain (digits.take 1, digits.drop 1)
  mantissa ++ 'e' :: (if exponent < 0 then '-' else '+') :: Text.writeNat exponent.natAbs

end ClusterQuery.Decimal

namespace ClusterQuery.Binary64

/-- A sign in front of a text. -/
def signed (negative : Bool) (text : List Char) : List Char :=
  if negative then '-' :: text else text

/-- The plain layout: positional, whole numbers without a point. -/
def plainText (x : Binary64) : String :=
  if x.isNaN then "NaN"
  else if x.isInfinite then if x.isNegative then "-inf" else "inf"
  else if x.isZero then if x.isNegative then "-0" else "0"
  else
    let decimal := Decimal.shortest x
    let placed := Decimal.placed decimal.significant decimal.scientificExponent
    String.ofList (signed x.isNegative (Decimal.joinPlain placed))

/-- The document layout of a finite number. -/
def documentChars (x : Binary64) : List Char :=
  if x.isZero then signed x.isNegative ['0', '.', '0']
  else
    let decimal := Decimal.shortest x
    let exponent := decimal.scientificExponent
    signed x.isNegative <|
      if -5 ≤ exponent ∧ exponent < 16 then
        Decimal.joinPointed (Decimal.placed decimal.significant exponent)
      else Decimal.scientific decimal.significant exponent

/-- The bits of a number as sixteen hexadecimal digits. -/
def bitsText (x : Binary64) : String :=
  String.ofList (Text.padZeros 16 (Text.hexDigits x.bits.toNat))

end ClusterQuery.Binary64
