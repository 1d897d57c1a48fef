import ClusterQuery.Json.Basic
import ClusterQuery.Text.Numeral

/-!
# JSON number literals

A literal without point and exponent is whole if a 64-bit word, signed or unsigned, holds it;
`-0` does not count as whole. Every other literal is floating point. Its digits are collected
from the left in a 64-bit word, as long as they fit; the word is converted and then scaled by a
power of ten in one multiplication or division, so the result may differ in the last bit from
the number nearest to a long literal. A literal beyond the finite numbers has no value.
-/

namespace ClusterQuery

/-- The parts of a JSON number literal. -/
structure NumberLiteral where
  negative : Bool
  whole : List Char
  /-- The digits after a point, if there is one. -/
  fraction : Option (List Char)
  /-- The exponent, if one is written. -/
  exponent : Option Int
deriving DecidableEq, Repr

namespace NumberLiteral

/-- Digits collected in a 64-bit word, and the power of ten by which the word is scaled. -/
structure Collected where
  word : Nat
  scale : Int

/-- Adds whole digits; from the first that does not fit, each only raises the scale. -/
def collectWhole : Nat → List Char → Collected
  | word, [] => ⟨word, 0⟩
  | word, c :: rest =>
      let next := 10 * word + (Text.digitValue? c).getD 0
      if next ≤ Text.maxNat64 then collectWhole next rest else ⟨word, (rest.length + 1 : Nat)⟩

/-- Adds fraction digits, each lowering the scale; the first that does not fit ends it. -/
def collectFraction : Collected → List Char → Collected
  | collected, [] => collected
  | collected, c :: rest =>
      let next := 10 * collected.word + (Text.digitValue? c).getD 0
      if next ≤ Text.maxNat64 then collectFraction ⟨next, collected.scale - 1⟩ rest else collected

/-- The power of ten `10 ^ exponent` as a floating point number. -/
def powerOfTen (exponent : Nat) : Binary64 := Binary64.ofDecimal false 1 exponent

/-- Divides by `10 ^ exponent`, in steps of at most `10 ^ 308`, and stops at zero. -/
def scaleDown (value : Binary64) (exponent : Nat) : Binary64 :=
  if exponent ≤ 308 then value.div (powerOfTen exponent)
  else if value.isZero then value
  else scaleDown (value.div (powerOfTen 308)) (exponent - 308)
termination_by exponent

/-- A word scaled by a power of ten; nothing if the result is not finite. -/
def scaled (word : Nat) (scale : Int) : Option Binary64 :=
  let value := Binary64.ofNat word
  if scale < 0 then some (scaleDown value scale.natAbs)
  else if value.isZero then some value
  else if 308 < scale then none
  else
    let product := value.mul (powerOfTen scale.toNat)
    if product.isInfinite then none else some product

/-- The literal's value as a floating point number. -/
def floating? (literal : NumberLiteral) : Option Binary64 :=
  let collected := collectFraction (collectWhole 0 literal.whole) (literal.fraction.getD [])
  (scaled collected.word (collected.scale + literal.exponent.getD 0)).map fun value =>
    if literal.negative then value.neg else value

/-- The literal's value as a 64-bit whole number. -/
def whole? (literal : NumberLiteral) : Option Int :=
  let value := Text.digitsValue literal.whole
  if literal.fraction.isSome || literal.exponent.isSome then none
  else if literal.negative then
    if 0 < value ∧ value ≤ Text.maxInt64 + 1 then some (-value) else none
  else if value ≤ Text.maxNat64 then some value else none

/-- The number that a literal denotes. -/
def value? (literal : NumberLiteral) : Option JsonNumber :=
  match literal.whole? with
  | some value => some (.whole value)
  | none => literal.floating?.map .floating

/-- Reads a point and the digits after it, of which there must be one. -/
def readFraction (text : List Char) : Option (Option (List Char) × List Char) :=
  match text with
  | '.' :: rest =>
      let (digits, rest) := Text.spanDigits rest
      if digits.isEmpty then none else some (some digits, rest)
  | other => some (none, other)

/-- Reads a sign, if there is one, and says whether it is a minus. -/
def readSign (text : List Char) : Bool × List Char :=
  match text with
  | '-' :: rest => (true, rest)
  | '+' :: rest => (false, rest)
  | other => (false, other)

/-- Reads an exponent mark, a sign and at least one digit. -/
def readExponent (text : List Char) : Option (Option Int × List Char) :=
  match text with
  | [] => some (none, [])
  | mark :: rest =>
      if mark = 'e' ∨ mark = 'E' then
        let (negative, rest) := readSign rest
        let (digits, rest) := Text.spanDigits rest
        let value := (Text.digitsValue digits : Int)
        if digits.isEmpty then none else some (some (if negative then -value else value), rest)
      else some (none, mark :: rest)

/-- Reads a literal after its sign and returns what follows it. A leading zero stands alone. -/
def readUnsigned (negative : Bool) (text : List Char) : Option (NumberLiteral × List Char) := do
  let (whole, rest) := Text.spanDigits text
  if whole.isEmpty || (whole.head? == some '0' && 1 < whole.length) then failure
  let (fraction, rest) ← readFraction rest
  let (exponent, rest) ← readExponent rest
  return (⟨negative, whole, fraction, exponent⟩, rest)

/-- Reads a literal at the start of a text and returns what follows it. -/
def read? (text : List Char) : Option (NumberLiteral × List Char) :=
  match text with
  | '-' :: rest => readUnsigned true rest
  | other => readUnsigned false other

end NumberLiteral

end ClusterQuery
