import ClusterQuery.Number.Binary64
import ClusterQuery.Text.Ascii

/-!
# Floating point numbers in text

A floating point number is read from an optional sign followed by `inf`, `infinity` or `nan` in
any case, or by digits with an optional point and exponent. The value is the number nearest to
the decimal that was written; beyond the finite numbers it is infinite.
-/

namespace ClusterQuery.Binary64

/-- The number nearest to `digits · 10 ^ exponent`, decided by size alone where the exponent is
so far out that every number of so many digits is zero or infinite. -/
def ofLargeDecimal (negative : Bool) (digits : List Char) (exponent : Int) : Binary64 :=
  let value := Text.digitsValue digits
  if value = 0 then zero negative
  else if exponent + digits.length < -400 then zero negative
  else if 400 < exponent then infinity negative
  else ofDecimal negative value exponent

/-- Reads the exponent after a mark: an optional sign and at least one digit, to the end. -/
def readExponent (text : List Char) : Option Int :=
  let read (digits : List Char) : Option Nat :=
    if digits.isEmpty ∨ !digits.all Text.isDigit then none else some (Text.digitsValue digits)
  match text with
  | '-' :: digits => (read digits).map fun value => -(value : Int)
  | '+' :: digits => (read digits).map fun value => (value : Int)
  | digits => (read digits).map fun value => (value : Int)

/-- Reads an unsigned decimal with an optional point and exponent. -/
def readMagnitude (negative : Bool) (text : List Char) : Option Binary64 :=
  let (whole, afterWhole) := Text.spanDigits text
  let (fraction, rest) :=
    match afterWhole with
    | '.' :: afterPoint => Text.spanDigits afterPoint
    | other => ([], other)
  if whole.isEmpty && fraction.isEmpty then none
  else
    let value (exponent : Int) :=
      ofLargeDecimal negative (whole ++ fraction) (exponent - fraction.length)
    match rest with
    | [] => some (value 0)
    | mark :: digits =>
        if mark = 'e' ∨ mark = 'E' then (readExponent digits).map value else none

def read? (text : List Char) : Option Binary64 :=
  let (negative, unsigned) :=
    match text with
    | '-' :: rest => (true, rest)
    | '+' :: rest => (false, rest)
    | other => (false, other)
  let word := unsigned.map Text.lowerAscii
  if word = ['i', 'n', 'f'] ∨ word = ['i', 'n', 'f', 'i', 'n', 'i', 't', 'y'] then
    some (infinity negative)
  else if word = ['n', 'a', 'n'] then some (nan negative)
  else readMagnitude negative unsigned

end ClusterQuery.Binary64
