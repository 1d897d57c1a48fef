/-!
# ASCII letters and digits

Case and digits of the ASCII range. Every character outside it is left alone, so folding
never merges two characters that differ outside ASCII.
-/

namespace ClusterQuery.Text

/-- The lower-case form of an ASCII capital; every other character is itself. -/
def lowerAscii (c : Char) : Char :=
  if 'A' ≤ c ∧ c ≤ 'Z' then Char.ofNat (c.toNat + 32) else c

/-- A string with its ASCII capitals in lower case. -/
def lowercase (text : String) : String :=
  String.ofList (text.toList.map lowerAscii)

/-- Equality up to the case of ASCII letters. -/
def sameIgnoringCase (left right : String) : Bool :=
  left.toList.map lowerAscii == right.toList.map lowerAscii

/-- The value of an ASCII decimal digit. -/
def digitValue? (c : Char) : Option Nat :=
  if '0' ≤ c ∧ c ≤ '9' then some (c.toNat - '0'.toNat) else none

/-- The value of an ASCII hexadecimal digit in either case. -/
def hexValue? (c : Char) : Option Nat :=
  if '0' ≤ c ∧ c ≤ '9' then some (c.toNat - '0'.toNat)
  else if 'a' ≤ c ∧ c ≤ 'f' then some (c.toNat - 'a'.toNat + 10)
  else if 'A' ≤ c ∧ c ≤ 'F' then some (c.toNat - 'A'.toNat + 10)
  else none

/-- Whether a character is an ASCII decimal digit. -/
def isDigit (c : Char) : Bool := (digitValue? c).isSome

/-- Whether a character is an ASCII letter or digit. -/
def isAlphanumeric (c : Char) : Bool :=
  isDigit c || ('a' ≤ c && c ≤ 'z') || ('A' ≤ c && c ≤ 'Z')

/-- The number that a run of digits denotes in base ten, read from the left. Characters that
are not digits count as zero; callers pass digits only. -/
def digitsValue (digits : List Char) : Nat :=
  digits.foldl (fun value c => 10 * value + (digitValue? c).getD 0) 0

/-- Splits a text after its longest leading run of digits. -/
def spanDigits (text : List Char) : List Char × List Char :=
  (text.takeWhile isDigit, text.dropWhile isDigit)

/-- The hexadecimal digits of a number, in lower case and without leading zeros. -/
def hexDigits (value : Nat) : List Char := Nat.toDigits 16 value

/-- A list of digits widened on the left with zeros to at least `width`. -/
def padZeros (width : Nat) (digits : List Char) : List Char :=
  List.replicate (width - digits.length) '0' ++ digits

/-- The decimal digits of a number, widened with zeros to at least `width`. -/
def decimalPadded (width value : Nat) : List Char :=
  padZeros width (Nat.toDigits 10 value)

end ClusterQuery.Text
