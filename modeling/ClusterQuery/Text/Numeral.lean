import ClusterQuery.Text.Ascii

/-!
# Whole numbers in text

Whole numbers are written in base ten with a minus sign for negatives. They are read with one
optional sign and at least one ASCII digit; leading zeros are accepted. Reading reports the
first fault from the left: a character that is no digit, or the digit at which the number
leaves its range.
-/

namespace ClusterQuery.Text

/-- Why a text is not a whole number of the wanted range. -/
inductive NumeralFault where
  | empty
  | invalidDigit
  | tooLarge
deriving DecidableEq, Repr

def NumeralFault.message : NumeralFault → String
  | .empty => "cannot parse integer from empty string"
  | .invalidDigit => "invalid digit found in string"
  | .tooLarge => "number too large to fit in target type"

/-- Reads digits after `value`, refusing any that take it above `bound`. -/
def readDigits (bound : Nat) : Nat → List Char → Except NumeralFault Nat
  | value, [] => .ok value
  | value, c :: rest =>
      match digitValue? c with
      | none => .error .invalidDigit
      | some digit =>
          if 10 * value + digit ≤ bound then readDigits bound (10 * value + digit) rest
          else .error .tooLarge

/-- Reads a number from zero to `bound`, with an optional plus sign. A minus sign is no digit. -/
def readNat (bound : Nat) (text : List Char) : Except NumeralFault Nat :=
  match text with
  | [] => .error .empty
  | ['+'] => .error .invalidDigit
  | '+' :: digits => readDigits bound 0 digits
  | digits => readDigits bound 0 digits

def maxInt64 : Nat := 9223372036854775807

def maxNat64 : Nat := 18446744073709551615

/-- Whether a number is a 64-bit signed one. -/
def isInt64 (value : Int) : Bool :=
  -(maxInt64 + 1 : Int) ≤ value && value ≤ maxInt64

/-- Reads a 64-bit signed number with an optional sign. -/
def readInt64 (text : List Char) : Option Int :=
  match text with
  | ['-'] => none
  | '-' :: digits =>
      (readDigits (maxInt64 + 1) 0 digits).toOption.map fun value : Nat => -(value : Int)
  | text => (readNat maxInt64 text).toOption.map fun value : Nat => (value : Int)

/-- The decimal text of a number, without leading zeros. -/
def writeNat (value : Nat) : List Char := Nat.toDigits 10 value

/-- The decimal text of a number, with a minus sign below zero. -/
def writeInt : Int → List Char
  | .ofNat value => writeNat value
  | .negSucc value => '-' :: writeNat (value + 1)

end ClusterQuery.Text
