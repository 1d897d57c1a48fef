import ClusterQuery.Text.Ascii
import ClusterQuery.Text.Utf8

/-!
# Form encoding

The encoding of a query string's values: ASCII letters, digits and `*-._` stay, a space becomes
a plus sign, and every other byte of the UTF-8 form is written as `%` and two capital
hexadecimal digits.
-/

namespace ClusterQuery.Text

/-- A byte as `%` and two capital hexadecimal digits. -/
def percentEncoded (byte : UInt8) : List Char :=
  '%' :: (padZeros 2 (hexDigits byte.toNat)).map Char.toUpper

def formByte (byte : UInt8) : List Char :=
  let c := Char.ofNat byte.toNat
  if c = ' ' then ['+']
  else if isAlphanumeric c || c == '*' || c == '-' || c == '.' || c == '_' then [c]
  else percentEncoded byte

/-- A form value as a query string holds it. -/
def formEncoded (value : String) : String :=
  String.ofList ((bytes value).flatMap formByte)

end ClusterQuery.Text
