import ClusterQuery.Text.Ascii
import ClusterQuery.Text.Blank
import ClusterQuery.Text.Pieces

/-!
# Log filters

How much is logged is set by directives between commas. A directive is a level, or the name of a
part of the program, a span in brackets, or both, which a level may follow behind an equals
sign.
-/

namespace ClusterQuery.LogFilter

/-- The names of the levels; the digits 0 to 5 stand for them too. -/
def levels : List String := ["trace", "debug", "info", "warn", "error", "off"]

/-- Whether a text names a level, in any case. -/
def isLevel (text : List Char) : Bool :=
  levels.contains (Text.lowercase (String.ofList text)) ||
    match text with
    | [digit] => '0' ≤ digit && digit ≤ '5'
    | _ => false

/-- A character of a name. Beyond ASCII every character that is not blank counts. -/
def isNameChar (c : Char) : Bool :=
  Text.isAlphanumeric c || c == '_' || c == ':' || c == '-' || (0x7F < c.toNat && !Text.isBlank c)

/-- A text without the name or the span that it begins with; none where it begins with neither. -/
def dropPart? : List Char → Option (List Char)
  | '[' :: rest =>
      match rest.dropWhile (· != ']') with
      | _ :: after => some after
      | [] => none
  | c :: rest => if isNameChar c then some (rest.dropWhile isNameChar) else none
  | [] => none

/-- Whether a text is empty or an equals sign with a level or with nothing. -/
def endsDirective : List Char → Bool
  | [] => true
  | '=' :: level => level.isEmpty || isLevel level
  | _ => false

/-- Whether a text is a directive: one or two parts, then perhaps a level. -/
def isDirective (text : List Char) : Bool :=
  isLevel text ||
    match dropPart? text with
    | none => false
    | some rest => endsDirective rest || ((dropPart? rest).map endsDirective).getD false

/-- Whether a text can be used as a log filter. Empty directives are ignored. -/
def isUsable (text : String) : Bool :=
  (Text.pieces ',' text.toList).all fun directive => directive.isEmpty || isDirective directive

end ClusterQuery.LogFilter
