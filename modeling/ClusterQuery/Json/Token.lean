import ClusterQuery.Json.Number

/-!
# JSON tokens

A text is cut into punctuation, strings and other literals; blanks between them are spaces,
tabs and line breaks. A string must not hold an unescaped control character, and an escaped
surrogate only as the first of a pair with its second.
-/

namespace ClusterQuery

/-- A token of a JSON text. -/
inductive JsonToken where
  | openArray
  | closeArray
  | openObject
  | closeObject
  | comma
  | colon
  | string (value : String)
  /-- `null`, a truth value or a number. -/
  | literal (value : Json)
deriving Repr

namespace JsonToken

/-- Four hexadecimal digits at the start of a text, and the rest. -/
def readHex4 : List Char → Option (Nat × List Char)
  | a :: b :: c :: d :: rest => do
      let a ← Text.hexValue? a
      let b ← Text.hexValue? b
      let c ← Text.hexValue? c
      let d ← Text.hexValue? d
      return (((a * 16 + b) * 16 + c) * 16 + d, rest)
  | _ => none

/-- The character of an escaped UTF-16 unit after `\u`, with its second unit if it needs one. -/
def readUnicode (text : List Char) : Option (Char × List Char) := do
  let (unit, rest) ← readHex4 text
  if 0xD800 ≤ unit ∧ unit < 0xDC00 then
    match rest with
    | '\\' :: 'u' :: rest =>
        let (second, rest) ← readHex4 rest
        if 0xDC00 ≤ second ∧ second < 0xE000 then
          return (Char.ofNat (0x10000 + (unit - 0xD800) * 0x400 + (second - 0xDC00)), rest)
        else failure
    | _ => failure
  else if 0xDC00 ≤ unit ∧ unit < 0xE000 then failure
  else return (Char.ofNat unit, rest)

/-- The character that a one-letter escape stands for. -/
def simpleEscape? (c : Char) : Option Char :=
  match c with
  | '"' => some '"'
  | '\\' => some '\\'
  | '/' => some '/'
  | 'b' => some '\x08'
  | 'f' => some '\x0c'
  | 'n' => some '\n'
  | 'r' => some '\r'
  | 't' => some '\t'
  | _ => none

/-- Reads the inside of a string up to its closing quote, with at most `steps` characters. -/
def readString : (steps : Nat) → List Char → Option (List Char × List Char)
  | 0, _ => none
  | _ + 1, [] => none
  | _ + 1, '"' :: rest => some ([], rest)
  | steps + 1, '\\' :: 'u' :: rest => do
      let (c, rest) ← readUnicode rest
      let (value, rest) ← readString steps rest
      return (c :: value, rest)
  | steps + 1, '\\' :: mark :: rest => do
      let c ← simpleEscape? mark
      let (value, rest) ← readString steps rest
      return (c :: value, rest)
  | steps + 1, c :: rest =>
      if c = '\\' ∨ c.toNat < 0x20 then none
      else do
        let (value, rest) ← readString steps rest
        return (c :: value, rest)

/-- The characters that may stand between tokens. -/
def isSpace (c : Char) : Bool := c == ' ' || c == '\t' || c == '\n' || c == '\r'

/-- Reads the token at the start of a text. -/
def next? (text : List Char) : Option (JsonToken × List Char) :=
  match text with
  | '[' :: rest => some (.openArray, rest)
  | ']' :: rest => some (.closeArray, rest)
  | '{' :: rest => some (.openObject, rest)
  | '}' :: rest => some (.closeObject, rest)
  | ',' :: rest => some (.comma, rest)
  | ':' :: rest => some (.colon, rest)
  | '"' :: rest =>
      (readString text.length rest).map fun (value, rest) => (.string (String.ofList value), rest)
  | 'n' :: 'u' :: 'l' :: 'l' :: rest => some (.literal .null, rest)
  | 't' :: 'r' :: 'u' :: 'e' :: rest => some (.literal (.bool true), rest)
  | 'f' :: 'a' :: 'l' :: 's' :: 'e' :: rest => some (.literal (.bool false), rest)
  | other => do
      let (numeral, rest) ← NumberLiteral.read? other
      let value ← numeral.value?
      return (.literal (.number value), rest)

/-- Cuts a text into at most `steps` tokens and blanks. -/
def scanWithin : (steps : Nat) → List Char → Option (List JsonToken)
  | _, [] => some []
  | 0, _ :: _ => none
  | steps + 1, c :: rest =>
      if isSpace c then scanWithin steps rest
      else do
        let (token, rest) ← next? (c :: rest)
        let tokens ← scanWithin steps rest
        return token :: tokens

/-- Cuts a text into tokens. Every token takes a character, so the text's length bounds them. -/
def scan (text : List Char) : Option (List JsonToken) := scanWithin text.length text

end JsonToken

end ClusterQuery
