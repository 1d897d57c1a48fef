import ClusterQuery.Json.Token
import ClusterQuery.Text.Utf8

/-!
# Documents as they are spelt

Who has no use for a value passes it over: all that is found out is where it ends. Its numbers may
be out of every range, its strings need not be UTF-8 nor their escapes stand for characters, and it
may be nested to any depth. A raw document is read so throughout, and whatever is of use in it is
looked into afterwards. It is read from the octets of a body, each a character of its own.
-/

namespace ClusterQuery

/-- A document whose numbers and strings have not been looked into. -/
inductive RawJson where
  | null
  | bool (value : Bool)
  | number (literal : NumberLiteral)
  /-- What stands between the quotes, octet by octet. -/
  | string (inside : List Char)
  | array (items : List RawJson)
  | object (entries : List (List Char × RawJson))

namespace RawJson

/-! ## Reading -/

/-- The text from its first character that is no blank. -/
def skip (text : List Char) : List Char := text.dropWhile JsonToken.isSpace

/-- Passes over the inside of a string and its closing quote. -/
def readInside : List Char → Option (List Char × List Char)
  | [] => none
  | '"' :: rest => some ([], rest)
  | '\\' :: 'u' :: a :: b :: c :: d :: rest =>
      if [a, b, c, d].all fun digit => (Text.hexValue? digit).isSome then do
        let (inside, rest) ← readInside rest
        return ('\\' :: 'u' :: a :: b :: c :: d :: inside, rest)
      else none
  | '\\' :: mark :: rest =>
      if (JsonToken.simpleEscape? mark).isSome then do
        let (inside, rest) ← readInside rest
        return ('\\' :: mark :: inside, rest)
      else none
  | c :: rest =>
      if c = '\\' ∨ c.toNat < 0x20 then none
      else do
        let (inside, rest) ← readInside rest
        return (c :: inside, rest)

section Containers

variable {α : Type} (read : List Char → Option (α × List Char)) (close : Char)

/-- Reads at most `steps` values with commas between them, and the mark that closes them. -/
def readSeparated : (steps : Nat) → List Char → Option (List α × List Char)
  | 0, _ => none
  | steps + 1, text => do
      let (value, rest) ← read text
      match rest with
      | [] => none
      | mark :: rest =>
          if mark = ',' then
            let (values, rest) ← readSeparated steps rest
            return (value :: values, rest)
          else if mark = close then return ([value], rest)
          else none

/-- Reads what a container holds, which may be nothing, and the mark that closes it. -/
def readMembers (steps : Nat) (text : List Char) : Option (List α × List Char) :=
  match skip text with
  | [] => none
  | mark :: rest =>
      if mark = close then some ([], rest) else readSeparated read close steps text

end Containers

/-- Reads a key, a colon and a value. -/
def readEntry (read : List Char → Option (RawJson × List Char)) (text : List Char) :
    Option ((List Char × RawJson) × List Char) :=
  match skip text with
  | '"' :: rest => do
      let (key, rest) ← readInside rest
      match skip rest with
      | ':' :: rest => do
          let (value, rest) ← read rest
          return ((key, value), rest)
      | _ => none
  | _ => none

/-- Reads a value that begins with the text, given how the values in it are read. -/
def readBare (read : List Char → Option (RawJson × List Char)) (steps : Nat)
    (text : List Char) : Option (RawJson × List Char) :=
  match text with
  | '"' :: rest => (readInside rest).map fun (inside, rest) => (string inside, rest)
  | '[' :: rest => (readMembers read ']' steps rest).map fun (items, rest) => (array items, rest)
  | '{' :: rest =>
      (readMembers (readEntry read) '}' steps rest).map fun (entries, rest) =>
        (object entries, rest)
  | 'n' :: 'u' :: 'l' :: 'l' :: rest => some (null, rest)
  | 't' :: 'r' :: 'u' :: 'e' :: rest => some (bool true, rest)
  | 'f' :: 'a' :: 'l' :: 's' :: 'e' :: rest => some (bool false, rest)
  | other => (NumberLiteral.read? other).map fun (literal, rest) => (number literal, rest)

/-- Reads a value with the blanks around it; `steps` bounds how deep it is and what it holds. -/
def readValue : (steps : Nat) → List Char → Option (RawJson × List Char)
  | 0, _ => none
  | steps + 1, text =>
      (readBare (readValue steps) steps (skip text)).map fun (value, rest) => (value, skip rest)

/-- Reads a document. Each value takes a character, so the text's length bounds them. -/
def read? (text : List Char) : Option RawJson :=
  match readValue text.length text with
  | some (document, []) => some document
  | _ => none

/-- The document that the octets of a body spell. -/
def ofBytes? (bytes : List UInt8) : Option RawJson := read? (Text.octets bytes)

/-! ## Looking into a value -/

/-- The text that the inside of a string stands for: its octets are UTF-8, and its escapes stand for
characters. -/
def textOf? (inside : List Char) : Option String := do
  let spelt ← Text.decodeStrict? (Text.ofOctets inside)
  match JsonToken.readString (spelt.toList.length + 1) (spelt.toList ++ ['"']) with
  | some (value, []) => some (String.ofList value)
  | _ => none

def text? : RawJson → Option String
  | string inside => textOf? inside
  | _ => none

/-- A string, or null for none. -/
def nullableText? : RawJson → Option (Option String)
  | null => some none
  | string inside => (textOf? inside).map some
  | _ => none

/-- The entries of an object by the texts of their keys. -/
def keyed? (entries : List (List Char × RawJson)) : Option (List (String × RawJson)) :=
  entries.mapM fun entry => (textOf? entry.1).map fun name => (name, entry.2)

end RawJson

end ClusterQuery
