import ClusterQuery.Json.Basic
import ClusterQuery.Number.Layout

/-!
# Writing JSON

Two layouts. The compact one has no spaces; it is the text by which records are compared and
which messages quote. The indented one puts every item and entry on a line of its own, two
spaces deeper than its container. Only quotes, backslashes and characters below U+0020 are
escaped.
-/

namespace ClusterQuery.Json

/-- One character of a string, escaped where JSON needs it. -/
def escapeChar (c : Char) : List Char :=
  if c = '"' then ['\\', '"']
  else if c = '\\' then ['\\', '\\']
  else if c = '\x08' then ['\\', 'b']
  else if c = '\x0c' then ['\\', 'f']
  else if c = '\n' then ['\\', 'n']
  else if c = '\r' then ['\\', 'r']
  else if c = '\t' then ['\\', 't']
  else if c.toNat < 0x20 then '\\' :: 'u' :: Text.padZeros 4 (Text.hexDigits c.toNat)
  else [c]

def quotedChars (text : String) : List Char :=
  '"' :: (text.toList.flatMap escapeChar ++ ['"'])

def numberChars : JsonNumber → List Char
  | .whole value => Text.writeInt value
  | .floating value => value.documentChars

mutual

def chars : Json → List Char
  | .null => ['n', 'u', 'l', 'l']
  | .bool true => ['t', 'r', 'u', 'e']
  | .bool false => ['f', 'a', 'l', 's', 'e']
  | .number value => numberChars value
  | .string value => quotedChars value
  | .array [] => ['[', ']']
  | .array (item :: rest) => '[' :: (chars item ++ itemsChars rest)
  | .object [] => ['{', '}']
  | .object ((key, value) :: rest) =>
      '{' :: (quotedChars key ++ ':' :: (chars value ++ entriesChars rest))

/-- The items after the first, each behind a comma, and the closing bracket. -/
def itemsChars : List Json → List Char
  | [] => [']']
  | item :: rest => ',' :: (chars item ++ itemsChars rest)

/-- The entries after the first, each behind a comma, and the closing brace. -/
def entriesChars : List (String × Json) → List Char
  | [] => ['}']
  | (key, value) :: rest =>
      ',' :: (quotedChars key ++ ':' :: (chars value ++ entriesChars rest))

end

def text (document : Json) : String := String.ofList (chars document)

/-- A line break followed by two spaces for each level. -/
def lineBreak (level : Nat) : List Char := '\n' :: List.replicate (2 * level) ' '

mutual

/-- The indented text of a document whose container stands at the given level. -/
def indentedChars (level : Nat) : Json → List Char
  | .array (item :: rest) =>
      '[' :: (lineBreak (level + 1) ++ indentedChars (level + 1) item ++ indentedItems level rest)
  | .object ((key, value) :: rest) =>
      '{' :: (lineBreak (level + 1) ++ quotedChars key ++ ':' :: ' ' ::
        (indentedChars (level + 1) value ++ indentedEntries level rest))
  | flat => chars flat

/-- The items after the first and the closing bracket, each on its own line. -/
def indentedItems (level : Nat) : List Json → List Char
  | [] => lineBreak level ++ [']']
  | item :: rest =>
      ',' :: (lineBreak (level + 1) ++ indentedChars (level + 1) item ++ indentedItems level rest)

/-- The entries after the first and the closing brace, each on its own line. -/
def indentedEntries (level : Nat) : List (String × Json) → List Char
  | [] => lineBreak level ++ ['}']
  | (key, value) :: rest =>
      ',' :: (lineBreak (level + 1) ++ quotedChars key ++ ':' :: ' ' ::
        (indentedChars (level + 1) value ++ indentedEntries level rest))

end

def indentedText (document : Json) : String := String.ofList (indentedChars 0 document)

end ClusterQuery.Json
