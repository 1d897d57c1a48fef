import ClusterQuery.Text.Printable
import ClusterQuery.Text.Ascii

/-!
# Quoted text

How a message shows a piece of text: between double quotes, with quotes, backslashes and
characters that would not show escaped.
-/

namespace ClusterQuery.Text

/-- One character as a message shows it. -/
def showChar (c : Char) : List Char :=
  if c = '"' then ['\\', '"']
  else if c = '\\' then ['\\', '\\']
  else if c = '\t' then ['\\', 't']
  else if c = '\r' then ['\\', 'r']
  else if c = '\n' then ['\\', 'n']
  else if c.toNat = 0 then ['\\', '0']
  else if isPlain c then [c]
  else '\\' :: 'u' :: '{' :: (hexDigits c.toNat ++ ['}'])

/-- A text between double quotes, as a message shows it. -/
def quoted (text : String) : String :=
  String.ofList ('"' :: (text.toList.flatMap showChar ++ ['"']))

end ClusterQuery.Text
