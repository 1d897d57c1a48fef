/-!
# Blank characters

White space in the sense of the Unicode property White_Space, and trimming by it. Text is
handled as a list of characters; `trim` is the same operation on strings.
-/

namespace ClusterQuery.Text

/-- The characters with the Unicode property White_Space. -/
def isBlank (c : Char) : Bool :=
  let code := c.toNat
  (0x09 ≤ code && code ≤ 0x0D) || code == 0x20 || code == 0x85 || code == 0xA0 ||
    code == 0x1680 || (0x2000 ≤ code && code ≤ 0x200A) || code == 0x2028 ||
    code == 0x2029 || code == 0x202F || code == 0x205F || code == 0x3000

/-- Removes the longest run at the end of a text whose characters all satisfy `test`. -/
def dropWhileEnd (test : Char → Bool) (text : List Char) : List Char :=
  (text.reverse.dropWhile test).reverse

/-- Removes the blank characters at both ends of a text. -/
def trimBlank (text : List Char) : List Char :=
  dropWhileEnd isBlank (text.dropWhile isBlank)

/-- Removes the blank characters at both ends of a string. -/
def trim (text : String) : String :=
  String.ofList (trimBlank text.toList)

@[simp] theorem toList_trim (text : String) : (trim text).toList = trimBlank text.toList := by
  simp [trim]

end ClusterQuery.Text
