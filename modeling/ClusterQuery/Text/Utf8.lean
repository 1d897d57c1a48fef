/-!
# UTF-8

The bytes of a text, and decoding of bytes, strictly or with U+FFFD in place of every maximal part
that cannot belong to a character.
-/

namespace ClusterQuery.Text

/-- What a lead byte promises: how many bytes follow, the range of the first of them, and the
lead's part of the code point. -/
structure Lead where
  follow : Nat
  low : Nat
  high : Nat
  bits : Nat

/-- The lead bytes of UTF-8. -/
def lead? (byte : Nat) : Option Lead :=
  if byte < 0x80 then some ⟨0, 0x80, 0xBF, byte⟩
  else if byte < 0xC2 then none
  else if byte < 0xE0 then some ⟨1, 0x80, 0xBF, byte - 0xC0⟩
  else if byte = 0xE0 then some ⟨2, 0xA0, 0xBF, 0⟩
  else if byte = 0xED then some ⟨2, 0x80, 0x9F, 0xD⟩
  else if byte < 0xF0 then some ⟨2, 0x80, 0xBF, byte - 0xE0⟩
  else if byte = 0xF0 then some ⟨3, 0x90, 0xBF, 0⟩
  else if byte < 0xF4 then some ⟨3, 0x80, 0xBF, byte - 0xF0⟩
  else if byte = 0xF4 then some ⟨3, 0x80, 0x8F, 4⟩
  else none

/-- The decoder between two bytes. -/
inductive DecoderState where
  | start
  /-- Inside a character: bytes still missing, the range of the next one, the bits so far. -/
  | inside (missing : Nat) (low high : Nat) (bits : Nat)

/-- Decodes bytes from a state. A byte that cannot go on ends the part before it, which gives
`none`, and is then decoded as a start; a part cut off by the end gives `none` as well. -/
def decodeFrom : DecoderState → List UInt8 → List (Option Char)
  | .start, [] => []
  | .inside .., [] => [none]
  | .start, byte :: rest =>
      match lead? byte.toNat with
      | none => none :: decodeFrom .start rest
      | some lead =>
          if lead.follow = 0 then some (Char.ofNat lead.bits) :: decodeFrom .start rest
          else decodeFrom (.inside lead.follow lead.low lead.high lead.bits) rest
  | .inside missing low high bits, byte :: rest =>
      if low ≤ byte.toNat ∧ byte.toNat ≤ high then
        let bits := bits * 0x40 + (byte.toNat - 0x80)
        if missing ≤ 1 then some (Char.ofNat bits) :: decodeFrom .start rest
        else decodeFrom (.inside (missing - 1) 0x80 0xBF bits) rest
      else
        match lead? byte.toNat with
        | none => none :: none :: decodeFrom .start rest
        | some lead =>
            none :: if lead.follow = 0 then some (Char.ofNat lead.bits) :: decodeFrom .start rest
              else decodeFrom (.inside lead.follow lead.low lead.high lead.bits) rest

/-- The text of bytes, with U+FFFD for every part that is not UTF-8. -/
def decodeLossy (bytes : List UInt8) : String :=
  String.ofList ((decodeFrom .start bytes).map fun decoded => decoded.getD '\uFFFD')

/-- The text of bytes that are UTF-8 throughout. -/
def decodeStrict? (bytes : List UInt8) : Option String :=
  ((decodeFrom .start bytes).mapM id).map String.ofList

/-- Bytes as characters, each the one with its number. -/
def octets (bytes : List UInt8) : List Char := bytes.map fun byte => Char.ofNat byte.toNat

/-- The bytes that stand as characters. -/
def ofOctets (chars : List Char) : List UInt8 := chars.map Char.toUInt8

/-- The bytes of a text. -/
def bytes (text : String) : List UInt8 := text.toUTF8.data.toList

end ClusterQuery.Text
