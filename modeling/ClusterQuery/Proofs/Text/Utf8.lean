import ClusterQuery.Text.Truncation
import Mathlib.Tactic.IntervalCases

/-!
# Texts through their bytes

The bytes of a text are decoded as the text, whether strictly or not, and no other bytes are
decoded strictly. A lead byte says how many bytes follow, and its range for the first of them
leaves out just those that would spell a character in more bytes than it takes, a surrogate, or a
number beyond all characters.
-/

namespace ClusterQuery.Text

/-! ## The bytes of a character -/

/-- The code of a character and the bytes that spell it. -/
inductive Spells (code : Nat) : List UInt8 → Prop where
  | one {first : UInt8} (lead : first.toNat = code) (below : code < 0x80) : Spells code [first]
  | two {first second : UInt8} (lead : first.toNat = code / 64 + 192)
      (last : second.toNat = code % 64 + 128) (above : 0x80 ≤ code) (below : code < 0x800) :
      Spells code [first, second]
  | three {first second third : UInt8} (lead : first.toNat = code / 4096 + 224)
      (next : second.toNat = code / 64 % 64 + 128) (last : third.toNat = code % 64 + 128)
      (above : 0x800 ≤ code) (below : code < 0x10000) : Spells code [first, second, third]
  | four {first second third fourth : UInt8} (lead : first.toNat = code / 262144 + 240)
      (next : second.toNat = code / 4096 % 64 + 128) (next' : third.toNat = code / 64 % 64 + 128)
      (last : fourth.toNat = code % 64 + 128) (above : 0x10000 ≤ code) :
      Spells code [first, second, third, fourth]

theorem spells_utf8EncodeChar (c : Char) : Spells c.val.toNat (String.utf8EncodeChar c) := by
  have valid : c.val.toNat < 0xD800 ∨ 0xDFFF < c.val.toNat ∧ c.val.toNat < 0x110000 := c.valid
  have toNat_ofNat {value : Nat} (small : value < 256) : (UInt8.ofNat value).toNat = value := by
    rw [UInt8.toNat_ofNat', Nat.mod_eq_of_lt small]
  simp only [String.utf8EncodeChar]
  generalize c.val.toNat = code at *
  split
  next => exact .one (toNat_ofNat (by omega)) (by omega)
  split
  next =>
    refine .two ?_ (toNat_ofNat (by omega)) (by omega) (by omega)
    rw [toNat_ofNat (by omega)]
    omega
  split
  next =>
    refine .three ?_ (toNat_ofNat (by omega)) (toNat_ofNat (by omega)) (by omega) (by omega)
    rw [toNat_ofNat (by omega)]
    omega
  next =>
    refine .four ?_ (toNat_ofNat (by omega)) (toNat_ofNat (by omega)) (toNat_ofNat (by omega))
      (by omega)
    rw [toNat_ofNat (by omega)]
    omega

/-- The bytes that spell the code of a character are the character's. -/
theorem Spells.utf8EncodeChar_eq {code : Nat} {bytes : List UInt8} (spells : Spells code bytes)
    (valid : code < 0xD800 ∨ 0xDFFF < code ∧ code < 0x110000) :
    String.utf8EncodeChar (Char.ofNat code) = bytes := by
  have same : (Char.ofNat code).val.toNat = code := by
    rw [Char.ofNat, dif_pos valid]
    rfl
  have byteOf (byte : UInt8) {value : Nat} (equal : byte.toNat = value) :
      UInt8.ofNat value = byte := by
    rw [← equal, UInt8.ofNat_toNat]
  rw [String.utf8EncodeChar, same]
  cases spells with
  | one lead below => rw [if_pos (by omega), byteOf _ lead]
  | @two first second lead last above below =>
      have lead : first.toNat = code / 64 % 32 + 192 := by omega
      rw [if_neg (by omega), if_pos (by omega), byteOf first lead, byteOf _ last]
  | @three first second third lead next last above below =>
      have lead : first.toNat = code / 4096 % 16 + 224 := by omega
      rw [if_neg (by omega), if_neg (by omega), if_pos (by omega), byteOf first lead,
        byteOf _ next, byteOf _ last]
  | @four first second third fourth lead next next' last above =>
      have lead : first.toNat = code / 262144 % 8 + 240 := by omega
      rw [if_neg (by omega), if_neg (by omega), if_neg (by omega), byteOf first lead,
        byteOf _ next, byteOf _ next', byteOf _ last]

/-! ## Lead bytes -/

/-- The lead byte of a character of two bytes. -/
theorem lead?_two {code : Nat} (low : 0x80 ≤ code) (high : code < 0x800) :
    lead? (code / 64 + 192) = some ⟨1, 0x80, 0xBF, code / 64⟩ := by
  rw [lead?, if_neg (by omega), if_neg (by omega), if_pos (by omega), Nat.add_sub_cancel]

theorem lead?_three {block : Nat} (small : block < 16) :
    lead? (block + 224) =
      some (if block = 0 then ⟨2, 0xA0, 0xBF, 0⟩
        else if block = 13 then ⟨2, 0x80, 0x9F, 13⟩ else ⟨2, 0x80, 0xBF, block⟩) := by
  interval_cases block <;> rfl

theorem lead?_four {block : Nat} (small : block < 5) :
    lead? (block + 240) =
      some (if block = 0 then ⟨3, 0x90, 0xBF, 0⟩
        else if block = 4 then ⟨3, 0x80, 0x8F, 4⟩ else ⟨3, 0x80, 0xBF, block⟩) := by
  interval_cases block <;> rfl

/-- The lead byte of a character of three bytes leaves room for its second one. -/
theorem exists_lead?_three {code : Nat} (low : 0x800 ≤ code) (high : code < 0x10000)
    (noSurrogate : code < 0xD800 ∨ 0xDFFF < code) :
    ∃ least most, lead? (code / 4096 + 224) = some ⟨2, least, most, code / 4096⟩ ∧
      least ≤ code / 64 % 64 + 128 ∧ code / 64 % 64 + 128 ≤ most := by
  rw [lead?_three (by omega)]
  split
  next first => exact ⟨_, _, by rw [first], by omega, by omega⟩
  split
  next last => exact ⟨_, _, by rw [last], by omega, by omega⟩
  next => exact ⟨_, _, rfl, by omega, by omega⟩

/-- The lead byte of a character of four bytes leaves room for its second one. -/
theorem exists_lead?_four {code : Nat} (low : 0x10000 ≤ code) (high : code < 0x110000) :
    ∃ least most, lead? (code / 262144 + 240) = some ⟨3, least, most, code / 262144⟩ ∧
      least ≤ code / 4096 % 64 + 128 ∧ code / 4096 % 64 + 128 ≤ most := by
  rw [lead?_four (by omega)]
  split
  next first => exact ⟨_, _, by rw [first], by omega, by omega⟩
  split
  next last => exact ⟨_, _, by rw [last], by omega, by omega⟩
  next => exact ⟨_, _, rfl, by omega, by omega⟩

/-- What a lead byte may tell about the character that it begins. -/
inductive Leads (byte : Nat) : Lead → Prop where
  | one (below : byte < 0x80) : Leads byte ⟨0, 0x80, 0xBF, byte⟩
  | two (above : 0xC2 ≤ byte) (below : byte < 0xE0) : Leads byte ⟨1, 0x80, 0xBF, byte - 0xC0⟩
  | three {low high : Nat} (above : 0xE0 ≤ byte) (below : byte < 0xF0)
      (range : 0x80 ≤ low ∧ high ≤ 0xBF) (least : byte = 0xE0 → 0xA0 ≤ low)
      (most : byte = 0xED → high ≤ 0x9F) : Leads byte ⟨2, low, high, byte - 0xE0⟩
  | four {low high : Nat} (above : 0xF0 ≤ byte) (below : byte < 0xF5)
      (range : 0x80 ≤ low ∧ high ≤ 0xBF) (least : byte = 0xF0 → 0x90 ≤ low)
      (most : byte = 0xF4 → high ≤ 0x8F) : Leads byte ⟨3, low, high, byte - 0xF0⟩

theorem leads_of_lead? {byte : Nat} {lead : Lead} (found : lead? byte = some lead) :
    Leads byte lead := by
  unfold lead? at found
  split at found
  next below => exact Option.some.inj found ▸ .one below
  split at found
  next => cases found
  split at found
  next below => exact Option.some.inj found ▸ .two (by omega) below
  split at found
  next equal =>
    subst equal
    exact Option.some.inj found ▸ .three (by omega) (by omega) (by omega) (by omega) (by omega)
  split at found
  next equal =>
    subst equal
    exact Option.some.inj found ▸ .three (by omega) (by omega) (by omega) (by omega) (by omega)
  split at found
  next below =>
    exact Option.some.inj found ▸ .three (by omega) below (by omega) (by omega) (by omega)
  split at found
  next equal =>
    subst equal
    exact Option.some.inj found ▸ .four (by omega) (by omega) (by omega) (by omega) (by omega)
  split at found
  next below =>
    exact Option.some.inj found ▸ .four (by omega) (by omega) (by omega) (by omega) (by omega)
  split at found
  next equal =>
    subst equal
    exact Option.some.inj found ▸ .four (by omega) (by omega) (by omega) (by omega) (by omega)
  next => cases found

/-! ## The bytes of a text are decoded as the text -/

section Inside

variable {byte : UInt8} {missing low high bits part : Nat} (rest : List UInt8)

theorem decodeFrom_lead (leads : lead? byte.toNat = some ⟨missing + 1, low, high, bits⟩) :
    decodeFrom .start (byte :: rest) = decodeFrom (.inside (missing + 1) low high bits) rest := by
  simp [decodeFrom, leads]

/-- A byte within the range brings six more bits. -/
theorem decodeFrom_next (isNext : byte.toNat = part + 128)
    (inRange : low ≤ part + 128 ∧ part + 128 ≤ high) :
    decodeFrom (.inside (missing + 2) low high bits) (byte :: rest) =
      decodeFrom (.inside (missing + 1) 0x80 0xBF (bits * 64 + part)) rest := by
  rw [decodeFrom, isNext, if_pos inRange, Nat.add_sub_cancel]
  rfl

/-- A byte within the range completes a character of which only it is missing. -/
theorem decodeFrom_last (isLast : byte.toNat = part + 128)
    (inRange : low ≤ part + 128 ∧ part + 128 ≤ high) :
    decodeFrom (.inside 1 low high bits) (byte :: rest) =
      some (Char.ofNat (bits * 64 + part)) :: decodeFrom .start rest := by
  rw [decodeFrom, isLast, if_pos inRange, Nat.add_sub_cancel]
  rfl

end Inside

/-- The bytes of a character are decoded as the character. -/
theorem decodeFrom_utf8EncodeChar (c : Char) (rest : List UInt8) :
    decodeFrom .start (String.utf8EncodeChar c ++ rest) = some c :: decodeFrom .start rest := by
  have valid : c.val.toNat < 0xD800 ∨ 0xDFFF < c.val.toNat ∧ c.val.toNat < 0x110000 := c.valid
  have self : Char.ofNat c.val.toNat = c := Char.ofNat_toNat c
  have any (code : Nat) : 0x80 ≤ code % 64 + 128 ∧ code % 64 + 128 ≤ 0xBF := by omega
  have spells := spells_utf8EncodeChar c
  generalize String.utf8EncodeChar c = spelled at spells ⊢
  generalize c.val.toNat = code at *
  cases spells with
  | one lead below =>
      have leads : lead? code = some ⟨0, 0x80, 0xBF, code⟩ := if_pos below
      simp [decodeFrom, lead, leads, self]
  | two lead last above below =>
      have leads := lead?_two above below
      rw [← lead] at leads
      simp only [List.cons_append, List.nil_append, decodeFrom_lead _ leads,
        decodeFrom_last _ last (any _)]
      rw [show code / 64 * 64 + code % 64 = code by omega, self]
  | three lead next last above below =>
      obtain ⟨least, most, leads, room⟩ := exists_lead?_three above below (by omega)
      rw [← lead] at leads
      simp only [List.cons_append, List.nil_append, decodeFrom_lead _ leads,
        decodeFrom_next _ next room, decodeFrom_last _ last (any _)]
      rw [show (code / 4096 * 64 + code / 64 % 64) * 64 + code % 64 = code by omega, self]
  | four lead next next' last above =>
      obtain ⟨least, most, leads, room⟩ := exists_lead?_four above (by omega)
      rw [← lead] at leads
      simp only [List.cons_append, List.nil_append, decodeFrom_lead _ leads,
        decodeFrom_next _ next room, decodeFrom_next _ next' (any _),
        decodeFrom_last _ last (any _)]
      rw [show ((code / 262144 * 64 + code / 4096 % 64) * 64 + code / 64 % 64) * 64 + code % 64 =
        code by omega, self]

theorem decodeFrom_bytes (chars : List Char) :
    decodeFrom .start (chars.flatMap String.utf8EncodeChar) = chars.map some := by
  induction chars with
  | nil => rfl
  | cons c rest ih => rw [List.flatMap_cons, decodeFrom_utf8EncodeChar, ih, List.map_cons]

theorem decodeLossy_bytes (text : String) : decodeLossy (bytes text) = text := by
  rw [decodeLossy, bytes_eq_flatMap, decodeFrom_bytes, List.map_map]
  exact (congrArg String.ofList (List.map_id _)).trans String.ofList_toList

/-! ## Only the bytes of a text are decoded throughout -/

section Peeling

variable {first : UInt8} {missing low high bits : Nat} {bytes : List UInt8} {chars : List Char}

/-- Inside a character that is decoded, a byte within the range comes next. -/
theorem of_decodeFrom_last
    (decoded : decodeFrom (.inside 1 low high bits) bytes = chars.map some) :
    ∃ byte rest others, bytes = byte :: rest ∧ low ≤ byte.toNat ∧ byte.toNat ≤ high ∧
      chars = Char.ofNat (bits * 64 + (byte.toNat - 128)) :: others ∧
      decodeFrom .start rest = others.map some := by
  cases bytes with
  | nil => cases chars <;> cases decoded
  | cons byte rest =>
      rw [decodeFrom] at decoded
      split at decoded
      next inRange =>
        cases chars with
        | nil => cases decoded
        | cons c others =>
            obtain ⟨equal, decoded⟩ := List.cons.inj decoded
            exact ⟨byte, rest, others, rfl, inRange.1, inRange.2,
              by rw [← Option.some.inj equal], decoded⟩
      next outside => split at decoded <;> cases chars <;> cases decoded

theorem of_decodeFrom_next
    (decoded : decodeFrom (.inside (missing + 2) low high bits) bytes = chars.map some) :
    ∃ byte rest, bytes = byte :: rest ∧ low ≤ byte.toNat ∧ byte.toNat ≤ high ∧
      decodeFrom (.inside (missing + 1) 0x80 0xBF (bits * 64 + (byte.toNat - 128))) rest =
        chars.map some := by
  cases bytes with
  | nil => cases chars <;> cases decoded
  | cons byte rest =>
      rw [decodeFrom] at decoded
      split at decoded
      next inRange =>
        dsimp only at decoded
        rw [if_neg (by omega)] at decoded
        exact ⟨byte, rest, rfl, inRange.1, inRange.2, decoded⟩
      next outside => split at decoded <;> cases chars <;> cases decoded

/-- Bytes that are decoded throughout begin with those of the first character. -/
theorem exists_first_of_decodeFrom
    (decoded : decodeFrom .start (first :: bytes) = chars.map some) :
    ∃ c others rest, chars = c :: others ∧ first :: bytes = String.utf8EncodeChar c ++ rest ∧
      decodeFrom .start rest = others.map some := by
  rw [decodeFrom] at decoded
  cases found : lead? first.toNat with
  | none =>
      rw [found] at decoded
      cases chars <;> cases decoded
  | some lead =>
      rw [found] at decoded
      -- The range of the second byte is what keeps the code from having a shorter spelling.
      cases leads_of_lead? found with
      | one below =>
          cases chars with
          | nil => cases decoded
          | cons c others =>
              obtain ⟨equal, decodedRest⟩ := List.cons.inj decoded
              have spells : Spells first.toNat [first] := .one rfl below
              rw [← Option.some.inj equal]
              exact ⟨_, others, bytes, rfl,
                by rw [spells.utf8EncodeChar_eq (by omega)]; rfl, decodedRest⟩
      | two above below =>
          obtain ⟨second, rest, others, rfl, least, most, rfl, decodedRest⟩ :=
            of_decodeFrom_last decoded
          dsimp only at least most
          have spells : Spells ((first.toNat - 0xC0) * 64 + (second.toNat - 128))
              [first, second] :=
            .two (by omega) (by omega) (by omega) (by omega)
          exact ⟨_, others, rest, rfl,
            by rw [spells.utf8EncodeChar_eq (by omega)]; rfl, decodedRest⟩
      | three above below range least most =>
          obtain ⟨second, _, rfl, atLeast, atMost, decodedNext⟩ := of_decodeFrom_next decoded
          dsimp only at atLeast atMost
          obtain ⟨third, rest, others, rfl, least3, most3, rfl, decodedRest⟩ :=
            of_decodeFrom_last decodedNext
          have spells : Spells (((first.toNat - 0xE0) * 64 + (second.toNat - 128)) * 64 +
              (third.toNat - 128)) [first, second, third] :=
            .three (by omega) (by omega) (by omega) (by omega) (by omega)
          exact ⟨_, others, rest, rfl,
            by rw [spells.utf8EncodeChar_eq (by omega)]; rfl, decodedRest⟩
      | four above below range least most =>
          obtain ⟨second, _, rfl, atLeast, atMost, decodedNext⟩ := of_decodeFrom_next decoded
          dsimp only at atLeast atMost
          obtain ⟨third, _, rfl, least3, most3, decodedThird⟩ := of_decodeFrom_next decodedNext
          obtain ⟨fourth, rest, others, rfl, least4, most4, rfl, decodedRest⟩ :=
            of_decodeFrom_last decodedThird
          have spells : Spells ((((first.toNat - 0xF0) * 64 + (second.toNat - 128)) * 64 +
              (third.toNat - 128)) * 64 + (fourth.toNat - 128)) [first, second, third, fourth] :=
            .four (by omega) (by omega) (by omega) (by omega) (by omega)
          exact ⟨_, others, rest, rfl,
            by rw [spells.utf8EncodeChar_eq (by omega)]; rfl, decodedRest⟩

theorem eq_flatMap_of_decodeFrom (decoded : decodeFrom .start bytes = chars.map some) :
    bytes = chars.flatMap String.utf8EncodeChar := by
  induction chars generalizing bytes with
  | nil =>
      cases bytes with
      | nil => rfl
      | cons first rest =>
          obtain ⟨_, _, _, impossible, _⟩ := exists_first_of_decodeFrom decoded
          cases impossible
  | cons c others ih =>
      cases bytes with
      | nil => cases decoded
      | cons first rest =>
          obtain ⟨_, _, behind, equal, spelled, decodedRest⟩ := exists_first_of_decodeFrom decoded
          cases equal
          rw [spelled, ih decodedRest, List.flatMap_cons]

end Peeling

theorem mapM_id_eq_some_iff {pieces : List (Option Char)} {chars : List Char} :
    pieces.mapM id = some chars ↔ pieces = chars.map some := by
  induction pieces generalizing chars with
  | nil => cases chars <;> simp
  | cons piece rest ih =>
      cases chars <;> simp [List.mapM_cons, Option.bind_eq_some_iff, ih]

/-- Bytes are decoded strictly as a text just if they are the text's. -/
theorem decodeStrict?_eq_some_iff {content : List UInt8} {text : String} :
    decodeStrict? content = some text ↔ content = bytes text := by
  simp only [decodeStrict?, Option.map_eq_some_iff, mapM_id_eq_some_iff]
  constructor
  · rintro ⟨chars, decoded, rfl⟩
    rw [bytes_eq_flatMap, String.toList_ofList]
    exact eq_flatMap_of_decodeFrom decoded
  · rintro rfl
    exact ⟨text.toList, by rw [bytes_eq_flatMap, decodeFrom_bytes], String.ofList_toList⟩

end ClusterQuery.Text
