import ClusterQuery.Json.Raw
import ClusterQuery.Proofs.Json.Grammar
import ClusterQuery.Proofs.Text.Utf8

/-!
# What strings stand for

A string stands for a text if its octets are UTF-8, and each of its escapes stands for a character:
a short one for the character of its mark, a unit for the one with its number, and two surrogates,
the high one first, for the one that they make up together. A surrogate alone stands for nothing.
-/

namespace ClusterQuery

namespace JsonToken

/-- Four hexadecimal digits in either case, and the unit that they are. -/
inductive HexUnit : Nat → List Char → Prop where
  | intro {a b c d : Char} {first second third fourth : Nat}
      (isFirst : Text.hexValue? a = some first)
      (isSecond : Text.hexValue? b = some second) (isThird : Text.hexValue? c = some third)
      (isFourth : Text.hexValue? d = some fourth) :
      HexUnit (((first * 16 + second) * 16 + third) * 16 + fourth) [a, b, c, d]

/-- What follows `\u`, and the character that it stands for: a unit of its own, or a high surrogate
with a low one in a second escape. -/
inductive UnicodeEscape : Char → List Char → Prop where
  | unit {code : Nat} {digits : List Char} (isUnit : HexUnit code digits)
      (single : code < 0xD800 ∨ 0xE000 ≤ code) : UnicodeEscape (Char.ofNat code) digits
  | pair {high low : Nat} {digits others : List Char} (isHigh : HexUnit high digits)
      (isLow : HexUnit low others) (highRange : 0xD800 ≤ high ∧ high < 0xDC00)
      (lowRange : 0xDC00 ≤ low ∧ low < 0xE000) :
      UnicodeEscape (Char.ofNat (0x10000 + (high - 0xD800) * 0x400 + (low - 0xDC00)))
        (digits ++ '\\' :: 'u' :: others)

/-- The texts that stand between the quotes of a string for a value. -/
inductive Unescapes : List Char → List Char → Prop where
  | nil : Unescapes [] []
  | plain {c : Char} {rest value : List Char} (notQuote : c ≠ '"') (notBackslash : c ≠ '\\')
      (notControl : 0x20 ≤ c.toNat) (more : Unescapes rest value) :
      Unescapes (c :: rest) (c :: value)
  | short {mark c : Char} {rest value : List Char} (stands : simpleEscape? mark = some c)
      (more : Unescapes rest value) : Unescapes ('\\' :: mark :: rest) (c :: value)
  | unicode {c : Char} {digits rest value : List Char} (stands : UnicodeEscape c digits)
      (more : Unescapes rest value) : Unescapes ('\\' :: 'u' :: (digits ++ rest)) (c :: value)

/-! ## Units -/

variable {text rest : List Char}

theorem exists_of_readHex4 {code : Nat} (read : readHex4 text = some (code, rest)) :
    ∃ digits, HexUnit code digits ∧ text = digits ++ rest := by
  unfold readHex4 at read
  split at read
  next a b c d others =>
    simp only [Option.bind_eq_bind, Option.bind_eq_some_iff, Option.pure_def, Option.some.injEq,
      Prod.mk.injEq] at read
    obtain ⟨first, isFirst, second, isSecond, third, isThird, fourth, isFourth, rfl, rfl⟩ := read
    exact ⟨_, .intro isFirst isSecond isThird isFourth, rfl⟩
  next => cases read

theorem readHex4_append {code : Nat} {digits : List Char} (isUnit : HexUnit code digits)
    (rest : List Char) : readHex4 (digits ++ rest) = some (code, rest) := by
  cases isUnit with
  | intro isFirst isSecond isThird isFourth =>
      simp [readHex4, isFirst, isSecond, isThird, isFourth]

theorem exists_of_readUnicode {c : Char} (read : readUnicode text = some (c, rest)) :
    ∃ digits, UnicodeEscape c digits ∧ text = digits ++ rest := by
  rw [readUnicode] at read
  obtain ⟨⟨code, after⟩, first, continued⟩ := Option.bind_eq_some_iff.mp read
  obtain ⟨digits, isUnit, rfl⟩ := exists_of_readHex4 first
  dsimp only at continued
  split at continued
  next isHigh =>
    split at continued
    next others =>
      obtain ⟨⟨low, afterLow⟩, second, finished⟩ := Option.bind_eq_some_iff.mp continued
      obtain ⟨lowDigits, isLowUnit, rfl⟩ := exists_of_readHex4 second
      dsimp only at finished
      split at finished
      next isLow =>
        obtain ⟨rfl, rfl⟩ := Prod.mk.inj (Option.some.inj finished)
        exact ⟨_, .pair isUnit isLowUnit isHigh isLow, by simp⟩
      next => cases finished
    next => cases continued
  next notHigh =>
    split at continued
    next => cases continued
    next notLow =>
      obtain ⟨rfl, rfl⟩ := Prod.mk.inj (Option.some.inj continued)
      exact ⟨digits, .unit isUnit (by omega), rfl⟩

theorem readUnicode_append {c : Char} {digits : List Char} (stands : UnicodeEscape c digits)
    (rest : List Char) : readUnicode (digits ++ rest) = some (c, rest) := by
  cases stands with
  | @unit code _ isUnit single =>
      have notHigh : ¬(0xD800 ≤ code ∧ code < 0xDC00) := by omega
      have notLow : ¬(0xDC00 ≤ code ∧ code < 0xE000) := by omega
      simp [readUnicode, readHex4_append isUnit, notHigh, notLow]
  | @pair high low digits others isHigh isLow highRange lowRange =>
      simp [readUnicode, readHex4_append isHigh, readHex4_append isLow, highRange, lowRange]

/-! ## Strings -/

/-- What is read up to a quote stands for the value that is returned. -/
theorem exists_of_readString {steps : Nat} {value : List Char}
    (read : readString steps text = some (value, rest)) :
    ∃ spelt, Unescapes spelt value ∧ text = spelt ++ '"' :: rest := by
  fun_induction readString steps text generalizing value rest with
  | case1 => cases read
  | case2 => cases read
  | case3 => cases read; exact ⟨[], .nil, rfl⟩
  | case4 steps others ih =>
      simp only [Option.bind_eq_bind, Option.bind_eq_some_iff, Option.pure_def] at read
      obtain ⟨⟨c, after⟩, escape, ⟨more, _⟩, success, equal⟩ := read
      cases equal
      obtain ⟨digits, stands, rfl⟩ := exists_of_readUnicode escape
      obtain ⟨spelt, unescapes, rfl⟩ := ih _ success
      exact ⟨_, .unicode stands unescapes, by simp⟩
  | case5 steps mark others _ ih =>
      simp only [Option.bind_eq_bind, Option.bind_eq_some_iff, Option.pure_def] at read
      obtain ⟨c, stands, ⟨more, _⟩, success, equal⟩ := read
      cases equal
      obtain ⟨spelt, unescapes, rfl⟩ := ih success
      exact ⟨_, .short stands unescapes, rfl⟩
  | case6 => cases read
  | case7 steps c others notQuote _ _ plain ih =>
      obtain ⟨⟨more, _⟩, success, equal⟩ := Option.bind_eq_some_iff.mp read
      cases equal
      obtain ⟨spelt, unescapes, rfl⟩ := ih success
      rw [not_or, Nat.not_lt] at plain
      exact ⟨_, .plain (by rintro rfl; exact notQuote rfl) plain.1 plain.2 unescapes, rfl⟩

/-- A text that stands for a value is read as it, up to the quote that ends it. -/
theorem readString_append {steps : Nat} {spelt value : List Char}
    (unescapes : Unescapes spelt value) (enough : spelt.length ≤ steps) (rest : List Char) :
    readString (steps + 1) (spelt ++ '"' :: rest) = some (value, rest) := by
  induction unescapes generalizing steps with
  | nil => rfl
  | plain notQuote notBackslash notControl _ ih =>
      obtain ⟨fewer, rfl, fits⟩ := RawJson.exists_step enough
      rw [List.cons_append, readString,
        if_neg (not_or.mpr ⟨notBackslash, Nat.not_lt.mpr notControl⟩), ih fits]
      · rfl
      all_goals simp_all
  | short stands _ ih =>
      obtain ⟨fewer, rfl, fits⟩ := RawJson.exists_step enough
      rw [List.cons_append, List.cons_append, readString, stands, Option.bind_eq_bind,
        Option.bind_some, ih (Nat.le_of_succ_le fits)]
      · rfl
      · rintro rfl
        cases stands
  | @unicode c digits others value stands _ ih =>
      obtain ⟨fewer, rfl, fits⟩ := RawJson.exists_step enough
      rw [List.length_cons, List.length_append] at fits
      rw [List.cons_append, List.cons_append, List.append_assoc, readString,
        readUnicode_append stands, Option.bind_eq_bind, Option.bind_some]
      dsimp only
      rw [ih (by omega)]
      rfl

end JsonToken

namespace RawJson

/-- The text that the inside of a string stands for. -/
inductive IsText (inside : List Char) (text : String) : Prop where
  | intro {spelt : String} (isUtf8 : Text.ofOctets inside = Text.bytes spelt)
      (unescapes : JsonToken.Unescapes spelt.toList text.toList) : IsText inside text

theorem textOf?_eq_some_iff {inside : List Char} {text : String} :
    textOf? inside = some text ↔ IsText inside text := by
  rw [textOf?, Option.bind_eq_bind, Option.bind_eq_some_iff]
  constructor
  · rintro ⟨spelt, decoded, read⟩
    split at read
    next value success =>
      cases read
      obtain ⟨inner, unescapes, split⟩ := JsonToken.exists_of_readString success
      have same : spelt.toList = inner := List.append_cancel_right split
      refine .intro (Text.decodeStrict?_eq_some_iff.mp decoded) ?_
      rwa [same, String.toList_ofList]
    next => cases read
  · rintro ⟨isUtf8, unescapes⟩
    refine ⟨_, Text.decodeStrict?_eq_some_iff.mpr isUtf8, ?_⟩
    rw [JsonToken.readString_append unescapes (Nat.le_refl _) []]
    exact congrArg some String.ofList_toList

end RawJson

end ClusterQuery
