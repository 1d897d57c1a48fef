import ClusterQuery.Proofs.Json.NumberText

/-!
# The text of a document

A document is determined by its text, whatever follows it: each sort of documents begins in its own
way, strings are closed by the first quote that is not escaped, and what follows an item, an entry
or a whole document cannot go on with a number. The one thing asked of a document is that its
numbers are finite, as those of a document that was read are.
-/

namespace ClusterQuery

/-! ## Strings -/

theorem Text.hexValue?_digitChar : ∀ digit < 16, hexValue? (Nat.digitChar digit) = some digit := by
  decide

namespace JsonToken

/-- The four digits of an escaped control character are read as its number. -/
theorem readHex4_hexDigits {unit : Nat} (control : unit < 0x20) (rest : List Char) :
    readHex4 (Text.padZeros 4 (Text.hexDigits unit) ++ rest) = some (unit, rest) := by
  have zero : Text.hexValue? '0' = some 0 := rfl
  rw [Text.hexDigits, Nat.toDigits_eq_if (by decide)]
  split
  next small =>
    simp [Text.padZeros, readHex4, zero, Text.hexValue?_digitChar unit small]
  next large =>
    have high : unit / 16 < 16 := by omega
    have low : unit % 16 < 16 := by omega
    have whole : unit / 16 * 16 + unit % 16 = unit := by omega
    simp [Nat.toDigits_of_lt_base high, Text.padZeros, readHex4, zero,
      Text.hexValue?_digitChar _ high, Text.hexValue?_digitChar _ low, whole]

theorem readUnicode_hexDigits {c : Char} (control : c.toNat < 0x20) (rest : List Char) :
    readUnicode (Text.padZeros 4 (Text.hexDigits c.toNat) ++ rest) = some (c, rest) := by
  have noFirst : ¬(0xD800 ≤ c.toNat ∧ c.toNat < 0xDC00) := by omega
  have noSecond : ¬(0xDC00 ≤ c.toNat ∧ c.toNat < 0xE000) := by omega
  simp only [readUnicode, readHex4_hexDigits control, Option.bind_eq_bind, Option.bind_some,
    if_neg noFirst, if_neg noSecond, Char.ofNat_toNat]
  rfl

/-- A character of a string is written with a one-letter escape, with its number if it is another
control character, or as it is. -/
theorem escapeChar_cases (c : Char) :
    (∃ mark, Json.escapeChar c = ['\\', mark] ∧ mark ≠ 'u' ∧ simpleEscape? mark = some c) ∨
      (Json.escapeChar c = '\\' :: 'u' :: Text.padZeros 4 (Text.hexDigits c.toNat) ∧
        c.toNat < 0x20) ∨
      Json.escapeChar c = [c] ∧ c ≠ '"' ∧ c ≠ '\\' ∧ ¬c.toNat < 0x20 := by
  unfold Json.escapeChar
  split_ifs with quote backslash backspace feed line carriage tab control
  · exact .inl ⟨'"', rfl, by decide, congrArg some quote.symm⟩
  · exact .inl ⟨'\\', rfl, by decide, congrArg some backslash.symm⟩
  · exact .inl ⟨'b', rfl, by decide, congrArg some backspace.symm⟩
  · exact .inl ⟨'f', rfl, by decide, congrArg some feed.symm⟩
  · exact .inl ⟨'n', rfl, by decide, congrArg some line.symm⟩
  · exact .inl ⟨'r', rfl, by decide, congrArg some carriage.symm⟩
  · exact .inl ⟨'t', rfl, by decide, congrArg some tab.symm⟩
  · exact .inr (.inl ⟨rfl, control⟩)
  · exact .inr (.inr ⟨rfl, quote, backslash, control⟩)

/-- A character is read from its escaped form. -/
theorem readString_escapeChar (steps : Nat) (c : Char) (rest : List Char) :
    readString (steps + 1) (Json.escapeChar c ++ rest) =
      (readString steps rest).bind fun (value, rest) => some (c :: value, rest) := by
  rcases escapeChar_cases c with ⟨mark, short, notUnicode, stands⟩ | ⟨long, control⟩ |
    ⟨plain, notQuote, notBackslash, notControl⟩
  · rw [short, List.cons_append, List.singleton_append, readString, stands]
    · rfl
    · exact notUnicode
  · rw [long, List.cons_append, List.cons_append, readString, readUnicode_hexDigits control]
    rfl
  · rw [plain, List.singleton_append, readString, if_neg (by simp [notBackslash, notControl])]
    · rfl
    · exact notQuote
    · intro _ equal
      exact absurd equal notBackslash
    · intro _ _ equal
      exact absurd equal notBackslash

/-- A string is read from its escaped form, up to the quote that closes it. -/
theorem readString_escaped {steps : Nat} {text : List Char} (enough : text.length < steps)
    (rest : List Char) :
    readString steps (text.flatMap Json.escapeChar ++ '"' :: rest) = some (text, rest) := by
  induction text generalizing steps with
  | nil =>
      obtain ⟨steps, rfl⟩ := Nat.exists_eq_add_one_of_ne_zero (Nat.ne_of_gt enough)
      rfl
  | cons c text ih =>
      obtain ⟨steps, rfl⟩ :=
        Nat.exists_eq_add_one_of_ne_zero (Nat.ne_of_gt (Nat.zero_lt_of_lt enough))
      rw [List.flatMap_cons, List.append_assoc, readString_escapeChar,
        ih (Nat.lt_of_succ_lt_succ enough)]
      rfl

end JsonToken

namespace Json

/-- A quoted string ends where its text does, whatever follows. -/
theorem quotedChars_append_inj {left right : String} {leftRest rightRest : List Char}
    (same : quotedChars left ++ leftRest = quotedChars right ++ rightRest) :
    left = right ∧ leftRest = rightRest := by
  simp only [quotedChars, List.cons_append, List.append_assoc, List.nil_append] at same
  -- Reading either text with enough steps for both gives back its string and what follows.
  have read {text : List Char} (enough : text.length ≤ left.toList.length + right.toList.length) :=
    JsonToken.readString_escaped (Nat.lt_succ_of_le enough)
  have leftRead := read (Nat.le_add_right _ _) leftRest
  have rightRead := read (Nat.le_add_left _ _) rightRest
  rw [(List.cons.inj same).2, rightRead, Option.some.injEq, Prod.mk.injEq] at leftRead
  exact ⟨(String.toList_inj.mp leftRead.1).symm, leftRead.2.symm⟩

/-! ## Documents -/

mutual

/-- Whether all numbers of a document are finite. -/
def isFinite : Json → Bool
  | .number value => value.isFinite
  | .array items => itemsFinite items
  | .object entries => entriesFinite entries
  | _ => true

/-- Whether all numbers in a list of documents are finite. -/
def itemsFinite : List Json → Bool
  | [] => true
  | item :: rest => isFinite item && itemsFinite rest

/-- Whether all numbers in the values of entries are finite. -/
def entriesFinite : List (String × Json) → Bool
  | [] => true
  | (_, value) :: rest => isFinite value && entriesFinite rest

end

/-- The sort of documents whose text begins with a character, or no name if there are none. -/
def sortNameOf (first : Char) : String :=
  if first = 'n' then "null"
  else if first = 't' ∨ first = 'f' then "bool"
  else if first = '"' then "string"
  else if first = '[' then "array"
  else if first = '{' then "object"
  else if first = '-' ∨ Text.isDigit first = true then "number"
  else ""

theorem sortNameOf_digit {c : Char} (digit : Text.isDigit c = true) : sortNameOf c = "number" := by
  have other (mark : Char) (notDigit : Text.isDigit mark = false) : c ≠ mark := by
    rintro rfl
    rw [digit] at notDigit
    cases notDigit
  simp [sortNameOf, other 'n' rfl, other 't' rfl, other 'f' rfl, other '"' rfl, other '[' rfl,
    other '{' rfl, digit]

/-- Each sort of documents begins in its own way. -/
theorem exists_first {document : Json} (finite : document.isFinite = true) :
    ∃ first rest, chars document = first :: rest ∧ sortNameOf first = document.sortName := by
  cases document with
  | null => exact ⟨'n', _, rfl, rfl⟩
  | bool value => cases value with
    | true => exact ⟨'t', _, rfl, rfl⟩
    | false => exact ⟨'f', _, rfl, rfl⟩
  | number value =>
      have proper := NumberLiteral.proper_ofNumber finite
      obtain ⟨first, rest, whole⟩ := List.exists_cons_of_ne_nil proper.whole_ne_nil
      have digit := proper.whole first (whole ▸ List.mem_cons_self)
      rw [chars, ← NumberLiteral.chars_ofNumber, NumberLiteral.chars, whole]
      cases (NumberLiteral.ofNumber value).negative with
      | true => exact ⟨'-', _, rfl, rfl⟩
      | false => exact ⟨first, _, rfl, sortNameOf_digit digit⟩
  | string value => exact ⟨'"', _, rfl, rfl⟩
  | array items => cases items with
    | nil => exact ⟨'[', _, rfl, rfl⟩
    | cons item rest => exact ⟨'[', _, rfl, rfl⟩
  | object entries => cases entries with
    | nil => exact ⟨'{', _, rfl, rfl⟩
    | cons entry rest => exact ⟨'{', _, rfl, rfl⟩

theorem sortName_eq_of_chars {left right : Json} (leftFinite : left.isFinite = true)
    (rightFinite : right.isFinite = true) {leftRest rightRest : List Char}
    (same : chars left ++ leftRest = chars right ++ rightRest) :
    left.sortName = right.sortName := by
  obtain ⟨leftFirst, _, leftChars, leftSort⟩ := exists_first leftFinite
  obtain ⟨rightFirst, _, rightChars, rightSort⟩ := exists_first rightFinite
  rw [leftChars, rightChars, List.cons_append, List.cons_append] at same
  rw [← leftSort, ← rightSort, (List.cons.inj same).1]

/-- What follows the items of a list does not go on with a number. -/
theorem endsBefore_itemsChars (items : List Json) (rest : List Char) :
    NumberLiteral.endsBefore (itemsChars items ++ rest) = true := by
  cases items <;> rfl

theorem endsBefore_entriesChars (entries : List (String × Json)) (rest : List Char) :
    NumberLiteral.endsBefore (entriesChars entries ++ rest) = true := by
  cases entries <;> rfl

/-- No document begins like the end of a list. -/
theorem chars_append_ne {document : Json} (finite : document.isFinite = true)
    (leftRest rightRest : List Char) : chars document ++ leftRest ≠ ']' :: rightRest := by
  obtain ⟨first, rest, isChars, isSort⟩ := exists_first finite
  rw [isChars, List.cons_append]
  rintro same
  rw [(List.cons.inj same).1] at isSort
  cases document <;> simp [sortName, sortNameOf, Text.isDigit, Text.digitValue?] at isSort

/-- A list is written like the items that follow another one, but for the bracket. -/
theorem itemsChars_of_array {lefts rights : List Json} (leftFinite : itemsFinite lefts = true)
    (rightFinite : itemsFinite rights = true) {leftRest rightRest : List Char}
    (same : chars (.array lefts) ++ leftRest = chars (.array rights) ++ rightRest) :
    itemsChars lefts ++ leftRest = itemsChars rights ++ rightRest := by
  cases lefts with
  | nil =>
      cases rights with
      | nil => exact (List.cons.inj same).2
      | cons right rights =>
          rw [itemsFinite, Bool.and_eq_true] at rightFinite
          simp only [chars, List.cons_append, List.nil_append, List.append_assoc, List.cons.injEq,
            true_and] at same
          exact absurd same.symm (chars_append_ne rightFinite.1 _ _)
  | cons left lefts =>
      cases rights with
      | nil =>
          rw [itemsFinite, Bool.and_eq_true] at leftFinite
          simp only [chars, List.cons_append, List.nil_append, List.append_assoc, List.cons.injEq,
            true_and] at same
          exact absurd same (chars_append_ne leftFinite.1 _ _)
      | cons right rights => exact congrArg (',' :: ·) (List.cons.inj same).2

/-- An object is written like the entries that follow another one, but for the brace. -/
theorem entriesChars_of_object {lefts rights : List (String × Json)}
    {leftRest rightRest : List Char}
    (same : chars (.object lefts) ++ leftRest = chars (.object rights) ++ rightRest) :
    entriesChars lefts ++ leftRest = entriesChars rights ++ rightRest := by
  cases lefts with
  | nil =>
      cases rights with
      | nil => exact (List.cons.inj same).2
      | cons right rights => cases (List.cons.inj (List.cons.inj same).2).1
  | cons left lefts =>
      cases rights with
      | nil => cases (List.cons.inj (List.cons.inj same).2).1
      | cons right rights => exact congrArg (',' :: ·) (List.cons.inj same).2

mutual

/-- A document is determined by its text, if what follows does not go on with a number. -/
theorem chars_append_inj (left right : Json) (leftFinite : left.isFinite = true)
    (rightFinite : right.isFinite = true) (leftRest rightRest : List Char)
    (leftEnds : NumberLiteral.endsBefore leftRest = true)
    (rightEnds : NumberLiteral.endsBefore rightRest = true)
    (same : chars left ++ leftRest = chars right ++ rightRest) :
    left = right ∧ leftRest = rightRest := by
  have sameSort := sortName_eq_of_chars leftFinite rightFinite same
  cases left with
  | null =>
      cases right with
      | null => exact ⟨rfl, List.append_cancel_left same⟩
      | _ => simp [sortName] at sameSort
  | bool left =>
      cases right with
      | bool right =>
        cases left <;> cases right
        · exact ⟨rfl, List.append_cancel_left same⟩
        · cases (List.cons.inj same).1
        · cases (List.cons.inj same).1
        · exact ⟨rfl, List.append_cancel_left same⟩
      | _ => simp [sortName] at sameSort
  | number left =>
      cases right with
      | number right =>
          obtain ⟨rfl, sameRest⟩ := NumberLiteral.numberChars_append_inj leftFinite rightFinite
            leftEnds rightEnds same
          exact ⟨rfl, sameRest⟩
      | _ => simp [sortName] at sameSort
  | string left =>
      cases right with
      | string right =>
          obtain ⟨rfl, sameRest⟩ := quotedChars_append_inj same
          exact ⟨rfl, sameRest⟩
      | _ => simp [sortName] at sameSort
  | array lefts =>
      cases right with
      | array rights =>
          obtain ⟨rfl, sameRest⟩ := itemsChars_append_inj lefts rights leftFinite rightFinite _ _
            (itemsChars_of_array leftFinite rightFinite same)
          exact ⟨rfl, sameRest⟩
      | _ => simp [sortName] at sameSort
  | object lefts =>
      cases right with
      | object rights =>
          obtain ⟨rfl, sameRest⟩ := entriesChars_append_inj lefts rights leftFinite rightFinite _ _
            (entriesChars_of_object same)
          exact ⟨rfl, sameRest⟩
      | _ => simp [sortName] at sameSort

theorem itemsChars_append_inj (lefts rights : List Json) (leftFinite : itemsFinite lefts = true)
    (rightFinite : itemsFinite rights = true) (leftRest rightRest : List Char)
    (same : itemsChars lefts ++ leftRest = itemsChars rights ++ rightRest) :
    lefts = rights ∧ leftRest = rightRest := by
  match lefts, rights with
  | [], [] => exact ⟨rfl, List.append_cancel_left same⟩
  | [], _ :: _ => cases (List.cons.inj same).1
  | _ :: _, [] => cases (List.cons.inj same).1
  | left :: lefts, right :: rights =>
      simp only [itemsChars, List.cons_append, List.append_assoc, List.cons.injEq, true_and] at same
      simp only [itemsFinite, Bool.and_eq_true] at leftFinite rightFinite
      obtain ⟨rfl, others⟩ := chars_append_inj left right leftFinite.1 rightFinite.1 _ _
        (endsBefore_itemsChars lefts _) (endsBefore_itemsChars rights _) same
      obtain ⟨rfl, sameRest⟩ :=
        itemsChars_append_inj lefts rights leftFinite.2 rightFinite.2 _ _ others
      exact ⟨rfl, sameRest⟩

theorem entriesChars_append_inj (lefts rights : List (String × Json))
    (leftFinite : entriesFinite lefts = true) (rightFinite : entriesFinite rights = true)
    (leftRest rightRest : List Char)
    (same : entriesChars lefts ++ leftRest = entriesChars rights ++ rightRest) :
    lefts = rights ∧ leftRest = rightRest := by
  match lefts, rights with
  | [], [] => exact ⟨rfl, List.append_cancel_left same⟩
  | [], _ :: _ => cases (List.cons.inj same).1
  | _ :: _, [] => cases (List.cons.inj same).1
  | (leftKey, left) :: lefts, (rightKey, right) :: rights =>
      simp only [entriesChars, List.cons_append, List.append_assoc, List.cons.injEq, true_and]
        at same
      simp only [entriesFinite, Bool.and_eq_true] at leftFinite rightFinite
      obtain ⟨rfl, values⟩ := quotedChars_append_inj same
      obtain ⟨rfl, others⟩ := chars_append_inj left right leftFinite.1 rightFinite.1 _ _
        (endsBefore_entriesChars lefts _) (endsBefore_entriesChars rights _)
        (List.cons.inj values).2
      obtain ⟨rfl, sameRest⟩ :=
        entriesChars_append_inj lefts rights leftFinite.2 rightFinite.2 _ _ others
      exact ⟨rfl, sameRest⟩

end

/-- Different documents have different texts. -/
theorem text_inj {left right : Json} (leftFinite : left.isFinite = true)
    (rightFinite : right.isFinite = true) (same : left.text = right.text) : left = right := by
  have sameChars : chars left ++ [] = chars right ++ [] :=
    congrArg (· ++ []) (String.ofList_inj.mp same)
  exact (chars_append_inj left right leftFinite rightFinite [] [] rfl rfl sameChars).1

end Json

end ClusterQuery
