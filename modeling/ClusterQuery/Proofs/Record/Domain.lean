import ClusterQuery.Proofs.Text.Trimming
import ClusterQuery.Proofs.Time.Rfc3339
import ClusterQuery.Record.Coercion

/-!
# Values through their text

The text of a value is read back into the domain of the type that the value came from. The one
exception is an instant whose year is written with a sign. Floating point numbers are left out.
-/

namespace ClusterQuery

namespace Text

/-- Whether a character is neither a blank nor a quote. -/
def isWordChar (c : Char) : Bool := !isBlank c && c != '"' && c != '\''

/-- Whether a text can stand for itself in a filter: it holds something, and begins and ends with
neither a blank nor a quote. -/
def isWord (text : List Char) : Bool :=
  text.head?.any isWordChar && text.getLast?.any isWordChar

theorem isTrimmed_of_isWord {text : List Char} (word : isWord text = true) :
    isTrimmed text = true := by
  simp only [isWord, Bool.and_eq_true, Option.any_eq_true, isWordChar] at word
  obtain ⟨⟨first, isFirst, firstChar⟩, last, isLast, lastChar⟩ := word
  simp_all [isTrimmed]

theorem trimBlank_of_isWord {text : List Char} (word : isWord text = true) :
    trimBlank text = text :=
  trimBlank_eq_self (isTrimmed_of_isWord word)

theorem ne_nil_of_isWord {text : List Char} (word : isWord text = true) : text ≠ [] := by
  rintro rfl
  cases word

theorem isWord_of_forall {text : List Char} (some : text ≠ [])
    (all : ∀ c ∈ text, isWordChar c = true) : isWord text = true := by
  have first : text.head?.any isWordChar = true := by
    rw [List.head?_eq_some_head some]
    exact all _ (List.head_mem some)
  have last : text.getLast?.any isWordChar = true := by
    rw [List.getLast?_eq_some_getLast some]
    exact all _ (List.getLast_mem some)
  rw [isWord, first, last]
  rfl

theorem isWord_cons {c : Char} {text : List Char} (first : isWordChar c = true)
    (word : isWord text = true) : isWord (c :: text) = true := by
  obtain ⟨next, rest, rfl⟩ := List.exists_cons_of_ne_nil (ne_nil_of_isWord word)
  rw [isWord, Bool.and_eq_true] at word ⊢
  rw [List.getLast?_cons_cons]
  exact ⟨first, word.2⟩

/-- Between the space and the control characters behind ASCII there is no blank. -/
theorem isBlank_eq_false {c : Char} (above : 0x20 < c.toNat) (below : c.toNat < 0x85) :
    isBlank c = false := by
  simp only [isBlank, Bool.or_eq_false_iff, Bool.and_eq_false_iff, decide_eq_false_iff_not,
    beq_eq_false_iff_ne]
  omega

theorem isWordChar_of_isDigit {c : Char} (digit : isDigit c = true) : isWordChar c = true := by
  have bounds : 48 ≤ c.toNat ∧ c.toNat ≤ 57 := bounds_of_isDigit digit
  have notBlank : isBlank c = false := isBlank_eq_false (by omega) (by omega)
  have notDouble : c ≠ '"' := by
    rintro rfl
    cases digit
  have notSingle : c ≠ '\'' := by
    rintro rfl
    cases digit
  simp [isWordChar, notBlank, notDouble, notSingle]

theorem isWord_writeInt (value : Int) : isWord (writeInt value) = true := by
  have digits (size : Nat) : ∀ c ∈ writeNat size, isWordChar c = true :=
    fun c member => isWordChar_of_isDigit (isDigit_of_mem_writeNat member)
  cases value with
  | ofNat size => exact isWord_of_forall Nat.toDigits_ne_nil (digits size)
  | negSucc size =>
      refine isWord_of_forall (List.cons_ne_nil _ _) ?_
      exact List.forall_mem_cons.mpr ⟨by decide, digits (size + 1)⟩

/-! ## Blanks and case -/

/-- Folding case neither makes blanks nor takes them away. -/
theorem isBlank_lowerAscii (c : Char) : isBlank (lowerAscii c) = isBlank c := by
  rw [lowerAscii]
  split
  next capital =>
    have bounds : 65 ≤ c.toNat ∧ c.toNat ≤ 90 := capital
    have small : (Char.ofNat (c.toNat + 32)).toNat = c.toNat + 32 := by
      have valid : (c.toNat + 32).isValidChar := .inl (by omega)
      rw [Char.ofNat, dif_pos valid]
      exact UInt32.toNat_ofNatLT
    rw [isBlank_eq_false (by omega) (by omega), isBlank_eq_false (by omega) (by omega)]
  next => rfl

theorem isTrimmed_map_lowerAscii (text : List Char) :
    isTrimmed (text.map lowerAscii) = isTrimmed text := by
  simp [isTrimmed, Option.all_map, isBlank_lowerAscii]

/-- A text that differs only in case from one without blanks around it has none either. -/
theorem isTrimmed_of_sameIgnoringCase {left right : String}
    (same : sameIgnoringCase left right = true) (trimmed : isTrimmed right.toList = true) :
    isTrimmed left.toList = true := by
  rw [sameIgnoringCase, beq_iff_eq] at same
  rw [← isTrimmed_map_lowerAscii, same, isTrimmed_map_lowerAscii, trimmed]

end Text

theorem Time.Instant.isWord_chars (instant : Instant) : Text.isWord instant.chars = true := by
  have padded (width value : Nat) :
      ∀ c ∈ Text.decimalPadded width value, Text.isWordChar c = true :=
    fun c member => Text.isWordChar_of_isDigit (Text.isDigit_of_mem_decimalPadded member)
  have year (year : Int) : ∀ c ∈ yearChars year, Text.isWordChar c = true := by
    rcases yearChars_cases year with plain | ⟨sign, isSign, signed⟩
    · exact plain ▸ padded 4 _
    · have signChar : Text.isWordChar sign = true := by rcases isSign with rfl | rfl <;> decide
      exact signed ▸ List.forall_mem_cons.mpr ⟨signChar, padded 4 _⟩
  have fraction (nanos : Nat) : ∀ c ∈ fractionChars nanos, Text.isWordChar c = true := by
    rcases fractionChars_cases nanos with none | ⟨width, value, some⟩
    · exact none ▸ List.forall_mem_nil _
    · exact some ▸ List.forall_mem_cons.mpr ⟨by decide, padded width value⟩
  refine Text.isWord_of_forall (by simp [chars]) ?_
  simp only [chars, List.forall_mem_append, List.forall_mem_cons]
  exact ⟨year _, by decide, padded 2 _, by decide, padded 2 _, by decide, padded 2 _, by decide,
    padded 2 _, by decide, padded 2 _, fraction _, by decide, by decide, by decide, by decide,
    by decide, by decide, List.forall_mem_nil _⟩

/-- Whether the text of a value is read back as the value. -/
def Value.readsBack : Value → Bool
  | .timestamp instant => instant.hasPlainYear
  | _ => true

namespace FieldType

/-- Whether the texts of a type's values can be read back: floating point numbers are left out, and
the names of an enumeration are words. -/
def isLegible : FieldType → Bool
  | .float => false
  | .enum variants _ => variants.all fun name => Text.isWord name.toList
  | _ => true

/-- The values that texts may have in the domain of a type. -/
inductive Admits : FieldType → Value → Prop where
  | string (text : String) : Admits .string (.text text)
  | integer {value : Int} (inRange : Text.isInt64 value = true) : Admits .integer (.int value)
  | bool (value : Bool) : Admits .bool (.bool value)
  | timestamp {instant : Time.Instant} (proper : instant.Proper) :
      Admits .timestamp (.timestamp instant)
  | enum {variants : List String} {position : Nat} {name : String} (ranked : Bool)
      (found : findVariant name 0 variants = some (position, name)) :
      Admits (.enum variants ranked) (.enum (if ranked then position else 0) name)

/-! ## Names of an enumeration -/

theorem of_findVariant_eq_some {text name : String} {start position : Nat} {variants : List String}
    (found : findVariant text start variants = some (position, name)) :
    name ∈ variants ∧ Text.sameIgnoringCase name text = true := by
  induction variants generalizing start with
  | nil => cases found
  | cons variant rest ih =>
      rw [findVariant] at found
      split at found
      next same =>
        cases found
        exact ⟨List.mem_cons_self, same⟩
      next =>
        obtain ⟨member, same⟩ := ih found
        exact ⟨List.mem_cons_of_mem variant member, same⟩

/-- Texts that differ in case only find the same name. -/
theorem findVariant_congr {left right : String} (same : Text.sameIgnoringCase left right = true)
    (start : Nat) (variants : List String) :
    findVariant left start variants = findVariant right start variants := by
  have congruent (variant : String) :
      Text.sameIgnoringCase variant left = Text.sameIgnoringCase variant right := by
    rw [Text.sameIgnoringCase, Text.sameIgnoringCase, beq_iff_eq.mp same]
  induction variants generalizing start with
  | nil => rfl
  | cons variant rest ih => rw [findVariant, findVariant, congruent, ih]

/-- The name that a text finds is found by itself, at the same place: a name differs from the text
if and only if it differs from that name. -/
theorem findVariant_self {text name : String} {start position : Nat} {variants : List String}
    (found : findVariant text start variants = some (position, name)) :
    findVariant name start variants = some (position, name) := by
  rw [findVariant_congr (of_findVariant_eq_some found).2, found]

/-- A name is read as itself, if no blanks stand around it. -/
theorem ofText?_name {variants : List String} {position : Nat} {name : String}
    (found : findVariant name 0 variants = some (position, name))
    (trimmed : Text.isTrimmed name.toList = true) (ranked : Bool) :
    (FieldType.enum variants ranked).ofText? name =
      some (.enum (if ranked then position else 0) name) := by
  have sameName : Text.trim name = name := by
    rw [Text.trim, Text.trimBlank_eq_self trimmed, String.ofList_toList]
  simp only [ofText?, sameName, found]
  rfl

/-! ## Texts and values -/

/-- What a text of a legible type stands for. -/
theorem admits_of_ofText? {type : FieldType} (legible : type.isLegible = true) {text : String}
    {value : Value} (success : type.ofText? text = some value) : type.Admits value := by
  cases type with
  | string =>
      cases success
      exact .string text
  | integer =>
      obtain ⟨number, read, rfl⟩ := Option.map_eq_some_iff.mp success
      exact .integer (Text.isInt64_of_readInt64 read)
  | float => cases legible
  | bool =>
      simp only [ofText?] at success
      split at success
      next =>
        cases success
        exact .bool true
      next =>
        split at success
        next =>
          cases success
          exact .bool false
        next => cases success
  | timestamp =>
      obtain ⟨instant, read, rfl⟩ := Option.map_eq_some_iff.mp success
      exact .timestamp (Time.Instant.proper_of_read? read)
  | enum variants ranked =>
      obtain ⟨⟨position, name⟩, found, rfl⟩ := Option.map_eq_some_iff.mp success
      exact .enum ranked (findVariant_self found)
  | objectOf => cases success
  | list => cases success
  | map => cases success

theorem admits_of_ofNumber? {type : FieldType} (legible : type.isLegible = true)
    {number : JsonNumber} {value : Value} (success : type.ofNumber? number = some value) :
    type.Admits value := by
  cases type with
  | float => cases legible
  | integer =>
      cases number with
      | floating number => cases success
      | whole number =>
          obtain ⟨inRange, equal⟩ := Option.ite_none_right_eq_some.mp success
          cases equal
          exact .integer inRange
  | timestamp =>
      cases number with
      | floating number => cases success
      | whole number =>
          obtain ⟨-, read⟩ := Option.ite_none_right_eq_some.mp success
          obtain ⟨instant, isInstant, rfl⟩ := Option.map_eq_some_iff.mp read
          exact .timestamp (Time.Instant.proper_of_ofMillis? isInstant)
  | _ => cases success

/-- What a document of a legible type stands for, in whatever form it is written. -/
theorem admits_of_coerce {type : FieldType} (legible : type.isLegible = true) {document : Json}
    {value : Value} (success : type.coerce document = some value) : type.Admits value := by
  cases document with
  | string text => exact admits_of_ofText? legible success
  | number number => exact admits_of_ofNumber? legible success
  | bool truth =>
      obtain ⟨rfl, equal⟩ := Option.ite_none_right_eq_some.mp success
      cases equal
      exact .bool truth
  | _ => cases success

/-- The values of one type are of one sort, which is not that of null. -/
theorem Admits.sortRank_eq {type : FieldType} {left right : Value} (leftAdmits : type.Admits left)
    (rightAdmits : type.Admits right) : left.sortRank = right.sortRank := by
  cases leftAdmits <;> cases rightAdmits <;> rfl

theorem Admits.ne_null {type : FieldType} {value : Value} (admits : type.Admits value) :
    value ≠ .null := by
  rintro rfl
  cases admits

/-- The text of a value that is no string is a word. -/
theorem isWord_display {type : FieldType} (legible : type.isLegible = true) {value : Value}
    (admits : type.Admits value) (notText : ∀ text, value ≠ .text text) :
    Text.isWord value.display.toList = true := by
  cases admits with
  | string text => exact absurd rfl (notText text)
  | @integer value _ =>
      rw [Value.display, String.toList_ofList]
      exact Text.isWord_writeInt value
  | bool value => cases value <;> decide
  | @timestamp instant _ =>
      rw [Value.display, Time.Instant.text, String.toList_ofList]
      exact instant.isWord_chars
  | @enum variants position name ranked found =>
      exact List.all_eq_true.mp legible name (of_findVariant_eq_some found).1

/-- A text that holds something stands for a value whose text holds something. -/
theorem display_ne_nil {type : FieldType} (legible : type.isLegible = true) {text : String}
    {value : Value} (success : type.ofText? text = some value) (some : text.toList ≠ []) :
    value.display.toList ≠ [] := by
  have admits := admits_of_ofText? legible success
  by_cases isText : ∃ text, value = .text text
  · obtain ⟨inside, rfl⟩ := isText
    cases admits
    cases success
    exact some
  · exact Text.ne_nil_of_isWord
      (isWord_display legible admits fun inside equal => isText ⟨inside, equal⟩)

/-- The text of a value is read back as the value, unless it is an instant with a signed year. -/
theorem ofText?_display {type : FieldType} (legible : type.isLegible = true) {value : Value}
    (admits : type.Admits value) :
    type.ofText? value.display = if value.readsBack then some value else none := by
  cases admits with
  | string text => rfl
  | @integer value inRange =>
      have trimmed := Text.trimBlank_of_isWord (Text.isWord_writeInt value)
      simp only [ofText?, Value.display, String.toList_ofList, trimmed,
        Text.readInt64_writeInt inRange]
      rfl
  | bool value => cases value <;> decide
  | @timestamp instant proper =>
      have trimmed := Text.trimBlank_of_isWord instant.isWord_chars
      simp only [ofText?, Value.display, Time.Instant.text, String.toList_ofList, trimmed,
        Time.Instant.read?_chars proper]
      exact apply_ite (Option.map Value.timestamp) _ _ _
  | @enum variants position name ranked found =>
      have word := List.all_eq_true.mp legible name (of_findVariant_eq_some found).1
      exact ofText?_name found (Text.isTrimmed_of_isWord word) ranked

theorem readsBack_eq_false_iff {value : Value} :
    value.readsBack = false ↔
      ∃ instant, value = .timestamp instant ∧ (instant.year < 0 ∨ 9999 < instant.year) := by
  cases value with
  | timestamp instant =>
      simp only [Value.readsBack, Value.timestamp.injEq, exists_eq_left', ← Bool.not_eq_true,
        Time.Instant.hasPlainYear_iff]
      omega
  | _ => simp [Value.readsBack]

/-- The text of a value that a document has in the domain of a type is read back as that value. The
only exceptions are instants whose years are written with a sign: their texts stand for nothing. An
enumeration may have any names, since only a name without blanks around it is ever found, and then
it finds itself. -/
theorem coerce_display {type : FieldType} (notFloat : type ≠ .float) {document : Json}
    {value : Value} (success : type.coerce document = some value) :
    type.coerce (.string value.display) = (if value.readsBack then some value else none) ∧
      (value.readsBack = false ↔
        ∃ instant, value = .timestamp instant ∧ (instant.year < 0 ∨ 9999 < instant.year)) := by
  refine ⟨?_, readsBack_eq_false_iff⟩
  cases type with
  | float => exact absurd rfl notFloat
  | enum variants ranked =>
      cases document with
      | string text =>
          obtain ⟨⟨position, name⟩, found, rfl⟩ := Option.map_eq_some_iff.mp success
          have trimmed : Text.isTrimmed (Text.trim text).toList = true := by
            rw [Text.toList_trim]
            exact Text.isTrimmed_trimBlank text.toList
          have nameTrimmed :=
            Text.isTrimmed_of_sameIgnoringCase (of_findVariant_eq_some found).2 trimmed
          exact ofText?_name (findVariant_self found) nameTrimmed ranked
      | number number => cases number <;> cases success
      | _ => cases success
  | _ => exact ofText?_display rfl (admits_of_coerce rfl success)

/-- A leap second in another time zone is read back as the same leap second. -/
theorem coerce_display_of_leap_second :
    let leap : Value := .timestamp ⟨1483228799, 1500000000⟩
    FieldType.timestamp.coerce (.string " 2016-12-31T18:59:60.5-05:00") = some leap ∧
      leap.display = "2016-12-31T23:59:60.500+00:00" ∧
      FieldType.timestamp.coerce (.string leap.display) = some leap := by
  intro leap
  have notFloat : FieldType.timestamp ≠ .float := by decide
  have success :
      FieldType.timestamp.coerce (.string " 2016-12-31T18:59:60.5-05:00") = some leap := by rfl
  exact ⟨success, by decide +kernel, (coerce_display notFloat success).1⟩

end FieldType

end ClusterQuery
