import ClusterQuery.Json.Raw
import ClusterQuery.Proofs.Json.NumberGrammar

/-!
# The grammar of JSON

What spells a raw document, said without the reader. Between the parts of a document there may be
blanks; a string has no unescaped quote or control character in it, and its escapes are complete;
what a container holds is separated by commas. The reader takes exactly the texts that spell a
document, and returns the document that they spell.
-/

namespace ClusterQuery.RawJson

/-! ## Texts that spell a document -/

def AreBlanks (text : List Char) : Prop := ∀ c ∈ text, JsonToken.isSpace c = true

/-- What may stand between the quotes of a string. An escaped unit has four digits; whether it is a
character is another matter. -/
inductive IsInside : List Char → Prop where
  | nil : IsInside []
  | plain {c : Char} {rest : List Char} (notQuote : c ≠ '"') (notBackslash : c ≠ '\\')
      (notControl : 0x20 ≤ c.toNat) (inside : IsInside rest) : IsInside (c :: rest)
  | short {mark : Char} {rest : List Char}
      (isMark : mark ∈ ['"', '\\', '/', 'b', 'f', 'n', 'r', 't']) (inside : IsInside rest) :
      IsInside ('\\' :: mark :: rest)
  | unit {a b c d : Char} {rest : List Char}
      (areDigits : ∀ digit ∈ [a, b, c, d], (Text.hexValue? digit).isSome = true)
      (inside : IsInside rest) : IsInside ('\\' :: 'u' :: a :: b :: c :: d :: rest)

/-- How an entry of an object is spelt: its key, the blanks around it, and the text of its value. -/
structure EntrySpelling where
  key : List Char
  value : RawJson
  before : List Char
  after : List Char
  text : List Char

namespace EntrySpelling

def entry (spelling : EntrySpelling) : List Char × RawJson := (spelling.key, spelling.value)

def chars (spelling : EntrySpelling) : List Char :=
  spelling.before ++ '"' :: (spelling.key ++ '"' :: (spelling.after ++ ':' :: spelling.text))

/-- Whether all but the value is in order. -/
structure IsProper (spelling : EntrySpelling) : Prop where
  before : AreBlanks spelling.before
  key : IsInside spelling.key
  after : AreBlanks spelling.after

end EntrySpelling

/-- The texts that spell a document. -/
inductive SpeltBy : RawJson → List Char → Prop where
  | null : SpeltBy .null ['n', 'u', 'l', 'l']
  | true : SpeltBy (.bool Bool.true) ['t', 'r', 'u', 'e']
  | false : SpeltBy (.bool Bool.false) ['f', 'a', 'l', 's', 'e']
  | number {literal : NumberLiteral} {text : List Char} (isNumber : literal.SpeltBy text) :
      SpeltBy (.number literal) text
  | string {inside : List Char} (isInside : IsInside inside) :
      SpeltBy (.string inside) ('"' :: (inside ++ ['"']))
  | emptyArray {blanks : List Char} (areBlanks : AreBlanks blanks) :
      SpeltBy (.array []) ('[' :: (blanks ++ [']']))
  /-- Items with their texts. -/
  | array {items : List (RawJson × List Char)} (notEmpty : items ≠ [])
      (each : ∀ item ∈ items, SpeltBy item.1 item.2) :
      SpeltBy (.array (items.map Prod.fst))
        ('[' :: ([','].intercalate (items.map Prod.snd) ++ [']']))
  | emptyObject {blanks : List Char} (areBlanks : AreBlanks blanks) :
      SpeltBy (.object []) ('{' :: (blanks ++ ['}']))
  | object {entries : List EntrySpelling} (notEmpty : entries ≠ [])
      (proper : ∀ entry ∈ entries, entry.IsProper)
      (each : ∀ entry ∈ entries, SpeltBy entry.value entry.text) :
      SpeltBy (.object (entries.map EntrySpelling.entry))
        ('{' :: ([','].intercalate (entries.map EntrySpelling.chars) ++ ['}']))
  | spaced {value : RawJson} {before text after : List Char} (blankBefore : AreBlanks before)
      (blankAfter : AreBlanks after) (spelt : SpeltBy value text) :
      SpeltBy value (before ++ text ++ after)

/-! ## Blanks and what ends a value -/

theorem AreBlanks.nil : AreBlanks [] := List.forall_mem_nil _

/-- Blanks are skipped, and nothing else. -/
theorem exists_blanks (text : List Char) :
    ∃ blanks, AreBlanks blanks ∧ text = blanks ++ skip text :=
  ⟨text.takeWhile JsonToken.isSpace, List.all_eq_true.mp List.all_takeWhile,
    List.takeWhile_append_dropWhile.symm⟩

theorem skip_append {blanks : List Char} (areBlanks : AreBlanks blanks) (rest : List Char) :
    skip (blanks ++ rest) = skip rest :=
  List.dropWhile_append_of_pos areBlanks

theorem skip_cons {c : Char} (notBlank : JsonToken.isSpace c = false) (rest : List Char) :
    skip (c :: rest) = c :: rest :=
  List.dropWhile_cons_of_neg (Bool.not_eq_true _ ▸ notBlank)

/-- Whether what follows a value can end it: nothing, a blank, a comma or a closing mark. -/
def endsValue (rest : List Char) : Bool :=
  rest.head?.all fun c => JsonToken.isSpace c || c == ',' || c == ']' || c == '}'

/-! ## Strings -/

/-- The marks of the short escapes are those that the reader of strings knows. -/
theorem isSome_simpleEscape?_iff {mark : Char} :
    (JsonToken.simpleEscape? mark).isSome = true ↔
      mark ∈ ['"', '\\', '/', 'b', 'f', 'n', 'r', 't'] := by
  unfold JsonToken.simpleEscape?
  split <;> simp_all

theorem isInside_of_readInside {text inside rest : List Char}
    (read : readInside text = some (inside, rest)) :
    IsInside inside ∧ text = inside ++ '"' :: rest := by
  fun_induction readInside text generalizing inside rest with
  | case1 => cases read
  | case2 =>
      cases read
      exact ⟨.nil, rfl⟩
  | case3 a b c d others areDigits ih =>
      obtain ⟨⟨passed, _⟩, success, equal⟩ := Option.bind_eq_some_iff.mp read
      cases equal
      obtain ⟨isInside, rfl⟩ := ih success
      exact ⟨.unit (List.all_eq_true.mp areDigits) isInside, rfl⟩
  | case4 => cases read
  | case5 mark others _ isMark ih =>
      obtain ⟨⟨passed, _⟩, success, equal⟩ := Option.bind_eq_some_iff.mp read
      cases equal
      obtain ⟨isInside, rfl⟩ := ih success
      exact ⟨.short (isSome_simpleEscape?_iff.mp isMark) isInside, rfl⟩
  | case6 => cases read
  | case7 => cases read
  | case8 c others notQuote _ _ plain ih =>
      obtain ⟨⟨passed, _⟩, success, equal⟩ := Option.bind_eq_some_iff.mp read
      cases equal
      obtain ⟨isInside, rfl⟩ := ih success
      rw [not_or, Nat.not_lt] at plain
      exact ⟨.plain (by rintro rfl; exact notQuote rfl) plain.1 plain.2 isInside, rfl⟩

theorem readInside_append {inside : List Char} (isInside : IsInside inside) (rest : List Char) :
    readInside (inside ++ '"' :: rest) = some (inside, rest) := by
  induction isInside with
  | nil => rfl
  | plain notQuote notBackslash notControl _ ih =>
      rw [List.cons_append, readInside,
        if_neg (not_or.mpr ⟨notBackslash, Nat.not_lt.mpr notControl⟩), ih]
      · rfl
      all_goals simp_all
  | short isMark _ ih =>
      rw [List.cons_append, List.cons_append, readInside,
        if_pos (isSome_simpleEscape?_iff.mpr isMark), ih]
      · rfl
      · rintro a b c d others isUnit
        cases isUnit
        exact absurd isMark (by decide)
  | unit areDigits _ ih =>
      simp only [List.cons_append, readInside]
      rw [if_pos (List.all_eq_true.mpr areDigits), ih]
      rfl

/-! ## Containers -/

theorem endsValue_of_blanks {blanks rest : List Char} (areBlanks : AreBlanks blanks)
    (ends : endsValue rest = true) : endsValue (blanks ++ rest) = true := by
  cases blanks with
  | nil => exact ends
  | cons c others =>
      have blank := areBlanks c List.mem_cons_self
      simp [endsValue, blank]

/-- A mark that closes a container ends the value before it. -/
structure Closes (close : Char) : Prop where
  notBlank : JsonToken.isSpace close = false
  notComma : close ≠ ','
  ends : ∀ rest, endsValue (close :: rest) = true

theorem closes_array : Closes ']' := ⟨rfl, by decide, fun _ => rfl⟩

theorem closes_object : Closes '}' := ⟨rfl, by decide, fun _ => rfl⟩

section Containers

variable {α σ : Type} {read : List Char → Option (α × List Char)} {close : Char}
variable {value : σ → α} {chars : σ → List Char}

/-- What is read up to a closing mark are texts, with commas between them, each of which spells the
value that is read from it. -/
theorem exists_of_readSeparated {Legal : σ → Prop}
    (sound : ∀ {text result rest}, read text = some (result, rest) →
      ∃ item, Legal item ∧ result = value item ∧ text = chars item ++ rest)
    {steps : Nat} {text rest : List Char} {results : List α}
    (success : readSeparated read close steps text = some (results, rest)) :
    ∃ items, items ≠ [] ∧ (∀ item ∈ items, Legal item) ∧ results = items.map value ∧
      text = [','].intercalate (items.map chars) ++ close :: rest := by
  induction steps generalizing text results with
  | zero => cases success
  | succ steps ih =>
      rw [readSeparated] at success
      obtain ⟨⟨result, after⟩, first, continued⟩ := Option.bind_eq_some_iff.mp success
      obtain ⟨item, legal, rfl, rfl⟩ := sound first
      dsimp only at continued
      split at continued
      next => cases continued
      next mark others =>
        split at continued
        next isComma =>
          obtain ⟨⟨more, _⟩, others, equal⟩ := Option.bind_eq_some_iff.mp continued
          cases equal
          obtain ⟨items, notEmpty, legals, rfl, rfl⟩ := ih others
          refine ⟨item :: items, List.cons_ne_nil _ _, List.forall_mem_cons.mpr ⟨legal, legals⟩,
            rfl, ?_⟩
          rw [List.map_cons, List.intercalate_cons_of_ne_nil (by simpa using notEmpty), isComma]
          simp
        next =>
          split at continued
          next isClose =>
            cases continued
            exact ⟨[item], List.cons_ne_nil _ _, List.forall_mem_singleton.mpr legal, rfl,
              by simp [isClose]⟩
          next => cases continued

/-- Values that are spelt one by one are read up to the mark that closes them. -/
theorem readSeparated_intercalate (closes : Closes close) {items : List σ} (notEmpty : items ≠ [])
    (each : ∀ item ∈ items, ∀ rest, endsValue rest = true →
      read (chars item ++ rest) = some (value item, skip rest))
    {steps : Nat} (enough : items.length ≤ steps) (rest : List Char) :
    readSeparated read close steps ([','].intercalate (items.map chars) ++ close :: rest) =
      some (items.map value, rest) := by
  induction items generalizing steps with
  | nil => exact absurd rfl notEmpty
  | cons item items ih =>
      obtain ⟨first, others⟩ := List.forall_mem_cons.mp each
      obtain ⟨steps, rfl⟩ := Nat.exists_eq_add_one_of_ne_zero (Nat.ne_of_gt (Nat.lt_of_lt_of_le
        (Nat.succ_pos _) enough))
      cases items with
      | nil =>
          have read := first (close :: rest) (closes.ends rest)
          rw [skip_cons closes.notBlank] at read
          rw [List.map_singleton, List.intercalate_singleton, readSeparated, read]
          simp [closes.notComma]
      | cons second items =>
          have more := ih (List.cons_ne_nil _ _) others (Nat.le_of_succ_le_succ enough)
          have read :=
            first (',' :: ([','].intercalate ((second :: items).map chars) ++ close :: rest))
            rfl
          rw [skip_cons rfl] at read
          rw [List.map_cons, List.intercalate_cons_of_ne_nil (by simp), List.append_assoc,
            List.append_assoc, List.singleton_append, readSeparated, read, Option.bind_eq_bind,
            Option.bind_some]
          dsimp only
          rw [if_pos rfl, more]
          rfl

/-- The inside of a container that is read is blank, or made of values with commas between them. -/
theorem exists_of_readMembers {Legal : σ → Prop}
    (sound : ∀ {text result rest}, read text = some (result, rest) →
      ∃ item, Legal item ∧ result = value item ∧ text = chars item ++ rest)
    {steps : Nat} {text rest : List Char} {results : List α}
    (success : readMembers read close steps text = some (results, rest)) :
    (results = [] ∧ ∃ blanks, AreBlanks blanks ∧ text = blanks ++ close :: rest) ∨
      ∃ items, items ≠ [] ∧ (∀ item ∈ items, Legal item) ∧ results = items.map value ∧
        text = [','].intercalate (items.map chars) ++ close :: rest := by
  unfold readMembers at success
  split at success
  next => cases success
  next mark others skipped =>
    split at success
    next isClose =>
      cases success
      obtain ⟨blanks, areBlanks, split⟩ := exists_blanks text
      rw [skipped, isClose] at split
      exact .inl ⟨rfl, blanks, areBlanks, split⟩
    next => exact .inr (exists_of_readSeparated sound success)

theorem readMembers_blanks (closes : Closes close) {blanks : List Char}
    (areBlanks : AreBlanks blanks) (steps : Nat) (rest : List Char) :
    readMembers read close steps (blanks ++ close :: rest) = some ([], rest) := by
  rw [readMembers, skip_append areBlanks, skip_cons closes.notBlank]
  exact if_pos rfl

/-- No value begins with nothing or with the mark that closes the container. -/
def Begins (read : List Char → Option (α × List Char)) (close : Char) : Prop :=
  ∀ text, read text ≠ none → ∃ c rest, skip text = c :: rest ∧ c ≠ close

theorem readMembers_intercalate (closes : Closes close) (begins : Begins read close)
    {items : List σ} (notEmpty : items ≠ [])
    (each : ∀ item ∈ items, ∀ rest, endsValue rest = true →
      read (chars item ++ rest) = some (value item, skip rest))
    {steps : Nat} (enough : items.length ≤ steps) (rest : List Char) :
    readMembers read close steps ([','].intercalate (items.map chars) ++ close :: rest) =
      some (items.map value, rest) := by
  have separated := readSeparated_intercalate closes notEmpty each enough rest
  have readable : read ([','].intercalate (items.map chars) ++ close :: rest) ≠ none := by
    intro unreadable
    cases steps with
    | zero => cases separated
    | succ steps =>
        rw [readSeparated, unreadable] at separated
        cases separated
  obtain ⟨c, others, skipped, notClose⟩ := begins _ readable
  rw [readMembers, skipped]
  exact (if_neg notClose).trans separated

end Containers

/-! ## Documents -/

section Values

variable {read : List Char → Option (RawJson × List Char)}

/-- What is read as an entry is spelt as one. -/
theorem exists_of_readEntry
    (sound : ∀ {text value rest}, read text = some (value, rest) →
      ∃ spelt, SpeltBy value spelt ∧ text = spelt ++ rest)
    {text rest : List Char} {entry : List Char × RawJson}
    (success : readEntry read text = some (entry, rest)) :
    ∃ spelling : EntrySpelling, (spelling.IsProper ∧ SpeltBy spelling.value spelling.text) ∧
      entry = spelling.entry ∧ text = spelling.chars ++ rest := by
  unfold readEntry at success
  split at success
  next others skipped =>
    obtain ⟨⟨key, afterKey⟩, readsKey, continued⟩ := Option.bind_eq_some_iff.mp success
    dsimp only at continued
    split at continued
    next afterColon skippedAgain =>
      obtain ⟨⟨value, _⟩, readsValue, equal⟩ := Option.bind_eq_some_iff.mp continued
      cases equal
      obtain ⟨before, blankBefore, split⟩ := exists_blanks text
      obtain ⟨isInside, rfl⟩ := isInside_of_readInside readsKey
      obtain ⟨after, blankAfter, splitAfter⟩ := exists_blanks afterKey
      obtain ⟨spelt, isSpelt, rfl⟩ := sound readsValue
      refine ⟨⟨key, value, before, after, spelt⟩,
        ⟨⟨blankBefore, isInside, blankAfter⟩, isSpelt⟩, rfl, ?_⟩
      rw [split, skipped, splitAfter, skippedAgain, EntrySpelling.chars]
      simp
    next => cases continued
  next => cases success

theorem readEntry_chars {spelling : EntrySpelling} (proper : spelling.IsProper) {rest : List Char}
    (reads : read (spelling.text ++ rest) = some (spelling.value, skip rest)) :
    readEntry read (spelling.chars ++ rest) = some (spelling.entry, skip rest) := by
  have keyed :
      readInside (spelling.key ++ '"' :: (spelling.after ++ ':' :: (spelling.text ++ rest))) =
      some (spelling.key, spelling.after ++ ':' :: (spelling.text ++ rest)) :=
    readInside_append proper.key _
  rw [readEntry, EntrySpelling.chars]
  simp only [List.append_assoc, List.cons_append]
  rw [skip_append proper.before, skip_cons rfl]
  simp only [keyed, Option.bind_eq_bind, Option.bind_some]
  rw [skip_append proper.after, skip_cons rfl]
  simp only [reads, Option.bind_some]
  rfl

theorem begins_readEntry : Begins (readEntry read) '}' := by
  intro text readable
  unfold readEntry at readable
  split at readable
  next rest skipped => exact ⟨'"', rest, skipped, by decide⟩
  next => exact absurd rfl readable

/-- What is read as a bare value spells it. -/
theorem exists_of_readBare
    (sound : ∀ {text value rest}, read text = some (value, rest) →
      ∃ spelt, SpeltBy value spelt ∧ text = spelt ++ rest)
    {steps : Nat} {text rest : List Char} {value : RawJson}
    (success : readBare read steps text = some (value, rest)) :
    ∃ spelt, SpeltBy value spelt ∧ text = spelt ++ rest := by
  unfold readBare at success
  split at success
  case h_1 after =>
    obtain ⟨⟨inside, _⟩, readsInside, equal⟩ := Option.map_eq_some_iff.mp success
    cases equal
    obtain ⟨isInside, rfl⟩ := isInside_of_readInside readsInside
    exact ⟨_, .string isInside, by simp⟩
  case h_2 after =>
    obtain ⟨⟨items, _⟩, readsItems, equal⟩ := Option.map_eq_some_iff.mp success
    cases equal
    have item {text : List Char} {value : RawJson} {rest : List Char}
        (reads : read text = some (value, rest)) :
        ∃ item : RawJson × List Char, SpeltBy item.1 item.2 ∧ value = item.1 ∧
          text = item.2 ++ rest := by
      obtain ⟨spelt, isSpelt, split⟩ := sound reads
      exact ⟨(value, spelt), isSpelt, rfl, split⟩
    rcases exists_of_readMembers item readsItems with
      ⟨rfl, blanks, areBlanks, rfl⟩ | ⟨items, notEmpty, each, rfl, rfl⟩
    · exact ⟨_, .emptyArray areBlanks, by simp⟩
    · exact ⟨_, .array notEmpty each, by simp⟩
  case h_3 after =>
    obtain ⟨⟨entries, _⟩, readsEntries, equal⟩ := Option.map_eq_some_iff.mp success
    cases equal
    rcases exists_of_readMembers (exists_of_readEntry sound) readsEntries with
      ⟨rfl, blanks, areBlanks, rfl⟩ | ⟨entries, notEmpty, each, rfl, rfl⟩
    · exact ⟨_, .emptyObject areBlanks, by simp⟩
    · exact ⟨_, .object notEmpty (fun entry member => (each entry member).1)
        fun entry member => (each entry member).2, by simp⟩
  case h_4 => cases success; exact ⟨_, .null, rfl⟩
  case h_5 => cases success; exact ⟨_, .true, rfl⟩
  case h_6 => cases success; exact ⟨_, .false, rfl⟩
  case h_7 =>
    obtain ⟨⟨literal, _⟩, readsNumber, equal⟩ := Option.map_eq_some_iff.mp success
    cases equal
    obtain ⟨spelt, isSpelt, rfl⟩ := NumberLiteral.speltBy_of_read? readsNumber
    exact ⟨spelt, .number isSpelt, rfl⟩

end Values

/-- What is read as a value spells it. -/
theorem exists_of_readValue {steps : Nat} {text rest : List Char} {value : RawJson}
    (success : readValue steps text = some (value, rest)) :
    ∃ spelt, SpeltBy value spelt ∧ text = spelt ++ rest := by
  induction steps generalizing text value rest with
  | zero => cases success
  | succ steps ih =>
      rw [readValue] at success
      obtain ⟨⟨_, others⟩, bare, equal⟩ := Option.map_eq_some_iff.mp success
      cases equal
      obtain ⟨spelt, isSpelt, split⟩ := exists_of_readBare ih bare
      obtain ⟨before, blankBefore, splitBefore⟩ := exists_blanks text
      obtain ⟨after, blankAfter, splitAfter⟩ := exists_blanks others
      refine ⟨before ++ spelt ++ after, .spaced blankBefore blankAfter isSpelt, ?_⟩
      rw [splitBefore, split, List.append_assoc, List.append_assoc, ← splitAfter]

theorem begins_readValue (steps : Nat) : Begins (readValue steps) ']' := by
  intro text readable
  cases steps with
  | zero => exact absurd rfl readable
  | succ steps =>
      cases skipped : skip text with
      | nil =>
          rw [readValue, skipped] at readable
          exact absurd rfl readable
      | cons c rest =>
          refine ⟨c, rest, rfl, ?_⟩
          rintro rfl
          rw [readValue, skipped] at readable
          exact absurd rfl readable

/-! ### What is spelt is read -/

section Reading

variable {steps : Nat} {text rest : List Char} {value : RawJson}

/-- A text with room for a value leaves a step for it. -/
theorem exists_step {c : Char} (enough : (c :: text).length ≤ steps) :
    ∃ fewer, steps = fewer + 1 ∧ text.length ≤ fewer := by
  cases steps with
  | zero => cases enough
  | succ fewer => exact ⟨fewer, rfl, Nat.le_of_succ_le_succ enough⟩

theorem readValue_blanks {blanks : List Char} (areBlanks : AreBlanks blanks) (steps : Nat)
    (text : List Char) : readValue steps (blanks ++ text) = readValue steps text := by
  cases steps with
  | zero => rfl
  | succ steps => rw [readValue, readValue, skip_append areBlanks]

theorem endsBefore_of_endsValue (ends : endsValue rest = true) :
    NumberLiteral.endsBefore rest = true := by
  cases rest with
  | nil => rfl
  | cons c rest =>
      simp only [endsValue, List.head?_cons, Option.all_some, JsonToken.isSpace, Bool.or_eq_true,
        beq_iff_eq] at ends
      rcases ends with (((((rfl | rfl) | rfl) | rfl) | rfl) | rfl) | rfl <;> rfl

theorem readBare_number {read : List Char → Option (RawJson × List Char)} {c : Char}
    (first : c = '-' ∨ Text.isDigit c = true) :
    readBare read steps (c :: text) =
      (NumberLiteral.read? (c :: text)).map fun (literal, rest) => (number literal, rest) := by
  unfold readBare
  split
  case h_7 => rfl
  all_goals
    next equal =>
      cases equal
      rcases first with wrong | wrong <;> cases wrong

theorem isSpace_of_first {c : Char} (first : c = '-' ∨ Text.isDigit c = true) :
    JsonToken.isSpace c = false := by
  cases blank : JsonToken.isSpace c with
  | false => rfl
  | true =>
      simp only [JsonToken.isSpace, Bool.or_eq_true, beq_iff_eq] at blank
      rcases blank with ((rfl | rfl) | rfl) | rfl <;>
        rcases first with wrong | wrong <;> cases wrong

/-- No text is longer than all of them with commas between them. -/
theorem length_le_intercalate {texts : List (List Char)} {text : List Char}
    (member : text ∈ texts) : text.length ≤ ([','].intercalate texts).length := by
  induction texts with
  | nil => cases member
  | cons first others ih =>
      cases others with
      | nil =>
          exact Nat.le_of_eq (by rw [List.mem_singleton.mp member, List.intercalate_singleton])
      | cons second others =>
          rw [List.intercalate_cons_cons, List.length_append, List.length_append]
          rcases List.mem_cons.mp member with rfl | member
          · omega
          · have := ih member
            omega

/-- There are at most as many texts as commas between them and one more. -/
theorem length_le_length_intercalate {σ : Type} (chars : σ → List Char) (items : List σ) :
    items.length ≤ ([','].intercalate (items.map chars)).length + 1 := by
  induction items with
  | nil => exact Nat.zero_le _
  | cons first others ih =>
      cases others with
      | nil => exact Nat.le_add_left _ _
      | cons second others =>
          rw [List.map_cons, List.intercalate_cons_of_ne_nil (by simp), List.length_append,
            List.length_append, List.length_cons, List.length_singleton]
          omega

/-- A text is read as a value, up to where it ends, by as many steps as there are characters. -/
def ReadsAs (value : RawJson) (text : List Char) : Prop :=
  ∀ steps rest, text.length ≤ steps → endsValue rest = true →
    readValue steps (text ++ rest) = some (value, skip rest)

theorem ReadsAs.of_bare {c : Char} (notBlank : JsonToken.isSpace c = false)
    (bare : ∀ steps rest, text.length ≤ steps → endsValue rest = true →
      readBare (readValue steps) steps (c :: (text ++ rest)) = some (value, rest)) :
    ReadsAs value (c :: text) := by
  intro steps rest enough ends
  obtain ⟨fewer, rfl, fits⟩ := exists_step enough
  rw [List.cons_append, readValue, skip_cons notBlank, bare fewer rest fits ends]
  rfl

theorem readsAs_number {literal : NumberLiteral} (isNumber : literal.SpeltBy text) :
    ReadsAs (.number literal) text := by
  obtain ⟨c, others, rfl, first⟩ := isNumber.exists_first
  refine .of_bare (isSpace_of_first first) fun steps rest _ ends => ?_
  have reads := NumberLiteral.read?_of_speltBy isNumber (endsBefore_of_endsValue ends)
  rw [List.cons_append] at reads
  rw [readBare_number first, reads]
  rfl

theorem readsAs_string {inside : List Char} (isInside : IsInside inside) :
    ReadsAs (.string inside) ('"' :: (inside ++ ['"'])) := by
  refine .of_bare rfl fun steps rest _ _ => ?_
  rw [List.append_assoc, List.singleton_append, readBare, readInside_append isInside]
  rfl

theorem readsAs_emptyArray {blanks : List Char} (areBlanks : AreBlanks blanks) :
    ReadsAs (.array []) ('[' :: (blanks ++ [']'])) := by
  refine .of_bare rfl fun steps rest _ _ => ?_
  rw [List.append_assoc, List.singleton_append, readBare,
    readMembers_blanks closes_array areBlanks]
  rfl

theorem readsAs_emptyObject {blanks : List Char} (areBlanks : AreBlanks blanks) :
    ReadsAs (.object []) ('{' :: (blanks ++ ['}'])) := by
  refine .of_bare rfl fun steps rest _ _ => ?_
  rw [List.append_assoc, List.singleton_append, readBare,
    readMembers_blanks closes_object areBlanks]
  rfl

theorem readsAs_array {items : List (RawJson × List Char)} (notEmpty : items ≠ [])
    (each : ∀ item ∈ items, ReadsAs item.1 item.2) :
    ReadsAs (.array (items.map Prod.fst))
      ('[' :: ([','].intercalate (items.map Prod.snd) ++ [']'])) := by
  refine .of_bare rfl fun steps rest fits _ => ?_
  rw [List.length_append, List.length_singleton] at fits
  have few := Nat.le_trans (length_le_length_intercalate Prod.snd items) fits
  have reads : ∀ item ∈ items, ∀ rest, endsValue rest = true →
      readValue steps (item.2 ++ rest) = some (item.1, skip rest) := by
    intro item member rest ends
    have short := length_le_intercalate (List.mem_map_of_mem (f := Prod.snd) member)
    exact each item member steps rest (by omega) ends
  rw [List.append_assoc, List.singleton_append, readBare,
    readMembers_intercalate closes_array (begins_readValue steps) notEmpty reads few]
  rfl

theorem readsAs_object {entries : List EntrySpelling} (notEmpty : entries ≠ [])
    (proper : ∀ entry ∈ entries, entry.IsProper)
    (each : ∀ entry ∈ entries, ReadsAs entry.value entry.text) :
    ReadsAs (.object (entries.map EntrySpelling.entry))
      ('{' :: ([','].intercalate (entries.map EntrySpelling.chars) ++ ['}'])) := by
  refine .of_bare rfl fun steps rest fits _ => ?_
  rw [List.length_append, List.length_singleton] at fits
  have few := Nat.le_trans (length_le_length_intercalate EntrySpelling.chars entries) fits
  have reads : ∀ entry ∈ entries, ∀ rest, endsValue rest = true →
      readEntry (readValue steps) (entry.chars ++ rest) = some (entry.entry, skip rest) := by
    intro entry member rest ends
    have short := length_le_intercalate (List.mem_map_of_mem (f := EntrySpelling.chars) member)
    have shorter : entry.text.length ≤ entry.chars.length := by
      rw [EntrySpelling.chars]
      simp only [List.length_append, List.length_cons]
      omega
    exact readEntry_chars (proper entry member)
      (each entry member steps rest (by omega) ends)
  rw [List.append_assoc, List.singleton_append, readBare,
    readMembers_intercalate closes_object begins_readEntry notEmpty reads few]
  rfl

theorem ReadsAs.spaced {before after : List Char} (blankBefore : AreBlanks before)
    (blankAfter : AreBlanks after) (reads : ReadsAs value text) :
    ReadsAs value (before ++ text ++ after) := by
  intro steps rest enough ends
  have fits : text.length ≤ steps := by
    rw [List.length_append, List.length_append] at enough
    omega
  rw [List.append_assoc, List.append_assoc, readValue_blanks blankBefore,
    reads steps _ fits (endsValue_of_blanks blankAfter ends), skip_append blankAfter]

/-- A text that spells a value is read as that value. -/
theorem SpeltBy.readsAs (spelt : SpeltBy value text) : ReadsAs value text := by
  induction spelt with
  | null => exact .of_bare rfl fun _ _ _ _ => rfl
  | true => exact .of_bare rfl fun _ _ _ _ => rfl
  | false => exact .of_bare rfl fun _ _ _ _ => rfl
  | number isNumber => exact readsAs_number isNumber
  | string isInside => exact readsAs_string isInside
  | emptyArray areBlanks => exact readsAs_emptyArray areBlanks
  | array notEmpty _ ih => exact readsAs_array notEmpty ih
  | emptyObject areBlanks => exact readsAs_emptyObject areBlanks
  | object notEmpty proper _ ih => exact readsAs_object notEmpty proper ih
  | spaced blankBefore blankAfter _ ih => exact .spaced blankBefore blankAfter ih

end Reading

/-- The reader takes the texts that spell a document, and returns the document that they spell. -/
theorem read?_eq_some_iff {text : List Char} {document : RawJson} :
    read? text = some document ↔ document.SpeltBy text := by
  constructor
  · intro read
    unfold read? at read
    split at read
    next success =>
      cases read
      obtain ⟨spelt, isSpelt, rfl⟩ := exists_of_readValue success
      rwa [List.append_nil]
    next => cases read
  · intro isSpelt
    have read := isSpelt.readsAs text.length [] (Nat.le_refl _) rfl
    rw [List.append_nil] at read
    rw [read?, read]
    rfl

end ClusterQuery.RawJson
