import ClusterQuery.Proofs.Query.Layout
import ClusterQuery.Proofs.Record.Acceptance
import ClusterQuery.Query.SortOrder

/-!
# Spellings of one record

A field may be written in more than one way: a whole number as a number or as a string, a name of an
enumeration in any case and with blanks around it, and a field that is left out as null. Documents
that differ in nothing else conform to a schema together, and they have the same slots. So no path,
order or filter tells their records apart.
-/

namespace ClusterQuery

/-! ## Texts -/

namespace Text

/-- Trimming does not see case. -/
theorem trimBlank_map_lowerAscii (text : List Char) :
    trimBlank (text.map lowerAscii) = (trimBlank text).map lowerAscii := by
  have blank : isBlank ∘ lowerAscii = isBlank := funext isBlank_lowerAscii
  simp only [trimBlank, dropWhileEnd, List.dropWhile_map, ← List.map_reverse, blank]

/-- Words that differ in case only still do so without the blanks around them. -/
theorem sameIgnoringCase_trim {left right : String} (same : sameIgnoringCase left right = true) :
    sameIgnoringCase (trim left) (trim right) = true := by
  rw [sameIgnoringCase, beq_iff_eq] at same ⊢
  rw [toList_trim, toList_trim, ← trimBlank_map_lowerAscii, same, trimBlank_map_lowerAscii]

theorem trim_between (before after : Blanks) (text : String) :
    trim (before.text ++ text ++ after.text) = trim text :=
  congrArg String.ofList (trimBlank_between before after text)

/-- A plus sign in front of a number that is not negative does not count. -/
theorem readInt64_plus_writeInt {value : Int} (inRange : isInt64 value = true)
    (notNegative : 0 ≤ value) : readInt64 ('+' :: writeInt value) = some value := by
  obtain ⟨size, rfl⟩ := Int.eq_ofNat_of_zero_le notNegative
  have read := readInt64_writeInt inRange
  obtain ⟨first, rest, digits, isDigit⟩ := writeNat_eq_cons size
  have written : writeInt (size : Int) = first :: rest := digits
  rw [written, readInt64_of_isDigit isDigit, readNat_of_isDigit isDigit] at read
  rw [written]
  exact read

/-- The strings that spell a whole number: its digits between blanks, behind an optional plus sign
if the number is not negative. -/
inductive SpellsInt (value : Int) : String → Prop where
  | plain (before after : Blanks) :
      SpellsInt value (before.text ++ String.ofList (writeInt value) ++ after.text)
  | signed (before after : Blanks) (notNegative : 0 ≤ value) :
      SpellsInt value (before.text ++ String.ofList ('+' :: writeInt value) ++ after.text)

theorem readInt64_of_spellsInt {value : Int} (inRange : isInt64 value = true) {text : String}
    (spelled : SpellsInt value text) : readInt64 (trimBlank text.toList) = some value := by
  cases spelled with
  | plain before after =>
      rw [trimBlank_between, String.toList_ofList, trimBlank_of_isWord (isWord_writeInt value),
        readInt64_writeInt inRange]
  | signed before after notNegative =>
      have word : isWord ('+' :: writeInt value) = true := isWord_cons rfl (isWord_writeInt value)
      rw [trimBlank_between, String.toList_ofList, trimBlank_of_isWord word,
        readInt64_plus_writeInt inRange notNegative]

end Text

/-! ## Spellings of one value -/

/-- The documents that hold a whole number. -/
inductive Json.HoldsInt (value : Int) : Json → Prop where
  | number : HoldsInt value (.number (.whole value))
  | string {text : String} (spelled : Text.SpellsInt value text) : HoldsInt value (.string text)

namespace FieldType

/-- Two ways to write a value in a field of a type. -/
inductive Respelled : FieldType → Json → Json → Prop where
  | unchanged (type : FieldType) (document : Json) : Respelled type document document
  | integer {value : Int} {left right : Json} (inRange : Text.isInt64 value = true)
      (leftHolds : left.HoldsInt value) (rightHolds : right.HoldsInt value) :
      Respelled .integer left right
  /-- Milliseconds since 1970, whether or not there is an instant for them. -/
  | timestamp {value : Int} {left right : Json} (inRange : Text.isInt64 value = true)
      (leftHolds : left.HoldsInt value) (rightHolds : right.HoldsInt value) :
      Respelled .timestamp left right
  /-- Words that differ in case and in the blanks around them, whether or not they name anything. -/
  | word {variants : List String} {ranked : Bool} {left right : String}
      (before after beforeRight afterRight : Text.Blanks)
      (same : Text.sameIgnoringCase left right = true) :
      Respelled (.enum variants ranked) (.string (before.text ++ left ++ after.text))
        (.string (beforeRight.text ++ right ++ afterRight.text))

variable {type : FieldType} {left right : Json} {value : Int}

theorem coerce_integer_of_holdsInt (inRange : Text.isInt64 value = true)
    (holds : left.HoldsInt value) : FieldType.integer.coerce left = some (.int value) := by
  cases holds with
  | number => exact if_pos inRange
  | string spelled =>
      simp only [coerce, ofText?, Text.readInt64_of_spellsInt inRange spelled, Option.map_some]

theorem coerce_timestamp_of_holdsInt (inRange : Text.isInt64 value = true)
    (holds : left.HoldsInt value) :
    FieldType.timestamp.coerce left = (Time.Instant.ofMillis? value).map .timestamp := by
  cases holds with
  | number => exact if_pos inRange
  | string spelled =>
      simp only [coerce, ofText?, Time.Instant.read?, Text.readInt64_of_spellsInt inRange spelled]

/-- All ways to write a value are read alike: as the value, or as none. -/
theorem coerce_eq_of_respelled (respelled : type.Respelled left right) :
    type.coerce left = type.coerce right := by
  cases respelled with
  | unchanged => rfl
  | integer inRange leftHolds rightHolds =>
      rw [coerce_integer_of_holdsInt inRange leftHolds,
        coerce_integer_of_holdsInt inRange rightHolds]
  | timestamp inRange leftHolds rightHolds =>
      rw [coerce_timestamp_of_holdsInt inRange leftHolds,
        coerce_timestamp_of_holdsInt inRange rightHolds]
  | word before after beforeRight afterRight same =>
      simp only [coerce, ofText?, Text.trim_between,
        findVariant_congr (Text.sameIgnoringCase_trim same)]

theorem isNull_eq_of_respelled (respelled : type.Respelled left right) :
    left.isNull = right.isNull := by
  cases respelled with
  | unchanged => rfl
  | integer _ leftHolds rightHolds => cases leftHolds <;> cases rightHolds <;> rfl
  | timestamp _ leftHolds rightHolds => cases leftHolds <;> cases rightHolds <;> rfl
  | word => rfl

theorem decode_of_respelled (respelled : type.Respelled left right) (path : String) (slot : Slot) :
    type.decode path left = .ok slot ↔ type.decode path right = .ok slot := by
  cases orderable : type.isOrderable with
  | true =>
      rw [decode_of_isOrderable orderable, decode_of_isOrderable orderable,
        coerce_eq_of_respelled respelled]
      cases type.coerce right <;> simp
  | false =>
      -- Collections are written in one way.
      cases respelled with
      | unchanged => rfl
      | integer => cases orderable
      | timestamp => cases orderable
      | word => cases orderable

end FieldType

namespace Field

/-- Two ways to fill in a field: as it is, left out both times, or with a value that is written in
two ways. -/
inductive Respelled (field : Field) (lefts rights : List (String × Json)) : Prop where
  | unchanged (same : Json.lookup field.name lefts = Json.lookup field.name rights)
  | leftOut (optional : field.required = false) (absentLeft : field.IsLeftOut lefts)
      (absentRight : field.IsLeftOut rights)
  | held {left right : Json} (isLeft : Json.lookup field.name lefts = some left)
      (isRight : Json.lookup field.name rights = some right)
      (respelled : field.type.Respelled left right)

variable {field : Field} {lefts rights : List (String × Json)}

theorem decode_of_respelled (respelled : field.Respelled lefts rights) (path : String)
    (slot : Slot) : field.decode path lefts = .ok slot ↔ field.decode path rights = .ok slot := by
  cases respelled with
  | unchanged same => rw [decode_congr same]
  | leftOut _ absentLeft absentRight =>
      rw [decode_eq, decode_eq, present?_eq_none_iff.mpr absentLeft,
        present?_eq_none_iff.mpr absentRight]
  | @held left right isLeft isRight respelled =>
      rw [decode_eq, decode_eq, present?, present?, isLeft, isRight, Option.filter_some,
        Option.filter_some, FieldType.isNull_eq_of_respelled respelled]
      cases right.isNull with
      | true => rfl
      | false => exact FieldType.decode_of_respelled respelled _ slot

theorem decodeAll_of_respelled {fields : List Field}
    (respelled : ∀ field ∈ fields, field.Respelled lefts rights) {path : String}
    {slots : List Slot} :
    decodeAll path lefts fields = .ok slots ↔ decodeAll path rights fields = .ok slots := by
  simp only [decodeAll_eq_ok_iff]
  induction fields generalizing slots with
  | nil => simp only [List.forall₂_nil_left_iff]
  | cons field fields ih =>
      obtain ⟨first, rest⟩ := List.forall_mem_cons.mp respelled
      simp only [List.forall₂_cons_left_iff, decode_of_respelled first, ih rest]

end Field

namespace Schema

/-- Documents that differ only in how declared fields are filled in. Nothing is said about what else
they hold. -/
inductive Respelled (schema : Schema) (left right : Json) : Prop where
  | unchanged (same : left = right)
  | root {lefts rights : List (String × Json)}
      (isRootLeft : left.get? schema.root = some (.object lefts))
      (isRootRight : right.get? schema.root = some (.object rights))
      (fields : ∀ field ∈ schema.fields, field.Respelled lefts rights)

variable {schema : Schema} {left right : Json}

/-- Documents that differ in spelling only conform together, with the same slots. -/
theorem decode_of_respelled (respelled : schema.Respelled left right) (slots : List Slot) :
    schema.decode left = .ok slots ↔ schema.decode right = .ok slots := by
  cases respelled with
  | unchanged same => rw [same]
  | root isRootLeft isRootRight fields =>
      rw [decode_of_root isRootLeft, decode_of_root isRootRight,
        Field.decodeAll_of_respelled fields]

end Schema

namespace Record

variable {kind : RecordKind} {left right : Json}

theorem slots_eq_of_respelled (respelled : kind.schema.Respelled left right)
    {leftRecord rightRecord : Record} (leftDecodes : decode kind left = .ok leftRecord)
    (rightDecodes : decode kind right = .ok rightRecord) :
    leftRecord.slots = rightRecord.slots := by
  obtain ⟨rfl, rfl⟩ := of_decode_eq_ok leftDecodes
  obtain ⟨sameKind, rfl⟩ := of_decode_eq_ok rightDecodes
  have conforms := (Schema.decode_of_respelled respelled _).mp leftRecord.conforms
  rw [← sameKind, rightRecord.conforms] at conforms
  exact (Except.ok.inj conforms).symm

/-- Of two documents that differ in spelling only, one decodes if and only if the other does. No
path, order or filter tells their records apart. -/
theorem spelling_is_immaterial (respelled : kind.schema.Respelled left right) :
    ((∃ record, decode kind left = .ok record) ↔ ∃ record, decode kind right = .ok record) ∧
      ∀ leftRecord rightRecord, decode kind left = .ok leftRecord →
        decode kind right = .ok rightRecord →
        (∀ path compiled, FieldPath.compile path kind = .ok compiled →
          compiled.extract leftRecord = compiled.extract rightRecord) ∧
        (∀ (order : SortOrder) (third : Record),
          order.compare leftRecord third = order.compare rightRecord third ∧
            order.compare third leftRecord = order.compare third rightRecord) ∧
        ∀ filter : Filter, filter.accepts leftRecord = filter.accepts rightRecord := by
  refine ⟨?decodes, fun leftRecord rightRecord leftDecodes rightDecodes => ?alike⟩
  case decodes =>
    rw [exists_decode_eq_ok_iff, exists_decode_eq_ok_iff, ← Schema.exists_decode_eq_ok_iff,
      ← Schema.exists_decode_eq_ok_iff]
    simp only [Schema.decode_of_respelled respelled]
  case alike =>
    have sameSlots := slots_eq_of_respelled respelled leftDecodes rightDecodes
    have extracted (path : FieldPath) : path.extract leftRecord = path.extract rightRecord := by
      rw [FieldPath.extract, FieldPath.extract, valueAt, valueAt, sameSlots]
    refine ⟨fun _ compiled _ => extracted compiled, fun order third => ?_, fun filter => ?_⟩
    · rw [SortOrder.compare, SortOrder.compare, SortOrder.compare, SortOrder.compare,
        SortOrder.key, SortOrder.key, SortOrder.key, extracted]
      exact ⟨rfl, rfl⟩
    · rw [Filter.accepts, Filter.accepts, extracted]

/-- A moment as a number and as a string with a sign, a level in two cases, and an exception that is
null or not there. -/
theorem spelling_is_immaterial_of_log :
    let plain : Json := .object [("log", .object [("exception", .null), ("level", .string "WARN"),
      ("logger", .string "l"), ("message", .string "m"), ("node", .string "n"),
      ("thread", .string "t"), ("ts", .number (.whole 1700000000000))])]
    let respelled : Json := .object [("log", .object [("level", .string "\twarn"),
      ("logger", .string "l"), ("message", .string "m"), ("node", .string "n"),
      ("thread", .string "t"), ("ts", .string "\u2003+1700000000000 ")])]
    let ts : FieldPath := ⟨.log, "log.ts", [0], .timestamp⟩
    let level : FieldPath := ⟨.log, "log.level", [1], .enum logLevels true⟩
    RecordKind.log.schema.Respelled plain respelled ∧
      ∃ left right, decode .log plain = .ok left ∧ decode .log respelled = .ok right ∧
        (FieldPath.compile "log.ts" .log = .ok ts ∧ ts.extract left = .timestamp ⟨1700000000, 0⟩ ∧
          ts.extract right = .timestamp ⟨1700000000, 0⟩) ∧
        (FieldPath.compile "log.level" .log = .ok level ∧ level.extract left = .enum 3 "WARN" ∧
          level.extract right = .enum 3 "WARN") ∧
        (∀ order : SortOrder, order.compare left right = order.compare right right) ∧
        ∀ filter : Filter, filter.accepts left = filter.accepts right := by
  intro plain respelled ts level
  let noBlank : Text.Blanks := ⟨"", rfl⟩
  let tab : Text.Blanks := ⟨"\t", rfl⟩
  let space : Text.Blanks := ⟨" ", rfl⟩
  let wideSpace : Text.Blanks := ⟨"\u2003", rfl⟩
  have moment : Text.SpellsInt 1700000000000 "\u2003+1700000000000 " :=
    .signed wideSpace space (by decide)
  have word : (FieldType.enum logLevels true).Respelled (.string "WARN") (.string "\twarn") :=
    @FieldType.Respelled.word logLevels true "WARN" "warn" noBlank noBlank tab noBlank rfl
  have spelled : RecordKind.log.schema.Respelled plain respelled := by
    refine .root rfl rfl ?_
    change ∀ field ∈ logSchema.fields, _
    simp only [logSchema, List.forall_mem_cons]
    refine ⟨?ts, ?level, .unchanged rfl, .unchanged rfl, .unchanged rfl, .unchanged rfl, ?exception,
      .unchanged rfl, List.forall_mem_nil _⟩
    case ts => exact .held rfl rfl (.timestamp rfl .number (.string moment))
    case level => exact .held rfl rfl word
    case exception => exact .leftOut rfl (.inr rfl) (.inl rfl)
  have conforms : RecordKind.log.schema.decode plain = .ok [.scalar (.timestamp ⟨1700000000, 0⟩),
      .scalar (.enum 3 "WARN"), .scalar (.text "l"), .scalar (.text "t"), .scalar (.text "m"),
      .scalar (.text "n"), .scalar .null, .unread] := by rfl
  have decodes := decode_of_conforms conforms
  obtain ⟨together, alike⟩ := spelling_is_immaterial spelled
  obtain ⟨right, decodesRespelled⟩ := together.mp ⟨_, decodes⟩
  obtain ⟨extracted, ordered, accepted⟩ := alike _ right decodes decodesRespelled
  refine ⟨spelled, _, right, decodes, decodesRespelled, ⟨rfl, rfl, ?_⟩, ⟨rfl, rfl, ?_⟩,
    fun order => (ordered order right).1, accepted⟩
  · exact (extracted "log.ts" ts rfl).symm
  · exact (extracted "log.level" level rfl).symm

end Record

end ClusterQuery
