import ClusterQuery.Proofs.Query.CanonicalText
import Mathlib.Data.List.Forall2

/-!
# What a path extracts

Compiling turns the name of a field into its position, and decoding puts one slot for each declared
field in a row, whether the field is there or not. The two meet in every record: a compiled path
extracts what the document has for the field that it names, taken into the domain of the field's
type, and null if the document may leave the field out and does. So the values that one path is
compared by are of one sort, or null.
-/

namespace ClusterQuery

/-! ## Steps that may fail -/

section Steps

variable {α β ε : Type} {step : α → Except ε β} {items : List α}

/-- Steps succeed together if each succeeds, and their results come in their order. -/
theorem mapM_eq_ok_iff {results : List β} :
    items.mapM step = .ok results ↔
      List.Forall₂ (fun item result => step item = .ok result) items results := by
  induction items generalizing results with
  | nil => simp [pure, Except.pure, eq_comm]
  | cons item items ih =>
      rw [List.mapM_cons]
      simp only [List.forall₂_cons_left_iff, ← ih]
      cases step item with
      | error error => simp [bind, Except.bind]
      | ok result =>
          cases items.mapM step with
          | error error => simp [bind, Except.bind]
          | ok others => simp [bind, Except.bind, pure, Except.pure, eq_comm]

/-- Steps fail together with the error of the first one that fails. -/
theorem mapM_eq_error_iff {error : ε} :
    items.mapM step = .error error ↔
      ∃ before item after, items = before ++ item :: after ∧
        (∀ earlier ∈ before, ∃ result, step earlier = .ok result) ∧ step item = .error error := by
  induction items with
  | nil => simp [pure, Except.pure]
  | cons item items ih =>
      rw [List.mapM_cons]
      cases first : step item with
      | error fault =>
          simp only [bind, Except.bind, Except.error.injEq]
          constructor
          · rintro rfl
            exact ⟨[], item, items, rfl, List.forall_mem_nil _, first⟩
          · rintro ⟨before, failing, after, split, succeeds, fails⟩
            cases before with
            | nil =>
                cases split
                exact Except.error.inj (first.symm.trans fails)
            | cons earlier before =>
                cases split
                obtain ⟨result, success⟩ := succeeds item List.mem_cons_self
                cases first.symm.trans success
      | ok result =>
          have rest : (do
              let results ← items.mapM step
              pure (result :: results)) = Except.error error ↔ items.mapM step = .error error := by
            cases items.mapM step <;> simp [bind, Except.bind, pure, Except.pure]
          refine rest.trans (ih.trans ?_)
          constructor
          · rintro ⟨before, failing, after, rfl, succeeds, fails⟩
            refine ⟨item :: before, failing, after, rfl, ?_, fails⟩
            exact List.forall_mem_cons.mpr ⟨⟨result, first⟩, succeeds⟩
          · rintro ⟨before, failing, after, split, succeeds, fails⟩
            cases before with
            | nil =>
                cases split
                cases first.symm.trans fails
            | cons earlier before =>
                cases split
                exact ⟨before, failing, after, rfl, (List.forall_mem_cons.mp succeeds).2, fails⟩

/-- Steps succeed together if and only if each of them succeeds. -/
theorem exists_mapM_eq_ok_iff :
    (∃ results, items.mapM step = .ok results) ↔
      ∀ item ∈ items, ∃ result, step item = .ok result := by
  constructor
  · rintro ⟨results, success⟩
    rw [mapM_eq_ok_iff] at success
    induction success with
    | nil => exact List.forall_mem_nil _
    | cons first _ ih => exact List.forall_mem_cons.mpr ⟨⟨_, first⟩, ih⟩
  · intro each
    cases outcome : items.mapM step with
    | ok results => exact ⟨results, rfl⟩
    | error error =>
        obtain ⟨before, item, after, rfl, -, fails⟩ := mapM_eq_error_iff.mp outcome
        obtain ⟨result, success⟩ := each item (List.mem_append_right _ List.mem_cons_self)
        cases fails.symm.trans success

end Steps

/-! ## Decoded fields -/

namespace FieldType

variable {type : FieldType}

/-- What is in a field whose values can be compared is taken into the domain of its type. -/
theorem decode_of_isOrderable (orderable : type.isOrderable = true) (path : String)
    (document : Json) :
    type.decode path document =
      match type.coerce document with
      | some value => .ok (.scalar value)
      | none => .error (.invalidValue path document type) := by
  cases type with
  | objectOf => cases orderable
  | list => cases orderable
  | map => cases orderable
  | _ => rfl

theorem leftOut_of_isOrderable (orderable : type.isOrderable = true) :
    type.leftOut = .scalar .null := by
  cases type with
  | objectOf => cases orderable
  | list => cases orderable
  | map => cases orderable
  | _ => rfl

end FieldType

namespace Field

variable {field : Field} {entries : List (String × Json)} {path : String} {value : Value}

theorem present?_eq_none_iff :
    field.present? entries = none ↔
      Json.lookup field.name entries = none ∨ Json.lookup field.name entries = some .null := by
  rw [present?]
  cases Json.lookup field.name entries with
  | none => simp
  | some document => cases document <;> simp [Option.filter, Json.isNull]

theorem lookup_of_present? {document : Json} (present : field.present? entries = some document) :
    Json.lookup field.name entries = some document :=
  (Option.filter_eq_some_iff.mp present).1

theorem decode_eq (path : String) (entries : List (String × Json)) (field : Field) :
    field.decode path entries =
      match field.present? entries with
      | some document => field.type.decode (path ++ "." ++ field.name) document
      | none =>
          if field.required then .error (.missingField (path ++ "." ++ field.name))
          else .ok field.type.leftOut := by
  cases field
  rfl

/-- A field whose values can be compared decodes to null if it may be left out and is, and
otherwise to what is there. -/
theorem decode_eq_ok_iff (orderable : field.type.isOrderable = true) :
    field.decode path entries = .ok (.scalar value) ↔
      (field.present? entries = none ∧ field.required = false ∧ value = .null) ∨
        ∃ document, field.present? entries = some document ∧
          field.type.coerce document = some value := by
  rw [decode_eq]
  cases present : field.present? entries with
  | none =>
      rw [FieldType.leftOut_of_isOrderable orderable]
      cases required : field.required <;> simp [eq_comm]
  | some document =>
      simp only [FieldType.decode_of_isOrderable orderable, reduceCtorEq, false_and, false_or,
        Option.some.injEq, exists_eq_left']
      cases field.type.coerce document <;> simp

/-- A field whose values can be compared decodes to a value. -/
theorem exists_scalar_of_decode (orderable : field.type.isOrderable = true) {slot : Slot}
    (decoded : field.decode path entries = .ok slot) : slot = .scalar slot.value := by
  rw [decode_eq] at decoded
  split at decoded
  next document present =>
    rw [FieldType.decode_of_isOrderable orderable] at decoded
    split at decoded
    next => cases decoded; rfl
    next => cases decoded
  next =>
    rw [FieldType.leftOut_of_isOrderable orderable] at decoded
    split at decoded
    next => cases decoded
    next => cases decoded; rfl

theorem decodeAll_eq_mapM (path : String) (entries : List (String × Json)) (fields : List Field) :
    decodeAll path entries fields = fields.mapM (decode path entries) := by
  induction fields with
  | nil => rfl
  | cons field fields ih =>
      rw [List.mapM_cons, ← ih, decodeAll]

/-- Decoding gives one slot for each field, in their order. -/
theorem decodeAll_eq_ok_iff {fields : List Field} {slots : List Slot} :
    decodeAll path entries fields = .ok slots ↔
      List.Forall₂ (fun field slot => field.decode path entries = .ok slot) fields slots := by
  rw [decodeAll_eq_mapM, mapM_eq_ok_iff]

end Field

namespace Schema

variable {schema : Schema} {entries : List (String × Json)} {document : Json}
variable {slots : List Slot}

theorem decode_of_root (isRoot : document.get? schema.root = some (.object entries)) :
    schema.decode document = Field.decodeAll schema.root entries schema.fields := by
  rw [decode, isRoot]
  rfl

theorem decode_of_noRoot (noRoot : ∀ entries, document.get? schema.root ≠ some (.object entries)) :
    schema.decode document = .error (.missingRoot schema.root) := by
  rw [decode]
  split
  next entries found =>
    obtain ⟨inner, isInner, isEntries⟩ := Option.bind_eq_some_iff.mp found
    cases inner with
    | object others => exact absurd isInner (noRoot others)
    | _ => cases isEntries
  next => rfl

theorem decode_eq_ok_iff :
    schema.decode document = .ok slots ↔
      ∃ entries, document.get? schema.root = some (.object entries) ∧
        Field.decodeAll schema.root entries schema.fields = .ok slots := by
  constructor
  · intro success
    by_cases hasRoot : ∃ entries, document.get? schema.root = some (.object entries)
    · obtain ⟨entries, isRoot⟩ := hasRoot
      exact ⟨entries, isRoot, (decode_of_root isRoot).symm.trans success⟩
    · rw [decode_of_noRoot (not_exists.mp hasRoot)] at success
      cases success
  · rintro ⟨entries, isRoot, success⟩
    exact (decode_of_root isRoot).trans success

end Schema

namespace Record

variable {record : Record} {kind : RecordKind} {document : Json}

theorem of_decode_eq_ok (success : decode kind document = .ok record) :
    record.kind = kind ∧ record.document = document := by
  unfold decode at success
  split at success
  next =>
    cases success
    exact ⟨rfl, rfl⟩
  next => cases success

/-- A document that conforms to the schema of a kind decodes to the record that says so. -/
theorem decode_of_conforms {slots : List Slot}
    (conforms : kind.schema.decode document = .ok slots) :
    decode kind document = .ok ⟨kind, document, slots, conforms⟩ := by
  unfold decode
  split
  next others decoded =>
    have equal : others = slots := Except.ok.inj (decoded.symm.trans conforms)
    subst equal
    rfl
  next fault decoded =>
    rw [conforms] at decoded
    cases decoded

/-- Below the root of a record's document there are entries, and the slot of each field holds what
the field decodes to among them. -/
theorem exists_slot (record : Record) :
    ∃ entries, record.document.get? record.kind.schema.root = some (.object entries) ∧
      ∀ (position : Nat) field, record.kind.schema.fields[position]? = some field →
        ∃ slot, record.slots[position]? = some slot ∧
          field.decode record.kind.schema.root entries = .ok slot := by
  obtain ⟨entries, isRoot, decoded⟩ := Schema.decode_eq_ok_iff.mp record.conforms
  refine ⟨entries, isRoot, fun position field standing => ?_⟩
  have slots := Field.decodeAll_eq_ok_iff.mp decoded
  obtain ⟨inside, rfl⟩ := List.getElem?_eq_some_iff.mp standing
  have insideSlots : position < record.slots.length := slots.length_eq ▸ inside
  exact ⟨_, List.getElem?_eq_getElem insideSlots,
    (List.forall₂_iff_get.mp slots).2 position inside insideSlots⟩

/-- Below the root of a record's document there are entries, and the record holds the value that a
field decodes to among them, if its values can be compared. -/
theorem exists_entries (record : Record) :
    ∃ entries, record.document.get? record.kind.schema.root = some (.object entries) ∧
      ∀ (position : Nat) field, record.kind.schema.fields[position]? = some field →
        field.type.isOrderable = true →
          field.decode record.kind.schema.root entries =
            .ok (.scalar (record.valueAt [position])) := by
  obtain ⟨entries, isRoot, slots⟩ := record.exists_slot
  refine ⟨entries, isRoot, fun position field standing orderable => ?_⟩
  obtain ⟨slot, isSlot, decoded⟩ := slots position field standing
  have holds : record.valueAt [position] = slot.value := by
    rw [valueAt, Slot.valueAt, isSlot]
    rfl
  rw [holds, ← Field.exists_scalar_of_decode orderable decoded]
  exact decoded

/-- A record holds a value of the declared type for each required field that can be compared. -/
theorem admits_of_required (record : Record) {position : Nat} {field : Field}
    (standing : record.kind.schema.fields[position]? = some field)
    (required : field.required = true) (orderable : field.type.isOrderable = true) :
    field.type.Admits (record.valueAt [position]) := by
  obtain ⟨entries, -, decoded⟩ := record.exists_entries
  have legible := Filter.isLegible_of_mem_fields (List.mem_of_getElem? standing)
  rcases (Field.decode_eq_ok_iff orderable).mp (decoded position field standing orderable) with
    ⟨-, optional, -⟩ | ⟨document, -, coerced⟩
  · rw [required] at optional
    cases optional
  · exact FieldType.admits_of_coerce legible coerced

end Record

/-! ## Values of one path -/

namespace FieldPath

/-- The values that a path is compared by: what it extracts from records of its kind, and the
literals of filters on it. -/
inductive Operand (path : FieldPath) : Value → Prop where
  | key {record : Record} (ofKind : record.kind = path.kind) : Operand path (path.extract record)
  | literal {source : String} {filter : Filter}
      (compiled : Filter.compile source path.kind = .ok filter) (onPath : filter.path = path) :
      Operand path filter.literal

variable {path : String} {kind : RecordKind} {compiled : FieldPath}

/-- A compiled path extracts from a record what the field that it names decodes to. -/
theorem decode_eq_ok_extract {position : Nat} {field : Field} {record : Record}
    (ofKind : record.kind = kind) (standing : kind.schema.fields[position]? = some field)
    (orderable : field.type.isOrderable = true) (isStep : compiled.steps = [position]) :
    ∃ entries, record.document.get? kind.schema.root = some (.object entries) ∧
      field.decode kind.schema.root entries = .ok (.scalar (compiled.extract record)) := by
  subst ofKind
  obtain ⟨entries, isRoot, decoded⟩ := record.exists_entries
  refine ⟨entries, isRoot, ?_⟩
  rw [extract, isStep]
  exact decoded position field standing orderable

/-- Every value that a compiled path is compared by is null or of the type of the path. -/
theorem Operand.null_or_admits (success : compile path kind = .ok compiled) {value : Value}
    (operand : compiled.Operand value) : value = .null ∨ compiled.type.Admits value := by
  obtain ⟨position, field, standing, orderable, isKind, isStep, isType, -⟩ :=
    exists_field_of_compile success
  have legible : compiled.type.isLegible = true :=
    isType ▸ Filter.isLegible_of_mem_fields (List.mem_of_getElem? standing)
  cases operand with
  | key ofKind =>
      obtain ⟨entries, -, decoded⟩ :=
        decode_eq_ok_extract (ofKind.trans isKind) standing orderable isStep
      rcases (Field.decode_eq_ok_iff orderable).mp decoded with
        ⟨-, -, isNull⟩ | ⟨document, -, coerced⟩
      · exact .inl isNull
      · exact .inr (FieldType.admits_of_coerce legible (isType ▸ coerced))
  | literal fromSource onPath =>
      subst onPath
      obtain ⟨_, literal, _, _, _, read⟩ := Filter.of_compile_eq_ok fromSource
      exact .inr (FieldType.admits_of_ofText? legible read)

/-- A compiled path names a declared field. From a record of its kind it extracts null if and only
if the field may be left out and is absent or null in the document; otherwise it extracts what the
document has for the field, taken into the domain of the field's type, which is a value of that
type. So it never extracts null for a required field, and whatever it is compared by, keys or
literals, is of one sort or null. -/
theorem extract_of_compile {document : Json} {record : Record}
    (compiles : compile path kind = .ok compiled)
    (decodes : Record.decode kind document = .ok record) :
    ∃ field ∈ kind.schema.fields, Text.trimBlank path.toList = (kind.schema.pathOf field).toList ∧
      ∃ entries, document.get? kind.schema.root = some (.object entries) ∧
        (compiled.extract record = .null ↔ field.required = false ∧
          (Json.lookup field.name entries = none ∨
            Json.lookup field.name entries = some .null)) ∧
        (compiled.extract record ≠ .null →
          ∃ value, Json.lookup field.name entries = some value ∧
            field.type.coerce value = some (compiled.extract record) ∧
            field.type.Admits (compiled.extract record)) ∧
        (field.required = true → compiled.extract record ≠ .null) ∧
        ∀ left right, compiled.Operand left → compiled.Operand right →
          left = .null ∨ right = .null ∨ left.sortRank = right.sortRank := by
  obtain ⟨position, field, standing, orderable, isKind, isStep, isType, isText, trimmed⟩ :=
    exists_field_of_compile compiles
  obtain ⟨ofKind, rfl⟩ := Record.of_decode_eq_ok decodes
  obtain ⟨entries, isRoot, decoded⟩ := decode_eq_ok_extract ofKind standing orderable isStep
  have declared := List.mem_of_getElem? standing
  have legible := Filter.isLegible_of_mem_fields declared
  refine ⟨field, declared, by rw [← trimmed, isText], entries, isRoot, ?_, ?_, ?_, ?_⟩
  all_goals rw [Field.decode_eq_ok_iff orderable] at decoded
  · rw [← Field.present?_eq_none_iff]
    constructor
    · intro isNull
      rcases decoded with ⟨absent, optional, -⟩ | ⟨value, -, coerced⟩
      · exact ⟨optional, absent⟩
      · exact absurd isNull (FieldType.admits_of_coerce legible coerced).ne_null
    · rintro ⟨-, absent⟩
      rcases decoded with ⟨-, -, isNull⟩ | ⟨value, present, -⟩
      · exact isNull
      · rw [absent] at present
        cases present
  · intro notNull
    rcases decoded with ⟨-, -, isNull⟩ | ⟨value, present, coerced⟩
    · exact absurd isNull notNull
    · exact ⟨value, Field.lookup_of_present? present, coerced,
        FieldType.admits_of_coerce legible coerced⟩
  · intro required
    rcases decoded with ⟨-, optional, -⟩ | ⟨value, -, coerced⟩
    · rw [required] at optional
      cases optional
    · exact (FieldType.admits_of_coerce legible coerced).ne_null
  · intro left right leftOperand rightOperand
    rcases leftOperand.null_or_admits compiles with isNull | leftAdmits
    · exact .inl isNull
    · rcases rightOperand.null_or_admits compiles with isNull | rightAdmits
      · exact .inr (.inl isNull)
      · exact .inr (.inr (leftAdmits.sortRank_eq rightAdmits))

/-- A level in small letters and blanks is extracted under its declared name; an exception that is
null is extracted as null, which a declared field must be allowed to be. -/
theorem extract_of_respelled_log :
    let document : Json := .object [("log", .object [("exception", .null),
      ("level", .string " warn\t"), ("logger", .string "l"), ("message", .string "m"),
      ("node", .string "n"), ("thread", .string "t"), ("ts", .string "1700000000000")])]
    ∃ level exception record, compile "log.level " .log = .ok level ∧
      compile " log.exception" .log = .ok exception ∧ Record.decode .log document = .ok record ∧
      level.extract record = .enum 3 "WARN" ∧ exception.extract record = .null ∧
      ∃ field ∈ logSchema.fields, logSchema.pathOf field = "log.exception" ∧
        field.required = false := by
  intro document
  let level : FieldPath := ⟨.log, "log.level", [1], .enum logLevels true⟩
  let exception : FieldPath := ⟨.log, "log.exception", [6], .string⟩
  let slots : List Slot := [.scalar (.timestamp ⟨1700000000, 0⟩), .scalar (.enum 3 "WARN"),
    .scalar (.text "l"), .scalar (.text "t"), .scalar (.text "m"), .scalar (.text "n"),
    .scalar .null, .unread]
  have conforms : RecordKind.log.schema.decode document = .ok slots := by rfl
  have decodes := Record.decode_of_conforms conforms
  have compiles : compile " log.exception" .log = .ok exception := by rfl
  refine ⟨level, exception, _, by rfl, compiles, decodes, rfl, rfl, ?_⟩
  obtain ⟨field, declared, named, entries, -, null_iff, -⟩ := extract_of_compile compiles decodes
  refine ⟨field, declared, ?_, (null_iff.mp rfl).1⟩
  exact String.toList_inj.mp named.symm

end FieldPath

end ClusterQuery
