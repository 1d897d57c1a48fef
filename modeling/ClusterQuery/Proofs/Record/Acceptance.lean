import ClusterQuery.Proofs.Record.Extraction

/-!
# What decoding accepts

A document is accepted as a record of a kind if and only if it has an object below the root of the
kind's schema, and every declared field is sound in that object. Otherwise the error is about the
first field, in the order of the schema, that is not sound; where the field is an object, about the
first that is not sound among its own fields. Other entries do not count, nor does the order of the
entries. A batch is accepted if and only if each of its items is, and otherwise the error is that of
the first item that is not.
-/

namespace ClusterQuery

/-! ## Values that a field may hold -/

namespace Field

/-- Whether entries leave a field out; null counts as left out. -/
def IsLeftOut (field : Field) (entries : List (String × Json)) : Prop :=
  Json.lookup field.name entries = none ∨ Json.lookup field.name entries = some .null

/-- Whether entries hold a document for a field. -/
def IsHeld (field : Field) (entries : List (String × Json)) (document : Json) : Prop :=
  Json.lookup field.name entries = some document ∧ document ≠ .null

end Field

/-- The documents of the sort that a type of collection declares, whatever is in them. -/
inductive FieldType.Collects : FieldType → Json → Prop where
  | list (items : List Json) : Collects .list (.array items)
  | map (entries : List (String × Json)) : Collects .map (.object entries)
  | object (inner : List Field) (entries : List (String × Json)) :
      Collects (.objectOf inner) (.object entries)

mutual

/-- The documents that a field of a type takes: a list or a map, an object whose declared fields are
sound, or what is in the domain of a type whose values can be compared. -/
inductive FieldType.Takes : FieldType → Json → Prop where
  | list (items : List Json) : FieldType.Takes .list (.array items)
  | map (entries : List (String × Json)) : FieldType.Takes .map (.object entries)
  | object {inner : List Field} {entries : List (String × Json)}
      (sound : ∀ field ∈ inner, Field.Sound field entries) :
      FieldType.Takes (.objectOf inner) (.object entries)
  | scalar {type : FieldType} {document : Json} {value : Value}
      (orderable : type.isOrderable = true) (coerced : type.coerce document = some value) :
      FieldType.Takes type document

/-- A field is sound if it is left out and may be, or if it takes what is there. -/
inductive Field.Sound : Field → List (String × Json) → Prop where
  | leftOut {field : Field} {entries : List (String × Json)} (optional : field.required = false)
      (absent : field.IsLeftOut entries) : Field.Sound field entries
  | present {field : Field} {entries : List (String × Json)} {document : Json}
      (held : field.IsHeld entries document) (takes : FieldType.Takes field.type document) :
      Field.Sound field entries

end

mutual

/-- What can be wrong with a document at a path, with the fault that says so: it is not the declared
collection, not in the domain of the type, or an object whose first field that is not sound has the
fault. -/
inductive FieldType.Refuses : FieldType → String → Json → DecodeFault → Prop where
  | collection {type : FieldType} {path : String} {document : Json}
      (unordered : type.isOrderable = false) (misshapen : ¬type.Collects document) :
      FieldType.Refuses type path document (.notCollection path type)
  | scalar {type : FieldType} {path : String} {document : Json}
      (orderable : type.isOrderable = true) (foreign : type.coerce document = none) :
      FieldType.Refuses type path document (.invalidValue path document type)
  | inside {before after : List Field} {field : Field} {path : String}
      {entries : List (String × Json)} {fault : DecodeFault}
      (sound : ∀ earlier ∈ before, earlier.Sound entries)
      (offends : Field.Offends field path entries fault) :
      FieldType.Refuses (.objectOf (before ++ field :: after)) path (.object entries) fault

/-- What can be wrong with a field below a path, with the fault that says so. -/
inductive Field.Offends : Field → String → List (String × Json) → DecodeFault → Prop where
  | leftOut {field : Field} {path : String} {entries : List (String × Json)}
      (required : field.required = true) (absent : field.IsLeftOut entries) :
      Field.Offends field path entries (.missingField (path ++ "." ++ field.name))
  | present {field : Field} {path : String} {entries : List (String × Json)} {document : Json}
      {fault : DecodeFault} (held : field.IsHeld entries document)
      (refuses : FieldType.Refuses field.type (path ++ "." ++ field.name) document fault) :
      Field.Offends field path entries fault

end

namespace Field

variable {field : Field} {entries : List (String × Json)} {document : Json}

theorem present?_eq_some_iff :
    field.present? entries = some document ↔ field.IsHeld entries document := by
  rw [present?, Option.filter_eq_some_iff, IsHeld]
  refine and_congr_right fun _ => ?_
  cases document <;> simp [Json.isNull]

/-- A document is held, or the field is left out. -/
theorem isLeftOut_or_isHeld (field : Field) (entries : List (String × Json)) :
    field.IsLeftOut entries ∨ ∃ document, field.IsHeld entries document := by
  cases present : field.present? entries with
  | none => exact .inl (present?_eq_none_iff.mp present)
  | some document => exact .inr ⟨document, present?_eq_some_iff.mp present⟩

end Field

/-! ## Decoding a field -/

namespace FieldType

variable {type : FieldType} {document : Json}

theorem decode_object (path : String) (entries : List (String × Json)) (inner : List Field) :
    (objectOf inner).decode path (.object entries) =
      (inner.mapM (Field.decode path entries)).map .object := by
  rw [decode, Field.decodeAll_eq_mapM]

/-- A document of another sort than the type's is refused. -/
theorem decode_of_misshapen (unordered : type.isOrderable = false)
    (misshapen : ¬type.Collects document) (path : String) :
    type.decode path document = .error (.notCollection path type) := by
  cases type with
  | list =>
      cases document with
      | array items => exact absurd (.list items) misshapen
      | _ => rfl
  | map =>
      cases document with
      | object entries => exact absurd (.map entries) misshapen
      | _ => rfl
  | objectOf inner =>
      cases document with
      | object entries => exact absurd (.object inner entries) misshapen
      | _ => rfl
  | _ => cases unordered

theorem takes_or_refuses_of_isOrderable (orderable : type.isOrderable = true) (path : String)
    (document : Json) : type.Takes document ∨ ∃ fault, type.Refuses path document fault := by
  cases coerced : type.coerce document with
  | none => exact .inr ⟨_, .scalar orderable coerced⟩
  | some value => exact .inl (.scalar orderable coerced)

end FieldType

mutual

theorem FieldType.decode_of_takes {type : FieldType} {document : Json}
    (takes : type.Takes document) (path : String) :
    ∃ slot, type.decode path document = .ok slot :=
  match takes with
  | .list items => ⟨.unread, rfl⟩
  | .map entries => ⟨.unread, rfl⟩
  | @FieldType.Takes.object inner entries sound => by
      have each : ∀ field ∈ inner, ∃ slot, field.decode path entries = .ok slot :=
        fun field member => Field.decode_of_sound (sound field member) path
      obtain ⟨slots, decoded⟩ := exists_mapM_eq_ok_iff.mpr each
      refine ⟨.object slots, ?_⟩
      rw [FieldType.decode_object, decoded]
      rfl
  | @FieldType.Takes.scalar _ _ value orderable coerced => by
      refine ⟨.scalar value, ?_⟩
      rw [FieldType.decode_of_isOrderable orderable, coerced]

theorem Field.decode_of_sound {field : Field} {entries : List (String × Json)}
    (sound : field.Sound entries) (path : String) :
    ∃ slot, field.decode path entries = .ok slot :=
  match sound with
  | .leftOut optional absent => by
      refine ⟨field.type.leftOut, ?_⟩
      rw [Field.decode_eq, Field.present?_eq_none_iff.mpr absent, optional]
      rfl
  | .present held takes => by
      rw [Field.decode_eq, Field.present?_eq_some_iff.mpr held]
      exact FieldType.decode_of_takes takes _

end

mutual

theorem FieldType.decode_of_refuses {type : FieldType} {path : String} {document : Json}
    {fault : DecodeFault} (refuses : type.Refuses path document fault) :
    type.decode path document = .error fault :=
  match refuses with
  | .collection unordered misshapen => FieldType.decode_of_misshapen unordered misshapen path
  | .scalar orderable foreign => by rw [FieldType.decode_of_isOrderable orderable, foreign]
  | @FieldType.Refuses.inside before after field path entries fault sound offends => by
      have succeed : ∀ earlier ∈ before, ∃ slot, earlier.decode path entries = .ok slot :=
        fun earlier member => Field.decode_of_sound (sound earlier member) path
      have fails : field.decode path entries = .error fault := Field.decode_of_offends offends
      have failure : (before ++ field :: after).mapM (Field.decode path entries) = .error fault :=
        mapM_eq_error_iff.mpr ⟨before, field, after, rfl, succeed, fails⟩
      rw [FieldType.decode_object, failure]
      rfl

theorem Field.decode_of_offends {field : Field} {path : String} {entries : List (String × Json)}
    {fault : DecodeFault} (offends : field.Offends path entries fault) :
    field.decode path entries = .error fault :=
  match offends with
  | .leftOut required absent => by
      rw [Field.decode_eq, Field.present?_eq_none_iff.mpr absent, required]
      rfl
  | .present held refuses => by
      rw [Field.decode_eq, Field.present?_eq_some_iff.mpr held]
      exact FieldType.decode_of_refuses refuses

end

mutual

theorem FieldType.takes_or_refuses : ∀ (type : FieldType) (path : String) (document : Json),
    type.Takes document ∨ ∃ fault, type.Refuses path document fault
  | .list, path, document => by
      cases document with
      | array items => exact .inl (.list items)
      | _ => exact .inr ⟨_, .collection rfl nofun⟩
  | .map, path, document => by
      cases document with
      | object entries => exact .inl (.map entries)
      | _ => exact .inr ⟨_, .collection rfl nofun⟩
  | .objectOf inner, path, document => by
      cases document with
      | object entries =>
          rcases Field.all_sound_or_offends inner path entries with
            sound | ⟨before, field, after, rfl, sound, fault, offends⟩
          · exact .inl (.object sound)
          · exact .inr ⟨fault, .inside sound offends⟩
      | _ => exact .inr ⟨_, .collection rfl nofun⟩
  | .string, path, document | .integer, path, document | .float, path, document
  | .bool, path, document | .timestamp, path, document | .enum _ _, path, document =>
      FieldType.takes_or_refuses_of_isOrderable rfl path document

/-- Every field is sound or has a fault. -/
theorem Field.sound_or_offends : ∀ (field : Field) (path : String) (entries : List (String × Json)),
    field.Sound entries ∨ ∃ fault, field.Offends path entries fault
  | ⟨name, type, required⟩, path, entries => by
      rcases Field.isLeftOut_or_isHeld ⟨name, type, required⟩ entries with
        absent | ⟨document, held⟩
      · cases required with
        | false => exact .inl (.leftOut rfl absent)
        | true => exact .inr ⟨_, .leftOut rfl absent⟩
      · rcases FieldType.takes_or_refuses type (path ++ "." ++ name) document with
          takes | ⟨fault, refuses⟩
        · exact .inl (.present held takes)
        · exact .inr ⟨fault, .present held refuses⟩

/-- All fields are sound, or one is the first that is not. -/
theorem Field.all_sound_or_offends : ∀ (fields : List Field) (path : String)
    (entries : List (String × Json)), (∀ field ∈ fields, field.Sound entries) ∨
      ∃ before field after, fields = before ++ field :: after ∧
        (∀ earlier ∈ before, earlier.Sound entries) ∧ ∃ fault, field.Offends path entries fault
  | [], _, _ => .inl (List.forall_mem_nil _)
  | field :: fields, path, entries => by
      rcases Field.sound_or_offends field path entries with sound | offends
      · rcases Field.all_sound_or_offends fields path entries with
          rest | ⟨before, failing, after, rfl, earlier, offends⟩
        · exact .inl (List.forall_mem_cons.mpr ⟨sound, rest⟩)
        · exact .inr ⟨field :: before, failing, after, rfl,
            List.forall_mem_cons.mpr ⟨sound, earlier⟩, offends⟩
      · exact .inr ⟨[], field, fields, rfl, List.forall_mem_nil _, offends⟩

end

/-! ## What a fault says -/

/-- The words of a fault show a path. -/
def DecodeFault.Shows (fault : DecodeFault) (path : String) : Prop :=
  ∃ before after, fault.message = before ++ path ++ after

theorem DecodeFault.shows_of_message_eq {fault : DecodeFault} {path : String} (rest : String)
    (words : fault.message = path ++ rest) : fault.Shows path :=
  ⟨"", rest, by rw [String.empty_append, words]⟩

mutual

theorem FieldType.Refuses.shows {type : FieldType} {path : String} {document : Json}
    {fault : DecodeFault} (refuses : type.Refuses path document fault) : fault.Shows path :=
  match refuses with
  | @FieldType.Refuses.collection type _ _ unordered _ => by
      cases type with
      | objectOf => exact DecodeFault.shows_of_message_eq " is not an object" rfl
      | list =>
          exact DecodeFault.shows_of_message_eq (" is not a " ++ FieldType.list.name)
            String.append_assoc
      | map =>
          exact DecodeFault.shows_of_message_eq (" is not a " ++ FieldType.map.name)
            String.append_assoc
      | _ => cases unordered
  | @FieldType.Refuses.scalar type _ document _ _ => by
      refine DecodeFault.shows_of_message_eq
        (" value " ++ document.text ++ " is not a valid " ++ type.name) ?_
      rw [← String.append_assoc, ← String.append_assoc, ← String.append_assoc]
      rfl
  | @FieldType.Refuses.inside _ _ field _ _ _ _ offends => by
      obtain ⟨before, after, shown⟩ := Field.Offends.shows offends
      refine ⟨before, "." ++ field.name ++ after, ?_⟩
      rw [shown]
      simp only [String.append_assoc]

/-- Whatever is wrong with a field, and however far below it, its path is shown. -/
theorem Field.Offends.shows {field : Field} {path : String} {entries : List (String × Json)}
    {fault : DecodeFault} (offends : field.Offends path entries fault) :
    fault.Shows (path ++ "." ++ field.name) :=
  match offends with
  | .leftOut _ _ => by
      refine ⟨"missing required field ", "", ?_⟩
      rw [String.append_empty]
      rfl
  | .present _ refuses => FieldType.Refuses.shows refuses

end

namespace Field

variable {field : Field} {path : String} {entries others : List (String × Json)}
variable {fault : DecodeFault}

theorem exists_decode_eq_ok_iff :
    (∃ slot, field.decode path entries = .ok slot) ↔ field.Sound entries := by
  constructor
  · rintro ⟨slot, success⟩
    rcases field.sound_or_offends path entries with sound | ⟨fault, offends⟩
    · exact sound
    · cases success.symm.trans (decode_of_offends offends)
  · intro sound
    exact decode_of_sound sound path

theorem decode_eq_error_iff :
    field.decode path entries = .error fault ↔ field.Offends path entries fault := by
  constructor
  · intro failure
    rcases field.sound_or_offends path entries with sound | ⟨other, offends⟩
    · obtain ⟨slot, success⟩ := decode_of_sound sound path
      cases failure.symm.trans success
    · cases failure.symm.trans (decode_of_offends offends)
      exact offends
  · exact decode_of_offends

/-- Nothing but the entry of its name counts for a field. -/
theorem decode_congr (same : Json.lookup field.name entries = Json.lookup field.name others)
    (path : String) : field.decode path entries = field.decode path others := by
  rw [decode_eq, decode_eq, present?, present?, same]

end Field

/-! ## Decoding a document -/

namespace Schema

/-- Whether a document conforms to a schema: below its root is an object with sound fields. -/
def Conforms (schema : Schema) (document : Json) : Prop :=
  ∃ entries, document.get? schema.root = some (.object entries) ∧
    ∀ field ∈ schema.fields, field.Sound entries

/-- The fault of a document that does not conform: that of the first field that is not sound, unless
there is no object below the root. -/
inductive Offends (schema : Schema) (document : Json) : DecodeFault → Prop where
  | root (noRoot : ∀ entries, document.get? schema.root ≠ some (.object entries)) :
      Offends schema document (.missingRoot schema.root)
  | field {entries : List (String × Json)} {before after : List Field} {field : Field}
      {fault : DecodeFault} (isRoot : document.get? schema.root = some (.object entries))
      (split : schema.fields = before ++ field :: after)
      (sound : ∀ earlier ∈ before, earlier.Sound entries)
      (offends : field.Offends schema.root entries fault) :
      Offends schema document fault

variable {schema : Schema} {document other : Json} {entries others : List (String × Json)}
variable {fault : DecodeFault}

theorem exists_decode_eq_ok_iff :
    (∃ slots, schema.decode document = .ok slots) ↔ schema.Conforms document := by
  have fields (entries : List (String × Json)) :
      (∃ slots, Field.decodeAll schema.root entries schema.fields = .ok slots) ↔
        ∀ field ∈ schema.fields, field.Sound entries := by
    rw [Field.decodeAll_eq_mapM, exists_mapM_eq_ok_iff]
    simp only [Field.exists_decode_eq_ok_iff]
  constructor
  · rintro ⟨slots, success⟩
    obtain ⟨entries, isRoot, decoded⟩ := decode_eq_ok_iff.mp success
    exact ⟨entries, isRoot, (fields entries).mp ⟨slots, decoded⟩⟩
  · rintro ⟨entries, isRoot, sound⟩
    obtain ⟨slots, decoded⟩ := (fields entries).mpr sound
    exact ⟨slots, decode_eq_ok_iff.mpr ⟨entries, isRoot, decoded⟩⟩

theorem decodeAll_eq_error_iff {fields : List Field} :
    Field.decodeAll schema.root entries fields = .error fault ↔
      ∃ before field after, fields = before ++ field :: after ∧
        (∀ earlier ∈ before, earlier.Sound entries) ∧
        field.Offends schema.root entries fault := by
  rw [Field.decodeAll_eq_mapM, mapM_eq_error_iff]
  simp only [Field.exists_decode_eq_ok_iff, Field.decode_eq_error_iff]

theorem decode_eq_error_iff :
    schema.decode document = .error fault ↔ schema.Offends document fault := by
  constructor
  · intro failure
    by_cases hasRoot : ∃ entries, document.get? schema.root = some (.object entries)
    · obtain ⟨entries, isRoot⟩ := hasRoot
      rw [decode_of_root isRoot, decodeAll_eq_error_iff] at failure
      obtain ⟨before, field, after, split, sound, offends⟩ := failure
      exact .field isRoot split sound offends
    · have noRoot := not_exists.mp hasRoot
      cases (decode_of_noRoot noRoot).symm.trans failure
      exact .root noRoot
  · intro offends
    cases offends with
    | root noRoot => exact decode_of_noRoot noRoot
    | field isRoot split sound offends =>
        rw [decode_of_root isRoot, decodeAll_eq_error_iff]
        exact ⟨_, _, _, split, sound, offends⟩

theorem decodeAll_congr {fields : List Field}
    (same : ∀ field ∈ fields, Json.lookup field.name entries = Json.lookup field.name others) :
    Field.decodeAll schema.root entries fields = Field.decodeAll schema.root others fields := by
  induction fields with
  | nil => rfl
  | cons field fields ih =>
      obtain ⟨first, rest⟩ := List.forall_mem_cons.mp same
      rw [Field.decodeAll, Field.decodeAll, Field.decode_congr first, ih rest]

/-- Nothing but the entries of the declared fields counts. -/
theorem decode_congr (isRoot : document.get? schema.root = some (.object entries))
    (isRootAlso : other.get? schema.root = some (.object others))
    (same : ∀ field ∈ schema.fields,
      Json.lookup field.name entries = Json.lookup field.name others) :
    schema.decode document = schema.decode other := by
  rw [decode_of_root isRoot, decode_of_root isRootAlso, decodeAll_congr same]

end Schema

namespace Record

variable {kind : RecordKind} {document : Json}

theorem decode_of_fault {fault : DecodeFault}
    (failure : kind.schema.decode document = .error fault) :
    decode kind document = .error (.decode kind fault) := by
  unfold decode
  split
  next slots conforms => cases failure.symm.trans conforms
  next other decoded =>
    cases failure.symm.trans decoded
    rfl

theorem map_slots_decode (kind : RecordKind) (document : Json) :
    (decode kind document).map slots =
      (kind.schema.decode document).mapError (RecordError.decode kind) := by
  cases outcome : kind.schema.decode document with
  | ok slots =>
      rw [decode_of_conforms outcome]
      rfl
  | error fault =>
      rw [decode_of_fault outcome]
      rfl

/-- What decoding a document comes to. -/
structure DecodesExactly (kind : RecordKind) (document : Json) : Prop where
  accepted : (∃ record, decode kind document = .ok record) ↔ kind.schema.Conforms document
  /-- The record has the document that was decoded. -/
  kept : ∀ record, decode kind document = .ok record →
    record.kind = kind ∧ record.document = document
  refused : ∀ error, decode kind document = .error error ↔
    ∃ fault, kind.schema.Offends document fault ∧ error = .decode kind fault
  /-- An error about a field names it. -/
  named : ∀ (field : Field) entries fault,
    field.Offends kind.schema.root entries fault → ∃ before after,
      (RecordError.decode kind fault).message = before ++ kind.schema.pathOf field ++ after
  /-- A document with the same entries for the declared fields gives the same slots or error. -/
  indifferent : ∀ other entries others,
    document.get? kind.schema.root = some (.object entries) →
    other.get? kind.schema.root = some (.object others) →
    (∀ field ∈ kind.schema.fields,
      Json.lookup field.name entries = Json.lookup field.name others) →
    (decode kind document).map slots = (decode kind other).map slots

/-- What decoding a batch comes to. -/
structure DecodesBatchesExactly (kind : RecordKind) : Prop where
  accepted : ∀ items, (∃ records, decodeBatch kind (.array items) = .ok records) ↔
    ∀ item ∈ items, ∃ record, decode kind item = .ok record
  /-- The records are those of the items, in their order. -/
  inOrder : ∀ items records, decodeBatch kind (.array items) = .ok records ↔
    List.Forall₂ (fun item record => decode kind item = .ok record) items records
  /-- The error is that of the first item that is refused. -/
  refused : ∀ items error, decodeBatch kind (.array items) = .error error ↔
    ∃ before item after, items = before ++ item :: after ∧
      (∀ earlier ∈ before, ∃ record, decode kind earlier = .ok record) ∧
      decode kind item = .error error
  single : ∀ entries, decodeBatch kind (.object entries) =
    (decode kind (.object entries)).map fun record => [record]
  others : ∀ body, (∀ items, body ≠ .array items) → (∀ entries, body ≠ .object entries) →
    decodeBatch kind body = .error (.decode kind (.notBatch body.sortName))

theorem exists_decode_eq_ok_iff :
    (∃ record, decode kind document = .ok record) ↔ kind.schema.Conforms document := by
  rw [← Schema.exists_decode_eq_ok_iff]
  constructor
  · rintro ⟨record, success⟩
    obtain ⟨rfl, rfl⟩ := of_decode_eq_ok success
    exact ⟨record.slots, record.conforms⟩
  · rintro ⟨slots, conforms⟩
    exact ⟨_, decode_of_conforms conforms⟩

theorem decode_eq_error_iff {error : RecordError} :
    decode kind document = .error error ↔
      ∃ fault, kind.schema.Offends document fault ∧ error = .decode kind fault := by
  simp only [← Schema.decode_eq_error_iff]
  constructor
  · intro failure
    cases outcome : kind.schema.decode document with
    | ok slots => cases failure.symm.trans (decode_of_conforms outcome)
    | error fault =>
        cases failure.symm.trans (decode_of_fault outcome)
        exact ⟨fault, rfl, rfl⟩
  · rintro ⟨fault, failure, rfl⟩
    exact decode_of_fault failure

theorem decodesExactly (kind : RecordKind) (document : Json) : DecodesExactly kind document where
  accepted := exists_decode_eq_ok_iff
  kept record success := of_decode_eq_ok success
  refused error := decode_eq_error_iff
  named field entries fault offends := by
    obtain ⟨before, after, shown⟩ := offends.shows
    refine ⟨"decoding " ++ kind.tag ++ " record: " ++ before, after, ?_⟩
    change "decoding " ++ kind.tag ++ " record: " ++ fault.message = _
    rw [shown, Schema.pathOf]
    simp only [String.append_assoc]
  indifferent other entries others isRoot isRootAlso same := by
    rw [map_slots_decode, map_slots_decode, Schema.decode_congr isRoot isRootAlso same]

/-- Decoding accepts what the schema says, and nothing else. It refuses a document for the first
field, in declared order, that is not sound, or for want of a root, whatever other entries there are
and in whatever order; a batch is accepted item by item, and refused for its first bad item. -/
theorem decoding_is_exact (kind : RecordKind) :
    (∀ document, DecodesExactly kind document) ∧ DecodesBatchesExactly kind := by
  refine ⟨decodesExactly kind, ?_⟩
  constructor
  case accepted =>
    intro items
    exact exists_mapM_eq_ok_iff
  case inOrder =>
    intro items records
    exact mapM_eq_ok_iff
  case refused =>
    intro items error
    exact mapM_eq_error_iff
  case single =>
    intro entries
    change (decode kind (.object entries) >>= fun record => pure [record]) = _
    cases decode kind (.object entries) <;> rfl
  case others =>
    intro body notArray notObject
    cases body with
    | array items => exact absurd rfl (notArray items)
    | object entries => exact absurd rfl (notObject entries)
    | _ => rfl

/-- Of a level that is none and a thread that is missing, the level is declared first. -/
theorem decoding_is_exact_of_two_faults :
    let entries (level : String) (rest : List (String × Json)) : List (String × Json) :=
      ("message", .string "m") :: ("level", .string level) :: ("ts", .string "0") ::
        ("logger", .string "l") :: ("node", .string "n") :: rest
    let good : Json := .object [("log", .object (entries " warn" [("thread", .string "t")]))]
    let bad : Json := .object [("log", .object (entries "LOUD" [("zone", .bool true)]))]
    decodeBatch .log (.array [good, bad]) = .error (.decode .log
      (.invalidValue "log.level" (.string "LOUD") (.enum logLevels true))) := by
  intro entries good bad
  obtain ⟨decoded, batches⟩ := decoding_is_exact .log
  have conforms : RecordKind.log.schema.decode good = .ok [.scalar (.timestamp ⟨0, 0⟩),
      .scalar (.enum 3 "WARN"), .scalar (.text "l"), .scalar (.text "t"), .scalar (.text "m"),
      .scalar (.text "n"), .scalar .null, .unread] := by rfl
  have first : ∀ earlier ∈ [good], ∃ record, decode .log earlier = .ok record :=
    List.forall_mem_singleton.mpr ⟨_, decode_of_conforms conforms⟩
  have stamped : ∀ earlier ∈ [Field.mandatory "ts" .timestamp],
      earlier.Sound (entries "LOUD" [("zone", .bool true)]) := by
    have success : Field.decode "log" (entries "LOUD" [("zone", .bool true)])
        (.mandatory "ts" .timestamp) = .ok (.scalar (.timestamp ⟨0, 0⟩)) := by rfl
    exact List.forall_mem_singleton.mpr (Field.exists_decode_eq_ok_iff.mp ⟨_, success⟩)
  have loud : Field.Offends (.mandatory "level" (.enum logLevels true)) "log"
      (entries "LOUD" [("zone", .bool true)])
      (.invalidValue "log.level" (.string "LOUD") (.enum logLevels true)) :=
    Field.decode_eq_error_iff.mp (by rfl)
  have offends : RecordKind.log.schema.Offends bad
      (.invalidValue "log.level" (.string "LOUD") (.enum logLevels true)) :=
    .field rfl rfl stamped loud
  have second := ((decoded bad).refused _).mpr ⟨_, offends, rfl⟩
  exact (batches.refused _ _).mpr ⟨[good], bad, [], rfl, first, second⟩

end Record

end ClusterQuery
