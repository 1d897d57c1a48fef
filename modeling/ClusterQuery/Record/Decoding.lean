import ClusterQuery.Json.Writer
import ClusterQuery.Record.Coercion
import ClusterQuery.Text.Quoted

/-!
# Records

A record is a JSON document that conforms to the schema of its kind, together with a slot for each
of its fields, in the order of the schema. Its slots are determined by its kind and document: the
record carries the proof that they are what decoding gives. Decoding reports the first field, in
the order of the schema, that is missing or does not conform.
-/

namespace ClusterQuery

/-- Why a document is no record of a kind. -/
inductive DecodeFault where
  | missingRoot (root : String)
  | missingField (path : String)
  /-- The value of a collection field is not the collection that was declared. -/
  | notCollection (path : String) (type : FieldType)
  | invalidValue (path : String) (value : Json) (type : FieldType)
  /-- A batch is neither a list nor an object. -/
  | notBatch (sortName : String)
  /-- A node descriptor was asked of another kind of record. -/
  | notNode
  /-- A node descriptor cannot hold a value that its record may have. -/
  | unusable (path : String) (value : Value)
deriving Repr

def DecodeFault.message : DecodeFault → String
  | .missingRoot root => "missing " ++ Text.quoted root ++ " object"
  | .missingField path => "missing required field " ++ path
  | .notCollection path (.objectOf _) => path ++ " is not an object"
  | .notCollection path type => path ++ " is not a " ++ type.name
  | .invalidValue path value type =>
      path ++ " value " ++ value.text ++ " is not a valid " ++ type.name
  | .notBatch sortName => "expected array or object, got " ++ sortName
  | .notNode => "not a nodeinfo record"
  | .unusable path value => path ++ " has unusable value " ++ value.display

/-- An error about records. -/
inductive RecordError where
  | unknownKind (tag : String)
  | decode (kind : RecordKind) (fault : DecodeFault)
deriving Repr

/-- The wording of an error about records. -/
def RecordError.message : RecordError → String
  | .unknownKind tag => "unknown record kind: " ++ Text.quoted tag
  | .decode kind fault => "decoding " ++ kind.tag ++ " record: " ++ fault.message

/-- The kind with a given tag, or the error that names the tag. -/
def RecordKind.ofTag (tag : String) : Except RecordError RecordKind :=
  match ofTag? tag with
  | some kind => .ok kind
  | none => .error (.unknownKind tag)

/-- What a record holds for a declared field. -/
inductive Slot where
  | scalar (value : Value)
  /-- An object, with a slot for each of its declared fields. -/
  | object (inner : List Slot)
  /-- A collection, or an object that is left out: only the document has it. -/
  | unread

namespace Slot

/-- The value in a slot; objects and collections have none. -/
def value : Slot → Value
  | .scalar value => value
  | _ => .null

/-- The value that positions lead to, one for each object on the way down. -/
def valueAt : List Nat → List Slot → Value
  | [], _ => .null
  | [position], slots => (slots[position]?.map Slot.value).getD .null
  | position :: next :: steps, slots =>
      match slots[position]? with
      | some (.object inner) => valueAt (next :: steps) inner
      | _ => .null

end Slot

/-- What a record holds for a field of a type that is left out. -/
def FieldType.leftOut : FieldType → Slot
  | .objectOf _ | .list | .map => .unread
  | _ => .scalar .null

/-- The JSON value of a field among entries; null counts as absent. -/
def Field.present? (field : Field) (entries : List (String × Json)) : Option Json :=
  (Json.lookup field.name entries).filter fun document => !document.isNull

mutual

/-- What a document in a field of a type decodes to. Lists and maps are checked and not read. -/
def FieldType.decode (path : String) (document : Json) : FieldType → Except DecodeFault Slot
  | .objectOf inner =>
      match document with
      | .object entries => (Field.decodeAll path entries inner).map .object
      | _ => .error (.notCollection path (.objectOf inner))
  | .list =>
      match document with
      | .array _ => .ok .unread
      | _ => .error (.notCollection path .list)
  | .map =>
      match document with
      | .object _ => .ok .unread
      | _ => .error (.notCollection path .map)
  | type =>
      match type.coerce document with
      | some value => .ok (.scalar value)
      | none => .error (.invalidValue path document type)

/-- What a field decodes to among the entries below a path. -/
def Field.decode (path : String) (entries : List (String × Json)) :
    Field → Except DecodeFault Slot
  | ⟨name, type, required⟩ =>
      match Field.present? ⟨name, type, required⟩ entries with
      | some document => type.decode (path ++ "." ++ name) document
      | none =>
          if required then .error (.missingField (path ++ "." ++ name)) else .ok type.leftOut

/-- What fields decode to, in their order. -/
def Field.decodeAll (path : String) (entries : List (String × Json)) :
    List Field → Except DecodeFault (List Slot)
  | [] => .ok []
  | field :: fields => do
      let slot ← field.decode path entries
      let slots ← Field.decodeAll path entries fields
      return slot :: slots

end

/-- The slots of a document for the fields of a schema. -/
def Schema.decode (schema : Schema) (document : Json) : Except DecodeFault (List Slot) :=
  match (document.get? schema.root).bind Json.entries? with
  | some entries => Field.decodeAll schema.root entries schema.fields
  | none => .error (.missingRoot schema.root)

/-- A document that conforms to the schema of its kind. -/
structure Record where
  kind : RecordKind
  document : Json
  /-- One for each declared field. -/
  slots : List Slot
  conforms : kind.schema.decode document = .ok slots

namespace Record

/-- Decodes a document as a record of a kind. -/
def decode (kind : RecordKind) (document : Json) : Except RecordError Record :=
  match conforms : kind.schema.decode document with
  | .ok slots => .ok ⟨kind, document, slots, conforms⟩
  | .error fault => .error (.decode kind fault)

/-- Decodes the body of a peer's answer: a list of records, or a single one. -/
def decodeBatch (kind : RecordKind) (body : Json) : Except RecordError (List Record) :=
  match body with
  | .array items => items.mapM (decode kind)
  | .object _ => do
      let record ← decode kind body
      return [record]
  | other => .error (.decode kind (.notBatch other.sortName))

/-- The value that positions lead to, down from the fields of the schema. -/
def valueAt (record : Record) (steps : List Nat) : Value := Slot.valueAt steps record.slots

/-- The values of the fields of the schema; null for absent ones and for collections. -/
def values (record : Record) : List Value := record.slots.map Slot.value

/-- The printed document, by which repeated records are recognised. -/
def text (record : Record) : String := record.document.text

/-- Equality of records: same kind and equal documents. -/
def same (left right : Record) : Bool :=
  left.kind == right.kind && left.document.same right.document

end Record

end ClusterQuery
