import ClusterQuery.Record.Decoding
import ClusterQuery.Text.Pieces

/-!
# Field paths

A query names a field by a dotted path such as `log.ts`. Compiling walks down the schema of one
record kind: the first segment names the schema's root, each later one a field that is declared
where the walk stands. Below a field there are declared fields only if it is an object. The compiled
path holds the positions of the fields on the way, and extraction looks no name up.
-/

namespace ClusterQuery

/-- Why a text is no filter. -/
inductive FilterFault where
  | missingOperator
  | missingPath
  | missingValue
  /-- The literal is outside the domain of the field's type. -/
  | invalidLiteral (literal : String) (type : FieldType) (path : String)
deriving DecidableEq, Repr

def FilterFault.message : FilterFault → String
  | .missingOperator => "missing comparison operator"
  | .missingPath => "missing field path"
  | .missingValue => "missing comparison value"
  | .invalidLiteral literal type path =>
      Text.quoted literal ++ " is not a valid " ++ type.name ++ " value for " ++ path

/-- An error about a path, an order or a filter. -/
inductive QueryError where
  | unknownField (kind : RecordKind) (path : String)
  /-- The field's type has no total order. -/
  | unorderable (path : String) (type : FieldType)
  | invalidFilter (source : String) (fault : FilterFault)
  | kindMismatch (expected actual : RecordKind)
deriving DecidableEq, Repr

/-- The wording of an error about a query. -/
def QueryError.message : QueryError → String
  | .unknownField kind path =>
      "unknown field " ++ Text.quoted path ++ " for " ++ kind.tag ++ " records"
  | .unorderable path type =>
      "field " ++ Text.quoted path ++ " has type " ++ type.name ++ ", which has no total order"
  | .invalidFilter source fault =>
      "invalid filter " ++ Text.quoted source ++ ": " ++ fault.message
  | .kindMismatch expected actual =>
      "expression compiled for " ++ expected.tag ++ " records applied to " ++ actual.tag ++
        " records"

/-- A path resolved against the schema of one record kind. -/
structure FieldPath where
  kind : RecordKind
  text : String
  /-- The position of each field on the way, among those declared there. -/
  steps : List Nat
  type : FieldType
deriving DecidableEq, Repr

namespace FieldPath

/-- Where a walk down a schema stands. -/
structure Walk where
  /-- The fields declared there, if any can be. -/
  fields? : Option (List Field)
  steps : List Nat
  /-- The type of the last field on the way. -/
  terminal? : Option FieldType

namespace Walk

/-- A walk at the root of a schema. -/
def start (fields : List Field) : Walk := ⟨some fields, [], none⟩

/-- Goes on to the field that a segment names. -/
def next? (walk : Walk) (segment : List Char) : Option Walk := do
  let fields ← walk.fields?
  let (position, field) ← Field.find? (String.ofList segment) 0 fields
  return ⟨field.type.inner?, walk.steps ++ [position], some field.type⟩

/-- Goes on along segments, to the positions on the way and the type of the last field. -/
def along? (walk : Walk) : List (List Char) → Option (List Nat × FieldType)
  | [] => walk.terminal?.map fun type => (walk.steps, type)
  | segment :: segments =>
      match walk.next? segment with
      | some walk => walk.along? segments
      | none => none

end Walk

/-- The positions and the type of the field that a trimmed path leads to. -/
def resolve? (schema : Schema) (text : List Char) : Option (List Nat × FieldType) :=
  match Text.pieces '.' text with
  | root :: segments =>
      if root = schema.root.toList then (Walk.start schema.fields).along? segments else none
  | [] => none

/-- Compiles a path for records of a kind. Blanks around it are ignored; an error shows the
path as it was given. -/
def compile (path : String) (kind : RecordKind) : Except QueryError FieldPath :=
  match resolve? kind.schema (Text.trimBlank path.toList) with
  | none => .error (.unknownField kind path)
  | some (steps, type) =>
      if type.isOrderable then .ok ⟨kind, Text.trim path, steps, type⟩
      else .error (.unorderable path type)

/-- The value of the path's field in a record. -/
def extract (path : FieldPath) (record : Record) : Value := record.valueAt path.steps

/-- Refuses records of another kind than the path was compiled for. -/
def checkKind (path : FieldPath) (kind : RecordKind) : Except QueryError Unit :=
  if path.kind = kind then .ok () else .error (.kindMismatch path.kind kind)

end FieldPath

end ClusterQuery
