/-!
# Record kinds and their schemas

Peers serve three kinds of records. Every record is an object with one root key, and the schema
of its kind declares the fields below that key, in order. A field's type says which JSON values
it takes and whether its values have a total order; lists, maps and objects have none. An object
declares fields of its own.
-/

namespace ClusterQuery

mutual

/-- The declared type of a record field. -/
inductive FieldType where
  | string
  | integer
  | float
  | bool
  /-- A moment in time. -/
  | timestamp
  /-- A closed set of names; ranked ones are ordered as declared, others by name. -/
  | enum (variants : List String) (ranked : Bool)
  /-- An object with declared fields of its own. -/
  | objectOf (inner : List Field)
  | list
  | map

/-- A declared field. A required one must be present and not null. -/
structure Field where
  name : String
  type : FieldType
  required : Bool

end

deriving instance Repr for FieldType, Field

namespace FieldType

/-- An object of which no field is declared. -/
def object : FieldType := .objectOf []

/-- Whether values of the type can be compared. -/
def isOrderable : FieldType → Bool
  | .objectOf _ | .list | .map => false
  | _ => true

/-- The name of a type in messages. -/
def name : FieldType → String
  | .string => "string"
  | .integer => "integer"
  | .float => "float"
  | .bool => "bool"
  | .timestamp => "timestamp"
  | .enum _ _ => "enum"
  | .objectOf _ => "object"
  | .list => "list"
  | .map => "map"

/-- The fields that a type declares below it. -/
def inner? : FieldType → Option (List Field)
  | .objectOf inner => some inner
  | _ => none

end FieldType

/-! ## Equality of declarations -/

mutual

/-- Whether two types are declared alike. -/
def FieldType.same : FieldType → FieldType → Bool
  | .enum variants ranked, .enum others alsoRanked => variants == others && ranked == alsoRanked
  | .objectOf inner, .objectOf others => Field.sameAll inner others
  | .string, .string | .integer, .integer | .float, .float | .bool, .bool
  | .timestamp, .timestamp | .list, .list | .map, .map => true
  | _, _ => false

/-- Whether fields are declared alike, in one order. -/
def Field.sameAll : List Field → List Field → Bool
  | [], [] => true
  | ⟨name, type, required⟩ :: fields, ⟨other, otherType, alsoRequired⟩ :: others =>
      name == other && type.same otherType && required == alsoRequired &&
        Field.sameAll fields others
  | _, _ => false

end

mutual

theorem FieldType.same_iff : ∀ {left right : FieldType}, left.same right = true ↔ left = right
  | .enum variants ranked, right => by cases right <;> simp [FieldType.same]
  | .objectOf inner, right => by
      cases right with
      | objectOf others => simp [FieldType.same, Field.sameAll_iff]
      | _ => simp [FieldType.same]
  | .string, right | .integer, right | .float, right | .bool, right | .timestamp, right
  | .list, right | .map, right => by
      cases right <;> simp [FieldType.same]

theorem Field.sameAll_iff : ∀ {fields others : List Field},
    Field.sameAll fields others = true ↔ fields = others
  | [], others => by cases others <;> simp [Field.sameAll]
  | ⟨name, type, required⟩ :: fields, others => by
      cases others with
      | nil => simp [Field.sameAll]
      | cons other others =>
          obtain ⟨otherName, otherType, alsoRequired⟩ := other
          simp [Field.sameAll, FieldType.same_iff, Field.sameAll_iff, and_assoc]

end

instance : DecidableEq FieldType := fun left right =>
  decidable_of_iff (left.same right = true) FieldType.same_iff

instance : DecidableEq Field := fun left right =>
  decidable_of_iff (Field.sameAll [left] [right] = true)
    (Field.sameAll_iff.trans List.singleton_inj)

/-! ## Schemas -/

namespace Field

/-- A field that every record has. -/
def mandatory (name : String) (type : FieldType) : Field := ⟨name, type, true⟩

/-- A field that a record may leave out. -/
def optional (name : String) (type : FieldType) : Field := ⟨name, type, false⟩

/-- The first field of a name, with its position, counted from `start`. -/
def find? (name : String) (start : Nat) : List Field → Option (Nat × Field)
  | [] => none
  | field :: rest =>
      if field.name = name then some (start, field) else find? name (start + 1) rest

end Field

/-- The fields of a record kind, below its root key. -/
structure Schema where
  root : String
  fields : List Field
deriving DecidableEq, Repr

namespace Schema

/-- The declared field of a name, with its position. -/
def field? (schema : Schema) (name : String) : Option (Nat × Field) :=
  Field.find? name 0 schema.fields

/-- The dotted path of a field. -/
def pathOf (schema : Schema) (field : Field) : String := schema.root ++ "." ++ field.name

end Schema

/-- Log levels, the mildest first. -/
def logLevels : List String := ["TRACE", "DEBUG", "INFO", "WARN", "ERROR", "FATAL"]

/-- What a profile measures. -/
def profileKinds : List String := ["alloc", "cpu", "lock", "wall"]

/-- How a node reports itself, the healthiest first. -/
def nodeStatuses : List String := ["UP", "DOWN", "UNKNOWN"]

def logSchema : Schema where
  root := "log"
  fields := [
    .mandatory "ts" .timestamp,
    .mandatory "level" (.enum logLevels true),
    .mandatory "logger" .string,
    .mandatory "thread" .string,
    .mandatory "message" .string,
    .mandatory "node" .string,
    .optional "exception" .string,
    .optional "mdc" .map]

def profileSchema : Schema where
  root := "profile"
  fields := [
    .mandatory "ts" .timestamp,
    .mandatory "node" .string,
    .mandatory "kind" (.enum profileKinds false),
    .mandatory "duration_ms" .integer,
    .mandatory "samples" .integer,
    .optional "format" .string,
    .optional "frames" .list]

def nodeSchema : Schema where
  root := "node"
  fields := [
    .mandatory "id" .string,
    .mandatory "host" .string,
    .mandatory "port" .integer,
    .mandatory "status" (.enum nodeStatuses true),
    .optional "version" .string,
    .optional "started_at" .timestamp,
    .optional "metadata" .map]

/-- The kinds of records. -/
inductive RecordKind where
  | log
  | profile
  | node
deriving DecidableEq, Repr

namespace RecordKind

/-- Every kind, in declared order. -/
def all : List RecordKind := [.log, .profile, .node]

/-- The name of a kind in requests and messages. -/
def tag : RecordKind → String
  | .log => "log"
  | .profile => "profile"
  | .node => "nodeinfo"

def ofTag? (tag : String) : Option RecordKind :=
  all.find? fun kind => kind.tag == tag

def schema : RecordKind → Schema
  | .log => logSchema
  | .profile => profileSchema
  | .node => nodeSchema

/-- The path by which records of a kind are ordered when a query names none. -/
def defaultSort : RecordKind → String
  | .log => "log.ts"
  | .profile => "profile.ts"
  | .node => "node.id"

end RecordKind

end ClusterQuery
