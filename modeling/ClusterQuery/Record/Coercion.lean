import ClusterQuery.Json.Basic
import ClusterQuery.Number.Reading
import ClusterQuery.Record.Schema
import ClusterQuery.Record.Value
import ClusterQuery.Text.Blank

/-!
# From JSON to field values

A JSON value is taken into the domain of a field type. Every scalar type accepts its own JSON
form and its text as a string, so a field in a record and a literal in a filter are read by the
same rule. Strings keep their blanks; all other texts are trimmed first.
-/

namespace ClusterQuery

namespace FieldType

/-- A name of an enumeration up to ASCII case, with its position counted from `start`. -/
def findVariant (text : String) (start : Nat) : List String → Option (Nat × String)
  | [] => none
  | variant :: rest =>
      if Text.sameIgnoringCase variant text then some (start, variant)
      else findVariant text (start + 1) rest

/-- The value of a string in the domain of a type. -/
def ofText? (type : FieldType) (text : String) : Option Value :=
  let trimmed := Text.trimBlank text.toList
  match type with
  | .string => some (.text text)
  | .integer => (Text.readInt64 trimmed).map .int
  | .float => (Binary64.read? trimmed).map .float
  | .bool =>
      if trimmed = ['t', 'r', 'u', 'e'] then some (.bool true)
      else if trimmed = ['f', 'a', 'l', 's', 'e'] then some (.bool false)
      else none
  | .timestamp => (Time.Instant.read? trimmed).map .timestamp
  | .enum variants ranked =>
      (findVariant (Text.trim text) 0 variants).map fun (position, name) =>
        .enum (if ranked then position else 0) name
  | .objectOf _ | .list | .map => none

/-- The value of a number in the domain of a type. -/
def ofNumber? (type : FieldType) (number : JsonNumber) : Option Value :=
  match type, number with
  | .integer, .whole value => if Text.isInt64 value then some (.int value) else none
  | .float, .whole value => some (.float (Binary64.ofQuotient (value < 0) value.natAbs 1))
  | .float, .floating value => some (.float value)
  | .timestamp, .whole value =>
      if Text.isInt64 value then (Time.Instant.ofMillis? value).map .timestamp else none
  | _, _ => none

/-- The value of a JSON value in the domain of a type. -/
def coerce (type : FieldType) (document : Json) : Option Value :=
  match document with
  | .string text => type.ofText? text
  | .number number => type.ofNumber? number
  | .bool value => if type = .bool then some (.bool value) else none
  | _ => none

end FieldType

end ClusterQuery
