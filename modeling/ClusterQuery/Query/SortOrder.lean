import ClusterQuery.Query.FieldPath

/-!
# Sort orders

A sort order is a compiled path and a direction. Descending order is the exact reverse of
ascending order on keys; it does not touch the order of records with equal keys.
-/

namespace ClusterQuery

/-- The direction of an order. -/
inductive Direction where
  | ascending
  | descending
deriving DecidableEq, Repr

namespace Direction

/-- Turns an ascending comparison into one of this direction. -/
def apply (direction : Direction) (ordering : Ordering) : Ordering :=
  match direction with
  | .ascending => ordering
  | .descending => ordering.swap

def text : Direction → String
  | .ascending => "asc"
  | .descending => "desc"

/-- Reads a direction in any case; the error is its wording, with the text in lower case. -/
def read (text : String) : Except String Direction :=
  let word := Text.lowercase text
  if word = "asc" ∨ word = "ascending" then .ok .ascending
  else if word = "desc" ∨ word = "descending" then .ok .descending
  else .error ("invalid direction " ++ Text.quoted word ++ " (expected asc or desc)")

end Direction

/-- An order of records by one field. -/
structure SortOrder where
  path : FieldPath
  direction : Direction
deriving DecidableEq, Repr

namespace SortOrder

/-- The value by which a record is ordered. -/
def key (order : SortOrder) (record : Record) : Value := order.path.extract record

/-- Compares two keys in the order's direction. -/
def compareKeys (order : SortOrder) (left right : Value) : Ordering :=
  order.direction.apply (left.compare right)

def compare (order : SortOrder) (left right : Record) : Ordering :=
  order.compareKeys (order.key left) (order.key right)

/-- Whether a record may stand before another. -/
def atMost (order : SortOrder) (left right : Record) : Bool :=
  order.compare left right != .gt

/-- Records in order, those with equal keys in the order given. -/
def sort (order : SortOrder) (records : List Record) : List Record :=
  records.mergeSort order.atMost

end SortOrder

end ClusterQuery
