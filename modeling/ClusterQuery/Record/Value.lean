import ClusterQuery.Number.Layout
import ClusterQuery.Time.Instant

/-!
# Field values

The values of record fields that can be compared. Values of one sort are compared by that
sort's order: floating point numbers by the IEEE total order, instants by time, names of an
enumeration by rank and then by name, strings by code point. Values of different sorts are
compared by their sorts, and the value of an absent field comes before all others.
-/

namespace ClusterQuery

/-- A comparable field value. -/
inductive Value where
  /-- The value of an absent field. -/
  | null
  | bool (value : Bool)
  | int (value : Int)
  | float (value : Binary64)
  | timestamp (value : Time.Instant)
  /-- A name of an enumeration; the rank is zero where the names are not ranked. -/
  | enum (rank : Nat) (name : String)
  | text (value : String)
deriving DecidableEq, Repr

namespace Value

/-- Position of a value's sort among the sorts. -/
def sortRank : Value → Nat
  | .null => 0
  | .bool _ => 1
  | .int _ => 2
  | .float _ => 3
  | .timestamp _ => 4
  | .enum _ _ => 5
  | .text _ => 6

/-- The order of values. -/
def compare : Value → Value → Ordering
  | .null, .null => .eq
  | .bool left, .bool right => Ord.compare left right
  | .int left, .int right => Ord.compare left right
  | .float left, .float right => Ord.compare left.totalKey right.totalKey
  | .timestamp left, .timestamp right => left.compare right
  | .enum leftRank leftName, .enum rightRank rightName =>
      (Ord.compare leftRank rightRank).then (Ord.compare leftName rightName)
  | .text left, .text right => Ord.compare left right
  | left, right => Ord.compare left.sortRank right.sortRank

def isNull : Value → Bool
  | .null => true
  | _ => false

def display : Value → String
  | .null => "null"
  | .bool true => "true"
  | .bool false => "false"
  | .int value => String.ofList (Text.writeInt value)
  | .float value => value.plainText
  | .timestamp value => value.text
  | .enum _ name => name
  | .text value => value

end Value

end ClusterQuery
