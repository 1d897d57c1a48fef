import ClusterQuery.Number.Binary64

/-!
# JSON documents

A document is `null`, a truth value, a number, a string, a list or an object. Numbers are whole
or floating point, and a whole number never equals a floating point one. An object keeps its
entries in a list; `canonical` puts them in the order of their keys and keeps the last of
several entries with one key, at every depth. Keys are compared by code point.
-/

namespace ClusterQuery

/-- A JSON number: whole, or floating point. -/
inductive JsonNumber where
  | whole (value : Int)
  | floating (value : Binary64)
deriving DecidableEq, Repr

/-- Equality of JSON numbers: same sort and same value, the two floating zeros being equal. -/
def JsonNumber.same : JsonNumber → JsonNumber → Bool
  | .whole left, .whole right => left == right
  | .floating left, .floating right => left.sameNumber right
  | _, _ => false

/-- A JSON document. -/
inductive Json where
  | null
  | bool (value : Bool)
  | number (value : JsonNumber)
  | string (value : String)
  | array (items : List Json)
  | object (entries : List (String × Json))
deriving Repr, Inhabited

namespace Json

def sortName : Json → String
  | .null => "null"
  | .bool _ => "bool"
  | .number _ => "number"
  | .string _ => "string"
  | .array _ => "array"
  | .object _ => "object"

/-- The value that a list of entries has for a key. -/
def lookup (key : String) : List (String × Json) → Option Json
  | [] => none
  | (name, value) :: rest => if name = key then some value else lookup key rest

/-- The value of a key, where the document is an object that has it. -/
def get? (document : Json) (key : String) : Option Json :=
  match document with
  | .object entries => lookup key entries
  | _ => none

def entries? : Json → Option (List (String × Json))
  | .object entries => some entries
  | _ => none

def isNull : Json → Bool
  | .null => true
  | _ => false

def ofNat (value : Nat) : Json := .number (.whole value)

mutual

/-- Equality of documents, with numbers compared as numbers. -/
def same : Json → Json → Bool
  | .null, .null => true
  | .bool left, .bool right => left == right
  | .number left, .number right => left.same right
  | .string left, .string right => left == right
  | .array left, .array right => sameItems left right
  | .object left, .object right => sameEntries left right
  | _, _ => false

def sameItems : List Json → List Json → Bool
  | [], [] => true
  | left :: lefts, right :: rights => same left right && sameItems lefts rights
  | _, _ => false

def sameEntries : List (String × Json) → List (String × Json) → Bool
  | [], [] => true
  | (leftKey, left) :: lefts, (rightKey, right) :: rights =>
      leftKey == rightKey && same left right && sameEntries lefts rights
  | _, _ => false

end

/-- Puts an entry among entries in key order, in place of one with the same key. -/
def insertEntry (key : String) (value : Json) : List (String × Json) → List (String × Json)
  | [] => [(key, value)]
  | (name, old) :: rest =>
      if key = name then (key, value) :: rest
      else if key < name then (key, value) :: (name, old) :: rest
      else (name, old) :: insertEntry key value rest

/-- The object with the given entries in key order, the last of equal keys kept. -/
def objectOf (entries : List (String × Json)) : Json :=
  .object (entries.foldl (fun sorted entry => insertEntry entry.1 entry.2 sorted) [])

mutual

/-- The document with every object's entries in key order, the last of equal keys kept. -/
def canonical : Json → Json
  | .array items => .array (canonicalItems items)
  | .object entries => objectOf (canonicalEntries entries)
  | scalar => scalar

/-- The canonical forms of a list of documents. -/
def canonicalItems : List Json → List Json
  | [] => []
  | item :: rest => canonical item :: canonicalItems rest

/-- The entries with canonical values, in the order given. -/
def canonicalEntries : List (String × Json) → List (String × Json)
  | [] => []
  | (key, value) :: rest => (key, canonical value) :: canonicalEntries rest

end

end Json

end ClusterQuery
