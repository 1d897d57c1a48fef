import ClusterQuery.Json.Raw

/-!
# Structures in documents

A structure stands in a document as an object, in which unknown keys are ignored and a known key
may stand once, or as an array of the structure's fields in order. A raw document is looked into no
further than that takes: all keys must be texts, and the values of unknown ones are passed over. A
name from a closed set stands as a string, or as an object's only key.
-/

namespace ClusterQuery

namespace Form

/-- What a structure may stand as. -/
inductive Layout (α : Type) where
  /-- An object, by the texts of its keys. -/
  | entries (entries : List (String × α))
  | items (items : List α)

section Fields

variable {α : Type}

/-- The value of a known key; more than one is refused. -/
def known? (entries : List (String × α)) (key : String) : Option (Option α) :=
  match entries.filter fun entry => entry.1 == key with
  | [] => some none
  | [(_, value)] => some (some value)
  | _ => none

/-- The fields of a structure with the given names, in their order. -/
def fields? (names : List String) : Layout α → Option (List (Option α))
  | .entries entries => names.mapM (known? entries)
  | .items items =>
      if items.length ≤ names.length then
        some (names.mapIdx fun position _ => items[position]?)
      else none

end Fields

/-- A name from a closed set: as a string, or as the only key of an object, with null. -/
def name? : Json → Option String
  | .string name => some name
  | .object [(name, .null)] => some name
  | _ => none

def string? : Json → Option String
  | .string text => some text
  | _ => none

/-- A 16-bit number. -/
def portOf? (value : Int) : Option UInt16 :=
  if 0 ≤ value ∧ value < 65536 then some (UInt16.ofNat value.toNat) else none

def port? : Json → Option UInt16
  | .number (.whole value) => portOf? value
  | _ => none

end Form

namespace Json

def layout? : Json → Option (Form.Layout Json)
  | .object entries => some (.entries entries)
  | .array items => some (.items items)
  | _ => none

/-- The fields of a structure that a document stands for. -/
def fields? (names : List String) (document : Json) : Option (List (Option Json)) :=
  document.layout?.bind (Form.fields? names)

end Json

namespace RawJson

def layout? : RawJson → Option (Form.Layout RawJson)
  | .object entries => (keyed? entries).map .entries
  | .array items => some (.items items)
  | _ => none

/-- The fields of a structure that a raw document stands for. -/
def fields? (names : List String) (document : RawJson) : Option (List (Option RawJson)) :=
  document.layout?.bind (Form.fields? names)

def port? : RawJson → Option UInt16
  | .number literal => literal.whole?.bind Form.portOf?
  | _ => none

/-- A list field, empty where it is missing. -/
def listOrEmpty? {α : Type} (read : RawJson → Option α) : Option RawJson → Option (List α)
  | none => some []
  | some (.array items) => items.mapM read
  | some _ => none

end RawJson

end ClusterQuery
