import ClusterQuery.Json.Token

/-!
# Reading JSON

A document is read token by token. The reader keeps the containers that are still open, the
innermost first, and what it expects next. At most 127 containers may be open at once.
`readWritten?` keeps an object's entries as they were written; `read?` gives the canonical
document.
-/

namespace ClusterQuery

namespace JsonReader

/-- A container that is still open. Items and entries stand in reverse. -/
inductive Frame where
  | array (items : List Json)
  | object (entries : List (String × Json))
  /-- An object whose next entry has its key already. -/
  | entry (entries : List (String × Json)) (key : String)

/-- What may follow. -/
inductive Expectation where
  | value
  /-- A value, or the end of an array just opened. -/
  | firstItem
  /-- A key, or the end of an object just opened. -/
  | firstKey
  | key
  | colon
  /-- A comma, or the end of the innermost container. -/
  | separator
  | finished (document : Json)

/-- The reader between two tokens. -/
structure State where
  frames : List Frame
  expects : Expectation

def start : State := ⟨[], .value⟩

/-- The greatest number of containers open at once. -/
def maxDepth : Nat := 127

/-- Takes a complete value into the innermost container. -/
def accept (value : Json) : List Frame → Option State
  | [] => some ⟨[], .finished value⟩
  | .array items :: outer => some ⟨.array (value :: items) :: outer, .separator⟩
  | .entry entries key :: outer => some ⟨.object ((key, value) :: entries) :: outer, .separator⟩
  | .object _ :: _ => none

/-- Starts a value with its first token. -/
def begin (token : JsonToken) (frames : List Frame) : Option State :=
  match token with
  | .literal value => accept value frames
  | .string value => accept (.string value) frames
  | .openArray =>
      if frames.length < maxDepth then some ⟨.array [] :: frames, .firstItem⟩ else none
  | .openObject =>
      if frames.length < maxDepth then some ⟨.object [] :: frames, .firstKey⟩ else none
  | _ => none

def close (token : JsonToken) (frames : List Frame) : Option State :=
  match token, frames with
  | .closeArray, .array items :: outer => accept (.array items.reverse) outer
  | .closeObject, .object entries :: outer => accept (.object entries.reverse) outer
  | _, _ => none

/-- Takes the key of an object's next entry. -/
def takeKey (token : JsonToken) (frames : List Frame) : Option State :=
  match token, frames with
  | .string key, .object entries :: outer => some ⟨.entry entries key :: outer, .colon⟩
  | _, _ => none

/-- Goes on after a comma, with a key in an object and with a value in an array. -/
def afterComma (frames : List Frame) : Option State :=
  match frames with
  | .object _ :: _ => some ⟨frames, .key⟩
  | .array _ :: _ => some ⟨frames, .value⟩
  | _ => none

def step (state : State) (token : JsonToken) : Option State :=
  match state.expects, token with
  | .value, token => begin token state.frames
  | .firstItem, .closeArray => close .closeArray state.frames
  | .firstItem, token => begin token state.frames
  | .firstKey, .closeObject => close .closeObject state.frames
  | .firstKey, token => takeKey token state.frames
  | .key, token => takeKey token state.frames
  | .colon, .colon => some ⟨state.frames, .value⟩
  | .separator, .comma => afterComma state.frames
  | .separator, token => close token state.frames
  | _, _ => none

end JsonReader

namespace Json

/-- The document that a sequence of tokens spells. -/
def ofTokens? (tokens : List JsonToken) : Option Json := do
  let state ← tokens.foldlM JsonReader.step JsonReader.start
  match state.expects with
  | .finished document => some document
  | _ => none

/-- Reads a document and keeps repeated keys and the order of entries. -/
def readWritten? (text : String) : Option Json :=
  (JsonToken.scan text.toList).bind ofTokens?

/-- Reads a document in canonical form. -/
def read? (text : String) : Option Json := (readWritten? text).map canonical

end Json

end ClusterQuery
