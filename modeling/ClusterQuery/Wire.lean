import ClusterQuery.Json.Form
import ClusterQuery.Node
import ClusterQuery.Query.SortOrder

/-!
# Names and addresses in documents

How statuses, kinds of records, directions and endpoints stand in documents, and how they are
read. A status is also known by its name in lower case; the other names are exact.
-/

namespace ClusterQuery

namespace NodeStatus

def ofDocument? (document : Json) : Option NodeStatus := do
  let name ← Form.name? document
  [up, down, unknown].find? fun status =>
    status.name == name || Text.lowercase status.name == name

def document (status : NodeStatus) : Json := .string status.name

end NodeStatus

namespace RecordKind

def ofDocument? (document : Json) : Option RecordKind := (Form.name? document).bind ofTag?

def document (kind : RecordKind) : Json := .string kind.tag

end RecordKind

namespace Direction

def ofDocument? (document : Json) : Option Direction := do
  let name ← Form.name? document
  [ascending, descending].find? fun direction => direction.text == name

def document (direction : Direction) : Json := .string direction.text

end Direction

namespace Endpoint

def ofDocument? (document : Json) : Option Endpoint := do
  match ← document.fields? ["host", "port"] with
  | [some host, some port] => return ⟨← Form.string? host, ← Form.port? port⟩
  | _ => none

def document (endpoint : Endpoint) : Json :=
  .object [("host", .string endpoint.host), ("port", .ofNat endpoint.port.toNat)]

end Endpoint

end ClusterQuery
