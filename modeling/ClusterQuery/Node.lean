import ClusterQuery.Endpoint
import ClusterQuery.Labels
import ClusterQuery.Query.FieldPath

/-!
# Nodes

A node describes itself by an identifier, its endpoint, its status and free-form labels. The
descriptor is written as a node record and read back from one; a label that is no string is
read as its JSON text.
-/

namespace ClusterQuery

/-- How a node reports itself. -/
inductive NodeStatus where
  | up
  | down
  | unknown
deriving DecidableEq, Repr

namespace NodeStatus

def name : NodeStatus → String
  | .up => "UP"
  | .down => "DOWN"
  | .unknown => "UNKNOWN"

/-- The status with exactly the given name. -/
def ofName? (name : String) : Option NodeStatus :=
  [up, down, unknown].find? fun status => status.name == name

end NodeStatus

/-- What a node says about itself. -/
structure Node where
  id : String
  endpoint : Endpoint
  status : NodeStatus
  labels : Labels
deriving DecidableEq

namespace Node

def document (node : Node) : Json :=
  .object [("node", .object [
    ("host", .string node.endpoint.host),
    ("id", .string node.id),
    ("metadata", .object (node.labels.entries.map fun (name, text) => (name, .string text))),
    ("port", .ofNat node.endpoint.port.toNat),
    ("status", .string node.status.name)])]

def toRecord (node : Node) : Except RecordError Record := Record.decode .node node.document

/-- The value of a node record's field. -/
def field (record : Record) (path : String) : Value :=
  match FieldPath.compile path .node with
  | .ok path => path.extract record
  | .error _ => .null

def labelText : Json → String
  | .string text => text
  | other => other.text

def labelsOf (document : Json) : Labels :=
  match (document.get? "node").bind (fun node => node.get? "metadata") |>.bind Json.entries? with
  | some entries => Labels.ofList (entries.map fun (name, value) => (name, labelText value))
  | none => .empty

/-- Reads the descriptor of a node record. Only a port outside 16 bits stands in the way. -/
def ofRecord (record : Record) : Except RecordError Node :=
  if record.kind ≠ .node then .error (.decode record.kind .notNode)
  else
    let unusable (path : String) : Except RecordError Node :=
      .error (.decode .node (.unusable path (field record path)))
    match field record "node.id" with
    | .text id =>
        match field record "node.host" with
        | .text host =>
            match field record "node.port" with
            | .int port =>
                if 0 ≤ port ∧ port < 65536 then
                  match field record "node.status" with
                  | .enum _ name =>
                      .ok ⟨id, ⟨host, UInt16.ofNat port.toNat⟩,
                        (NodeStatus.ofName? name).getD .unknown, labelsOf record.document⟩
                  | _ => unusable "node.status"
                else unusable "node.port"
            | _ => unusable "node.port"
        | _ => unusable "node.host"
    | _ => unusable "node.id"

end Node

end ClusterQuery
