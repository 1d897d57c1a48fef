import ClusterQuery.Node
import ClusterQuery.Proofs.Record.Extraction

/-!
# The record of a node

Whatever a node says about itself can be written as a record: no identifier, host, port, status or
label stands in the way, as the schema takes each of them as it is.
-/

namespace ClusterQuery

/-- A status as a field value, ranked as the schema declares. -/
def NodeStatus.value : NodeStatus → Value
  | .up => .enum 0 "UP"
  | .down => .enum 1 "DOWN"
  | .unknown => .enum 2 "UNKNOWN"

/-- A port is a number that a field can hold. -/
theorem FieldType.coerce_port (port : UInt16) :
    FieldType.integer.coerce (.ofNat port.toNat) = some (.int port.toNat) := by
  have small : port.toNat < 65536 := port.toNat_lt
  have fits : Text.isInt64 port.toNat = true := by
    rw [Text.isInt64, Text.maxInt64, Bool.and_eq_true, decide_eq_true_iff, decide_eq_true_iff]
    omega
  exact if_pos fits

/-- The name of a status is read as that status. -/
theorem FieldType.coerce_statusName (status : NodeStatus) :
    (FieldType.enum nodeStatuses true).coerce (.string status.name) = some status.value := by
  cases status <;> rfl

namespace Node

/-- One slot for each field of a node's record. -/
def slots (node : Node) : List Slot :=
  [.scalar (.text node.id), .scalar (.text node.endpoint.host),
    .scalar (.int node.endpoint.port.toNat), .scalar node.status.value, .scalar .null,
    .scalar .null, .unread]

theorem conforms (node : Node) :
    RecordKind.node.schema.decode node.document = .ok node.slots := by
  refine Schema.decode_eq_ok_iff.mpr ⟨_, rfl, Field.decodeAll_eq_ok_iff.mpr ?_⟩
  -- Four fields are there, two are left out, and the labels are an object.
  refine .cons ?id (.cons ?host (.cons ?port (.cons ?status (.cons ?version (.cons ?startedAt
    (.cons ?metadata .nil))))))
  case id => exact (Field.decode_eq_ok_iff rfl).mpr (.inr ⟨_, rfl, rfl⟩)
  case host => exact (Field.decode_eq_ok_iff rfl).mpr (.inr ⟨_, rfl, rfl⟩)
  case port =>
    exact (Field.decode_eq_ok_iff rfl).mpr
      (.inr ⟨_, rfl, FieldType.coerce_port node.endpoint.port⟩)
  case status =>
    exact (Field.decode_eq_ok_iff rfl).mpr
      (.inr ⟨_, rfl, FieldType.coerce_statusName node.status⟩)
  case version => exact (Field.decode_eq_ok_iff rfl).mpr (.inl ⟨rfl, rfl, rfl⟩)
  case startedAt => exact (Field.decode_eq_ok_iff rfl).mpr (.inl ⟨rfl, rfl, rfl⟩)
  case metadata => rfl

/-- The record that a node writes about itself. -/
def record (node : Node) : Record := ⟨.node, node.document, node.slots, node.conforms⟩

/-- Every node can be written as a record. -/
theorem toRecord_eq (node : Node) : node.toRecord = .ok node.record :=
  Record.decode_of_conforms node.conforms

end Node

end ClusterQuery
