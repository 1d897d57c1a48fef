import ClusterQuery.Proofs.Labels
import ClusterQuery.Proofs.Node

/-!
# Nodes through their records

The record that a node writes about itself is read back as the node. A node is read from any record
of the node kind whose port fits in 16 bits: required fields are there and have values of their
types, so nothing else can be wrong. What is read is what the record's paths extract, and labels
that were no strings have become strings, so writing and reading once more changes nothing.
-/

namespace ClusterQuery

namespace FieldType.Admits

variable {value : Value}

theorem exists_text (admits : FieldType.string.Admits value) : ∃ text, value = .text text := by
  cases admits with
  | string text => exact ⟨text, rfl⟩

theorem exists_int (admits : FieldType.integer.Admits value) : ∃ number, value = .int number := by
  cases admits with
  | @integer number _ => exact ⟨number, rfl⟩

/-- A status field has the value of a status. -/
theorem exists_status (admits : (FieldType.enum nodeStatuses true).Admits value) :
    ∃ status : NodeStatus, value = status.value := by
  cases admits with
  | @enum _ position name _ found =>
      have declared := (of_findVariant_eq_some found).1
      simp only [nodeStatuses, List.mem_cons, List.not_mem_nil, or_false] at declared
      rcases declared with rfl | rfl | rfl
      · cases found
        exact ⟨.up, rfl⟩
      · cases found
        exact ⟨.down, rfl⟩
      · cases found
        exact ⟨.unknown, rfl⟩

end FieldType.Admits

namespace Node

/-! ## What a record says about a node -/

/-- A path reads the field that its steps lead to. -/
theorem field_eq {record : Record} {path : String} {compiled : FieldPath}
    (compiles : FieldPath.compile path .node = .ok compiled) :
    field record path = record.valueAt compiled.steps := by
  rw [field, compiles]
  rfl

/-- A record of the node kind has an identifier, a host, a port and a status. -/
theorem exists_fields {record : Record} (ofKind : record.kind = .node) :
    ∃ (id host : String) (port : Int) (status : NodeStatus),
      field record "node.id" = .text id ∧ field record "node.host" = .text host ∧
        field record "node.port" = .int port ∧ field record "node.status" = status.value := by
  have admits (path : String) (position : Nat) {compiled : FieldPath} {declared : Field}
      (compiles : FieldPath.compile path .node = .ok compiled)
      (isStep : compiled.steps = [position])
      (standing : nodeSchema.fields[position]? = some declared)
      (required : declared.required = true) (orderable : declared.type.isOrderable = true) :
      declared.type.Admits (field record path) := by
    rw [field_eq compiles, isStep]
    refine record.admits_of_required ?_ required orderable
    rw [ofKind]
    exact standing
  obtain ⟨id, isId⟩ := (admits "node.id" 0 rfl rfl rfl rfl rfl).exists_text
  obtain ⟨host, isHost⟩ := (admits "node.host" 1 rfl rfl rfl rfl rfl).exists_text
  obtain ⟨port, isPort⟩ := (admits "node.port" 2 rfl rfl rfl rfl rfl).exists_int
  obtain ⟨status, isStatus⟩ := (admits "node.status" 3 rfl rfl rfl rfl rfl).exists_status
  exact ⟨id, host, port, status, isId, isHost, isPort, isStatus⟩

/-- Only the port can stand in the way of reading a node. -/
theorem ofRecord_eq {record : Record} (ofKind : record.kind = .node) {id host : String}
    {port : Int} {status : NodeStatus} (isId : field record "node.id" = .text id)
    (isHost : field record "node.host" = .text host)
    (isPort : field record "node.port" = .int port)
    (isStatus : field record "node.status" = status.value) :
    ofRecord record =
      if 0 ≤ port ∧ port < 65536 then
        .ok ⟨id, ⟨host, UInt16.ofNat port.toNat⟩, status, labelsOf record.document⟩
      else .error (.decode .node (.unusable "node.port" (.int port))) := by
  simp only [ofRecord, ofKind, isId, isHost, isPort, isStatus]
  cases status <;> rfl

/-! ## Labels -/

/-- The entries that a document has for the labels of a node; none if there is no such object. -/
def metadata (document : Json) : List (String × Json) :=
  (((document.get? "node").bind fun node => node.get? "metadata").bind Json.entries?).getD []

/-- The labels that entries stand for: strings as they are, all else as its JSON text. -/
def labelsFrom (entries : List (String × Json)) : Labels :=
  .ofList (entries.map fun entry => (entry.1, labelText entry.2))

theorem labelsOf_eq (document : Json) : labelsOf document = labelsFrom (metadata document) := by
  rw [labelsOf, metadata]
  cases ((document.get? "node").bind fun node => node.get? "metadata").bind Json.entries? <;> rfl

/-- The last entry of a name gives the text of its label. -/
theorem mem_labelsFrom_iff {entries : List (String × Json)} {name text : String} :
    (name, text) ∈ (labelsFrom entries).entries ↔
      (Json.lookup name entries.reverse).map labelText = some text := by
  induction entries using List.reverseRecOn with
  | nil => simp [labelsFrom, Labels.ofList, Labels.empty, Json.lookup]
  | append_singleton entries last ih =>
      have inserted : labelsFrom (entries ++ [last]) =
          (labelsFrom entries).insert last.1 (labelText last.2) := by
        rw [labelsFrom, List.map_append]
        exact Labels.ofList_concat _ last.1 (labelText last.2)
      rw [inserted, Labels.insert, Labels.mem_insertEntry_iff (labelsFrom entries).sorted, ih,
        List.reverse_append, List.reverse_singleton, List.singleton_append, Json.lookup]
      by_cases same : last.1 = name
      · simp [same, eq_comm]
      · simp [same, Ne.symm same]

/-! ## Writing and reading -/

theorem labelsOf_document (node : Node) : labelsOf node.document = node.labels := by
  have entries : metadata node.document =
      node.labels.entries.map fun entry => (entry.1, .string entry.2) := by rfl
  have texts : (metadata node.document).map (fun entry => (entry.1, labelText entry.2)) =
      node.labels.entries := by
    rw [entries, List.map_map]
    exact List.map_id _
  rw [labelsOf_eq, labelsFrom, texts, Labels.ofList_entries]

/-- What a node writes about itself is read back. -/
theorem ofRecord_record (node : Node) : ofRecord node.record = .ok node := by
  have isPort : 0 ≤ (node.endpoint.port.toNat : Int) ∧ (node.endpoint.port.toNat : Int) < 65536 :=
    ⟨Int.natCast_nonneg _, Int.ofNat_lt.mpr node.endpoint.port.toNat_lt⟩
  rw [ofRecord_eq rfl rfl rfl rfl rfl, if_pos isPort, Int.toNat_natCast, UInt16.ofNat_toNat]
  exact congrArg (fun labels => Except.ok (Node.mk node.id node.endpoint node.status labels))
    node.labelsOf_document

/-- What a record of the node kind says about a node, and what reading it comes to. -/
structure Describes (record : Record) : Prop where
  /-- The only fault is a port that does not fit in 16 bits. -/
  refused : ∃ port : Int, field record "node.port" = .int port ∧
    ∀ error, ofRecord record = .error error ↔
      (port < 0 ∨ 65535 < port) ∧
        error = .decode .node (.unusable "node.port" (.int port))
  /-- The node is what the paths of the record extract. -/
  extracted : ∀ node, ofRecord record = .ok node →
    field record "node.id" = .text node.id ∧
      field record "node.host" = .text node.endpoint.host ∧
      field record "node.port" = .int node.endpoint.port.toNat ∧
      field record "node.status" = node.status.value
  /-- The labels are strings as they are, and the JSON texts of all other values. -/
  labelled : ∀ node, ofRecord record = .ok node → ∀ name text,
    (name, text) ∈ node.labels.entries ↔
      (Json.lookup name (metadata record.document).reverse).map labelText = some text
  /-- Writing the node and reading it again changes nothing. -/
  stable : ∀ node, ofRecord record = .ok node →
    ∃ again, node.toRecord = .ok again ∧ ofRecord again = .ok node

theorem describes {record : Record} (ofKind : record.kind = .node) : Describes record := by
  obtain ⟨id, host, port, status, isId, isHost, isPort, isStatus⟩ := exists_fields ofKind
  have read := ofRecord_eq ofKind isId isHost isPort isStatus
  have inRange {node : Node} (success : ofRecord record = .ok node) :
      (0 ≤ port ∧ port < 65536) ∧
        ⟨id, ⟨host, UInt16.ofNat port.toNat⟩, status, labelsOf record.document⟩ = node := by
    rw [read] at success
    split at success
    next inRange => exact ⟨inRange, Except.ok.inj success⟩
    next => cases success
  constructor
  case refused =>
    refine ⟨port, isPort, fun error => ?_⟩
    rw [read]
    split
    next inRange =>
      constructor
      · intro failure
        cases failure
      · rintro ⟨outside, -⟩
        omega
    next outside =>
      constructor
      · intro failure
        cases failure
        exact ⟨by omega, rfl⟩
      · rintro ⟨-, rfl⟩
        rfl
  case extracted =>
    intro node success
    obtain ⟨⟨notNegative, small⟩, rfl⟩ := inRange success
    have samePort : ((UInt16.ofNat port.toNat).toNat : Int) = port := by
      have fits : port.toNat < UInt16.size := by
        rw [UInt16.size]
        omega
      rw [UInt16.toNat_ofNat_of_lt' fits, Int.toNat_of_nonneg notNegative]
    refine ⟨isId, isHost, ?_, isStatus⟩
    rw [isPort, samePort]
  case labelled =>
    intro node success name text
    obtain ⟨-, rfl⟩ := inRange success
    rw [labelsOf_eq, mem_labelsFrom_iff]
  case stable =>
    intro node _
    exact ⟨node.record, node.toRecord_eq, node.ofRecord_record⟩

/-- Every node can be written as a record, from which it is read back. A record of the node kind is
refused if and only if its port does not fit in 16 bits; otherwise what is read is what the record
says, and it survives being written and read again. Records of other kinds are refused. -/
theorem records_describe_nodes :
    (∀ node : Node, ∃ record, node.toRecord = .ok record ∧ ofRecord record = .ok node) ∧
      (∀ record : Record, record.kind = .node → Describes record) ∧
      ∀ record : Record, record.kind ≠ .node →
        ofRecord record = .error (.decode record.kind .notNode) := by
  refine ⟨fun node => ⟨node.record, node.toRecord_eq, node.ofRecord_record⟩,
    fun record => describes, fun record otherKind => ?_⟩
  rw [ofRecord, if_pos otherKind]

/-- A port in a string, a status in another case and a label that is a number. -/
theorem records_describe_nodes_of_lenient_forms :
    let document : Json := .object [("node", .object [("host", .string "h"), ("id", .string "n2"),
      ("metadata", .object [("cores", .number (.whole 8)), ("zone", .string "b")]),
      ("port", .string " +8080"), ("status", .string "Up")])]
    ∃ record node, Record.decode .node document = .ok record ∧ ofRecord record = .ok node ∧
      node.endpoint = ⟨"h", 8080⟩ ∧ node.status = .up ∧ ("cores", "8") ∈ node.labels.entries ∧
      ∃ again, node.toRecord = .ok again ∧ ofRecord again = .ok node := by
  intro document
  have conforms : RecordKind.node.schema.decode document = .ok [.scalar (.text "n2"),
      .scalar (.text "h"), .scalar (.int 8080), .scalar (.enum 0 "UP"), .scalar .null,
      .scalar .null, .unread] := by rfl
  obtain ⟨-, describes, -⟩ := records_describe_nodes
  have described := describes ⟨.node, document, _, conforms⟩ rfl
  have read : ofRecord ⟨.node, document, _, conforms⟩ =
      .ok ⟨"n2", ⟨"h", 8080⟩, .up, labelsOf document⟩ := by rfl
  exact ⟨_, _, Record.decode_of_conforms conforms, read, rfl, rfl,
    (described.labelled _ read "cores" "8").mpr rfl, described.stable _ read⟩

end Node

end ClusterQuery
