import ClusterQuery.Proofs.ClusterView
import ClusterQuery.Proofs.Merge.Repeats

/-!
# Views and queries for nodes

A view and a query for all nodes in the order of identifiers look at the answers of the same peers
in different ways: the one passes over peers that do not answer and leaves out what claims the local
identifier, the other one takes them for peers without records and believes all of them. As long as
the limit cuts neither, they differ in the local record alone.
-/

namespace ClusterQuery.ClusterView

/-- The query for all nodes, in the order of identifiers. -/
def everyNode (window : Window) : QueryPlan := ⟨⟨.node, none, window.limit⟩, byId, none⟩

/-- An entry for a peer that is left out, up to the wording of the failure. -/
def labelled (entry : PartialFailure) : Endpoint × String := (entry.endpoint, entry.failure.label)

/-- The records of the endpoints that answer, in their order. -/
def recordsOf (outcomes : List FetchOutcome) : List Record :=
  (outcomes.filter answers).flatMap Aggregation.batchOf

/-- What a view has in common with the records of every node. -/
structure Agrees (node : Node) (view nodes : Aggregation) : Prop where
  /-- The local record stands where its identifier belongs among the records of other nodes. -/
  results : ∃ before after, view.results = before ++ node.record :: after ∧
    before ++ after = nodes.results.filter (fun record => byId.key record ≠ .text node.id) ∧
    (∀ record ∈ before, byId.compare record node.record = .lt) ∧
    ∀ record ∈ after, byId.compare node.record record = .lt
  /-- The same endpoints are left out, in the same order, with the same labels. -/
  failures : view.partialFailures.map labelled = nodes.partialFailures.map labelled

/-! ## The same endpoints answer -/

theorem validate_everyNode (window : Window) : (everyNode window).validate = .ok () := by rfl

theorem answers_everyNode (window : Window) : (everyNode window).answers = answers := by
  funext outcome
  cases outcome <;> rfl

/-- A query for all nodes uses an answer as it is. -/
theorem usable_everyNode (window : Window) {outcome : FetchOutcome}
    (answered : answers outcome = true) : (everyNode window).usable outcome = outcome := by
  cases outcome with
  | error failure => cases answered
  | ok records =>
      have allNodes : ∀ record ∈ records, record.kind = .node := by
        simpa [answers] using answered
      rw [(everyNode window).usable_eq_ok_iff]
      refine ⟨records, rfl, allNodes, ?_⟩
      rw [eq_comm, List.filter_eq_self]
      intro record _
      rfl

/-- The records that a query for all nodes is merged from. -/
theorem flatten_batches_everyNode (window : Window) (outcomes : List FetchOutcome) :
    ((outcomes.map (everyNode window).usable).map Aggregation.batchOf).flatten =
      recordsOf outcomes := by
  have used : (outcomes.filter answers).map (everyNode window).usable =
      outcomes.filter answers := by
    conv_rhs => rw [← List.map_id (outcomes.filter answers)]
    apply List.map_congr_left
    intro outcome member
    exact usable_everyNode window (List.mem_filter.mp member).2
  rw [← Aggregation.flatten_batches_filter_answers, answers_everyNode, used, recordsOf,
    List.flatMap_def]

/-- The label of what is wrong with an outcome that cannot be used. -/
def blamed (outcome : FetchOutcome) : String :=
  match outcome with
  | .ok _ => (FetchFailure.decoding "").label
  | .error failure => failure.label

theorem Blames.label_eq {outcome : FetchOutcome} {failure : FetchFailure}
    (blames : Blames outcome failure) : failure.label = blamed outcome := by
  cases blames <;> rfl

theorem label_eq_of_blames {plan : QueryPlan} {outcome : FetchOutcome} {failure : FetchFailure}
    (blames : plan.Blames outcome failure) : failure.label = blamed outcome := by
  cases blames <;> rfl

/-- Entries are labelled by the positions that they are for. -/
theorem map_labelled_eq {positions : List (Endpoint × FetchOutcome)}
    {entries : List PartialFailure}
    (entriesFor : List.Forall₂
      (fun position entry => entry.endpoint = position.1 ∧
        entry.failure.label = blamed position.2) positions entries) :
    entries.map labelled = positions.map fun position => (position.1, blamed position.2) := by
  induction entriesFor with
  | nil => rfl
  | cons first _ ih =>
      rw [List.map_cons, List.map_cons, ih, labelled, first.1, first.2]

/-! ## The same records -/

variable {course other : FanOut.Course} {listeners : List Listener} {node : Node}
variable {window : Window}

/-- An answer comes of a request that was sent and heard of. -/
theorem reaches_of_any_answers
    (someAnswers :
      (FanOut.outcomesOf course window.deadline (request window) listeners).any answers = true) :
    course.reaches window.deadline = true ∧ listeners ≠ [] := by
  constructor
  · refine Bool.eq_true_of_not_eq_false fun beyond => ?_
    rw [FanOut.outcomesOf_of_not_reaches beyond] at someAnswers
    cases someAnswers
  · rintro rfl
    rw [outcomesOf_nil] at someAnswers
    cases someAnswers

/-- A query for all nodes that some listener answers comes to a result. -/
theorem result?_runOn_everyNode
    (someAnswers :
      (FanOut.outcomesOf course window.deadline (request window) listeners).any answers = true) :
    let outcomes := FanOut.outcomesOf course window.deadline (request window) listeners
    (Aggregation.runOn course listeners (everyNode window) window).result? =
      some (.ok ⟨Merge.merge ((outcomes.map (everyNode window).usable).map Aggregation.batchOf) byId
          window.limit,
        Aggregation.failuresOf (listeners.map Listener.endpoint)
          (outcomes.map (everyNode window).usable)⟩) := by
  obtain ⟨reaches, some⟩ := reaches_of_any_answers someAnswers
  rw [Aggregation.result?_runOn (validate_everyNode window) some reaches, answers_everyNode]
  exact if_pos someAnswers

/-- The same endpoints are left out of a view as of a query for all nodes. -/
theorem map_labelled_failuresOf (endpoints : List Endpoint) (outcomes : List FetchOutcome)
    (localId : String) (window : Window) :
    (Aggregation.failuresOf endpoints (outcomes.map (usable localId))).map labelled =
      (Aggregation.failuresOf endpoints (outcomes.map (everyNode window).usable)).map labelled := by
  have ofView := Aggregation.forall₂_failuresOf_of_usable
    (fun outcome answered => ⟨_, usable_of_answers localId answered⟩)
    (fun outcome => @usable_of_not_answers localId outcome) endpoints outcomes
  have ofNodes := Aggregation.forall₂_failuresOf (everyNode window) endpoints outcomes
  rw [answers_everyNode] at ofNodes
  rw [map_labelled_eq (ofView.imp fun _ _ leftOut => ⟨leftOut.1, leftOut.2.label_eq⟩),
    map_labelled_eq (ofNodes.imp fun _ _ leftOut => ⟨leftOut.1, label_eq_of_blames leftOut.2⟩)]

/-- If the limit has room for the local record and all others, a view agrees with the result of a
query for all nodes. -/
theorem agrees_viewOf {nodes : Aggregation}
    (success :
      (Aggregation.runOn course listeners (everyNode window) window).result? = some (.ok nodes))
    (someAnswers :
      (FanOut.outcomesOf course window.deadline (request window) listeners).any answers = true)
    (room : (recordsOf
      (FanOut.outcomesOf course window.deadline (request window) listeners)).length <
        window.limit) :
    Agrees node (viewOf course listeners node window) nodes := by
  rw [result?_runOn_everyNode someAnswers] at success
  cases success
  constructor
  case results =>
    let outcomes := FanOut.outcomesOf course window.deadline (request window) listeners
    have others : ∀ record ∈ remoteRecords node.id outcomes,
        byId.key record ≠ byId.key node.record := by
      intro record member
      exact of_decide_eq_true (List.mem_filter.mp member).2
    have byEntry (left right : Record)
        (same : Merge.entryOf byId left = Merge.entryOf byId right) :
        decide (byId.key left ≠ .text node.id) = decide (byId.key right ≠ .text node.id) := by
      rw [(Prod.mk.inj same).1]
    have viewFits : [node.record :: remoteRecords node.id outcomes].flatten.length ≤
        window.limit := by
      rw [List.flatten_singleton, List.length_cons]
      exact Nat.lt_of_le_of_lt (List.length_filter_le _ _) room
    have nodesFit : ((outcomes.map (everyNode window).usable).map
        Aggregation.batchOf).flatten.length ≤ window.limit := by
      rw [flatten_batches_everyNode]
      exact Nat.le_of_lt room
    obtain ⟨before, after, parts, rest, isBefore, isAfter⟩ :=
      Merge.exists_wholeMerge_cons byId others
    refine ⟨before, after, ?_, ?_, isBefore, isAfter⟩
    · rw [results_viewOf, Merge.merge_eq_wholeMerge byId viewFits, List.flatten_singleton]
      exact parts
    · rw [rest, Merge.merge_eq_wholeMerge byId nodesFit, flatten_batches_everyNode,
        Merge.filter_wholeMerge byId fun left _ right _ => byEntry left right]
      rfl
  case failures => exact map_labelled_failuresOf _ _ node.id window

/-- A view and a query for all nodes agree. If some endpoint answers the view, and the limit exceeds
the number of records of those that do, then both come to a result, each endpoint gets the same
request from both, the same endpoints are left out with the same labels, and the view holds the
records of other nodes that the query finds, with the local record in its place among them. Either
both are carried out alike, or nobody answers at the very deadline, and the clock can name it for
both. -/
theorem view_agrees_with_query (course other : FanOut.Course) (listeners : List Listener)
    (node : Node) (window : Window)
    (someAnswers :
      (FanOut.outcomesOf course window.deadline (request window) listeners).any answers = true)
    (room : (recordsOf
      (FanOut.outcomesOf course window.deadline (request window) listeners)).length < window.limit)
    (comparable : other = course ∨ other.reaches window.deadline = true ∧
      ∀ conduct ∈ FanOut.conductsOf (request window) listeners,
        conduct.endsAfter? ≠ some window.deadline) :
    let viewing := runOn course listeners node window
    let querying := Aggregation.runOn other listeners (everyNode window) window
    viewing.requests = querying.requests ∧
      ∃ view nodes, viewing.result? = some (.ok view) ∧ querying.result? = some (.ok nodes) ∧
        Agrees node view nodes := by
  intro viewing querying
  have reaches := (reaches_of_any_answers someAnswers).1
  have reachesThere : other.reaches window.deadline = true := by
    rcases comparable with rfl | ⟨reaches, -⟩ <;> exact reaches
  have sameOutcomes : FanOut.outcomesOf course window.deadline (request window) listeners =
      FanOut.outcomesOf other window.deadline (request window) listeners := by
    rcases comparable with rfl | ⟨-, notThen⟩
    · rfl
    · rw [FanOut.outcomesOf_eq reaches notThen, FanOut.outcomesOf_eq reachesThere notThen]
  have sameView : viewOf course listeners node window = viewOf other listeners node window := by
    rw [viewOf, viewOf, sameOutcomes]
  rw [sameOutcomes] at someAnswers room
  have queried : querying.result? = _ := result?_runOn_everyNode someAnswers
  constructor
  · rw [show viewing.requests = _ from requests_runOn reaches listeners node,
      show querying.requests = _ from
        Aggregation.requests_runOn listeners (validate_everyNode window) reachesThere]
    rfl
  · refine ⟨_, _, result?_runOn (.inr reaches) node, queried, ?_⟩
    rw [sameView]
    exact agrees_viewOf queried someAnswers room

/-- One peer reports two nodes and claims to be the local one as well, another sends a log record,
and a third never answers. -/
theorem view_agrees_with_query_of_impostor :
    let named (id : String) : Json := .object [("node", .object [("id", .string id),
      ("host", .string "h"), ("port", .ofNat 1), ("status", .string "UP")])]
    let log : Json := .object [("log", .object [("ts", .ofNat 0), ("level", .string "INFO"),
      ("logger", .string "l"), ("thread", .string "t"), ("message", .string "m"),
      ("node", .string "x")])]
    let listeners : List Listener :=
      [⟨⟨"a", 1⟩, fun _ => .answers .zero
          (.ofBody .node (.array [named "z9", named "m5", named "a0"]))⟩,
        ⟨⟨"b", 2⟩, fun _ => .answers .zero (.ofBody .log (.array [log]))⟩,
        ⟨⟨"c", 3⟩, fun _ => .hangs⟩]
    let node : Node := ⟨"m5", ⟨"localhost", 5⟩, .up, .empty⟩
    let window : Window := ⟨.ofSeconds 1, 4⟩
    let outcomes := FanOut.outcomesOf {} window.deadline (request window) listeners
    outcomes.any answers = true ∧ (recordsOf outcomes).length = 3 ∧
      ∃ view nodes,
        (runOn {} listeners node window).result? = some (.ok view) ∧
        (Aggregation.runOn {} listeners (everyNode window) window).result? = some (.ok nodes) ∧
        Agrees node view nodes := by
  intro named log listeners node window outcomes
  have someAnswers : outcomes.any answers = true := by decide +kernel
  have three : (recordsOf outcomes).length = 3 := by decide +kernel
  have room : (recordsOf outcomes).length < window.limit := by
    rw [three]
    decide
  obtain ⟨-, agree⟩ :=
    view_agrees_with_query {} {} listeners node window someAnswers room (.inl rfl)
  exact ⟨someAnswers, three, agree⟩

end ClusterQuery.ClusterView
