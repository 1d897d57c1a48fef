import ClusterQuery.ClusterView
import ClusterQuery.Proofs.Aggregation.Accounting
import ClusterQuery.Proofs.Node

/-!
# What a view holds

No peer can keep a view from coming about: the order of identifiers compiles, and the local node can
write its record. It is the merge of that record with what the peers that answer say about other
nodes, and those that do not answer are listed. So whatever peers claim, the local node speaks for
itself. Only a deadline that the clock cannot name leaves the caller without a view.
-/

namespace ClusterQuery.ClusterView

/-- The order of node identifiers. -/
def byId : SortOrder := ⟨⟨.node, "node.id", [0], .string⟩, .ascending⟩

theorem order_eq : order = .ok byId := by rfl

@[simp] theorem key_record (node : Node) : byId.key node.record = .text node.id := rfl

/-- Whether an endpoint with a given outcome answers: it brings records, and all are of nodes. -/
def answers : FetchOutcome → Bool
  | .ok records => records.all fun record => record.kind = .node
  | .error _ => false

/-- What is wrong with the outcome of an endpoint that does not answer. -/
inductive Blames : FetchOutcome → FetchFailure → Prop where
  /-- The request failed. -/
  | failed (failure : FetchFailure) : Blames (.error failure) failure
  /-- A record is no node's, and all before it are. -/
  | stray {before after : List Record} {record : Record}
      (allRight : ∀ earlier ∈ before, earlier.kind = .node) (wrong : record.kind ≠ .node) :
      Blames (.ok (before ++ record :: after))
        (.decoding (QueryError.kindMismatch .node record.kind).message)

/-- An entry for a position that does not answer: its endpoint, and what is wrong there. -/
def LeftOut (position : Endpoint × FetchOutcome) (entry : PartialFailure) : Prop :=
  entry.endpoint = position.1 ∧ Blames position.2 entry.failure

/-- The records of the endpoints that answer, in their order, without those that claim the local
identifier. -/
def remoteRecords (localId : String) (outcomes : List FetchOutcome) : List Record :=
  ((outcomes.filter answers).flatMap Aggregation.batchOf).filter fun record =>
    byId.key record ≠ .text localId

/-! ## Usable outcomes -/

/-- An outcome once its records have been looked at. -/
def usable (localId : String) (outcome : FetchOutcome) : FetchOutcome :=
  outcome.bind (remoteNodes byId.path localId)

theorem usable_ok (localId : String) (records : List Record) :
    usable localId (.ok records) =
      match records.find? fun record => record.kind ≠ .node with
      | some stray => .error (.decoding (QueryError.kindMismatch .node stray.kind).message)
      | none => .ok (records.filter fun record => byId.key record ≠ .text localId) := rfl

theorem usable_of_answers (localId : String) {outcome : FetchOutcome}
    (answered : answers outcome = true) :
    usable localId outcome = .ok ((Aggregation.batchOf outcome).filter fun record =>
      byId.key record ≠ .text localId) := by
  cases outcome with
  | error failure => cases answered
  | ok records =>
      have noStray : (records.find? fun record => record.kind ≠ .node) = none := by
        simpa [answers] using answered
      rw [usable_ok, noStray]
      rfl

theorem usable_of_not_answers (localId : String) {outcome : FetchOutcome}
    (silent : answers outcome = false) :
    ∃ failure, usable localId outcome = .error failure ∧ Blames outcome failure := by
  cases outcome with
  | error failure => exact ⟨failure, rfl, .failed failure⟩
  | ok records =>
      cases found : records.find? fun record => record.kind ≠ .node with
      | none =>
          have all : answers (.ok records) = true := by simpa [answers] using found
          rw [all] at silent
          cases silent
      | some record =>
          obtain ⟨wrong, before, after, rfl, allRight⟩ := List.find?_eq_some_iff_append.mp found
          refine ⟨_, ?_, .stray (by simpa using allRight) (of_decide_eq_true wrong)⟩
          rw [usable_ok, found]

/-- The usable batches hold the records of the endpoints that answer. -/
theorem flatten_usableBatches (localId : String) (outcomes : List FetchOutcome) :
    (usableBatches (outcomes.map (usable localId))).flatten = remoteRecords localId outcomes := by
  induction outcomes with
  | nil => rfl
  | cons outcome outcomes ih =>
      rw [List.map_cons, remoteRecords, List.filter_cons]
      cases answered : answers outcome with
      | true =>
          rw [usable_of_answers localId answered, if_pos rfl, List.flatMap_cons,
            List.filter_append]
          exact congrArg _ ih
      | false =>
          obtain ⟨failure, refused, _⟩ := usable_of_not_answers localId answered
          rw [refused]
          exact ih

/-! ## Views -/

/-- The view that the outcomes of listeners come to. -/
def viewOf (course : FanOut.Course) (listeners : List Listener) (node : Node) (window : Window) :
    Aggregation :=
  assemble node.record node.id byId (listeners.map Listener.endpoint) window.limit
    (FanOut.outcomesOf course window.deadline (request window) listeners)

/-- Whether a view comes about: nobody is asked, or the clock can name the deadline. -/
def ComesAbout (course : FanOut.Course) (listeners : List Listener) (window : Window) : Prop :=
  listeners = [] ∨ course.reaches window.deadline = true

variable {course : FanOut.Course} {listeners : List Listener} {node : Node} {window : Window}

/-- Nobody has outcomes, in any course. -/
theorem outcomesOf_nil (course : FanOut.Course) (deadline : Time.Span) (request : FetchRequest) :
    FanOut.outcomesOf course deadline request [] = [] := by
  cases reaches : course.reaches deadline with
  | false => exact FanOut.outcomesOf_of_not_reaches reaches request []
  | true => exact List.length_eq_zero_iff.mp (FanOut.length_outcomesOf reaches request [])

theorem ComesAbout.length_outcomesOf (about : ComesAbout course listeners window)
    (request : FetchRequest) :
    (FanOut.outcomesOf course window.deadline request listeners).length = listeners.length := by
  rcases about with rfl | reaches
  · exact congrArg List.length (outcomesOf_nil course window.deadline request)
  · exact FanOut.length_outcomesOf reaches request listeners

/-- A run against nobody views the local node alone. -/
theorem runOn_nil (course : FanOut.Course) (node : Node) (window : Window) :
    runOn course [] node window =
      { result? := some (.ok (viewOf course [] node window))
        requests := []
        elapsed := .zero
        updates := Aggregation.callUpdates .node "success" [] } := by
  rw [viewOf, outcomesOf_nil]
  simp only [runOn, order_eq, node.toRecord_eq]
  rfl

/-- A run asks every listener if the clock can name the deadline, and comes to the view. -/
theorem runOn_of_reaches (reaches : course.reaches window.deadline = true) (some : listeners ≠ [])
    (node : Node) :
    let conducts := FanOut.conductsOf (request window) listeners
    let report := FanOut.report window.deadline conducts (course.events window.deadline conducts)
    let view := viewOf course listeners node window
    runOn course listeners node window =
      { result? := Option.some (.ok view)
        requests := FanOut.requestsTo (request window) listeners
        elapsed := report.elapsed
        updates := Aggregation.fetchUpdates .node report.received ++
          Aggregation.callUpdates .node (Aggregation.outcomeName view.partialFailures)
            view.partialFailures } := by
  have notEmpty : listeners.isEmpty = false := by simpa using some
  simp only [runOn, order_eq, node.toRecord_eq, notEmpty, Bool.false_eq_true, ↓reduceIte,
    FanOut.run_of_reaches reaches, viewOf, FanOut.outcomesOf_of_reaches reaches]

/-- A run dies if there is someone to ask and the clock cannot name the deadline. -/
theorem runOn_of_not_reaches (beyond : course.reaches window.deadline = false)
    (some : listeners ≠ []) (node : Node) :
    runOn course listeners node window =
      .died (FanOut.run course window.deadline (request window) listeners).requests := by
  have notEmpty : listeners.isEmpty = false := by simpa using some
  simp only [runOn, order_eq, node.toRecord_eq, notEmpty, Bool.false_eq_true, ↓reduceIte,
    FanOut.report?_run_of_not_reaches beyond]

/-- The requests of a run that comes to a view. -/
theorem requests_runOn (reaches : course.reaches window.deadline = true)
    (listeners : List Listener) (node : Node) :
    (runOn course listeners node window).requests =
      FanOut.requestsTo (request window) listeners := by
  cases listeners with
  | nil => rw [runOn_nil]; rfl
  | cons first rest => rw [runOn_of_reaches reaches (List.cons_ne_nil first rest)]

/-- Whether there is a view depends on the clock alone, and it is always the same one. -/
theorem result?_runOn (about : ComesAbout course listeners window) (node : Node) :
    (runOn course listeners node window).result? =
      some (.ok (viewOf course listeners node window)) := by
  cases listeners with
  | nil => rw [runOn_nil]
  | cons first rest =>
      have reaches := about.resolve_left (List.cons_ne_nil first rest)
      rw [runOn_of_reaches reaches (List.cons_ne_nil first rest)]

theorem result?_runOn_of_not (never : ¬ComesAbout course listeners window) (node : Node) :
    (runOn course listeners node window).result? = none := by
  obtain ⟨some, beyond⟩ := not_or.mp never
  rw [runOn_of_not_reaches (Bool.eq_false_of_not_eq_true beyond) some]
  rfl

/-- What a view promises, whatever the listeners do. -/
structure Faithful (course : FanOut.Course) (listeners : List Listener) (node : Node)
    (window : Window) (view : Aggregation) : Prop where
  /-- The order of a view is that of node identifiers. -/
  ordered : order = .ok byId
  /-- The node can write its record. -/
  written : node.toRecord = .ok node.record
  /-- Every position has an outcome. -/
  complete : (FanOut.outcomesOf course window.deadline (request window) listeners).length =
    listeners.length
  /-- There is one entry for each position that does not answer, in the order of the positions. -/
  failures : List.Forall₂ LeftOut
    (((listeners.map Listener.endpoint).zip
      (FanOut.outcomesOf course window.deadline (request window) listeners)).filter
        fun position => !answers position.2)
    view.partialFailures
  /-- The records are the node's own and those of the endpoints that answer, in the order of
  identifiers, each once, cut to the limit. -/
  merged : view.results =
    (Merge.withoutRepeats byId [] (byId.sort (node.record ::
      remoteRecords node.id
        (FanOut.outcomesOf course window.deadline (request window) listeners)))).take window.limit
  /-- A record with the local identifier is the node's own. -/
  genuine : ∀ record ∈ view.results, byId.key record = .text node.id → record = node.record

/-- The records that a view is merged from. -/
theorem results_viewOf :
    (viewOf course listeners node window).results =
      Merge.merge [node.record :: remoteRecords node.id
        (FanOut.outcomesOf course window.deadline (request window) listeners)] byId
          window.limit := by
  refine Merge.merge_congr byId window.limit ?_
  rw [List.flatten_cons, List.flatten_singleton, List.singleton_append]
  exact congrArg _ (flatten_usableBatches node.id _)

theorem faithful_viewOf (about : ComesAbout course listeners window) (node : Node) :
    Faithful course listeners node window (viewOf course listeners node window) := by
  constructor
  case ordered => exact order_eq
  case written => exact node.toRecord_eq
  case complete => exact about.length_outcomesOf _
  case failures =>
    exact Aggregation.forall₂_failuresOf_of_usable
      (fun _ answered => ⟨_, usable_of_answers node.id answered⟩)
      (fun outcome => @usable_of_not_answers node.id outcome) _ _
  case merged =>
    rw [results_viewOf, Merge.merge_eq_take_withoutRepeats, List.flatten_singleton]
  case genuine =>
    intro record member sameId
    rw [results_viewOf] at member
    obtain ⟨batch, isBatch, inBatch⟩ := Merge.exists_batch_of_mem_merge byId member
    rw [List.mem_singleton.mp isBatch, List.mem_cons] at inBatch
    rcases inBatch with isOwn | isRemote
    · exact isOwn
    · have other := (List.mem_filter.mp isRemote).2
      exact absurd sameId (of_decide_eq_true other)

/-- A node that is alone views itself. -/
theorem viewOf_nil (course : FanOut.Course) (node : Node) (some : 0 < window.limit) :
    viewOf course [] node window = ⟨[node.record], []⟩ := by
  have results : (viewOf course [] node window).results = [node.record] := by
    rw [(faithful_viewOf (.inl rfl) node).merged, outcomesOf_nil]
    change (Merge.withoutRepeats byId [] ([node.record].mergeSort byId.atMost)).take _ = _
    rw [List.mergeSort_singleton]
    exact List.take_of_length_le some
  exact congrArg (Aggregation.mk · []) results

end ClusterQuery.ClusterView
