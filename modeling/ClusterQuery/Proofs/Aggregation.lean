import ClusterQuery.Aggregation
import ClusterQuery.Proofs.FanOut.Course
import ClusterQuery.Proofs.Merge.Reference

/-!
# Where the records of an aggregation come from

Peers may answer with anything. What is done with an answer depends on the answer alone: it is used
if all its records are of the kind that was asked for, and then only those that pass the filter are.
A record of a result can be traced back through the merge to one answer that was used.
-/

namespace ClusterQuery

namespace QueryPlan

variable (plan : QueryPlan)

/-- A plan whose order and filter were compiled for the kind that is asked for is valid. -/
theorem validate_eq_ok (ordersKind : plan.order.path.kind = plan.request.kind)
    (filtersKind : ∀ filter ∈ plan.filter, filter.path.kind = plan.request.kind) :
    plan.validate = .ok () := by
  have order : plan.order.path.checkKind plan.request.kind = .ok () := if_pos ordersKind
  rw [validate, order]
  cases chosen : plan.filter with
  | none => rfl
  | some filter => exact if_pos (filtersKind filter chosen)

/-- Whether a record passes the plan's filter, if there is one. -/
def accepts (record : Record) : Bool := plan.filter.all fun filter => filter.accepts record

/-- An answer is used if all its records are of the right kind; those that pass the filter are
kept, in their order. -/
theorem conforming_eq_ok_iff {records kept : List Record} :
    plan.conforming records = .ok kept ↔
      (∀ record ∈ records, record.kind = plan.request.kind) ∧
        kept = records.filter plan.accepts := by
  simp only [conforming]
  cases stray : records.find? fun record => record.kind ≠ plan.request.kind with
  | some record =>
      have member := List.mem_of_find?_eq_some stray
      have wrong := List.find?_some stray
      simp only [reduceCtorEq, false_iff, not_and]
      intro allRight
      exact absurd (allRight record member) (of_decide_eq_true wrong)
  | none =>
      have allRight : ∀ record ∈ records, record.kind = plan.request.kind := by
        simpa using stray
      simp only [iff_true_intro allRight, true_and]
      cases chosen : plan.filter with
      | some filter =>
          have same : plan.accepts = filter.accepts := by
            funext record
            simp [accepts, chosen]
          simp only [Except.ok.injEq, same]
          exact eq_comm
      | none =>
          have all : records.filter plan.accepts = records := by
            simp [accepts, chosen]
          simp only [Except.ok.injEq, all]
          exact eq_comm

/-- The outcome of a request once its records have been looked at. -/
def usable (outcome : FetchOutcome) : FetchOutcome := outcome.bind plan.conforming

theorem usable_eq_ok_iff {outcome : FetchOutcome} {kept : List Record} :
    plan.usable outcome = .ok kept ↔
      ∃ records, outcome = .ok records ∧ (∀ record ∈ records, record.kind = plan.request.kind) ∧
        kept = records.filter plan.accepts := by
  cases outcome with
  | ok records =>
      simp only [Except.ok.injEq, exists_eq_left']
      exact plan.conforming_eq_ok_iff
  | error failure => simp [usable, Except.bind]

end QueryPlan

namespace Aggregation

/-- A peer is left out if and only if its outcome is an error, which is the one listed. -/
theorem mem_failuresOf_iff {endpoints : List Endpoint} {outcomes : List FetchOutcome}
    {entry : PartialFailure} :
    entry ∈ failuresOf endpoints outcomes ↔
      (entry.endpoint, .error entry.failure) ∈ endpoints.zip outcomes := by
  fun_induction failuresOf endpoints outcomes with
  | case1 endpoint endpoints outcomes failure ih =>
      obtain ⟨place, reason⟩ := entry
      simp [ih]
  | case2 endpoint endpoints outcomes records ih => simp [ih]
  | case3 endpoints outcomes neither =>
      have none : endpoints.zip outcomes = [] := by
        rw [List.zip_eq_nil_iff]
        cases endpoints with
        | nil => exact .inl rfl
        | cons endpoint endpoints =>
            cases outcomes with
            | nil => exact .inr rfl
            | cons outcome outcomes =>
                exact absurd rfl (neither endpoint endpoints outcome outcomes rfl)
      simp [none]

variable {peers : Peers} {endpoints : List Endpoint} {plan : QueryPlan} {window : Window}
variable {aggregation : Aggregation} {limit : Nat} {outcomes : List FetchOutcome}

theorem assemble_def (endpoints : List Endpoint) (plan : QueryPlan) (limit : Nat)
    (outcomes : List FetchOutcome) :
    assemble endpoints plan limit outcomes =
      if (failuresOf endpoints (outcomes.map plan.usable)).length = endpoints.length then
        .error (.allFailed (failuresOf endpoints (outcomes.map plan.usable)))
      else
        .ok ⟨Merge.merge ((outcomes.map plan.usable).map batchOf) plan.order limit,
          failuresOf endpoints (outcomes.map plan.usable)⟩ := rfl

/-- Outcomes come to a result if some are usable: the merge of those, and the peers of the rest. -/
theorem assemble_eq_ok_iff :
    assemble endpoints plan limit outcomes = .ok aggregation ↔
      (failuresOf endpoints (outcomes.map plan.usable)).length ≠ endpoints.length ∧
        aggregation =
          ⟨Merge.merge ((outcomes.map plan.usable).map batchOf) plan.order limit,
            failuresOf endpoints (outcomes.map plan.usable)⟩ := by
  rw [assemble_def]
  split
  next allFailed => simp [allFailed]
  next someUsable =>
    simp only [Except.ok.injEq, ne_eq, someUsable, not_false_iff, true_and]
    exact eq_comm

/-! ## Runs -/

section Runs

variable {course : FanOut.Course} {listeners : List Listener}

theorem runOn_of_invalid {error : QueryError} (invalid : plan.validate = .error error)
    (course : FanOut.Course) (listeners : List Listener) (window : Window) :
    runOn course listeners plan window = .settled (.error (.query error)) := by
  simp only [runOn, invalid]

theorem runOn_nil (course : FanOut.Course) (window : Window) (valid : plan.validate = .ok ()) :
    runOn course [] plan window = .settled (.ok empty) := by
  simp only [runOn, valid]
  rfl

/-- A run whose plan is valid asks every endpoint, if there is one, and the clock can name the
deadline. -/
theorem runOn_of_reaches (valid : plan.validate = .ok ()) (some : listeners ≠ [])
    (reaches : course.reaches window.deadline = true) :
    let conducts := FanOut.conductsOf plan.request listeners
    let report := FanOut.report window.deadline conducts (course.events window.deadline conducts)
    let result := assemble (listeners.map Listener.endpoint) plan window.limit
      (FanOut.outcomesOf course window.deadline plan.request listeners)
    runOn course listeners plan window =
      { result? := result
        requests := FanOut.requestsTo plan.request listeners
        elapsed := report.elapsed
        updates := fetchUpdates plan.request.kind report.received ++
          resultUpdates plan.request.kind result } := by
  have notEmpty : listeners.isEmpty = false := by simpa using some
  simp only [runOn, valid, notEmpty, FanOut.run_of_reaches reaches,
    FanOut.outcomesOf_of_reaches reaches]
  rfl

/-- A run dies if the clock cannot name the deadline. -/
theorem runOn_of_not_reaches (valid : plan.validate = .ok ()) (some : listeners ≠ [])
    (beyond : course.reaches window.deadline = false) :
    runOn course listeners plan window =
      .died (FanOut.run course window.deadline plan.request listeners).requests := by
  have notEmpty : listeners.isEmpty = false := by simpa using some
  simp only [runOn, valid, notEmpty, FanOut.report?_run_of_not_reaches beyond]
  rfl

/-- A run that comes to a result has checked its plan, and asked every endpoint if there is one. -/
theorem runOn_eq_ok
    (success : (runOn course listeners plan window).result? = some (.ok aggregation))
    (some : listeners ≠ []) :
    plan.validate = .ok () ∧ course.reaches window.deadline = true ∧
      assemble (listeners.map Listener.endpoint) plan window.limit
        (FanOut.outcomesOf course window.deadline plan.request listeners) = .ok aggregation ∧
      (runOn course listeners plan window).requests =
        FanOut.requestsTo plan.request listeners := by
  cases valid : plan.validate with
  | error error =>
      rw [runOn_of_invalid valid] at success
      cases success
  | ok checked =>
      cases reaches : course.reaches window.deadline with
      | false =>
          rw [runOn_of_not_reaches valid some reaches] at success
          cases success
      | true =>
          rw [runOn_of_reaches valid some reaches] at success ⊢
          exact ⟨rfl, rfl, Option.some.inj success, rfl⟩

/-- A valid plan's request goes to every endpoint, in their order, if the clock can name the
deadline. -/
theorem requests_runOn (listeners : List Listener) (valid : plan.validate = .ok ())
    (reaches : course.reaches window.deadline = true) :
    (runOn course listeners plan window).requests = FanOut.requestsTo plan.request listeners := by
  cases listeners with
  | nil => exact congrArg AggregationReport.requests (runOn_nil course window valid)
  | cons first rest =>
      exact congrArg AggregationReport.requests
        (runOn_of_reaches valid (List.cons_ne_nil first rest) reaches)

/-- A valid plan's request goes to no endpoint twice. -/
theorem sublist_requests_runOn (course : FanOut.Course) (listeners : List Listener)
    (window : Window) (valid : plan.validate = .ok ()) :
    (runOn course listeners plan window).requests.Sublist
      (FanOut.requestsTo plan.request listeners) := by
  cases reaches : course.reaches window.deadline with
  | true => rw [requests_runOn listeners valid reaches]
  | false =>
      cases listeners with
      | nil =>
          rw [runOn_nil course window valid]
          exact List.nil_sublist _
      | cons first rest =>
          rw [runOn_of_not_reaches valid (List.cons_ne_nil first rest) reaches]
          exact FanOut.sublist_requests_run course window.deadline plan.request (first :: rest)

/-- A valid plan does not fail for what it asks. -/
theorem result?_runOn_ne (course : FanOut.Course) (listeners : List Listener) (window : Window)
    (valid : plan.validate = .ok ()) (error : QueryError) :
    (runOn course listeners plan window).result? ≠ some (.error (.query error)) := by
  cases listeners with
  | nil =>
      rw [runOn_nil course window valid]
      exact nofun
  | cons first rest =>
      cases reaches : course.reaches window.deadline with
      | false =>
          rw [runOn_of_not_reaches valid (List.cons_ne_nil first rest) reaches]
          exact nofun
      | true =>
          rw [runOn_of_reaches valid (List.cons_ne_nil first rest) reaches]
          simp only [assemble]
          split <;> exact nofun

/-- An aggregation counts no resolution. -/
theorem not_mem_updates_runOn (course : FanOut.Course) (listeners : List Listener)
    (plan : QueryPlan) (window : Window) (labels : List String) :
    .increment .discoveryRequests labels ∉ (runOn course listeners plan window).updates := by
  have noResult (result : Except AggregationError Aggregation) :
      MetricUpdate.increment .discoveryRequests labels ∉
        resultUpdates plan.request.kind result := by
    unfold resultUpdates
    split <;> simp [callUpdates]
  rw [runOn]
  split
  next => exact List.not_mem_nil
  next =>
    split
    next => exact List.not_mem_nil
    next =>
      dsimp only
      split
      next => exact List.not_mem_nil
      next =>
        rw [List.mem_append, not_or]
        exact ⟨by simp [fetchUpdates], noResult _⟩

end Runs

/-! ## Runs against the peers at endpoints -/

section Peers

variable {course : FanOut.Course}

@[simp] theorem map_endpoint_listeners (peers : Peers) (endpoints : List Endpoint) :
    (peers.listeners endpoints).map Listener.endpoint = endpoints := by
  rw [Peers.listeners, List.map_map]
  exact List.map_id _

@[simp] theorem requestsTo_listeners (peers : Peers) (endpoints : List Endpoint)
    (request : FetchRequest) :
    FanOut.requestsTo request (peers.listeners endpoints) =
      endpoints.map fun endpoint => (endpoint, request) :=
  List.map_map

@[simp] theorem conductsOf_listeners (peers : Peers) (endpoints : List Endpoint)
    (request : FetchRequest) :
    FanOut.conductsOf request (peers.listeners endpoints) =
      endpoints.map fun endpoint => peers endpoint request :=
  List.map_map

theorem listeners_ne_nil (peers : Peers) (some : endpoints ≠ []) :
    peers.listeners endpoints ≠ [] := by
  simpa [Peers.listeners] using some

theorem forall₂_conductsOf_listeners {related : FetchOutcome → FetchOutcome → Prop}
    {others : Peers} {request : FetchRequest}
    (parallel : ∀ endpoint ∈ endpoints,
      (peers endpoint request).Parallel related (others endpoint request)) :
    List.Forall₂ (Conduct.Parallel related)
      (FanOut.conductsOf request (peers.listeners endpoints))
      (FanOut.conductsOf request (others.listeners endpoints)) := by
  rw [conductsOf_listeners, conductsOf_listeners, List.forall₂_map_left_iff,
    List.forall₂_map_right_iff, List.forall₂_same]
  exact parallel

/-- A run that comes to a result has checked its plan, and asked every endpoint if there is one. -/
theorem run_eq_ok
    (success : (run peers endpoints plan window course).result? = some (.ok aggregation))
    (some : endpoints ≠ []) :
    plan.validate = .ok () ∧ course.reaches window.deadline = true ∧
      assemble endpoints plan window.limit
        (FanOut.outcomesOf course window.deadline plan.request (peers.listeners endpoints)) =
          .ok aggregation ∧
      (run peers endpoints plan window course).requests =
        endpoints.map fun endpoint => (endpoint, plan.request) := by
  obtain ⟨valid, reaches, assembled, requests⟩ := runOn_eq_ok success (listeners_ne_nil peers some)
  rw [map_endpoint_listeners] at assembled
  rw [requestsTo_listeners] at requests
  exact ⟨valid, reaches, assembled, requests⟩

/-- Peers whose requests end together give the same result, if it does not tell outcomes apart that
are related as far as the plan uses them. -/
theorem result?_run_congr (related : FetchOutcome → FetchOutcome → Prop) {others : Peers}
    (failed : ∀ failure, related (.error failure) (.error failure))
    (indifferent : ∀ outcomes instead,
      List.Forall₂ related (outcomes.map plan.usable) (instead.map plan.usable) →
        assemble endpoints plan window.limit instead =
          assemble endpoints plan window.limit outcomes)
    (valid : plan.validate = .ok ())
    (parallel : course.reaches window.deadline = true → ∀ endpoint ∈ endpoints,
      (peers endpoint plan.request).Parallel
        (fun one other => related (plan.usable one) (plan.usable other))
        (others endpoint plan.request)) :
    (run others endpoints plan window course).result? =
      (run peers endpoints plan window course).result? := by
  let used (one other : FetchOutcome) : Prop := related (plan.usable one) (plan.usable other)
  have failedUsed : ∀ failure, used (.error failure) (.error failure) := failed
  cases endpoints with
  | nil => rfl
  | cons first rest =>
      have some (peers : Peers) : peers.listeners (first :: rest) ≠ [] :=
        listeners_ne_nil peers (List.cons_ne_nil first rest)
      cases reaches : course.reaches window.deadline with
      | false =>
          rw [run, run, runOn_of_not_reaches valid (some others) reaches,
            runOn_of_not_reaches valid (some peers) reaches]
          rfl
      | true =>
          have outcomes := FanOut.forall₂_outcomesOf_of_parallel failedUsed course window.deadline
            (forall₂_conductsOf_listeners (parallel reaches))
          rw [← List.forall₂_map_right_iff, ← List.forall₂_map_left_iff] at outcomes
          rw [run, run, runOn_of_reaches valid (some others) reaches,
            runOn_of_reaches valid (some peers) reaches]
          simp only [map_endpoint_listeners, indifferent _ _ outcomes]

end Peers

/-! ## Tracing a record back -/

section Tracing

variable {course : FanOut.Course} {deadline : Time.Span} {request : FetchRequest}

/-- A peer whose outcome is records answered with them by the deadline. -/
theorem answers_of_mem_zip_listeners (reaches : course.reaches deadline = true)
    {endpoint : Endpoint} {records : List Record}
    (member : (endpoint, .ok records) ∈
      endpoints.zip (FanOut.outcomesOf course deadline request (peers.listeners endpoints))) :
    ∃ after, after.nanos ≤ deadline.nanos ∧
      peers endpoint request = .answers after (.ok records) := by
  have sent : (⟨endpoint, peers endpoint⟩, .ok records) ∈ (peers.listeners endpoints).zip
      (FanOut.outcomesOf course deadline request (peers.listeners endpoints)) := by
    rw [Peers.listeners, List.zip_map_left]
    exact List.mem_map_of_mem (f := Prod.map _ id) member
  exact FanOut.answers_of_mem_zip reaches sent

theorem length_outcomesOf_listeners (reaches : course.reaches deadline = true) (peers : Peers)
    (endpoints : List Endpoint) (request : FetchRequest) :
    (FanOut.outcomesOf course deadline request (peers.listeners endpoints)).length =
      endpoints.length := by
  rw [FanOut.length_outcomesOf reaches, Peers.listeners, List.length_map]

end Tracing

/-- An endpoint that occurs once has one outcome. -/
theorem outcome_unique (distinct : endpoints.Nodup) (length : outcomes.length = endpoints.length)
    {endpoint : Endpoint} {one other : FetchOutcome}
    (oneMember : (endpoint, one) ∈ endpoints.zip outcomes)
    (otherMember : (endpoint, other) ∈ endpoints.zip outcomes) : one = other := by
  have keys : ((endpoints.zip outcomes).map Prod.fst).Nodup := by
    rw [List.map_fst_zip (Nat.le_of_eq length.symm)]
    exact distinct
  exact congrArg Prod.snd (List.inj_on_of_nodup_map keys oneMember otherMember rfl)

/-- A record of a batch comes from an endpoint whose outcome is that batch. -/
theorem exists_endpoint_of_mem_batch (length : outcomes.length = endpoints.length)
    {batch : List Record} (batchMember : batch ∈ outcomes.map batchOf) {record : Record}
    (member : record ∈ batch) :
    ∃ endpoint, (endpoint, Except.ok batch) ∈ endpoints.zip outcomes := by
  obtain ⟨outcome, outcomeMember, rfl⟩ := List.mem_map.mp batchMember
  cases outcome with
  | error failure => exact absurd member List.not_mem_nil
  | ok records =>
      have values : (endpoints.zip outcomes).map Prod.snd = outcomes :=
        List.map_snd_zip (Nat.le_of_eq length)
      rw [← values] at outcomeMember
      obtain ⟨⟨endpoint, _⟩, pair, rfl⟩ := List.mem_map.mp outcomeMember
      exact ⟨endpoint, pair⟩

/-- A peer delivered a record in answer to a request, by the deadline. -/
def Delivered (peers : Peers) (request : FetchRequest) (deadline : Time.Span)
    (endpoint : Endpoint) (record : Record) : Prop :=
  ∃ after records, after.nanos ≤ deadline.nanos ∧
    peers endpoint request = .answers after (.ok records) ∧ record ∈ records

/-- Every record of a result is of the right kind, passes the filter, and was delivered by an
endpoint that is not left out. -/
theorem delivered_of_assemble {course : FanOut.Course}
    (reaches : course.reaches window.deadline = true) (distinct : endpoints.Nodup)
    (success : assemble endpoints plan limit
      (FanOut.outcomesOf course window.deadline plan.request (peers.listeners endpoints)) =
        .ok aggregation)
    {record : Record} (member : record ∈ aggregation.results) :
    record.kind = plan.request.kind ∧ plan.accepts record = true ∧
      ∃ endpoint ∈ endpoints, (∀ entry ∈ aggregation.partialFailures, entry.endpoint ≠ endpoint) ∧
        Delivered peers plan.request window.deadline endpoint record := by
  obtain ⟨-, rfl⟩ := assemble_eq_ok_iff.mp success
  have length := length_outcomesOf_listeners reaches peers endpoints plan.request
  obtain ⟨kept, keptMember, inKept⟩ := Merge.exists_batch_of_mem_merge plan.order member
  obtain ⟨source, pair⟩ := exists_endpoint_of_mem_batch
    (by rw [List.length_map, length]) keptMember inKept
  -- The answer that the batch was taken from.
  have zipped := pair
  rw [List.zip_map_right] at pair
  obtain ⟨⟨endpoint, outcome⟩, asked, equal⟩ := List.mem_map.mp pair
  obtain ⟨rfl, used⟩ := Prod.mk.inj equal
  obtain ⟨records, rfl, ofKind, rfl⟩ := plan.usable_eq_ok_iff.mp used
  obtain ⟨inRecords, accepted⟩ := List.mem_filter.mp inKept
  obtain ⟨after, inTime, answered⟩ := answers_of_mem_zip_listeners reaches asked
  refine ⟨ofKind record inRecords, accepted, endpoint, (List.of_mem_zip asked).1, ?_, after,
    records, inTime, answered, inRecords⟩
  rintro entry left rfl
  have failed := outcome_unique distinct (by rw [List.length_map, length]) zipped
    (mem_failuresOf_iff.mp left)
  cases failed

end Aggregation

end ClusterQuery
