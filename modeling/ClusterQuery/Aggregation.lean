import ClusterQuery.Fetch.FanOut
import ClusterQuery.Json.Writer
import ClusterQuery.Merge
import ClusterQuery.Metrics.Basic
import ClusterQuery.Query.Filter
import ClusterQuery.Wire

/-!
# Aggregation

One query goes to every endpoint, and the answers become one bounded, ordered sequence. A peer
whose answer cannot be used is listed with its failure; the call fails only if there are
endpoints and none of them can be used. The filter is applied to every answer again, whatever
the peer did with it, and a single record of another kind spoils its peer's whole answer.
-/

namespace ClusterQuery

/-- The bounds of one call. -/
structure Window where
  /-- The time that all requests together may take. -/
  deadline : Time.Span
  /-- The greatest number of records returned. -/
  limit : Nat
deriving DecidableEq, Repr

/-- A peer that is left out of a result, and why. -/
structure PartialFailure where
  endpoint : Endpoint
  failure : FetchFailure
deriving DecidableEq, Repr

/-- The records of a call, and the peers left out of it. -/
structure Aggregation where
  results : List Record
  partialFailures : List PartialFailure

namespace Aggregation

def empty : Aggregation := ⟨[], []⟩

def failureDocument (entry : PartialFailure) : Json :=
  .object [("endpoint", entry.endpoint.document), ("error", .string entry.failure.message)]

def document (aggregation : Aggregation) : Json :=
  .object [("results", .array (aggregation.results.map Record.document)),
    ("partial_failures", .array (aggregation.partialFailures.map failureDocument))]

end Aggregation

/-- A request to peers together with what is done with their answers. -/
structure QueryPlan where
  request : FetchRequest
  order : SortOrder
  filter : Option Filter
deriving DecidableEq, Repr

/-- Why an aggregation as a whole fails. -/
inductive AggregationError where
  | query (error : QueryError)
  | allFailed (failures : List PartialFailure)
deriving Repr

/-- What an aggregation came to, and what happened on the way. -/
structure AggregationReport (ε : Type) where
  /-- None where the aggregation died with its fan-out. -/
  result? : Option (Except ε Aggregation)
  /-- The requests that were sent, in the order of the endpoints. -/
  requests : List (Endpoint × FetchRequest)
  elapsed : Time.Span
  updates : List MetricUpdate

namespace AggregationReport

variable {ε : Type}

/-- An aggregation that comes to a result without asking anyone. -/
def settled (result : Except ε Aggregation) : AggregationReport ε := ⟨some result, [], .zero, []⟩

/-- An aggregation whose fan-out died: nothing is counted. -/
def died (requests : List (Endpoint × FetchRequest)) : AggregationReport ε :=
  ⟨none, requests, .zero, []⟩

/-- What there is to show of the result; of an aggregation that died there is nothing. -/
def result (report : AggregationReport ε) : Except ε Aggregation := report.result?.getD (.ok .empty)

end AggregationReport

namespace QueryPlan

/-- Checks that order and filter were compiled for the kind that is asked for. -/
def validate (plan : QueryPlan) : Except QueryError Unit := do
  plan.order.path.checkKind plan.request.kind
  match plan.filter with
  | some filter => filter.path.checkKind plan.request.kind
  | none => return ()

/-- The records of an answer that the plan wants, if all are of the kind that was asked for. -/
def conforming (plan : QueryPlan) (records : List Record) : FetchOutcome :=
  match records.find? fun record => record.kind ≠ plan.request.kind with
  | some stray =>
      .error (.decoding
        ("peer returned a " ++ stray.kind.tag ++ " record for a " ++ plan.request.kind.tag ++
          " query"))
  | none =>
      match plan.filter with
      | some filter => .ok (records.filter filter.accepts)
      | none => .ok records

end QueryPlan

namespace Aggregation

/-- The peers that are left out, in the order of the endpoints. -/
def failuresOf : List Endpoint → List FetchOutcome → List PartialFailure
  | endpoint :: endpoints, outcome :: outcomes =>
      match outcome with
      | .error failure => ⟨endpoint, failure⟩ :: failuresOf endpoints outcomes
      | .ok _ => failuresOf endpoints outcomes
  | _, _ => []

/-- The batch that an outcome brings; an unusable one brings nothing. -/
def batchOf (outcome : FetchOutcome) : List Record :=
  match outcome with
  | .ok records => records
  | .error _ => []

/-- The counts of the requests of a fan-out that came in. -/
def fetchUpdates (kind : RecordKind) (received : List FetchOutcome) : List MetricUpdate :=
  received.map fun outcome => .increment .fetchRequests [kind.tag, outcome.label]

/-- The counts of one aggregation and of the peers left out of it. -/
def callUpdates (kind : RecordKind) (outcome : String) (failures : List PartialFailure) :
    List MetricUpdate :=
  .increment .aggregations [kind.tag, outcome] ::
    failures.map fun entry => .increment .partialFailures [kind.tag, entry.failure.label]

def outcomeName (failures : List PartialFailure) : String :=
  if failures.isEmpty then "success" else "partial"

/-- Merges the outcomes of a plan's request. -/
def assemble (endpoints : List Endpoint) (plan : QueryPlan) (limit : Nat)
    (outcomes : List FetchOutcome) : Except AggregationError Aggregation :=
  let usable := outcomes.map fun outcome => outcome.bind plan.conforming
  let failures := failuresOf endpoints usable
  if failures.length = endpoints.length then .error (.allFailed failures)
  else .ok ⟨Merge.merge (usable.map batchOf) plan.order limit, failures⟩

/-- The counts that the result of a call gives rise to. -/
def resultUpdates (kind : RecordKind) (result : Except AggregationError Aggregation) :
    List MetricUpdate :=
  match result with
  | .ok aggregation =>
      callUpdates kind (outcomeName aggregation.partialFailures) aggregation.partialFailures
  | .error (.allFailed failures) => callUpdates kind "failed" failures
  | .error (.query _) => []

/-- Runs a plan against listeners. No endpoints give an empty result and no request. -/
def runOn (course : FanOut.Course) (listeners : List Listener) (plan : QueryPlan)
    (window : Window) : AggregationReport AggregationError :=
  match plan.validate with
  | .error error => .settled (.error (.query error))
  | .ok () =>
      if listeners.isEmpty then .settled (.ok empty)
      else
        let run := FanOut.run course window.deadline plan.request listeners
        match run.report? with
        | none => .died run.requests
        | some report =>
            let endpoints := listeners.map Listener.endpoint
            let result := assemble endpoints plan window.limit report.outcomes
            { result? := some result
              requests := run.requests
              elapsed := report.elapsed
              updates := fetchUpdates plan.request.kind report.received ++
                resultUpdates plan.request.kind result }

/-- Runs a plan against every endpoint. -/
def run (peers : Peers) (endpoints : List Endpoint) (plan : QueryPlan) (window : Window)
    (course : FanOut.Course := {}) : AggregationReport AggregationError :=
  runOn course (peers.listeners endpoints) plan window

end Aggregation

/-- The wording of the failure of a whole aggregation. -/
def AggregationError.message : AggregationError → String
  | .query error => error.message
  | .allFailed failures => s!"aggregation failed: all {failures.length} endpoints failed"

end ClusterQuery
