import ClusterQuery.Access
import ClusterQuery.ClusterView
import ClusterQuery.Settings.Basic

/-!
# Gateway

The entry point for callers. A query is checked and compiled first: its kind, the caller's
capability, its order, its filter. Only then is the service resolved, once, and each endpoint
asked, once. Everything outside the program that a call depends on is in its `Surroundings`; a
call is a function of the gateway and its surroundings, and its report says what it did. A call
dies with its fan-out: then its caller gets nothing, but what it did before is done.
-/

namespace ClusterQuery

/-- A query as a caller puts it. -/
structure RecordQuery where
  /-- The tag of a record kind. -/
  kind : String
  filter : Option String
  /-- The path of the field to order by. -/
  sort : Option String
  direction : Direction
  limit : Option Nat
  deadline : Option Time.Span
deriving DecidableEq, Repr

/-- Why a call fails. -/
inductive CallError where
  | record (error : RecordError)
  | query (error : QueryError)
  | directory (error : DirectoryError)
  | refused (refusal : Refusal)
  | allFailed (failures : List PartialFailure)

namespace CallError

def message : CallError → String
  | .record error => error.message
  | .query error => error.message
  | .directory error => error.message
  | .refused refusal => refusal.message
  | .allFailed failures => (AggregationError.allFailed failures).message

/-- The error of an aggregation as that of its call. -/
def ofAggregation : AggregationError → CallError
  | .query error => .query error
  | .allFailed failures => .allFailed failures

/-- The error of a view as that of its call. -/
def ofView : ClusterView.Error → CallError
  | .query error => .query error
  | .record error => .record error

end CallError

/-- What a call meets outside the program: the time, the answer of the control plane if it is
asked, the peers, and what carries out its fan-out. -/
structure Surroundings where
  now : Time.Span
  answer : LookupAnswer
  peers : Peers
  [executor : FanOut.Executor]

/-- The course of a fan-out in given surroundings. -/
def Surroundings.course (surroundings : Surroundings) : FanOut.Course :=
  { now := surroundings.now, executor := surroundings.executor }

/-- The entry point's settings and state. -/
structure Gateway where
  node : Node
  service : ServiceKey
  bounds : AggregationSettings
  freshness : Freshness
  directory : Directory
  metrics : Metrics

/-- What a call came to, and what it did. -/
structure CallReport where
  /-- None where the call died. -/
  result? : Option (Except CallError Aggregation)
  /-- The gateway afterwards. -/
  gateway : Gateway
  /-- Whether the control plane was asked. -/
  asked : Bool
  requests : List (Endpoint × FetchRequest)
  elapsed : Time.Span

/-- What there is to show of the result; of a call that died there is nothing. -/
def CallReport.result (report : CallReport) : Except CallError Aggregation :=
  report.result?.getD (.ok .empty)

namespace RecordQuery

/-- The order of a query: by the field it names, or by that of its kind. -/
def order (query : RecordQuery) (kind : RecordKind) : Except QueryError SortOrder := do
  let path ← FieldPath.compile (query.sort.getD kind.defaultSort) kind
  return ⟨path, query.direction⟩

/-- The compiled filter of a query, if it has one. -/
def compiledFilter (query : RecordQuery) (kind : RecordKind) :
    Except QueryError (Option Filter) :=
  match query.filter with
  | none => .ok none
  | some source => (Filter.compile source kind).map some

/-- The plan of a query for records of a kind. Peers get the filter in its canonical text. -/
def plan (query : RecordQuery) (kind : RecordKind) (window : Window) :
    Except QueryError QueryPlan := do
  let order ← query.order kind
  let filter ← query.compiledFilter kind
  let plan : QueryPlan := ⟨⟨kind, filter.map Filter.text, window.limit⟩, order, filter⟩
  plan.validate
  return plan

end RecordQuery

namespace Gateway

/-- A gateway that has not been called yet. -/
def new (node : Node) (service : ServiceKey) (bounds : AggregationSettings)
    (freshness : Freshness) (timeToLive : Time.Span) : Gateway :=
  ⟨node, service, bounds, freshness, .new timeToLive, .empty⟩

/-- A call that ends before anything outside the program is touched. -/
def stopped (gateway : Gateway) (error : CallError) : CallReport :=
  ⟨some (.error error), gateway, false, [], .zero⟩

/-- A call that ends because the caller lacks a capability. -/
def refuse (gateway : Gateway) (refusal : Refusal) : CallReport :=
  { gateway with
    metrics := gateway.metrics.increment .forbidden [refusal.capability.name] }.stopped
      (.refused refusal)

/-- Resolves the gateway's service. -/
def resolve (gateway : Gateway) (surroundings : Surroundings) : Resolution :=
  gateway.directory.resolve surroundings.now gateway.freshness gateway.service
    surroundings.answer

def afterResolution (gateway : Gateway) (resolution : Resolution) : Gateway :=
  { gateway with
    directory := resolution.directory
    metrics := gateway.metrics.applyAll resolution.updates }

/-- The report of a call whose endpoints were resolved and asked. -/
def concluded {ε : Type} (gateway : Gateway) (resolution : Resolution) (wrap : ε → CallError)
    (report : AggregationReport ε) : CallReport :=
  { result? := report.result?.map (Except.mapError wrap)
    gateway := { gateway with metrics := gateway.metrics.applyAll report.updates }
    asked := resolution.asked
    requests := report.requests
    elapsed := report.elapsed }

/-- Runs a plan against the resolved endpoints. -/
def runPlan (gateway : Gateway) (surroundings : Surroundings) (plan : QueryPlan)
    (window : Window) : CallReport :=
  let resolution := gateway.resolve surroundings
  let gateway := gateway.afterResolution resolution
  match resolution.result with
  | .error error => { gateway.stopped (.directory error) with asked := resolution.asked }
  | .ok endpoints =>
      gateway.concluded resolution .ofAggregation
        (Aggregation.run surroundings.peers endpoints plan window surroundings.course)

/-- Records of one kind from every peer, in one bounded, ordered sequence. -/
def records (gateway : Gateway) (surroundings : Surroundings) (caller : Caller)
    (query : RecordQuery) : CallReport :=
  match RecordKind.ofTag query.kind with
  | .error error => gateway.stopped (.record error)
  | .ok kind =>
      match caller.require (.ofKind kind) with
      | .error refusal => gateway.refuse refusal
      | .ok () =>
          let window := gateway.bounds.window query.limit query.deadline
          match query.plan kind window with
          | .error error => gateway.stopped (.query error)
          | .ok plan => gateway.runPlan surroundings plan window

/-- The endpoints to view; a service without any leaves the local node alone. -/
def viewEndpoints (result : Except DirectoryError (List Endpoint)) :
    Except DirectoryError (List Endpoint) :=
  match result with
  | .error (.notFound _) => .ok []
  | other => other

/-- The nodes of the cluster, the local node among them. -/
def clusterView (gateway : Gateway) (surroundings : Surroundings) (caller : Caller) :
    CallReport :=
  match caller.require .readClusterInfo with
  | .error refusal => gateway.refuse refusal
  | .ok () =>
      let resolution := gateway.resolve surroundings
      let gateway := gateway.afterResolution resolution
      match viewEndpoints resolution.result with
      | .error error => { gateway.stopped (.directory error) with asked := resolution.asked }
      | .ok endpoints =>
          gateway.concluded resolution .ofView
            (ClusterView.run surroundings.peers endpoints gateway.node
              (gateway.bounds.window none none) surroundings.course)

end Gateway

end ClusterQuery
