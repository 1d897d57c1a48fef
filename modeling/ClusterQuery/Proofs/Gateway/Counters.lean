import ClusterQuery.Proofs.Gateway.ClusterView
import ClusterQuery.Proofs.Metrics

/-!
# Counters and answers

Directory, aggregation and gateway count into the same metrics, each what it sees. The journal of a
run holds what the callers were told, and the counters can be read off from it: after every call,
they are what the calls up to then were told.
-/

namespace ClusterQuery

open Metrics

namespace Gateway

/-! ## What callers are told -/

/-- What a caller is told; nothing if the call dies. -/
abbrev Answer := Option (Except CallError Aggregation)

namespace Answer

/-- How an answer counts among the aggregations, if it does. -/
def outcome? : Answer → Option String
  | some (.ok ⟨_, []⟩) => some "success"
  | some (.ok ⟨_, _ :: _⟩) => some "partial"
  | some (.error (.allFailed _)) => some "failed"
  | some (.error _) => none
  | none => none

/-- The peers that an answer lists as left out. -/
def leftOut : Answer → List PartialFailure
  | some (.ok aggregation) => aggregation.partialFailures
  | some (.error (.allFailed failures)) => failures
  | some (.error _) => []
  | none => []

/-- The capability that a caller is refused for. -/
def refusedFor? : Answer → Option Capability
  | some (.error (.refused refusal)) => some refusal.capability
  | _ => none

end Answer

/-- One call of a run, with what it meets outside the program. -/
inductive Call where
  | records (surroundings : Surroundings) (caller : Caller) (query : RecordQuery)
  | view (surroundings : Surroundings) (caller : Caller)

namespace Call

/-- The kind of the records that are asked for, if there is such a kind. -/
def kind? : Call → Option RecordKind
  | .records _ _ query => RecordKind.ofTag? query.kind
  | .view _ _ => some .node

/-- Whether query and caller are in order. -/
def isAdmitted : Call → Bool
  | .records _ caller query =>
      match RecordKind.ofTag? query.kind with
      | none => false
      | some kind =>
          caller.allows (.ofKind kind) && (query.order kind).isOk &&
            (query.compiledFilter kind).isOk
  | .view _ caller => caller.allows .readClusterInfo

end Call

/-- A call, whether the control plane was asked for it, and what the caller was told. -/
structure Entry where
  call : Call
  asked : Bool
  answer : Answer

namespace Entry

/-- Whether a call for records of a kind ended in an aggregation with an outcome. -/
def endedIn (kind : RecordKind) (outcome : String) (entry : Entry) : Bool :=
  decide (entry.call.kind? = some kind) && decide (entry.answer.outcome? = some outcome)

/-- The peers left out of the answer to a call for records of a kind. -/
def leftOut (kind : RecordKind) (entry : Entry) : List PartialFailure :=
  if entry.call.kind? = some kind then entry.answer.leftOut else []

/-- Whether a caller was refused for a capability. -/
def refusedFor (capability : Capability) (entry : Entry) : Bool :=
  decide (entry.answer.refusedFor? = some capability)

end Entry

/-- What a call comes to and leaves behind. -/
def serve (gateway : Gateway) : Call → CallReport
  | .records surroundings caller query => gateway.records surroundings caller query
  | .view surroundings caller => gateway.clusterView surroundings caller

/-- What a call adds to the journal. -/
def entry (gateway : Gateway) (call : Call) : Entry :=
  ⟨call, (gateway.serve call).asked, (gateway.serve call).result?⟩

/-- The gateway after calls, one after the other. -/
def after (gateway : Gateway) : List Call → Gateway
  | [] => gateway
  | call :: calls => (gateway.serve call).gateway.after calls

/-- What calls, one after the other, were told. -/
def journal (gateway : Gateway) : List Call → List Entry
  | [] => []
  | call :: calls => gateway.entry call :: (gateway.serve call).gateway.journal calls

/-- The counters say what the callers in a journal were told. -/
structure Agrees (metrics : Metrics) (entries : List Entry) : Prop where
  /-- The calls that were admitted are those that were resolved, whatever that came to. -/
  resolutions : metrics.total .discoveryRequests (fun _ => true) =
    entries.countP fun entry => entry.call.isAdmitted
  /-- The control plane was asked unless a snapshot was used without asking. -/
  lookups : metrics.total .discoveryRequests (fun labels => labels ≠ ["cache_hit"]) =
    entries.countP fun entry => entry.asked
  aggregations : ∀ kind outcome, metrics.count .aggregations [kind.tag, outcome] =
    entries.countP (Entry.endedIn kind outcome)
  partialFailures : ∀ kind label, metrics.count .partialFailures [kind.tag, label] =
    (entries.flatMap (Entry.leftOut kind)).countP fun failed => failed.failure.label = label
  refusals : ∀ capability, metrics.count .forbidden [capability.name] =
    entries.countP (Entry.refusedFor capability)

/-- Updates count what one caller was told. -/
structure Recorded (entry : Entry) (updates : List MetricUpdate) : Prop where
  resolution : tally .discoveryRequests (fun _ => true) updates = entry.call.isAdmitted.toNat
  lookup : tally .discoveryRequests (fun labels => labels ≠ ["cache_hit"]) updates =
    entry.asked.toNat
  aggregation : ∀ kind outcome,
    tally .aggregations (fun labels => labels = [kind.tag, outcome]) updates =
      (entry.endedIn kind outcome).toNat
  partialFailures : ∀ kind label,
    tally .partialFailures (fun labels => labels = [kind.tag, label]) updates =
      (entry.leftOut kind).countP fun failed => failed.failure.label = label
  refusal : ∀ capability, tally .forbidden (fun labels => labels = [capability.name]) updates =
    (entry.refusedFor capability).toNat

variable {metrics : Metrics} {entries : List Entry} {entry : Entry} {updates : List MetricUpdate}

theorem agrees_empty : Agrees .empty [] := by
  constructor <;> intros <;> rfl

theorem countP_concat (chosen : Entry → Bool) (entries : List Entry) (entry : Entry) :
    (entries ++ [entry]).countP chosen = entries.countP chosen + (chosen entry).toNat := by
  rw [List.countP_append, List.countP_singleton]
  cases chosen entry <;> rfl

/-- Counters that agree with a journal do so after one more call. -/
theorem Agrees.concat (agrees : Agrees metrics entries) (recorded : Recorded entry updates) :
    Agrees (metrics.applyAll updates) (entries ++ [entry]) := by
  constructor
  case resolutions =>
    rw [total_applyAll, agrees.resolutions, recorded.resolution, countP_concat]
  case lookups =>
    rw [total_applyAll, agrees.lookups, recorded.lookup, countP_concat]
  case aggregations =>
    intro kind outcome
    rw [count_applyAll_eq_tally, agrees.aggregations, recorded.aggregation, countP_concat]
  case partialFailures =>
    intro kind label
    rw [count_applyAll_eq_tally, agrees.partialFailures, recorded.partialFailures,
      List.flatMap_append, List.flatMap_singleton, List.countP_append]
  case refusals =>
    intro capability
    rw [count_applyAll_eq_tally, agrees.refusals, recorded.refusal, countP_concat]

/-! ## What an answer counts -/

end Gateway

namespace Aggregation

variable {counter : Counter} {chosen : List String → Bool} {kind : RecordKind}

theorem tally_fetchUpdates (other : counter ≠ .fetchRequests) (received : List FetchOutcome) :
    tally counter chosen (fetchUpdates kind received) = 0 := by
  apply tally_eq_zero
  simp [fetchUpdates, other.symm]

theorem tally_aggregations_callUpdates (outcome : String) (failures : List PartialFailure) :
    tally .aggregations chosen (callUpdates kind outcome failures) =
      (chosen [kind.tag, outcome]).toNat := by
  have entries : tally .aggregations chosen (failures.map fun entry =>
      .increment .partialFailures [kind.tag, entry.failure.label]) = 0 := by
    apply tally_eq_zero
    simp
  rw [callUpdates, tally_cons, entries, Nat.zero_add]
  rfl

theorem tally_partialFailures_callUpdates (outcome : String) (failures : List PartialFailure) :
    tally .partialFailures chosen (callUpdates kind outcome failures) =
      failures.countP fun entry => chosen [kind.tag, entry.failure.label] := by
  rw [callUpdates, tally_cons, tally, List.countP_map]
  rfl

theorem tally_callUpdates (notAggregations : counter ≠ .aggregations)
    (notFailures : counter ≠ .partialFailures) (outcome : String)
    (failures : List PartialFailure) :
    tally counter chosen (callUpdates kind outcome failures) = 0 := by
  apply tally_eq_zero
  simp [callUpdates, notAggregations, notFailures.symm]

end Aggregation

theorem RecordKind.tag_inj {kind other : RecordKind} : other.tag = kind.tag ↔ other = kind := by
  cases kind <;> cases other <;> decide

theorem Capability.name_inj {capability other : Capability} :
    other.name = capability.name ↔ other = capability := by
  cases capability <;> cases other <;> decide

namespace Gateway

namespace Answer

/-- The updates with which an answer counts as an aggregation of records of a kind. -/
def counts (kind : RecordKind) (answer : Answer) : List MetricUpdate :=
  match answer.outcome? with
  | some outcome => Aggregation.callUpdates kind outcome answer.leftOut
  | none => []

theorem outcome?_ok (aggregation : Aggregation) :
    Answer.outcome? (some (.ok aggregation)) =
      some (Aggregation.outcomeName aggregation.partialFailures) := by
  obtain ⟨results, failures⟩ := aggregation
  cases failures <;> rfl

theorem leftOut_of_uncounted {answer : Answer} (uncounted : answer.outcome? = none) :
    answer.leftOut = [] := by
  cases answer with
  | none => rfl
  | some result =>
      cases result with
      | ok aggregation =>
          rw [outcome?_ok] at uncounted
          cases uncounted
      | error error =>
          cases error with
          | allFailed failures => cases uncounted
          | record | query | directory | refused => rfl

/-- An aggregation counts what its caller is told. -/
theorem counts_ofAggregation (kind : RecordKind) (result : Except AggregationError Aggregation) :
    counts kind (some (result.mapError .ofAggregation)) =
      Aggregation.resultUpdates kind result := by
  cases result with
  | ok aggregation =>
      change counts kind (some (.ok aggregation)) = _
      rw [counts, outcome?_ok]
      rfl
  | error failure => cases failure <;> rfl

variable (answer : Answer) (kind other : RecordKind)

theorem tally_aggregations_counts (outcome : String) :
    tally .aggregations (fun labels => labels = [kind.tag, outcome]) (answer.counts other) =
      (decide (other = kind) && decide (answer.outcome? = some outcome)).toNat := by
  rw [counts]
  cases answer.outcome? with
  | none => simp
  | some own => simp [Aggregation.tally_aggregations_callUpdates, RecordKind.tag_inj]

theorem tally_partialFailures_counts (label : String) :
    tally .partialFailures (fun labels => labels = [kind.tag, label]) (answer.counts other) =
      (if other = kind then answer.leftOut else []).countP fun failed =>
        failed.failure.label = label := by
  rw [counts]
  cases counted : answer.outcome? with
  | none => simp [leftOut_of_uncounted counted]
  | some own =>
      rw [Aggregation.tally_partialFailures_callUpdates]
      by_cases same : other = kind
      · simp [same]
      · simp [same, RecordKind.tag_inj]

theorem tally_counts {counter : Counter} {chosen : List String → Bool}
    (notAggregations : counter ≠ .aggregations) (notFailures : counter ≠ .partialFailures) :
    tally counter chosen (answer.counts kind) = 0 := by
  rw [counts]
  cases answer.outcome? with
  | none => rfl
  | some own => exact Aggregation.tally_callUpdates notAggregations notFailures _ _

end Answer

/-! ## One call -/

/-- The metrics after a call are updated with what the caller was told. -/
def Counts (gateway : Gateway) (call : Call) (report : CallReport) : Prop :=
  ∃ updates, report.gateway.metrics = gateway.metrics.applyAll updates ∧
    Recorded ⟨call, report.asked, report.result?⟩ updates

variable {gateway : Gateway} {surroundings : Surroundings} {caller : Caller} {query : RecordQuery}
variable {call : Call} {kind : RecordKind}

theorem recorded_nil {error : CallError} (notAdmitted : call.isAdmitted = false)
    (notRefused : Answer.refusedFor? (some (.error error)) = none)
    (uncounted : Answer.outcome? (some (.error error)) = none) :
    Recorded ⟨call, false, some (.error error)⟩ [] := by
  constructor
  case resolution => simp [notAdmitted]
  case lookup => rfl
  case aggregation => simp [Entry.endedIn, uncounted]
  case partialFailures => simp [Entry.leftOut, Answer.leftOut_of_uncounted uncounted]
  case refusal => simp [Entry.refusedFor, notRefused]

theorem recorded_refusal (notAdmitted : call.isAdmitted = false) (refusal : Refusal) :
    Recorded ⟨call, false, some (.error (.refused refusal))⟩
      [.increment .forbidden [refusal.capability.name]] := by
  constructor
  case resolution => simp [notAdmitted, tally_cons, MetricUpdate.increments]
  case lookup => rfl
  case aggregation =>
    simp [Entry.endedIn, Answer.outcome?, tally_cons, MetricUpdate.increments]
  case partialFailures =>
    simp [Entry.leftOut, Answer.leftOut, tally_cons, MetricUpdate.increments]
  case refusal =>
    simp [Entry.refusedFor, Answer.refusedFor?, tally_cons, MetricUpdate.increments,
      Capability.name_inj]

/-- A call that is turned away counts nothing but a refusal. -/
theorem counts_turnAway {error : CallError} (notAdmitted : call.isAdmitted = false)
    (uncounted : Answer.outcome? (some (.error error)) = none) :
    Counts gateway call (gateway.turnAway error) := by
  cases error with
  | refused refusal => exact ⟨_, rfl, recorded_refusal notAdmitted refusal⟩
  | allFailed failures => cases uncounted
  | record | query | directory => exact ⟨[], rfl, recorded_nil notAdmitted rfl rfl⟩

/-- A call that is resolved counts the resolution and what the caller was told. -/
theorem recorded_of_resolution {outcome : String} {resolution : Resolution} {answer : Answer}
    (counted : Directory.CountedAs outcome resolution) (admitted : call.isAdmitted = true)
    (ofKind : call.kind? = some kind) (notRefused : answer.refusedFor? = none)
    (received : List FetchOutcome) :
    Recorded ⟨call, resolution.asked, answer⟩
      (resolution.updates ++ (Aggregation.fetchUpdates kind received ++ answer.counts kind)) := by
  obtain ⟨⟨others, updates, noOthers⟩, asked⟩ := counted
  have inAll {counter : Counter} {chosen : List String → Bool}
      (other : counter ≠ .fetchRequests) :
      tally counter chosen
          (resolution.updates ++
            (Aggregation.fetchUpdates kind received ++ answer.counts kind)) =
        (decide (.discoveryRequests = counter) && chosen [outcome]).toNat +
          tally counter chosen (answer.counts kind) := by
    rw [tally_append, tally_append, Aggregation.tally_fetchUpdates other, Nat.zero_add, updates,
      tally_cons, tally_eq_zero (noOthers counter), Nat.zero_add]
    rfl
  constructor
  case resolution =>
    rw [inAll (by decide), answer.tally_counts kind (by decide) (by decide), admitted]
    rfl
  case lookup =>
    rw [inAll (by decide), answer.tally_counts kind (by decide) (by decide), asked]
    simp
  case aggregation =>
    intro other name
    rw [inAll (by decide), answer.tally_aggregations_counts]
    simp [Entry.endedIn, ofKind]
  case partialFailures =>
    intro other label
    rw [inAll (by decide), answer.tally_partialFailures_counts]
    simp [Entry.leftOut, ofKind]
  case refusal =>
    intro capability
    rw [inAll (by decide), answer.tally_counts kind (by decide) (by decide)]
    simp [Entry.refusedFor, notRefused]

/-- A call without endpoints to ask counts the resolution alone. -/
theorem counts_unresolved {outcome : String} {resolution : Resolution} {error : DirectoryError}
    (counted : Directory.CountedAs outcome resolution) (admitted : call.isAdmitted = true)
    (ofKind : call.kind? = some kind) :
    Counts gateway call { (gateway.afterResolution resolution).stopped (.directory error) with
      asked := resolution.asked } := by
  refine ⟨_, ?_, recorded_of_resolution counted admitted ofKind rfl []⟩
  exact congrArg gateway.metrics.applyAll (List.append_nil resolution.updates).symm

/-- A call that asks endpoints counts their answers and its own as well. -/
theorem counts_concluded {ε : Type} {wrap : ε → CallError} {report : AggregationReport ε}
    {outcome : String} {resolution : Resolution}
    (counted : Directory.CountedAs outcome resolution) (admitted : call.isAdmitted = true)
    (ofKind : call.kind? = some kind)
    (notRefused : Answer.refusedFor? (report.result?.map (Except.mapError wrap)) = none)
    (updates : ∃ received, report.updates = Aggregation.fetchUpdates kind received ++
      Answer.counts kind (report.result?.map (Except.mapError wrap))) :
    Counts gateway call
      ((gateway.afterResolution resolution).concluded resolution wrap report) := by
  obtain ⟨received, updates⟩ := updates
  refine ⟨_, ?_, recorded_of_resolution counted admitted ofKind notRefused received⟩
  rw [applyAll_append, ← updates]
  rfl

/-- What an aggregation of endpoints counts is what its caller is told. -/
theorem exists_updates_run {plan : QueryPlan} (valid : plan.validate = .ok ())
    {endpoints : List Endpoint} (some : endpoints ≠ []) (peers : Peers) (window : Window)
    (course : FanOut.Course) :
    let report := Aggregation.run peers endpoints plan window course
    ∃ received, report.updates = Aggregation.fetchUpdates plan.request.kind received ++
      Answer.counts plan.request.kind
        (report.result?.map (Except.mapError CallError.ofAggregation)) := by
  intro report
  have someListeners := Aggregation.listeners_ne_nil peers some
  cases reaches : course.reaches window.deadline with
  | false =>
      rw [show report = _ from Aggregation.runOn_of_not_reaches valid someListeners reaches]
      exact ⟨[], rfl⟩
  | true =>
      rw [show report = _ from Aggregation.runOn_of_reaches valid someListeners reaches,
        Option.map_some, Answer.counts_ofAggregation]
      exact ⟨_, rfl⟩

/-- No aggregation refuses its caller. -/
theorem refusedFor?_ofAggregation (result? : Option (Except AggregationError Aggregation)) :
    Answer.refusedFor? (result?.map (Except.mapError CallError.ofAggregation)) = none := by
  rcases result? with _ | (_ | _) | _ <;> rfl

/-- What a view counts is what its caller is told. -/
theorem exists_updates_view (course : FanOut.Course) (listeners : List Listener) (node : Node)
    (window : Window) :
    let report := ClusterView.runOn course listeners node window
    ∃ received, report.updates = Aggregation.fetchUpdates .node received ++
      Answer.counts .node (report.result?.map (Except.mapError CallError.ofView)) := by
  intro report
  by_cases some : listeners = []
  · subst some
    rw [show report = _ from ClusterView.runOn_nil course node window, Option.map_some,
      Except.mapError, Answer.counts, Answer.outcome?_ok]
    exact ⟨[], rfl⟩
  cases reaches : course.reaches window.deadline with
  | false =>
      rw [show report = _ from ClusterView.runOn_of_not_reaches reaches some node]
      exact ⟨[], rfl⟩
  | true =>
      rw [show report = _ from ClusterView.runOn_of_reaches reaches some node, Option.map_some,
        Except.mapError, Answer.counts, Answer.outcome?_ok]
      exact ⟨_, rfl⟩

theorem ofTag?_eq_some (known : kind.tag = query.kind) :
    RecordKind.ofTag? query.kind = some kind := by
  rw [← known]
  cases kind <;> rfl

theorem isAdmitted_of_turnedAway {error : CallError} (away : query.TurnedAway caller error)
    (surroundings : Surroundings) :
    (Call.records surroundings caller query).isAdmitted = false := by
  cases away with
  | unknown unknown => rw [Call.isAdmitted, RecordKind.ofTag?_eq_none unknown]
  | refused known lacks => simp [Call.isAdmitted, ofTag?_eq_some known, Caller.allows, lacks]
  | @order kind error known allowed wrong =>
      have noOrder : (query.order kind).isOk = false := by
        rw [RecordQuery.order_eq, wrong]
        rfl
      simp [Call.isAdmitted, ofTag?_eq_some known, noOrder]
  | @filter kind path source error known allowed ordered given wrong =>
      have noFilter : (query.compiledFilter kind).isOk = false := by
        rw [RecordQuery.compiledFilter, given]
        simp only [wrong]
        rfl
      simp [Call.isAdmitted, ofTag?_eq_some known, noFilter]

theorem isAdmitted_of_admitted {order : SortOrder} {filter : Option Filter}
    (admitted : query.Admitted caller kind order filter) (surroundings : Surroundings) :
    (Call.records surroundings caller query).isAdmitted = true := by
  have ordered : (query.order kind).isOk = true := by
    rw [admitted.ordered]
    rfl
  have filtered : (query.compiledFilter kind).isOk = true := by
    rw [admitted.filtered]
    rfl
  simp [Call.isAdmitted, ofTag?_eq_some admitted.known, Caller.allows, admitted.allowed, ordered,
    filtered]

/-- A query is counted as its caller is told. -/
theorem counts_records (reachable : gateway.directory.Reachable) (surroundings : Surroundings)
    (caller : Caller) (query : RecordQuery) :
    Counts gateway (.records surroundings caller query)
      (gateway.records surroundings caller query) := by
  obtain ⟨error, away⟩ | ⟨kind, order, filter, admitted⟩ := query.turnedAway_or_admitted caller
  · rw [records_of_turnedAway away]
    apply counts_turnAway (isAdmitted_of_turnedAway away surroundings)
    cases away <;> rfl
  · obtain ⟨outcome, counted⟩ := gateway.directory.exists_countedAs_resolve surroundings.now
      gateway.freshness gateway.service surroundings.answer
    have passes := isAdmitted_of_admitted admitted surroundings
    have ofKind : (Call.records surroundings caller query).kind? = some kind :=
      ofTag?_eq_some admitted.known
    rw [records_of_admitted admitted]
    cases resolved : (gateway.resolve surroundings).result with
    | error error =>
        rw [runPlan_of_error resolved]
        exact counts_unresolved counted passes ofKind
    | ok endpoints =>
        let window := gateway.bounds.window query.limit query.deadline
        rw [runPlan_of_ok resolved]
        apply counts_concluded counted passes ofKind (refusedFor?_ofAggregation _)
        exact exists_updates_run (admitted.validate_planOf window.limit)
          (reachable.proper_resolve resolved).1 surroundings.peers window surroundings.course

/-- A view is counted as its caller is told. -/
theorem counts_clusterView (gateway : Gateway) (surroundings : Surroundings) (caller : Caller) :
    Counts gateway (.view surroundings caller) (gateway.clusterView surroundings caller) := by
  by_cases allowed : .readClusterInfo ∈ caller.capabilities
  · obtain ⟨outcome, counted⟩ := gateway.directory.exists_countedAs_resolve surroundings.now
      gateway.freshness gateway.service surroundings.answer
    have passes : (Call.view surroundings caller).isAdmitted = true := decide_eq_true allowed
    cases resolved : viewEndpoints (gateway.resolve surroundings).result with
    | error error =>
        rw [clusterView_of_error allowed resolved]
        exact counts_unresolved counted passes rfl
    | ok endpoints =>
        rw [clusterView_of_ok allowed resolved]
        apply counts_concluded counted passes rfl
        · by_cases viewable : gateway.Viewable surroundings endpoints
          · rw [ClusterView.result?_runOn viewable]
            rfl
          · rw [ClusterView.result?_runOn_of_not viewable]
            rfl
        · exact exists_updates_view ..
  · have lacks : (Call.view surroundings caller).isAdmitted = false := decide_eq_false allowed
    rw [clusterView_of_refused allowed]
    exact @counts_turnAway gateway _ (.refused ⟨caller.principal, .readClusterInfo⟩) lacks rfl

/-! ## Runs of calls -/

theorem counts_serve (reachable : gateway.directory.Reachable) (call : Call) :
    Counts gateway call (gateway.serve call) := by
  cases call with
  | records surroundings caller query => exact counts_records reachable surroundings caller query
  | view surroundings caller => exact gateway.counts_clusterView surroundings caller

/-- A call leaves a reachable directory behind. -/
theorem reachable_serve (reachable : gateway.directory.Reachable) (call : Call) :
    (gateway.serve call).gateway.directory.Reachable := by
  cases call with
  | records surroundings caller query =>
      change (gateway.records surroundings caller query).gateway.directory.Reachable
      obtain ⟨error, away⟩ | ⟨kind, order, filter, admitted⟩ := query.turnedAway_or_admitted caller
      · rw [(untouched_of_turnedAway away surroundings).unchanged]
        exact reachable
      · rw [records_of_admitted admitted,
          (carried_runPlan (admitted.validate_planOf _) _).directory]
        exact reachable.resolve _ _ _ _
  | view surroundings caller =>
      change (gateway.clusterView surroundings caller).gateway.directory.Reachable
      by_cases allowed : .readClusterInfo ∈ caller.capabilities
      · cases resolved : viewEndpoints (gateway.resolve surroundings).result with
        | error error =>
            rw [clusterView_of_error allowed resolved]
            exact reachable.resolve _ _ _ _
        | ok endpoints =>
            rw [clusterView_of_ok allowed resolved]
            exact reachable.resolve _ _ _ _
      · rw [clusterView_of_refused allowed]
        exact reachable

/-- Counters that agree with what was told before agree with the journal of a run after it. -/
theorem agrees_after {told : List Entry} (reachable : gateway.directory.Reachable)
    (agrees : Agrees gateway.metrics told) (calls : List Call) :
    Agrees (gateway.after calls).metrics (told ++ gateway.journal calls) := by
  induction calls generalizing gateway told with
  | nil => rwa [journal, List.append_nil]
  | cons call calls ih =>
      obtain ⟨updates, equal, recorded⟩ := counts_serve reachable call
      have next := agrees.concat recorded
      rw [← equal] at next
      have rest := ih (reachable_serve reachable call) next
      rwa [List.append_assoc] at rest

/-- After every call of a run that begins with new metrics, the counters say what the callers were
told up to then. A call that died told nothing: only its resolution is counted. -/
theorem counters_of_journal (node : Node) (service : ServiceKey) (bounds : AggregationSettings)
    (freshness : Freshness) (timeToLive : Time.Span) (calls : List Call) :
    let gateway := Gateway.new node service bounds freshness timeToLive
    Agrees (gateway.after calls).metrics (gateway.journal calls) := by
  intro gateway
  have reachable : gateway.directory.Reachable := .new timeToLive
  have nothing : Agrees gateway.metrics [] := agrees_empty
  exact agrees_after reachable nothing calls

/-- A refusal, a query of which one peer out of two hangs, and a view from the snapshot: two of
three calls were resolved, and one of them asked the control plane. -/
example :
    let gateway : Gateway :=
      .new ⟨"n", ⟨"n", 3⟩, .up, .empty⟩ ⟨"space", "service"⟩ {} .allowCached (.ofSeconds 9)
    let surroundings : Surroundings :=
      { now := .zero
        answer := .ok [⟨"a", 1⟩, ⟨"b", 2⟩]
        peers := fun endpoint _ =>
          if endpoint.host = "a" then .answers .zero (.ok []) else .hangs }
    let logs : RecordQuery := ⟨"log", none, none, .ascending, none, none⟩
    let metrics := (gateway.after [.records surroundings ⟨"guest", []⟩ logs,
      .records surroundings (.trusted "me") logs, .view surroundings (.trusted "me")]).metrics
    metrics.total .discoveryRequests (fun _ => true) = 2 ∧
      metrics.total .discoveryRequests (fun labels => labels ≠ ["cache_hit"]) = 1 ∧
      metrics.count .aggregations ["log", "partial"] = 1 ∧
      metrics.count .partialFailures ["log", "timeout"] = 1 ∧
      metrics.count .forbidden ["read_logs"] = 1 := by
  decide +kernel

end Gateway

end ClusterQuery
