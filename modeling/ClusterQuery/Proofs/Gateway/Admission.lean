import ClusterQuery.Proofs.Aggregation.Accounting
import ClusterQuery.Proofs.Gateway
import ClusterQuery.Proofs.Query.CanonicalText

/-!
# Admission of queries

A query is looked at before anything outside the program is: its kind, the caller's capability, its
order and its filter, in that order. The first of them that is wrong decides the answer, and then
the call has done nothing else but count a refusal. A query that gets through resolves the service
once and sends each endpoint one request.
-/

namespace ClusterQuery

/-! ## The checks -/

namespace RecordKind

theorem ofTag_eq_ok_iff {tag : String} {kind : RecordKind} :
    ofTag tag = .ok kind ↔ kind.tag = tag := by
  constructor
  · intro known
    cases found : ofTag? tag with
    | none =>
        rw [ofTag, found] at known
        cases known
    | some other =>
        rw [ofTag, found] at known
        cases known
        rw [ofTag?] at found
        have same := List.find?_some found
        exact beq_iff_eq.mp same
  · rintro rfl
    cases kind <;> rfl

theorem ofTag?_eq_none {tag : String} (unknown : ∀ kind : RecordKind, kind.tag ≠ tag) :
    ofTag? tag = none :=
  List.find?_eq_none.mpr fun kind _ => mt beq_iff_eq.mp (unknown kind)

theorem ofTag_eq_error {tag : String} (unknown : ∀ kind : RecordKind, kind.tag ≠ tag) :
    ofTag tag = .error (.unknownKind tag) := by
  rw [ofTag, ofTag?_eq_none unknown]

end RecordKind

theorem Caller.require_of_mem {caller : Caller} {capability : Capability}
    (allowed : capability ∈ caller.capabilities) : caller.require capability = .ok () :=
  if_pos (decide_eq_true allowed)

theorem Caller.require_of_not_mem {caller : Caller} {capability : Capability}
    (lacks : capability ∉ caller.capabilities) :
    caller.require capability = .error ⟨caller.principal, capability⟩ :=
  if_neg (mt of_decide_eq_true lacks)

theorem Filter.kind_of_compile {source : String} {kind : RecordKind} {filter : Filter}
    (success : compile source kind = .ok filter) : filter.path.kind = kind := by
  obtain ⟨path, _, _, _, compiled, _⟩ := of_compile_eq_ok success
  obtain ⟨_, _, isKind, _⟩ := FieldPath.of_compile_eq_ok compiled
  exact isKind

namespace RecordQuery

/-- A query is turned away with an error: by the first check that it fails. -/
inductive TurnedAway (query : RecordQuery) (caller : Caller) : CallError → Prop where
  /-- No kind has the tag. -/
  | unknown (unknown : ∀ kind : RecordKind, kind.tag ≠ query.kind) :
      TurnedAway query caller (.record (.unknownKind query.kind))
  /-- The caller lacks the capability of the kind. -/
  | refused {kind : RecordKind} (known : kind.tag = query.kind)
      (lacks : Capability.ofKind kind ∉ caller.capabilities) :
      TurnedAway query caller (.refused ⟨caller.principal, .ofKind kind⟩)
  /-- The path to order by, the given one or else that of the kind, does not compile. -/
  | order {kind : RecordKind} {error : QueryError} (known : kind.tag = query.kind)
      (allowed : Capability.ofKind kind ∈ caller.capabilities)
      (wrong : FieldPath.compile (query.sort.getD kind.defaultSort) kind = .error error) :
      TurnedAway query caller (.query error)
  /-- There is a filter, and it does not compile. -/
  | filter {kind : RecordKind} {path : FieldPath} {source : String} {error : QueryError}
      (known : kind.tag = query.kind)
      (allowed : Capability.ofKind kind ∈ caller.capabilities)
      (ordered : FieldPath.compile (query.sort.getD kind.defaultSort) kind = .ok path)
      (given : query.filter = some source) (wrong : Filter.compile source kind = .error error) :
      TurnedAway query caller (.query error)

/-- What an admitted query stands for. -/
structure Admitted (query : RecordQuery) (caller : Caller) (kind : RecordKind) (order : SortOrder)
    (filter : Option Filter) : Prop where
  known : kind.tag = query.kind
  allowed : Capability.ofKind kind ∈ caller.capabilities
  ordered : query.order kind = .ok order
  filtered : query.compiledFilter kind = .ok filter

variable {query : RecordQuery} {caller : Caller} {kind : RecordKind} {order : SortOrder}
variable {filter : Option Filter} {error : CallError}

theorem order_eq (query : RecordQuery) (kind : RecordKind) :
    query.order kind =
      (FieldPath.compile (query.sort.getD kind.defaultSort) kind).map
        (⟨·, query.direction⟩) := by
  rw [RecordQuery.order]
  cases FieldPath.compile (query.sort.getD kind.defaultSort) kind <;> rfl

/-- A query is turned away or admitted. -/
theorem turnedAway_or_admitted (query : RecordQuery) (caller : Caller) :
    (∃ error, query.TurnedAway caller error) ∨
      ∃ kind order filter, query.Admitted caller kind order filter := by
  by_cases known : ∃ kind : RecordKind, kind.tag = query.kind
  case neg => exact .inl ⟨_, .unknown (not_exists.mp known)⟩
  obtain ⟨kind, known⟩ := known
  by_cases allowed : Capability.ofKind kind ∈ caller.capabilities
  case neg => exact .inl ⟨_, .refused known allowed⟩
  cases ordered : FieldPath.compile (query.sort.getD kind.defaultSort) kind with
  | error error => exact .inl ⟨_, .order known allowed ordered⟩
  | ok path =>
      have isOrder : query.order kind = .ok ⟨path, query.direction⟩ := by
        rw [order_eq, ordered, Except.map]
      cases given : query.filter with
      | none =>
          exact .inr ⟨kind, _, none, known, allowed, isOrder, by rw [compiledFilter, given]⟩
      | some source =>
          cases compiled : Filter.compile source kind with
          | error error => exact .inl ⟨_, .filter known allowed ordered given compiled⟩
          | ok filter =>
              refine .inr ⟨kind, _, some filter, known, allowed, isOrder, ?_⟩
              rw [compiledFilter, given]
              exact congrArg (Except.map some) compiled

/-- The filter of an admitted query was compiled for its kind. -/
theorem Admitted.exists_source {filter : Filter}
    (admitted : query.Admitted caller kind order (some filter)) :
    ∃ source, query.filter = some source ∧ Filter.compile source kind = .ok filter := by
  have filtered := admitted.filtered
  rw [compiledFilter] at filtered
  split at filtered
  next => cases filtered
  next source given =>
    refine ⟨source, given, ?_⟩
    cases compiled : Filter.compile source kind with
    | error error =>
        rw [compiled] at filtered
        cases filtered
    | ok other =>
        rw [compiled] at filtered
        cases filtered
        rfl

/-- The plan of an admitted query. -/
def planOf (kind : RecordKind) (order : SortOrder) (filter : Option Filter) (limit : Nat) :
    QueryPlan :=
  ⟨⟨kind, filter.map Filter.text, limit⟩, order, filter⟩

/-- Order and filter of an admitted query are compiled for its kind, so its plan is valid. -/
theorem Admitted.validate_planOf (admitted : query.Admitted caller kind order filter)
    (limit : Nat) : (planOf kind order filter limit).validate = .ok () := by
  obtain ⟨compiled, -⟩ := order_eq_ok admitted.ordered
  obtain ⟨_, _, ordersKind, _⟩ := FieldPath.of_compile_eq_ok compiled
  refine (planOf kind order filter limit).validate_eq_ok ordersKind fun chosen isChosen => ?_
  cases isChosen
  obtain ⟨source, _, compiled⟩ := admitted.exists_source
  exact Filter.kind_of_compile compiled

theorem Admitted.plan_eq_ok (admitted : query.Admitted caller kind order filter)
    (window : Window) : query.plan kind window = .ok (planOf kind order filter window.limit) := by
  rw [RecordQuery.plan, admitted.ordered, admitted.filtered]
  change (planOf kind order filter window.limit).validate >>= (fun _ => pure _) = _
  rw [admitted.validate_planOf window.limit]
  rfl

end RecordQuery

/-! ## Calls that are turned away -/

/-- The counter that goes up when a call ends with an error before anything else is done. -/
def CallError.counted : CallError → Option (Counter × List String)
  | .refused refusal => some (.forbidden, [refusal.capability.name])
  | _ => none

namespace Gateway

variable {gateway : Gateway} {surroundings : Surroundings} {caller : Caller} {query : RecordQuery}
variable {error : CallError} {report : CallReport}

/-- A call answers with an error and does nothing else: nobody is asked, no time passes, and the
gateway stays as it is, except that a refusal is counted. -/
structure Untouched (gateway : Gateway) (error : CallError) (report : CallReport) : Prop where
  answer : report.result? = some (.error error)
  notAsked : report.asked = false
  noRequests : report.requests = []
  noTime : report.elapsed = .zero
  /-- Whatever is not a counter is unchanged, the directory included. -/
  unchanged : report.gateway =
    { gateway with metrics := { gateway.metrics with counts := report.gateway.metrics.counts } }
  counts : ∀ counter labels, report.gateway.metrics.count counter labels =
    gateway.metrics.count counter labels + if error.counted = some (counter, labels) then 1 else 0

theorem untouched_stopped (notCounted : error.counted = none) :
    Untouched gateway error (gateway.stopped error) where
  answer := rfl
  notAsked := rfl
  noRequests := rfl
  noTime := rfl
  unchanged := rfl
  counts counter labels := by
    rw [notCounted]
    rfl

theorem untouched_refuse (refusal : Refusal) :
    Untouched gateway (.refused refusal) (gateway.refuse refusal) where
  answer := rfl
  notAsked := rfl
  noRequests := rfl
  noTime := rfl
  unchanged := rfl
  counts counter labels := by
    refine (Metrics.count_increment ..).trans ?_
    simp only [CallError.counted, Option.some.injEq, eq_comm]

/-- The report of a call that is turned away with an error. -/
def turnAway (gateway : Gateway) (error : CallError) : CallReport :=
  match error with
  | .refused refusal => gateway.refuse refusal
  | _ => gateway.stopped error

theorem untouched_turnAway (gateway : Gateway) (error : CallError) :
    Untouched gateway error (gateway.turnAway error) := by
  cases error
  case refused refusal => exact untouched_refuse refusal
  all_goals exact untouched_stopped rfl

/-- Once kind and caller are in order, a query without a plan ends the call. -/
theorem records_of_plan_error {kind : RecordKind} {error : QueryError}
    (known : kind.tag = query.kind) (allowed : Capability.ofKind kind ∈ caller.capabilities)
    (wrong : query.plan kind (gateway.bounds.window query.limit query.deadline) = .error error) :
    gateway.records surroundings caller query = gateway.stopped (.query error) := by
  simp only [records, RecordKind.ofTag_eq_ok_iff.mpr known, Caller.require_of_mem allowed, wrong]

theorem records_of_turnedAway (away : query.TurnedAway caller error)
    (surroundings : Surroundings) :
    gateway.records surroundings caller query = gateway.turnAway error := by
  cases away with
  | unknown unknown =>
      rw [records, RecordKind.ofTag_eq_error unknown]
      rfl
  | @refused kind known lacks =>
      simp only [records, RecordKind.ofTag_eq_ok_iff.mpr known, Caller.require_of_not_mem lacks]
      rfl
  | @order kind error known allowed wrong =>
      have noPlan (window : Window) : query.plan kind window = .error error := by
        rw [RecordQuery.plan, RecordQuery.order_eq, wrong]
        rfl
      rw [records_of_plan_error known allowed (noPlan _)]
      rfl
  | @filter kind path source error known allowed ordered given wrong =>
      have noPlan (window : Window) : query.plan kind window = .error error := by
        rw [RecordQuery.plan, RecordQuery.order_eq, ordered, RecordQuery.compiledFilter, given]
        simp only [wrong]
        rfl
      rw [records_of_plan_error known allowed (noPlan _)]
      rfl

/-- A call whose query is turned away touches nothing, whatever is outside. -/
theorem untouched_of_turnedAway (away : query.TurnedAway caller error)
    (surroundings : Surroundings) :
    Untouched gateway error (gateway.records surroundings caller query) := by
  rw [records_of_turnedAway away]
  exact gateway.untouched_turnAway error

/-! ## Calls that are admitted -/

/-- The service is resolved, once, and every endpoint that this gives gets one request, if the clock
can name the deadline. -/
structure Carried (gateway : Gateway) (surroundings : Surroundings) (deadline : Time.Span)
    (request : FetchRequest) (report : CallReport) : Prop where
  /-- Nothing is wrong with the query any more: no kind mismatches. -/
  noQueryError : ∀ error, report.result? ≠ some (.error (.query error))
  /-- The control plane is asked unless a young snapshot spares the question. -/
  asked : report.asked =
    (gateway.directory.cached? surroundings.now gateway.freshness gateway.service).isNone
  directory : report.gateway.directory = (gateway.resolve surroundings).directory
  /-- One resolution is counted, with one outcome. -/
  counted : ∃ outcome, ∀ labels, report.gateway.metrics.count .discoveryRequests labels =
    gateway.metrics.count .discoveryRequests labels + if labels = [outcome] then 1 else 0
  unresolved : ∀ error, (gateway.resolve surroundings).result = .error error →
    report.result? = some (.error (.directory error)) ∧ report.requests = []
  requests : ∀ endpoints, (gateway.resolve surroundings).result = .ok endpoints →
    surroundings.course.reaches deadline = true →
      report.result?.isSome = true ∧
        report.requests = endpoints.map fun endpoint => (endpoint, request)
  /-- With a deadline that the clock cannot name the call dies once someone is to be asked. -/
  beyond : ∀ endpoints, (gateway.resolve surroundings).result = .ok endpoints → endpoints ≠ [] →
    surroundings.course.reaches deadline = false →
      report.result? = none ∧
        report.requests.Sublist (endpoints.map fun endpoint => (endpoint, request))
  once : gateway.directory.Reachable → (report.requests.map Prod.fst).Nodup

theorem runPlan_of_error {plan : QueryPlan} {window : Window} {error : DirectoryError}
    (resolved : (gateway.resolve surroundings).result = .error error) :
    gateway.runPlan surroundings plan window =
      { (gateway.afterResolution (gateway.resolve surroundings)).stopped (.directory error) with
        asked := (gateway.resolve surroundings).asked } := by
  simp only [runPlan, resolved]

theorem runPlan_of_ok {plan : QueryPlan} {window : Window} {endpoints : List Endpoint}
    (resolved : (gateway.resolve surroundings).result = .ok endpoints) :
    gateway.runPlan surroundings plan window =
      (gateway.afterResolution (gateway.resolve surroundings)).concluded
        (gateway.resolve surroundings) .ofAggregation
        (Aggregation.run surroundings.peers endpoints plan window surroundings.course) := by
  simp only [runPlan, resolved]

/-- A resolution is counted once. -/
theorem count_afterResolution (gateway : Gateway) (surroundings : Surroundings) :
    ∃ outcome, ∀ labels,
      (gateway.afterResolution (gateway.resolve surroundings)).metrics.count .discoveryRequests
          labels =
        gateway.metrics.count .discoveryRequests labels + if labels = [outcome] then 1 else 0 := by
  obtain ⟨outcome, counted⟩ := Directory.count_updates_resolve gateway.directory surroundings.now
    gateway.freshness gateway.service surroundings.answer
  refine ⟨outcome, fun labels => ?_⟩
  rw [← counted labels]
  exact Metrics.count_applyAll ..

/-- An aggregation does not count as a resolution. -/
theorem count_concluded {plan : QueryPlan} {window : Window} {endpoints : List Endpoint}
    (resolution : Resolution) (labels : List String) :
    (gateway.concluded resolution .ofAggregation
      (Aggregation.run surroundings.peers endpoints plan window
        surroundings.course)).gateway.metrics.count .discoveryRequests labels =
      gateway.metrics.count .discoveryRequests labels := by
  refine (Metrics.count_applyAll ..).trans ?_
  have notCounted : MetricUpdate.increment .discoveryRequests labels ∉
      (Aggregation.run surroundings.peers endpoints plan window surroundings.course).updates :=
    Aggregation.not_mem_updates_runOn surroundings.course (surroundings.peers.listeners endpoints)
      plan window labels
  rw [List.count_eq_zero.mpr notCounted, Nat.add_zero]

/-- Where an aggregation does not fail for what it asks, its call does not. -/
theorem result?_concluded_ne {report : AggregationReport AggregationError}
    (notQuery : ∀ error, report.result? ≠ some (.error (.query error))) (resolution : Resolution)
    (error : QueryError) :
    (gateway.concluded resolution .ofAggregation report).result? ≠
      some (.error (.query error)) := by
  intro failed
  obtain ⟨result, returned, wrapped⟩ := Option.map_eq_some_iff.mp failed
  cases result with
  | ok aggregation => cases wrapped
  | error failure =>
      cases failure with
      | query other => exact notQuery other returned
      | allFailed failures => cases wrapped

/-- A call whose query is admitted carries out its plan. -/
theorem records_of_admitted {kind : RecordKind} {order : SortOrder} {filter : Option Filter}
    (admitted : query.Admitted caller kind order filter) :
    let window := gateway.bounds.window query.limit query.deadline
    gateway.records surroundings caller query =
      gateway.runPlan surroundings (RecordQuery.planOf kind order filter window.limit) window := by
  simp only [records, RecordKind.ofTag_eq_ok_iff.mpr admitted.known,
    Caller.require_of_mem admitted.allowed, admitted.plan_eq_ok]

theorem carried_runPlan {plan : QueryPlan} (valid : plan.validate = .ok ()) (window : Window) :
    Carried gateway surroundings window.deadline plan.request
      (gateway.runPlan surroundings plan window) := by
  obtain ⟨outcome, counted⟩ := gateway.count_afterResolution surroundings
  have asked : (gateway.resolve surroundings).asked = _ := Directory.asked_resolve ..
  cases resolved : (gateway.resolve surroundings).result with
  | error error =>
      rw [runPlan_of_error resolved]
      constructor
      case noQueryError => exact nofun
      case asked => exact asked
      case directory => rfl
      case counted => exact ⟨outcome, counted⟩
      case unresolved =>
        intro other same
        cases resolved.symm.trans same
        exact ⟨rfl, rfl⟩
      case requests => exact fun endpoints same => nomatch resolved.symm.trans same
      case beyond => exact fun endpoints same => nomatch resolved.symm.trans same
      case once => exact fun _ => List.nodup_nil
  | ok endpoints =>
      let listeners := surroundings.peers.listeners endpoints
      let course := surroundings.course
      have sublist := Aggregation.sublist_requests_runOn course listeners window valid
      rw [Aggregation.requestsTo_listeners] at sublist
      rw [runPlan_of_ok resolved]
      constructor
      case noQueryError =>
        intro error failed
        exact result?_concluded_ne
          (Aggregation.result?_runOn_ne course listeners window valid) _ error failed
      case asked => exact asked
      case directory => rfl
      case counted =>
        refine ⟨outcome, fun labels => ?_⟩
        rw [count_concluded, counted]
      case unresolved => exact fun error same => nomatch resolved.symm.trans same
      case requests =>
        intro others same reaches
        cases resolved.symm.trans same
        have requests := Aggregation.requests_runOn listeners valid reaches
        rw [Aggregation.requestsTo_listeners] at requests
        refine ⟨?_, requests⟩
        exact Option.isSome_map.trans (Aggregation.isSome_result?_runOn valid listeners reaches)
      case beyond =>
        intro others same some beyond
        cases resolved.symm.trans same
        have died := Aggregation.runOn_of_not_reaches valid
          (Aggregation.listeners_ne_nil surroundings.peers some) beyond
        exact ⟨congrArg (Option.map _ <| AggregationReport.result? ·) died, sublist⟩
      case once =>
        intro reachable
        have distinct := (reachable.proper_resolve resolved).2
        refine (sublist.map Prod.fst).nodup ?_
        rw [List.map_map]
        simpa [Function.comp_def] using distinct

/-- Peers cannot be told apart by the answer to an admitted query if their requests end together,
and the result is the same for related outcomes. -/
theorem result?_records_congr {kind : RecordKind} {order : SortOrder} {filter : Option Filter}
    (admitted : query.Admitted caller kind order filter)
    (related : FetchOutcome → FetchOutcome → Prop)
    (failed : ∀ failure, related (.error failure) (.error failure)) {others : Peers} :
    let window := gateway.bounds.window query.limit query.deadline
    let plan := RecordQuery.planOf kind order filter window.limit
    (∀ endpoints outcomes instead,
      List.Forall₂ related (outcomes.map plan.usable) (instead.map plan.usable) →
        Aggregation.assemble endpoints plan window.limit instead =
          Aggregation.assemble endpoints plan window.limit outcomes) →
    (∀ sent ∈ (gateway.records surroundings caller query).requests, sent.2 = plan.request →
      (surroundings.peers sent.1 sent.2).Parallel
        (fun one other => related (plan.usable one) (plan.usable other)) (others sent.1 sent.2)) →
    (gateway.records { surroundings with peers := others } caller query).result? =
      (gateway.records surroundings caller query).result? := by
  intro window plan indifferent parallel
  let there : Surroundings := { surroundings with peers := others }
  rw [records_of_admitted admitted] at parallel ⊢
  rw [records_of_admitted admitted]
  cases resolved : (gateway.resolve surroundings).result with
  | error error =>
      have resolvedThere : (gateway.resolve there).result = .error error := resolved
      rw [runPlan_of_error resolved, runPlan_of_error resolvedThere]
      rfl
  | ok endpoints =>
      have resolvedThere : (gateway.resolve there).result = .ok endpoints := resolved
      rw [runPlan_of_ok resolved] at parallel ⊢
      rw [runPlan_of_ok resolvedThere]
      have valid := admitted.validate_planOf window.limit
      apply congrArg (Option.map (Except.mapError CallError.ofAggregation))
      apply Aggregation.result?_run_congr related failed (indifferent endpoints) valid
      intro (reaches : surroundings.course.reaches _ = true) endpoint member
      change ∀ sent ∈ (Aggregation.runOn surroundings.course
        (surroundings.peers.listeners endpoints) _ _).requests, _ at parallel
      rw [Aggregation.requests_runOn _ valid reaches, Aggregation.requestsTo_listeners,
        List.forall_mem_map] at parallel
      exact parallel endpoint member rfl

/-- The gate before a call. A query that fails a check is answered with the error of the first one,
and the call touches nothing; a refusal does not even depend on what is behind the gate, nor on the
rest of the query. Any other query resolves the service once, and each endpoint gets one request
with its kind, the canonical text of its filter and its limit, cut to the greatest one, unless the
clock cannot name its deadline: then the call dies, and no endpoint gets more than one. -/
theorem gate_of_records (gateway : Gateway) (surroundings : Surroundings) (caller : Caller)
    (query : RecordQuery) :
    let report := gateway.records surroundings caller query
    (∀ error, query.TurnedAway caller error → Untouched gateway error report) ∧
    (∀ refusal, query.TurnedAway caller (.refused refusal) →
      ∀ (elsewhere : Gateway) (others : Surroundings) (other : RecordQuery),
        other.kind = query.kind →
          (elsewhere.records others caller other).result? = report.result?) ∧
    ((∀ error, ¬query.TurnedAway caller error) →
      ∃ kind order filter, query.Admitted caller kind order filter ∧
        let deadline := (gateway.bounds.window query.limit query.deadline).deadline
        let limit := min (query.limit.getD gateway.bounds.defaultLimit) gateway.bounds.maxLimit
        Carried gateway surroundings deadline ⟨kind, filter.map Filter.text, limit⟩ report) := by
  intro report
  refine ⟨fun error away => untouched_of_turnedAway away surroundings, ?_, fun passes => ?_⟩
  · intro refusal away elsewhere others other sameKind
    rw [(untouched_of_turnedAway away surroundings).answer]
    cases away with
    | refused known lacks =>
        have otherAway := RecordQuery.TurnedAway.refused (known.trans sameKind.symm) lacks
        exact (untouched_of_turnedAway otherAway others).answer
  · obtain ⟨error, away⟩ | ⟨kind, order, filter, admitted⟩ :=
      query.turnedAway_or_admitted caller
    · exact absurd away (passes error)
    · refine ⟨kind, order, filter, admitted, ?_⟩
      rw [show report = _ from records_of_admitted admitted]
      exact carried_runPlan (admitted.validate_planOf _)
        (gateway.bounds.window query.limit query.deadline)

/-- An unknown field is no matter to a caller without the capability, who is refused; it is the
error of a caller who has it; and without it, each of two endpoints gets the request. -/
theorem gate_of_three_calls :
    let gateway : Gateway :=
      .new ⟨"n", ⟨"n", 3⟩, .up, .empty⟩ ⟨"space", "service"⟩ {} .allowCached .zero
    let surroundings : Surroundings := ⟨.zero, .ok [⟨"a", 1⟩, ⟨"b", 2⟩], fun _ _ => .hangs⟩
    let query (sort : Option String) : RecordQuery :=
      ⟨"log", some "log.level >= WARN", sort, .descending, some 5000, none⟩
    Untouched gateway (.refused ⟨"guest", .readLogs⟩)
        (gateway.records surroundings ⟨"guest", []⟩ (query (some "log.nothing"))) ∧
      Untouched gateway (.query (.unknownField .log "log.nothing"))
        (gateway.records surroundings (.trusted "me") (query (some "log.nothing"))) ∧
      ∃ kind order filter, (query none).Admitted (.trusted "me") kind order filter ∧
        (gateway.records surroundings (.trusted "me") (query none)).requests.length = 2 := by
  intro gateway surroundings query
  have isLog : RecordKind.log.tag = "log" := rfl
  have refused : (query (some "log.nothing")).TurnedAway ⟨"guest", []⟩
      (.refused ⟨"guest", .ofKind .log⟩) := .refused isLog List.not_mem_nil
  have allowed : Capability.ofKind .log ∈ (Caller.trusted "me").capabilities := by decide
  have wrong : FieldPath.compile "log.nothing" .log =
      .error (.unknownField .log "log.nothing") := by rfl
  have twoRequests : (gateway.records surroundings (.trusted "me") (query none)).requests.length =
      2 := by
    decide +kernel
  refine ⟨(gate_of_records gateway surroundings _ _).1 _ refused,
    (gate_of_records gateway surroundings _ _).1 _ (.order isLog allowed wrong), ?_⟩
  obtain ⟨touchesNothing, -, carries⟩ :=
    gate_of_records gateway surroundings (.trusted "me") (query none)
  obtain ⟨kind, order, filter, admitted, -⟩ := carries <| by
    intro error away
    rw [(touchesNothing error away).noRequests] at twoRequests
    cases twoRequests
  exact ⟨kind, order, filter, admitted, twoRequests⟩

/-- A query with the longest deadline that can be given passes every check, but the endpoint that
its service resolves to is not asked. -/
theorem no_fetch_beyond_clock :
    let gateway : Gateway :=
      .new ⟨"n", ⟨"n", 3⟩, .up, .empty⟩ ⟨"space", "service"⟩ {} .allowCached .zero
    let surroundings : Surroundings :=
      ⟨.zero, .ok [⟨"a", 1⟩], fun _ _ => .answers .zero (.ok [])⟩
    let query : RecordQuery := ⟨"log", none, none, .descending, none, some ⟨Time.Span.maxNanos⟩⟩
    let report := gateway.records surroundings (.trusted "me") query
    (∃ kind order filter, query.Admitted (.trusted "me") kind order filter) ∧
      (gateway.resolve surroundings).result = .ok [⟨"a", 1⟩] ∧
      report.requests.map Prod.fst ≠ [⟨"a", 1⟩] := by
  intro gateway surroundings query report
  obtain ⟨error, away⟩ | admitted := query.turnedAway_or_admitted (.trusted "me")
  · have passes : (gateway.records surroundings (.trusted "me") query).result? = none := by
      decide +kernel
    rw [(untouched_of_turnedAway away surroundings).answer] at passes
    cases passes
  · exact ⟨admitted, by decide +kernel, by decide +kernel⟩

end Gateway

end ClusterQuery
