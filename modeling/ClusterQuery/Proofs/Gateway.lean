import ClusterQuery.Gateway
import ClusterQuery.Proofs.Aggregation
import ClusterQuery.Proofs.Directory

/-!
# What a caller can rely on

A call passes through checks, a resolution, a fan-out and a merge, and each of them is known by what
it lets through. Together they bound what a successful call returns, whatever the peers do.
-/

namespace ClusterQuery

/-- A plan is what a query compiles to. -/
theorem RecordQuery.plan_eq_ok {query : RecordQuery} {kind : RecordKind} {window : Window}
    {plan : QueryPlan} (success : query.plan kind window = .ok plan) :
    ∃ order filter, query.order kind = .ok order ∧ query.compiledFilter kind = .ok filter ∧
      plan = ⟨⟨kind, filter.map Filter.text, window.limit⟩, order, filter⟩ := by
  simp only [RecordQuery.plan, bind, Except.bind] at success
  split at success
  next => cases success
  next order ordered =>
    split at success
    next => cases success
    next filter filtered =>
      split at success
      next => cases success
      next =>
        cases success
        exact ⟨order, filter, ordered, filtered, rfl⟩

theorem RecordQuery.order_eq_ok {query : RecordQuery} {kind : RecordKind} {order : SortOrder}
    (success : query.order kind = .ok order) :
    FieldPath.compile (query.sort.getD kind.defaultSort) kind = .ok order.path ∧
      order.direction = query.direction := by
  simp only [RecordQuery.order, bind, Except.bind] at success
  split at success
  next => cases success
  next path compiled =>
    cases success
    exact ⟨compiled, rfl⟩

theorem Caller.require_eq_ok {caller : Caller} {capability : Capability}
    (success : caller.require capability = .ok ()) : caller.allows capability = true := by
  simp only [Caller.require] at success
  split at success
  next allowed => exact allowed
  next => cases success

theorem ok_of_mapError {ε δ α : Type} {wrap : ε → δ} {result? : Option (Except ε α)} {value : α}
    (success : result?.map (Except.mapError wrap) = some (.ok value)) :
    result? = some (.ok value) := by
  obtain ⟨result, rfl, wrapped⟩ := Option.map_eq_some_iff.mp success
  cases result with
  | error error => cases wrapped
  | ok other => exact congrArg (some <| Except.ok ·) (Except.ok.inj wrapped)

namespace Gateway

variable {gateway : Gateway} {surroundings : Surroundings} {caller : Caller} {query : RecordQuery}
variable {aggregation : Aggregation}

/-- A call that comes to a result has passed every check, resolved the service, and run its plan. -/
theorem records_eq_ok
    (success : (gateway.records surroundings caller query).result? = some (.ok aggregation)) :
    ∃ kind plan endpoints,
      RecordKind.ofTag query.kind = .ok kind ∧ caller.allows (.ofKind kind) = true ∧
      query.plan kind (gateway.bounds.window query.limit query.deadline) = .ok plan ∧
      (gateway.resolve surroundings).result = .ok endpoints ∧
      let report := Aggregation.run surroundings.peers endpoints plan
        (gateway.bounds.window query.limit query.deadline) surroundings.course
      report.result? = some (.ok aggregation) ∧
        (gateway.records surroundings caller query).requests = report.requests := by
  simp only [records] at success ⊢
  split at success
  next => cases success
  next kind known =>
    split at success
    next => cases success
    next allowed =>
      split at success
      next => cases success
      next plan planned =>
        simp only [runPlan] at success ⊢
        split at success
        next => cases success
        next endpoints resolved =>
          refine ⟨kind, plan, endpoints, known, Caller.require_eq_ok allowed, planned, resolved,
            ok_of_mapError success, ?_⟩
          rfl

/-- What a caller can rely on when a query succeeds: which kind, order and filter the query stood
for, which endpoints were asked, and what the returned records are. -/
structure Guarantee (gateway : Gateway) (surroundings : Surroundings) (caller : Caller)
    (query : RecordQuery) (aggregation : Aggregation) (kind : RecordKind) (order : SortOrder)
    (filter : Option Filter) (endpoints : List Endpoint) : Prop where
  known : RecordKind.ofTag query.kind = .ok kind
  allowed : caller.allows (.ofKind kind) = true
  /-- The order is by the field that the query names, or else by the default one of its kind. -/
  ordered : FieldPath.compile (query.sort.getD kind.defaultSort) kind = .ok order.path ∧
    order.direction = query.direction
  filtered : query.compiledFilter kind = .ok filter
  resolved : (gateway.resolve surroundings).result = .ok endpoints ∧ endpoints.Nodup
  /-- Each record is of the kind, passes the filter, and was delivered in this call by an endpoint
  that is not left out. -/
  genuine : ∀ record ∈ aggregation.results,
    record.kind = kind ∧ (∀ chosen, filter = some chosen → chosen.accepts record = true) ∧
      ∃ endpoint ∈ endpoints, (∀ entry ∈ aggregation.partialFailures, entry.endpoint ≠ endpoint) ∧
        ∃ request, (endpoint, request) ∈ (gateway.records surroundings caller query).requests ∧
          Aggregation.Delivered surroundings.peers request
            (gateway.bounds.window query.limit query.deadline).deadline endpoint record
  sorted : aggregation.results.Pairwise (order.atMost · ·)
  /-- No two records share both key and printed document. -/
  unrepeated : aggregation.results.Pairwise fun left right =>
    ¬(order.key left = order.key right ∧ left.text = right.text)
  bounded : aggregation.results.length ≤
    min (query.limit.getD gateway.bounds.defaultLimit) gateway.bounds.maxLimit

/-- Whatever the peers do, the result of a successful query keeps the guarantee. -/
theorem guarantee_of_records (reachable : gateway.directory.Reachable)
    (success : (gateway.records surroundings caller query).result? = some (.ok aggregation)) :
    ∃ kind order filter endpoints,
      Guarantee gateway surroundings caller query aggregation kind order filter endpoints := by
  obtain ⟨kind, plan, endpoints, known, allowed, planned, resolved, ran, requests⟩ :=
    records_eq_ok success
  obtain ⟨order, filter, ordered, filtered, rfl⟩ := RecordQuery.plan_eq_ok planned
  obtain ⟨some, distinct⟩ := reachable.proper_resolve resolved
  obtain ⟨-, reaches, assembled, asked⟩ := Aggregation.run_eq_ok ran some
  obtain ⟨-, equal⟩ := Aggregation.assemble_eq_ok_iff.mp assembled
  refine ⟨kind, order, filter, endpoints, known, allowed, RecordQuery.order_eq_ok ordered, filtered,
    ⟨resolved, distinct⟩, fun record member => ?_, ?_, ?_, ?_⟩
  · obtain ⟨ofKind, accepted, endpoint, isEndpoint, notLeftOut, delivered⟩ :=
      Aggregation.delivered_of_assemble reaches distinct assembled member
    refine ⟨ofKind, fun chosen isChosen => ?_, endpoint, isEndpoint, notLeftOut, _, ?_, delivered⟩
    · subst isChosen
      exact accepted
    · rw [requests, asked]
      exact List.mem_map_of_mem isEndpoint
  · rw [equal]
    exact Merge.pairwise_merge order _ _
  · rw [equal]
    refine (Merge.merge_pairwise_ne order _ _).imp fun different shared => ?_
    rw [(Merge.sameEntry_iff order).mpr shared] at different
    cases different
  · rw [equal]
    exact Merge.length_merge_le order _ _

/-- One peer ignores the filter and the other hangs: the call succeeds with the one record that
passes the filter, and keeps the guarantee. -/
theorem guarantee_of_unruly_peers :
    let record (id : String) : Json := .object [("node", .object [("id", .string id),
      ("host", .string "h"), ("port", .ofNat 1), ("status", .string "UP")])]
    let surroundings : Surroundings :=
      { now := .zero
        answer := .ok [⟨"a", 1⟩, ⟨"b", 2⟩, ⟨"a", 1⟩]
        peers := fun endpoint request =>
          if endpoint.host = "a" then
            .answers .zero (.ofBody request.kind (.array [record "x", record "y"]))
          else .hangs }
    let gateway : Gateway :=
      .new ⟨"n", ⟨"n", 3⟩, .up, .empty⟩ ⟨"space", "service"⟩ {} .allowCached .zero
    let query : RecordQuery := ⟨"nodeinfo", some "node.id >= y", none, .descending, some 5, none⟩
    gateway.directory.Reachable ∧
      ∃ aggregation,
        (gateway.records surroundings (.trusted "me") query).result? = some (.ok aggregation) ∧
          aggregation.results.length = 1 ∧ aggregation.partialFailures.length = 1 ∧
          ∃ kind order filter endpoints, Guarantee gateway surroundings (.trusted "me") query
            aggregation kind order filter endpoints := by
  intro record surroundings gateway query
  have reachable : gateway.directory.Reachable := .new .zero
  have lengths : (gateway.records surroundings (.trusted "me") query).result?.bind
      (fun result => result.toOption.map fun aggregation =>
        (aggregation.results.length, aggregation.partialFailures.length)) = some (1, 1) := by
    decide +kernel
  obtain ⟨result, returned, lengths⟩ := Option.bind_eq_some_iff.mp lengths
  cases result with
  | error error => cases lengths
  | ok aggregation =>
      obtain ⟨results, failures⟩ := Prod.mk.inj (Option.some.inj lengths)
      exact ⟨reachable, aggregation, returned, results, failures,
        guarantee_of_records reachable returned⟩

end Gateway

end ClusterQuery
