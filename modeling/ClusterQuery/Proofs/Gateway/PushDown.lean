import ClusterQuery.Proofs.Gateway.Admission

/-!
# Filters at the peers

A request carries the canonical text of the query's filter, and a peer may apply it before it
answers. Since the text compiles to the query's own filter or to none, such a peer leaves out only
records that would be left out here, and an answer cannot tell which peers have done so.
-/

namespace ClusterQuery

/-- What a peer that may apply the forwarded filter does instead of answering in full. -/
inductive Conduct.Narrowed (request : FetchRequest) : Conduct → Conduct → Prop where
  /-- The peer does not apply it. -/
  | whole (conduct : Conduct) : Narrowed request conduct conduct
  /-- The peer compiles the forwarded text and answers with the records that pass. -/
  | filtered {text : String} {filter : Filter} {after : Time.Span} {records : List Record}
      (forwarded : request.filter = some text)
      (accepted : Filter.compile text request.kind = .ok filter)
      (ofKind : ∀ record ∈ records, record.kind = request.kind) :
      Narrowed request (.answers after (.ok records))
        (.answers after (.ok (records.filter filter.accepts)))

/-- Records that were left out by a plan's filter are not missed. -/
theorem QueryPlan.usable_filter (plan : QueryPlan) {records : List Record}
    (ofKind : ∀ record ∈ records, record.kind = plan.request.kind) :
    plan.usable (.ok (records.filter plan.accepts)) = plan.usable (.ok records) := by
  have whole : plan.usable (.ok records) = .ok (records.filter plan.accepts) :=
    plan.usable_eq_ok_iff.mpr ⟨records, rfl, ofKind, rfl⟩
  rw [whole]
  refine plan.usable_eq_ok_iff.mpr ⟨_, rfl, fun record kept => ?_, ?_⟩
  · exact ofKind record (List.mem_filter.mp kept).1
  · rw [List.filter_filter]
    simp only [Bool.and_self]

namespace RecordQuery.Admitted

variable {query : RecordQuery} {caller : Caller} {kind : RecordKind} {order : SortOrder}
variable {filter : Option Filter} {limit : Nat} {plain narrow : Conduct}

/-- A peer that compiles the forwarded text has the query's own filter. -/
theorem eq_of_accepted (admitted : query.Admitted caller kind order filter) {text : String}
    {applied : Filter} (forwarded : filter.map Filter.text = some text)
    (accepted : Filter.compile text kind = .ok applied) : filter = some applied := by
  obtain ⟨chosen, rfl, rfl⟩ := Option.map_eq_some_iff.mp forwarded
  obtain ⟨source, _, compiled⟩ := admitted.exists_source
  rw [Filter.eq_of_compile_text compiled accepted]

/-- A peer that applies the filter ends together with one that does not, and the plan makes the same
of what they come to. -/
theorem parallel_of_narrowed (admitted : query.Admitted caller kind order filter)
    (narrowed : Conduct.Narrowed (planOf kind order filter limit).request plain narrow) :
    plain.Parallel (fun one other => (planOf kind order filter limit).usable one =
      (planOf kind order filter limit).usable other) narrow := by
  cases narrowed with
  | whole =>
      cases plain with
      | answers after outcome => exact .answers rfl
      | hangs => exact .hangs
      | dies => exact .dies
  | @filtered text applied after records forwarded accepted ofKind =>
      have chosen : (planOf kind order filter limit).filter = some applied :=
        admitted.eq_of_accepted forwarded accepted
      have same : applied.accepts = (planOf kind order filter limit).accepts := by
        funext record
        rw [QueryPlan.accepts, chosen, Option.all_some]
      refine .answers ?_
      rw [same, QueryPlan.usable_filter _ ofKind]

end RecordQuery.Admitted

namespace Gateway

variable {gateway : Gateway} {surroundings : Surroundings} {caller : Caller} {query : RecordQuery}

/-- Which peers apply the filter of an admitted query cannot be told from the answer. -/
theorem result?_records_of_narrowed {kind : RecordKind} {order : SortOrder}
    {filter : Option Filter} (admitted : query.Admitted caller kind order filter) {narrow : Peers}
    (narrowed : ∀ sent ∈ (gateway.records surroundings caller query).requests,
      (surroundings.peers sent.1 sent.2).Narrowed sent.2 (narrow sent.1 sent.2)) :
    (gateway.records { surroundings with peers := narrow } caller query).result? =
      (gateway.records surroundings caller query).result? := by
  apply result?_records_congr admitted Eq (fun _ => rfl)
  · intro endpoints outcomes instead same
    rw [List.forall₂_eq_eq_eq] at same
    rw [Aggregation.assemble_def, Aggregation.assemble_def, same]
  · intro sent member isRequest
    have narrowedHere := narrowed sent member
    rw [isRequest] at narrowedHere ⊢
    exact admitted.parallel_of_narrowed narrowedHere

/-- Pushing the filter down to the peers cannot be told from the answer: whichever of the peers
compile the forwarded text, if they can, and answer with the records that pass, the call comes to
what it comes to if they answer in full. For whatever compiles from the text keeps the very records
that the query's own filter keeps. -/
theorem pushDown_transparent (gateway : Gateway) (surroundings : Surroundings) (caller : Caller)
    (query : RecordQuery) :
    (∀ narrow : Peers,
      (∀ sent ∈ (gateway.records surroundings caller query).requests,
        (surroundings.peers sent.1 sent.2).Narrowed sent.2 (narrow sent.1 sent.2)) →
      (gateway.records { surroundings with peers := narrow } caller query).result? =
        (gateway.records surroundings caller query).result?) ∧
    ∀ kind order own applied, query.Admitted caller kind order (some own) →
      Filter.compile own.text kind = .ok applied →
        ∀ record, applied.accepts record = own.accepts record := by
  refine ⟨fun narrow narrowed => ?_, fun kind order own applied admitted accepted record => ?_⟩
  · obtain ⟨error, away⟩ | ⟨kind, order, filter, admitted⟩ :=
      query.turnedAway_or_admitted caller
    · rw [(untouched_of_turnedAway away _).answer, (untouched_of_turnedAway away _).answer]
    · exact result?_records_of_narrowed admitted narrowed
  · rw [Option.some.inj (admitted.eq_of_accepted rfl accepted)]

/-- A literal with quotes of both sorts and a backslash: one of two peers applies the filter, and
leaves out one record that the other one sends. Either way the call comes to the other record. -/
theorem pushDown_transparent_to_quotes :
    let named (id : String) : Record :=
      ⟨.node, .object [("node", .object [("id", .string id), ("host", .string "h"),
          ("port", .ofNat 1), ("status", .string "UP")])],
        [.scalar (.text id), .scalar (.text "h"), .scalar (.int 1), .scalar (.enum 0 "UP"),
          .scalar .null, .scalar .null, .unread], by rfl⟩
    let records := [named "it's \"x\" \\", named "y"]
    let own : Filter := ⟨⟨.node, "node.id", [0], .string⟩, .notEqual, .text "it's \"x\" \\"⟩
    let query : RecordQuery :=
      ⟨"nodeinfo", some "node.id != 'it's \"x\" \\'", none, .ascending, some 5, none⟩
    let gateway : Gateway :=
      .new ⟨"n", ⟨"n", 3⟩, .up, .empty⟩ ⟨"space", "service"⟩ {} .allowCached .zero
    let surroundings : Surroundings :=
      ⟨.zero, .ok [⟨"a", 1⟩, ⟨"b", 2⟩], fun _ _ => .answers .zero (.ok records)⟩
    let narrow : Peers := fun endpoint _ =>
      if endpoint.host = "a" then .answers .zero (.ok (records.filter own.accepts))
      else .answers .zero (.ok records)
    (records.filter own.accepts).length = 1 ∧
      (∀ sent ∈ (gateway.records surroundings (.trusted "me") query).requests,
        (surroundings.peers sent.1 sent.2).Narrowed sent.2 (narrow sent.1 sent.2)) ∧
      ∃ aggregation,
        (gateway.records { surroundings with peers := narrow } (.trusted "me") query).result? =
          some (.ok aggregation) ∧
        (gateway.records surroundings (.trusted "me") query).result? = some (.ok aggregation) ∧
        aggregation.results.map own.path.extract = [.text "y"] ∧
        aggregation.partialFailures = [] := by
  intro named records own query gateway surroundings narrow
  let request : FetchRequest := ⟨.node, some "node.id != \"it's \\\"x\\\" \\\\\"", 5⟩
  have requests : (gateway.records surroundings (.trusted "me") query).requests =
      [(⟨"a", 1⟩, request), (⟨"b", 2⟩, request)] := by
    decide +kernel
  have narrowed : ∀ sent ∈ (gateway.records surroundings (.trusted "me") query).requests,
      (surroundings.peers sent.1 sent.2).Narrowed sent.2 (narrow sent.1 sent.2) := by
    rw [requests, List.forall_mem_cons, List.forall_mem_singleton]
    have accepted : Filter.compile "node.id != \"it's \\\"x\\\" \\\\\"" .node = .ok own := by rfl
    have ofKind : ∀ record ∈ records, record.kind = .node := by
      rw [List.forall_mem_cons, List.forall_mem_singleton]
      exact ⟨rfl, rfl⟩
    have applies : narrow ⟨"a", 1⟩ request = _ := if_pos rfl
    have ignores : narrow ⟨"b", 2⟩ request = _ := if_neg (by decide)
    rw [applies, ignores]
    exact ⟨.filtered rfl accepted ofKind, .whole _⟩
  have answered : (gateway.records surroundings (.trusted "me") query).result?.bind
      (fun result => result.toOption.map fun aggregation =>
        (aggregation.results.map own.path.extract, aggregation.partialFailures)) =
      some ([.text "y"], []) := by
    decide +kernel
  obtain ⟨result, returned, answer⟩ := Option.bind_eq_some_iff.mp answered
  have same := (pushDown_transparent gateway surroundings (.trusted "me") query).1 narrow narrowed
  cases result with
  | error error => cases answer
  | ok aggregation =>
      obtain ⟨results, nobody⟩ := Prod.mk.inj (Option.some.inj answer)
      exact ⟨by decide +kernel, narrowed, aggregation, same.trans returned, returned, results,
        nobody⟩

end Gateway

end ClusterQuery
