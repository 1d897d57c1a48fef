import ClusterQuery.Proofs.ClusterView
import ClusterQuery.Proofs.Gateway.Admission
import ClusterQuery.Proofs.Merge.Hierarchy

/-!
# Condensing at the peers

A request carries the limit of the query. A peer may do to its own records what is done here to
those of all peers: keep those that pass the filter, sort them, leave out the repeats and cut the
rest to the limit. What it leaves out would not have been in the answer.
-/

namespace ClusterQuery

/-- What a peer that may condense its records does instead of answering in full. -/
inductive Conduct.Condensed (plan : QueryPlan) : Conduct → Conduct → Prop where
  /-- The peer does not condense them. -/
  | whole (conduct : Conduct) : Condensed plan conduct conduct
  /-- The peer answers with what its own records alone come to. -/
  | merged {after : Time.Span} {records : List Record}
      (ofKind : ∀ record ∈ records, record.kind = plan.request.kind) :
      Condensed plan (.answers after (.ok records))
        (.answers after
          (.ok (Merge.merge [records.filter plan.accepts] plan.order plan.request.limit)))

namespace QueryPlan

variable (plan : QueryPlan)

/-- What may stand in place of an outcome: the same failure, or a batch for a batch. -/
inductive StandsFor : FetchOutcome → FetchOutcome → Prop where
  | failed (failure : FetchFailure) : StandsFor (.error failure) (.error failure)
  | brought {batch other : List Record}
      (stands : Merge.Stands plan.order plan.request.limit batch other) :
      StandsFor (.ok batch) (.ok other)

theorem StandsFor.refl (outcome : FetchOutcome) : plan.StandsFor outcome outcome := by
  cases outcome with
  | ok batch => exact .brought (.inl rfl)
  | error failure => exact .failed failure

/-- The records that a peer makes of its own are used as they are. -/
theorem usable_merge {records : List Record}
    (ofKind : ∀ record ∈ records, record.kind = plan.request.kind) :
    plan.usable
        (.ok (Merge.merge [records.filter plan.accepts] plan.order plan.request.limit)) =
      .ok (Merge.merge [records.filter plan.accepts] plan.order plan.request.limit) := by
  have chosen : ∀ record ∈
      Merge.merge [records.filter plan.accepts] plan.order plan.request.limit,
        record ∈ records ∧ plan.accepts record = true := by
    intro record member
    obtain ⟨batch, isBatch, inBatch⟩ := Merge.exists_batch_of_mem_merge plan.order member
    rw [List.mem_singleton.mp isBatch] at inBatch
    exact List.mem_filter.mp inBatch
  rw [usable_eq_ok_iff]
  refine ⟨_, rfl, ?_, ?_⟩
  · intro record member
    exact ofKind record (chosen record member).1
  · rw [eq_comm, List.filter_eq_self]
    intro record member
    exact (chosen record member).2

end QueryPlan

/-- A peer that condenses its records ends together with one that does not, and a plan's use of the
one may stand for its use of the other. -/
theorem Conduct.Condensed.parallel {plan : QueryPlan} {plain narrow : Conduct}
    (condensed : Condensed plan plain narrow) :
    plain.Parallel (fun outcome other => plan.StandsFor (plan.usable outcome) (plan.usable other))
      narrow := by
  cases condensed with
  | whole =>
      cases plain with
      | answers after outcome => exact .answers (.refl plan _)
      | hangs => exact .hangs
      | dies => exact .dies
  | @merged after records ofKind =>
      have used : plan.usable (.ok records) = .ok (records.filter plan.accepts) :=
        plan.usable_eq_ok_iff.mpr ⟨records, rfl, ofKind, rfl⟩
      refine .answers ?_
      rw [plan.usable_merge ofKind, used]
      exact .brought (.inr rfl)

namespace Aggregation

variable {plan : QueryPlan} {outcomes others : List FetchOutcome} {limit : Nat}

theorem failuresOf_of_standsFor (stand : List.Forall₂ plan.StandsFor outcomes others)
    (endpoints : List Endpoint) : failuresOf endpoints others = failuresOf endpoints outcomes := by
  induction stand generalizing endpoints with
  | nil => rfl
  | cons first _ ih =>
      cases endpoints with
      | nil => rfl
      | cons endpoint endpoints =>
          cases first with
          | failed failure => exact congrArg (_ :: ·) (ih endpoints)
          | brought stands => exact ih endpoints

theorem stands_batchOf (stand : List.Forall₂ plan.StandsFor outcomes others) :
    List.Forall₂ (Merge.Stands plan.order plan.request.limit)
      (outcomes.map batchOf) (others.map batchOf) := by
  rw [List.forall₂_map_left_iff, List.forall₂_map_right_iff]
  apply stand.imp
  intro outcome other stands
  cases stands with
  | failed failure => exact .inl rfl
  | brought stands => exact stands

/-- What outcomes come to cannot be told from what those come to that stand for them, if the limit
is no greater than the one they were cut to. -/
theorem assemble_of_standsFor (room : limit ≤ plan.request.limit) (endpoints : List Endpoint)
    (stand : List.Forall₂ plan.StandsFor (outcomes.map plan.usable) (others.map plan.usable)) :
    assemble endpoints plan limit others = assemble endpoints plan limit outcomes := by
  rw [assemble_def, assemble_def, failuresOf_of_standsFor stand,
    Merge.merge_of_stands plan.order room (stands_batchOf stand)]

end Aggregation

namespace Gateway

variable {gateway : Gateway} {surroundings : Surroundings} {caller : Caller} {query : RecordQuery}

/-- The answer to an admitted query does not tell which of the peers condense their records. -/
theorem result?_records_of_condensed {kind : RecordKind} {order : SortOrder}
    {filter : Option Filter} (admitted : query.Admitted caller kind order filter) {narrow : Peers}
    (condensed : ∀ sent ∈ (gateway.records surroundings caller query).requests,
      (surroundings.peers sent.1 sent.2).Condensed ⟨sent.2, order, filter⟩
        (narrow sent.1 sent.2)) :
    (gateway.records { surroundings with peers := narrow } caller query).result? =
      (gateway.records surroundings caller query).result? := by
  let plan := RecordQuery.planOf kind order filter
    (gateway.bounds.window query.limit query.deadline).limit
  apply result?_records_congr admitted plan.StandsFor
  · exact fun failure => .failed failure
  · intro endpoints outcomes instead stand
    exact Aggregation.assemble_of_standsFor (Nat.le_refl _) endpoints stand
  · intro sent member isRequest
    have condensedHere := condensed sent member
    rw [isRequest] at condensedHere ⊢
    exact condensedHere.parallel

end Gateway

/-- Merging in stages is exact. Groups of batches may be merged first, and what they come to
afterwards, if the first limit is not below the last; a merge comes to itself when it is merged
again; and the peers of an admitted query may condense their records to the limit that they are
sent, with the same answer. -/
theorem Merge.merge_in_stages (order : SortOrder) {small large : Nat} (atMost : small ≤ large) :
    (∀ groups : List (List (List Record)),
      merge (groups.map fun group => merge group order large) order small =
        merge groups.flatten order small) ∧
    (∀ batches : List (List Record),
      merge [merge batches order small] order large = merge batches order small) ∧
    ∀ (gateway : Gateway) (surroundings : Surroundings) (caller : Caller) (query : RecordQuery)
      (kind : RecordKind) (filter : Option Filter) (narrow : Peers),
      query.Admitted caller kind order filter →
      (∀ sent ∈ (gateway.records surroundings caller query).requests,
        (surroundings.peers sent.1 sent.2).Condensed ⟨sent.2, order, filter⟩
          (narrow sent.1 sent.2)) →
      (gateway.records { surroundings with peers := narrow } caller query).result? =
        (gateway.records surroundings caller query).result? := by
  refine ⟨merge_of_groups order atMost, ?_, ?_⟩
  · intro batches
    exact merge_merge order atMost batches
  · intro gateway surroundings caller query kind filter narrow admitted condensed
    exact Gateway.result?_records_of_condensed admitted condensed

/-- Two groups are cut to two records each and then to one, the least of all; and of two peers that
are asked for no more than one node, the first condenses the three that it has, and the answer is
the node of the second. -/
theorem Merge.merge_in_stages_of_four_nodes :
    let named (id : String) : Record :=
      ⟨.node, .object [("node", .object [("id", .string id), ("host", .string "h"),
          ("port", .ofNat 1), ("status", .string "UP")])],
        [.scalar (.text id), .scalar (.text "h"), .scalar (.int 1), .scalar (.enum 0 "UP"),
          .scalar .null, .scalar .null, .unread], by rfl⟩
    let order := ClusterView.byId
    let groups : List (List (List Record)) :=
      [[[named "c", named "b"], [named "b"]], [[], [named "a"]]]
    let mine := [named "c", named "b", named "b"]
    let query : RecordQuery := ⟨"nodeinfo", none, none, .ascending, some 1, none⟩
    let gateway : Gateway :=
      .new ⟨"n", ⟨"n", 3⟩, .up, .empty⟩ ⟨"space", "service"⟩ {} .allowCached .zero
    let peers (first : List Record) : Peers := fun endpoint _ =>
      if endpoint.host = "h" then .answers .zero (.ok first)
      else .answers .zero (.ok [named "a"])
    let surroundings (first : List Record) : Surroundings :=
      ⟨.zero, .ok [⟨"h", 1⟩, ⟨"i", 2⟩], peers first⟩
    1 ≤ 2 ∧
      (merge (groups.map fun group => merge group order 2) order 1).map order.key =
        [.text "a"] ∧
      merge (groups.map fun group => merge group order 2) order 1 =
        merge groups.flatten order 1 ∧
      query.Admitted (.trusted "me") .node order none ∧
      (gateway.records (surroundings mine) (.trusted "me") query).requests =
        [(⟨"h", 1⟩, ⟨.node, none, 1⟩), (⟨"i", 2⟩, ⟨.node, none, 1⟩)] ∧
      (merge [mine] order 1).map order.key = [.text "b"] ∧
      ∃ aggregation,
        (gateway.records (surroundings mine) (.trusted "me") query).result? =
          some (.ok aggregation) ∧
        (gateway.records (surroundings (merge [mine] order 1)) (.trusted "me") query).result? =
          some (.ok aggregation) ∧
        aggregation.results.map order.key = [.text "a"] ∧ aggregation.partialFailures = [] := by
  intro named order groups mine query gateway peers surroundings
  have admitted : query.Admitted (.trusted "me") .node order none :=
    ⟨rfl, by decide, ClusterView.order_eq, rfl⟩
  have requests : (gateway.records (surroundings mine) (.trusted "me") query).requests =
      [(⟨"h", 1⟩, ⟨.node, none, 1⟩), (⟨"i", 2⟩, ⟨.node, none, 1⟩)] := by
    decide +kernel
  obtain ⟨inGroups, -, atPeers⟩ := merge_in_stages order (show 1 ≤ 2 by decide)
  have same := atPeers gateway (surroundings mine) (.trusted "me") query .node none
    (peers (merge [mine] order 1)) admitted <| by
      rw [requests, List.forall_mem_cons, List.forall_mem_singleton]
      have allNodes : ∀ record ∈ mine, record.kind = .node := by
        simp [mine, named]
      constructor
      · exact @Conduct.Condensed.merged ⟨⟨.node, none, 1⟩, order, none⟩ .zero mine allNodes
      · exact .whole _
  -- Batches of one record can be merged by computation; one of several needs a sort.
  have apart : merge [mine] order 1 = merge [[named "c"], [named "b"], [named "b"]] order 1 :=
    merge_congr order 1 rfl
  have groupsApart : merge groups.flatten order 1 =
      merge [[named "c"], [named "b"], [named "b"], [named "a"]] order 1 :=
    merge_congr order 1 rfl
  have least : (merge groups.flatten order 1).map order.key = [.text "a"] := by
    rw [groupsApart]
    decide +kernel
  have own : (merge [mine] order 1).map order.key = [.text "b"] := by
    rw [apart]
    decide +kernel
  have answered : (gateway.records (surroundings (merge [mine] order 1)) (.trusted "me")
      query).result?.bind (fun result => result.toOption.map fun aggregation =>
        (aggregation.results.map order.key, aggregation.partialFailures)) =
      some ([.text "a"], []) := by
    rw [apart]
    decide +kernel
  obtain ⟨result, returned, answer⟩ := Option.bind_eq_some_iff.mp answered
  cases result with
  | error error => cases answer
  | ok aggregation =>
      obtain ⟨results, nobody⟩ := Prod.mk.inj (Option.some.inj answer)
      exact ⟨by decide, inGroups groups ▸ least, inGroups groups, admitted, requests, own,
        aggregation, same.symm.trans returned, returned, results, nobody⟩

end ClusterQuery
