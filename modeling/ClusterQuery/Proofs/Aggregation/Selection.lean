import ClusterQuery.Proofs.Aggregation
import ClusterQuery.Proofs.Merge.EqualRecords

/-!
# Filtering and merging

A filter is applied to every answer before the answers are merged. Records of one kind that repeat
each other are the same record, so a filter keeps all of them or none, and what it removes neither
reveals nor hides a repeat of what it keeps. So a filtered query returns the first records of what
is left of the whole view once the filter is applied to it.
-/

namespace ClusterQuery

namespace Merge

variable (order : SortOrder) {kind : RecordKind}

/-- Records of one kind may be filtered before or after they are merged. -/
theorem filter_wholeMerge_of_ofKind {records : List Record} (uniform : Record.OfKind kind records)
    (chosen : Record → Bool) :
    (wholeMerge order records).filter chosen = wholeMerge order (records.filter chosen) := by
  apply filter_wholeMerge
  intro left leftMember right rightMember sameEntry
  rw [uniform.eq_of_text leftMember rightMember (Prod.mk.inj sameEntry).2]

/-- Filtering the batches of a merge is filtering what it comes to without a limit. -/
theorem merge_map_filter {batches : List (List Record)}
    (uniform : Record.OfKind kind batches.flatten) (chosen : Record → Bool) (limit : Nat)
    {large : Nat} (room : batches.flatten.length ≤ large) :
    merge (batches.map fun batch => batch.filter chosen) order limit =
      ((merge batches order large).filter chosen).take limit := by
  rw [merge_eq_take_wholeMerge, merge_eq_wholeMerge order room,
    filter_wholeMerge_of_ofKind order uniform, List.filter_flatten]

end Merge

/-- A plan with a filter keeps of an answer what passes the filter among the records that the plan
keeps without it. -/
theorem QueryPlan.usable_some (plan : QueryPlan) (filter : Filter) (outcome : FetchOutcome) :
    ({ plan with filter := some filter } : QueryPlan).usable outcome =
      (({ plan with filter := none } : QueryPlan).usable outcome).map
        (List.filter filter.accepts) := by
  cases outcome with
  | error failure => rfl
  | ok records =>
      change conforming _ records = (conforming _ records).map _
      unfold conforming
      cases records.find? fun record => record.kind ≠ plan.request.kind <;> rfl

namespace Aggregation

variable {outcomes : List FetchOutcome}

/-- What is kept of the records does not change which peers are left out. -/
theorem failuresOf_map (select : List Record → List Record) (endpoints : List Endpoint)
    (outcomes : List FetchOutcome) :
    failuresOf endpoints (outcomes.map (Except.map select)) = failuresOf endpoints outcomes := by
  induction endpoints generalizing outcomes with
  | nil => rfl
  | cons endpoint endpoints ih =>
      cases outcomes with
      | nil => rfl
      | cons outcome outcomes =>
          cases outcome with
          | error failure => exact congrArg (_ :: ·) (ih outcomes)
          | ok records => exact ih outcomes

theorem map_batchOf_map_filter (chosen : Record → Bool) (outcomes : List FetchOutcome) :
    (outcomes.map (Except.map (List.filter chosen))).map batchOf =
      (outcomes.map batchOf).map (List.filter chosen) := by
  rw [List.map_map, List.map_map]
  apply List.map_congr_left
  intro outcome _
  cases outcome <;> rfl

/-- The batches that a plan would merge if it had no filter. -/
def unfiltered (plan : QueryPlan) (outcomes : List FetchOutcome) : List (List Record) :=
  (outcomes.map ({ plan with filter := none } : QueryPlan).usable).map batchOf

/-- The records of an answer that is used are of the kind that was asked for. -/
theorem ofKind_unfiltered {plan : QueryPlan} {outcomes : List FetchOutcome}
    (finite : ∀ record ∈ (unfiltered plan outcomes).flatten, record.document.isFinite = true) :
    Record.OfKind plan.request.kind (unfiltered plan outcomes).flatten := by
  refine ⟨fun record member => ?_, finite⟩
  obtain ⟨batch, isBatch, inBatch⟩ := List.mem_flatten.mp member
  obtain ⟨used, isUsed, rfl⟩ := List.mem_map.mp isBatch
  obtain ⟨outcome, -, rfl⟩ := List.mem_map.mp isUsed
  cases usable : ({ plan with filter := none } : QueryPlan).usable outcome with
  | error failure =>
      rw [usable] at inBatch
      cases inBatch
  | ok kept =>
      rw [usable] at inBatch
      obtain ⟨records, -, ofKind, rfl⟩ := (QueryPlan.usable_eq_ok_iff _).mp usable
      exact ofKind record (List.mem_filter.mp inBatch).1

/-- Filtering commutes with merging. The merge of the filtered batches is the beginning of what
passes the filter in a merge that no limit cuts; and with a filter, a plan comes to the beginning of
what passes the filter in the view that it comes to without one, and leaves out the same peers. -/
theorem filter_commutes_with_merge (filter : Filter) (limit : Nat) :
    (∀ (kind : RecordKind) (batches : List (List Record)) (order : SortOrder) (large : Nat),
      Record.OfKind kind batches.flatten → batches.flatten.length ≤ large →
      Merge.merge (batches.map fun batch => batch.filter filter.accepts) order limit =
        ((Merge.merge batches order large).filter filter.accepts).take limit) ∧
    ∀ (endpoints : List Endpoint) (plan : QueryPlan) (outcomes : List FetchOutcome) (large : Nat),
      (∀ record ∈ (unfiltered plan outcomes).flatten, record.document.isFinite = true) →
      (unfiltered plan outcomes).flatten.length ≤ large →
      assemble endpoints { plan with filter := some filter } limit outcomes =
        (assemble endpoints { plan with filter := none } large outcomes).map fun view =>
          { view with results := (view.results.filter filter.accepts).take limit } := by
  constructor
  · intro kind batches order large uniform room
    exact Merge.merge_map_filter order uniform filter.accepts limit room
  · intro endpoints plan outcomes large finite room
    have merged := Merge.merge_map_filter plan.order (ofKind_unfiltered finite) filter.accepts limit
      room
    have usable : outcomes.map ({ plan with filter := some filter } : QueryPlan).usable =
        (outcomes.map ({ plan with filter := none } : QueryPlan).usable).map
          (Except.map (List.filter filter.accepts)) := by
      rw [List.map_map]
      exact List.map_congr_left fun outcome _ => plan.usable_some filter outcome
    rw [assemble_def, assemble_def, usable, failuresOf_map, map_batchOf_map_filter]
    split
    next => rfl
    next =>
      simp only [Except.map, Except.ok.injEq, Aggregation.mk.injEq, and_true]
      exact merged

/-- The filter looks at the host and the order at the identifier. The limit is reached by a node
that two peers report, and that comes after one which does not pass. -/
theorem filter_commutes_with_merge_of_hosts :
    let named (id host : String) : Record :=
      ⟨.node, .object [("node", .object [("id", .string id), ("host", .string host),
          ("port", .ofNat 1), ("status", .string "UP")])],
        [.scalar (.text id), .scalar (.text host), .scalar (.int 1), .scalar (.enum 0 "UP"),
          .scalar .null, .scalar .null, .unread], by rfl⟩
    let order : SortOrder := ⟨⟨.node, "node.id", [0], .string⟩, .ascending⟩
    let filter : Filter := ⟨⟨.node, "node.host", [1], .string⟩, .equal, .text "h"⟩
    let batches := [[named "b" "h", named "a" "g"], [named "c" "h", named "b" "h"]]
    let endpoints : List Endpoint := [⟨"x", 1⟩, ⟨"y", 2⟩]
    let plan (filter : Option Filter) : QueryPlan := ⟨⟨.node, none, 1⟩, order, filter⟩
    Record.OfKind .node batches.flatten ∧ batches.flatten.length ≤ 4 ∧
      Merge.merge (batches.map fun batch => batch.filter filter.accepts) order 1 =
        ((Merge.merge batches order 4).filter filter.accepts).take 1 ∧
      (Merge.merge (batches.map fun batch => batch.filter filter.accepts) order 1).map
        (Record.valueAt · [0]) = [.text "b"] ∧
      assemble endpoints (plan (some filter)) 1 (batches.map .ok) =
        (assemble endpoints (plan none) 4 (batches.map .ok)).map fun view =>
          { view with results := (view.results.filter filter.accepts).take 1 } := by
  intro named order filter batches endpoints plan
  have uniform : Record.OfKind .node batches.flatten :=
    { kind_eq := by simp [batches, named]
      finite := by simp [batches, named]; decide }
  have room : batches.flatten.length ≤ 4 := by decide
  obtain ⟨ofBatches, ofOutcomes⟩ := filter_commutes_with_merge filter 1
  refine ⟨uniform, room, ofBatches .node batches order 4 uniform room, by cbv, ?_⟩
  have same : unfiltered (plan none) (batches.map .ok) = batches := by rfl
  apply ofOutcomes endpoints (plan none) (batches.map .ok) 4
  · rw [same]
    exact uniform.finite
  · rw [same]
    exact room

end Aggregation

end ClusterQuery
