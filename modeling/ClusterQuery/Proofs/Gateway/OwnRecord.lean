import ClusterQuery.Proofs.Gateway.ClusterView
import ClusterQuery.Proofs.Merge.Standing

/-!
# Whether the local node sees itself

A view is cut to its limit after the local record was merged in, so the local record has no place of
its own: it is in the view as long as the limit exceeds the number of records of other nodes that
come before it, and each of those counts once however many peers repeat it.
-/

namespace ClusterQuery

namespace ClusterView

/-- The records of other nodes that come before the local one, each once. -/
def ahead (course : FanOut.Course) (listeners : List Listener) (node : Node) (window : Window) :
    List (Value × String) :=
  Merge.entriesBefore byId node.record
    (remoteRecords node.id (FanOut.outcomesOf course window.deadline (request window) listeners))

/-- Among the records that a view is merged from, the node's own is the only one with its
identifier. -/
theorem filter_sameKey_own (node : Node) (outcomes : List FetchOutcome) :
    (node.record :: remoteRecords node.id outcomes).filter (Merge.sameKey byId node.record) =
      [node.record] := by
  apply Merge.filter_sameKey_cons byId
  intro record member
  exact of_decide_eq_true (List.mem_filter.mp member).2

/-- The node's own record is in a view once if the limit exceeds the number of records before it,
and otherwise not at all; no other record has the local identifier. -/
def SeesItself (course : FanOut.Course) (listeners : List Listener) (node : Node) (window : Window)
    (view : Aggregation) : Prop :=
  (view.results.filter fun record => byId.key record = .text node.id) =
    if (ahead course listeners node window).length < window.limit then [node.record] else []

theorem seesItself_viewOf (course : FanOut.Course) (listeners : List Listener) (node : Node)
    (window : Window) :
    SeesItself course listeners node window (viewOf course listeners node window) := by
  let outcomes := FanOut.outcomesOf course window.deadline (request window) listeners
  have alone : ([node.record :: remoteRecords node.id outcomes].flatten).filter
      (Merge.sameKey byId node.record) = [node.record] := by
    rw [List.flatten_singleton]
    exact filter_sameKey_own node _
  have standing := Merge.filter_sameKey_merge byId window.limit alone
  rw [List.flatten_singleton, Merge.entriesBefore_cons_self, ← results_viewOf] at standing
  refine (List.filter_congr fun record _ => ?_).trans standing
  rw [Bool.eq_iff_iff, decide_eq_true_iff, Merge.sameKey_iff]
  exact eq_comm

end ClusterView

namespace Gateway

variable {gateway : Gateway} {surroundings : Surroundings} {caller : Caller} {view : Aggregation}

/-- A caller that gets a view has the capability. -/
theorem allowed_of_clusterView
    (success : (gateway.clusterView surroundings caller).result? = some (.ok view)) :
    .readClusterInfo ∈ caller.capabilities := by
  by_contra lacks
  rw [clusterView, Caller.require_of_not_mem lacks] at success
  cases success

/-- The view that a caller gets is that of the endpoints of the service. -/
theorem clusterView_eq_ok
    (success : (gateway.clusterView surroundings caller).result? = some (.ok view)) :
    ∃ endpoints, viewEndpoints (gateway.resolve surroundings).result = .ok endpoints ∧
      view = gateway.viewOf surroundings endpoints := by
  have allowed := allowed_of_clusterView success
  cases resolved : viewEndpoints (gateway.resolve surroundings).result with
  | error error =>
      rw [clusterView_of_error allowed resolved] at success
      cases success
  | ok endpoints =>
      by_cases viewable : gateway.Viewable surroundings endpoints
      · rw [result?_clusterView_of_ok allowed resolved viewable] at success
        cases success
        exact ⟨endpoints, rfl, rfl⟩
      · rw [result?_clusterView_of_not_viewable allowed resolved viewable] at success
        cases success

/-- Whether the local node is in a view depends on the limit and on the records before its own
alone, in every view of given endpoints and in every view that a caller gets. -/
theorem own_record_within_limit :
    (∀ (course : FanOut.Course) (listeners : List Listener) (node : Node) (window : Window),
      let result? := (ClusterView.runOn course listeners node window).result?
      (ClusterView.ComesAbout course listeners window → ∃ view, result? = some (.ok view)) ∧
        ∀ view, result? = some (.ok view) →
          ClusterView.SeesItself course listeners node window view) ∧
      ∀ (gateway : Gateway) (surroundings : Surroundings) (caller : Caller) (view : Aggregation),
        (gateway.clusterView surroundings caller).result? = some (.ok view) →
          ∃ endpoints, viewEndpoints (gateway.resolve surroundings).result = .ok endpoints ∧
            ClusterView.SeesItself surroundings.course (surroundings.peers.listeners endpoints)
              gateway.node gateway.viewWindow view := by
  constructor
  · intro course listeners node window result?
    refine ⟨fun about => ⟨_, ClusterView.result?_runOn about node⟩, fun view success => ?_⟩
    by_cases about : ClusterView.ComesAbout course listeners window
    · rw [show result? = _ from ClusterView.result?_runOn about node] at success
      cases success
      exact ClusterView.seesItself_viewOf course listeners node window
    · rw [show result? = _ from ClusterView.result?_runOn_of_not about node] at success
      cases success
  · intro gateway surroundings caller view success
    obtain ⟨endpoints, resolved, rfl⟩ := clusterView_eq_ok success
    exact ⟨endpoints, resolved, ClusterView.seesItself_viewOf ..⟩

/-- With one record before its own and one after it, the local node sees itself from a limit of two
on; with none, a caller's view is of the local node. -/
theorem own_record_between_two :
    let body (id : String) : Json := .object [("node", .object [("id", .string id),
      ("host", .string "h"), ("port", .ofNat 1), ("status", .string "UP")])]
    let listeners : List Listener :=
      [⟨⟨"a", 1⟩, fun _ => .answers .zero (.ofBody .node (.array [body "a0", body "z9"]))⟩]
    let node : Node := ⟨"m5", ⟨"localhost", 5⟩, .up, .empty⟩
    let window : Window := ⟨.ofSeconds 1, 2⟩
    let gateway : Gateway := .new node ⟨"space", "service"⟩ {} .allowCached .zero
    let surroundings : Surroundings := ⟨.zero, .error .notFound, fun _ _ => .hangs⟩
    (∃ view, (ClusterView.runOn {} listeners node window).result? = some (.ok view) ∧
      (view.results.filter fun record => ClusterView.byId.key record = .text "m5") =
        [node.record]) ∧
    (gateway.clusterView surroundings (.trusted "me")).result? = some (.ok ⟨[node.record], []⟩) ∧
      ∃ endpoints, viewEndpoints (gateway.resolve surroundings).result = .ok endpoints ∧
        ClusterView.SeesItself surroundings.course (surroundings.peers.listeners endpoints) node
          gateway.viewWindow ⟨[node.record], []⟩ := by
  intro body listeners node window gateway surroundings
  obtain ⟨views, calls⟩ := own_record_within_limit
  have reaches : ({} : FanOut.Course).reaches window.deadline = true := by decide
  obtain ⟨view, result⟩ := (views {} listeners node window).1 (.inr reaches)
  have seesItself := (views {} listeners node window).2 view result
  have one : (ClusterView.ahead {} listeners node window).length = 1 := by decide +kernel
  rw [ClusterView.SeesItself, one, if_pos (by decide)] at seesItself
  have allowed : .readClusterInfo ∈ (Caller.trusted "me").capabilities := by decide
  have promised : ViewGuarantee gateway surroundings (.trusted "me") :=
    viewGuarantee_of_allowed allowed
  have alone := promised.alone rfl (by decide)
  exact ⟨⟨view, result, seesItself⟩, alone, calls gateway surroundings _ _ alone⟩

/-- A limit of one goes to the node with the least identifier, which need not be the local one. -/
theorem own_record_cut_off :
    let peer : Json := .object [("node", .object [("id", .string "a0"), ("host", .string "h"),
      ("port", .ofNat 1), ("status", .string "UP")])]
    let listeners : List Listener :=
      [⟨⟨"a", 1⟩, fun _ => .answers .zero (.ofBody .node (.array [peer]))⟩]
    let node : Node := ⟨"m5", ⟨"localhost", 5⟩, .up, .empty⟩
    let window : Window := ⟨.ofSeconds 1, 1⟩
    1 ≤ window.limit ∧
      ∃ view, (ClusterView.runOn {} listeners node window).result? = some (.ok view) ∧
        node.record ∉ view.results := by
  intro peer listeners node window
  have reaches : ({} : FanOut.Course).reaches window.deadline = true := by decide
  refine ⟨Nat.le_refl 1, _, ClusterView.result?_runOn (.inr reaches) node, fun member => ?_⟩
  have one : (ClusterView.ahead {} listeners node window).length = 1 := by decide +kernel
  have nowhere := ClusterView.seesItself_viewOf {} listeners node window
  rw [ClusterView.SeesItself, one, if_neg (Nat.lt_irrefl 1), List.filter_eq_nil_iff] at nowhere
  exact nowhere node.record member (decide_eq_true (ClusterView.key_record node))

end Gateway

end ClusterQuery
