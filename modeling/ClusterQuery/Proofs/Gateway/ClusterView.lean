import ClusterQuery.Proofs.ClusterView
import ClusterQuery.Proofs.Directory.Freshness
import ClusterQuery.Proofs.Gateway.Admission

/-!
# Views of the cluster

A caller with the capability gets a view of whatever endpoints the service has, and if it has none,
one of the local node alone. A control plane that cannot say which endpoints there are stands in the
way, and so does a deadline that the clock cannot name; peers cannot.
-/

namespace ClusterQuery.Gateway

variable {gateway : Gateway} {surroundings : Surroundings} {caller : Caller}

/-- The window of every view. -/
def viewWindow (gateway : Gateway) : Window := gateway.bounds.window none none

theorem clusterView_of_refused (lacks : .readClusterInfo ∉ caller.capabilities) :
    gateway.clusterView surroundings caller =
      gateway.refuse ⟨caller.principal, .readClusterInfo⟩ := by
  simp only [clusterView, Caller.require_of_not_mem lacks]

theorem clusterView_of_error (allowed : .readClusterInfo ∈ caller.capabilities)
    {error : DirectoryError}
    (unresolved : viewEndpoints (gateway.resolve surroundings).result = .error error) :
    gateway.clusterView surroundings caller =
      { (gateway.afterResolution (gateway.resolve surroundings)).stopped (.directory error) with
        asked := (gateway.resolve surroundings).asked } := by
  simp only [clusterView, Caller.require_of_mem allowed, unresolved]

theorem clusterView_of_ok (allowed : .readClusterInfo ∈ caller.capabilities)
    {endpoints : List Endpoint}
    (resolved : viewEndpoints (gateway.resolve surroundings).result = .ok endpoints) :
    gateway.clusterView surroundings caller =
      (gateway.afterResolution (gateway.resolve surroundings)).concluded
        (gateway.resolve surroundings) .ofView
        (ClusterView.runOn surroundings.course (surroundings.peers.listeners endpoints) gateway.node
          gateway.viewWindow) := by
  simp only [clusterView, Caller.require_of_mem allowed, resolved]
  rfl

/-- Whether the view of endpoints comes about in given surroundings. -/
def Viewable (gateway : Gateway) (surroundings : Surroundings) (endpoints : List Endpoint) : Prop :=
  ClusterView.ComesAbout surroundings.course (surroundings.peers.listeners endpoints)
    gateway.viewWindow

theorem viewable_nil (gateway : Gateway) (surroundings : Surroundings) :
    gateway.Viewable surroundings [] :=
  .inl rfl

/-- The view of endpoints, if it comes about. -/
def viewOf (gateway : Gateway) (surroundings : Surroundings) (endpoints : List Endpoint) :
    Aggregation :=
  ClusterView.viewOf surroundings.course (surroundings.peers.listeners endpoints) gateway.node
    gateway.viewWindow

/-- A caller with the capability gets a view unless the resolution fails or the call dies. -/
theorem result?_clusterView_of_ok (allowed : .readClusterInfo ∈ caller.capabilities)
    {endpoints : List Endpoint}
    (resolved : viewEndpoints (gateway.resolve surroundings).result = .ok endpoints)
    (viewable : gateway.Viewable surroundings endpoints) :
    (gateway.clusterView surroundings caller).result? =
      some (.ok (gateway.viewOf surroundings endpoints)) := by
  rw [clusterView_of_ok allowed resolved, concluded, ClusterView.result?_runOn viewable]
  rfl

theorem result?_clusterView_of_not_viewable (allowed : .readClusterInfo ∈ caller.capabilities)
    {endpoints : List Endpoint}
    (resolved : viewEndpoints (gateway.resolve surroundings).result = .ok endpoints)
    (never : ¬gateway.Viewable surroundings endpoints) :
    (gateway.clusterView surroundings caller).result? = none := by
  rw [clusterView_of_ok allowed resolved, concluded, ClusterView.result?_runOn_of_not never]
  rfl

/-- The error of a call that asks for a view is that of the resolution. -/
theorem result?_clusterView_eq_error_iff (allowed : .readClusterInfo ∈ caller.capabilities)
    {error : CallError} :
    (gateway.clusterView surroundings caller).result? = some (.error error) ↔
      ∃ failure, viewEndpoints (gateway.resolve surroundings).result = .error failure ∧
        error = .directory failure := by
  cases resolved : viewEndpoints (gateway.resolve surroundings).result with
  | error failure =>
      rw [clusterView_of_error allowed resolved, stopped]
      simp [eq_comm]
  | ok endpoints =>
      have noError : (gateway.clusterView surroundings caller).result? ≠ some (.error error) := by
        by_cases viewable : gateway.Viewable surroundings endpoints
        · rw [result?_clusterView_of_ok allowed resolved viewable]
          exact nofun
        · rw [result?_clusterView_of_not_viewable allowed resolved viewable]
          exact nofun
      simp [noError]

/-- Only a control plane that cannot say which endpoints there are makes a view fail. -/
theorem viewEndpoints_eq_error_iff {error : DirectoryError} :
    viewEndpoints (gateway.resolve surroundings).result = .error error ↔
      ∃ failure, failure ≠ .notFound ∧ surroundings.answer = .error failure ∧
        error = .unavailable gateway.service failure ∧
        (gateway.resolve surroundings).result = .error error := by
  constructor
  · intro failed
    cases resolved : (gateway.resolve surroundings).result with
    | ok endpoints =>
        rw [resolved] at failed
        cases failed
    | error other =>
        rcases Directory.of_resolve_eq_error resolved with rfl | ⟨failure, known, answer, rfl⟩
        · rw [resolved] at failed
          cases failed
        · rw [resolved] at failed
          cases failed
          exact ⟨failure, known, answer, rfl, rfl⟩
  · rintro ⟨failure, -, -, rfl, resolved⟩
    rw [resolved]
    rfl

/-- A service for which the control plane lists nothing comes down to no endpoints. -/
theorem viewEndpoints_of_unregistered (asked : (gateway.resolve surroundings).asked = true)
    (nothing : surroundings.answer = .ok [] ∨ surroundings.answer = .error .notFound) :
    viewEndpoints (gateway.resolve surroundings).result = .ok [] := by
  have told : (gateway.resolve surroundings).result =
      Directory.told gateway.service surroundings.answer := by
    rw [resolve, Directory.asked_resolve, Option.isNone_iff_eq_none] at asked
    rw [resolve, Directory.resolve, Directory.resolveBetween_of_missed asked]
    refine Directory.result_answered_of_isDecisive surroundings.now gateway.freshness ?_
    rcases nothing with empty | unknown
    · rw [empty]
      rfl
    · rw [unknown]
      rfl
  rw [told]
  rcases nothing with empty | unknown
  · rw [empty]
    rfl
  · rw [unknown]
    rfl

/-- What a caller with the capability can rely on when it asks for a view. -/
structure ViewGuarantee (gateway : Gateway) (surroundings : Surroundings) (caller : Caller) :
    Prop where
  /-- The endpoints of the service are viewed, whatever their peers do. -/
  viewed : ∀ endpoints, viewEndpoints (gateway.resolve surroundings).result = .ok endpoints →
    gateway.Viewable surroundings endpoints →
      ∃ view, (gateway.clusterView surroundings caller).result? = some (.ok view) ∧
        ClusterView.Faithful surroundings.course (surroundings.peers.listeners endpoints)
          gateway.node gateway.viewWindow view
  /-- With a deadline that the clock cannot name the call dies once someone is to be asked. -/
  beyond : ∀ endpoints, viewEndpoints (gateway.resolve surroundings).result = .ok endpoints →
    ¬gateway.Viewable surroundings endpoints →
      (gateway.clusterView surroundings caller).result? = none
  /-- Without endpoints, the local node is viewed alone. -/
  alone : viewEndpoints (gateway.resolve surroundings).result = .ok [] →
    0 < gateway.viewWindow.limit →
      (gateway.clusterView surroundings caller).result? = some (.ok ⟨[gateway.node.record], []⟩)
  /-- There are no endpoints if the control plane is asked and lists none. -/
  unregistered : (gateway.resolve surroundings).asked = true →
    surroundings.answer = .ok [] ∨ surroundings.answer = .error .notFound →
      viewEndpoints (gateway.resolve surroundings).result = .ok []
  /-- The call fails if and only if the control plane cannot say and no snapshot helps. -/
  unavailable : ∀ error,
    (gateway.clusterView surroundings caller).result? = some (.error error) ↔
      ∃ failure, failure ≠ .notFound ∧ surroundings.answer = .error failure ∧
        (gateway.resolve surroundings).result = .error (.unavailable gateway.service failure) ∧
        error = .directory (.unavailable gateway.service failure)

theorem viewGuarantee_of_allowed (allowed : .readClusterInfo ∈ caller.capabilities) :
    ViewGuarantee gateway surroundings caller := by
  constructor
  case viewed =>
    intro endpoints resolved viewable
    exact ⟨_, result?_clusterView_of_ok allowed resolved viewable,
      ClusterView.faithful_viewOf viewable gateway.node⟩
  case beyond =>
    intro endpoints resolved never
    exact result?_clusterView_of_not_viewable allowed resolved never
  case alone =>
    intro resolved some
    rw [result?_clusterView_of_ok allowed resolved (viewable_nil gateway surroundings)]
    exact congrArg (Option.some <| Except.ok ·)
      (ClusterView.viewOf_nil surroundings.course gateway.node some)
  case unregistered => exact viewEndpoints_of_unregistered
  case unavailable =>
    intro error
    rw [result?_clusterView_eq_error_iff allowed]
    constructor
    · rintro ⟨other, failed, rfl⟩
      obtain ⟨failure, known, answer, rfl, failed⟩ := viewEndpoints_eq_error_iff.mp failed
      exact ⟨failure, known, answer, failed, rfl⟩
    · rintro ⟨failure, known, answer, failed, rfl⟩
      exact ⟨_, viewEndpoints_eq_error_iff.mpr ⟨failure, known, answer, rfl, failed⟩, rfl⟩

/-- What a view is. Whatever peers do, a view of given endpoints is faithful to what they do, and it
comes about unless there are some to ask and the clock cannot name the deadline. A caller with the
capability gets one, unless the control plane cannot say which endpoints there are. -/
theorem views_are_faithful (course : FanOut.Course) (listeners : List Listener) (node : Node)
    (window : Window) (gateway : Gateway) (surroundings : Surroundings) (caller : Caller) :
    (ClusterView.ComesAbout course listeners window →
      ∃ view, (ClusterView.runOn course listeners node window).result? = some (.ok view) ∧
        ClusterView.Faithful course listeners node window view) ∧
    (¬ClusterView.ComesAbout course listeners window →
      (ClusterView.runOn course listeners node window).result? = none) ∧
    (.readClusterInfo ∈ caller.capabilities → ViewGuarantee gateway surroundings caller) := by
  refine ⟨fun about => ?_, fun never => ?_, ?_⟩
  · exact ⟨_, ClusterView.result?_runOn about node, ClusterView.faithful_viewOf about node⟩
  · exact ClusterView.result?_runOn_of_not never node
  · exact viewGuarantee_of_allowed

/-- A peer that claims the local identifier beside its own, one that sends a log record, one that
hangs and one that dies: the view holds the local node and one other, and lists the last three.
A service that is not registered leaves the local node alone. -/
theorem views_of_unruly_peers :
    let body (id : String) : Json := .object [("node", .object [("id", .string id),
      ("host", .string "h"), ("port", .ofNat 1), ("status", .string "DOWN")])]
    let log : Json := .object [("log", .object [("ts", .ofNat 0), ("level", .string "INFO"),
      ("logger", .string "l"), ("thread", .string "t"), ("message", .string "m"),
      ("node", .string "x")])]
    let listeners : List Listener :=
      [⟨⟨"a", 1⟩, fun _ => .answers .zero (.ofBody .node (.array [body "x", body "n"]))⟩,
        ⟨⟨"b", 2⟩, fun _ => .answers .zero (.ofBody .log (.array [log]))⟩,
        ⟨⟨"c", 3⟩, fun _ => .hangs⟩, ⟨⟨"d", 4⟩, fun _ => .dies⟩]
    let node : Node := ⟨"n", ⟨"localhost", 5⟩, .up, .empty⟩
    let window : Window := ⟨.ofSeconds 1, 5⟩
    let gateway : Gateway := .new node ⟨"space", "service"⟩ {} .allowCached .zero
    let surroundings : Surroundings := ⟨.zero, .error .notFound, fun _ _ => .hangs⟩
    ClusterView.ComesAbout {} listeners window ∧
    (∃ view, (ClusterView.runOn {} listeners node window).result? = some (.ok view) ∧
      view.partialFailures =
        [⟨⟨"b", 2⟩, .decoding "expression compiled for nodeinfo records applied to log records"⟩,
          ⟨⟨"c", 3⟩, .timedOut window.deadline⟩, ⟨⟨"d", 4⟩, .timedOut window.deadline⟩] ∧
      view.results.length = 2 ∧
      ∀ record ∈ view.results, ClusterView.byId.key record = .text "n" → record = node.record) ∧
    .readClusterInfo ∈ (Caller.trusted "me").capabilities ∧
      (gateway.clusterView surroundings (.trusted "me")).result? =
        some (.ok ⟨[node.record], []⟩) := by
  intro body log listeners node window gateway surroundings
  have reaches : ({} : FanOut.Course).reaches window.deadline = true := by decide
  have about : ClusterView.ComesAbout {} listeners window := .inr reaches
  obtain ⟨views, -, guarantee⟩ :=
    views_are_faithful {} listeners node window gateway surroundings (.trusted "me")
  obtain ⟨view, result, faithful⟩ := views about
  have allowed : .readClusterInfo ∈ (Caller.trusted "me").capabilities := by decide
  have isView := Except.ok.inj
    (Option.some.inj (result.symm.trans (ClusterView.result?_runOn about node)))
  have found : (view.partialFailures, view.results.length) =
      ([⟨⟨"b", 2⟩, .decoding "expression compiled for nodeinfo records applied to log records"⟩,
        ⟨⟨"c", 3⟩, .timedOut window.deadline⟩, ⟨⟨"d", 4⟩, .timedOut window.deadline⟩], 2) := by
    rw [isView]
    decide +kernel
  obtain ⟨failures, length⟩ := Prod.mk.inj found
  refine ⟨about, ⟨view, result, failures, length, faithful.genuine⟩, allowed, ?_⟩
  have promised := guarantee allowed
  exact promised.alone (promised.unregistered rfl (.inr rfl)) (by decide)

/-- With the longest deadline that can be given, the view of one peer does not come about, though
the peer answers at once. -/
theorem no_view_beyond_clock :
    let listeners : List Listener := [⟨⟨"a", 1⟩, fun _ => .answers .zero (.ok [])⟩]
    let node : Node := ⟨"n", ⟨"localhost", 5⟩, .up, .empty⟩
    ¬∃ view, (ClusterView.runOn {} listeners node ⟨⟨Time.Span.maxNanos⟩, 5⟩).result? =
      some (.ok view) := by
  intro listeners node
  rintro ⟨view, result⟩
  have died := ClusterView.runOn_of_not_reaches
    (show ({} : FanOut.Course).reaches (Window.mk ⟨Time.Span.maxNanos⟩ 5).deadline = false by
      decide)
    (show listeners ≠ [] from List.cons_ne_nil _ _) node
  rw [died] at result
  cases result

end ClusterQuery.Gateway
