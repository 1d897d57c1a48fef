import ClusterQuery.Aggregation
import ClusterQuery.Node

/-!
# Cluster view

The nodes of the cluster as the local node sees them: its own record, and what every peer says
about itself, in the order of node identifiers. The local node always answers, so a view never
fails because of its peers; a peer that claims the local identifier is left out.
-/

namespace ClusterQuery.ClusterView

/-- The order of a view: ascending node identifiers. -/
def order : Except QueryError SortOrder := do
  let path ← FieldPath.compile RecordKind.node.defaultSort .node
  return ⟨path, .ascending⟩

/-- The request that every peer gets. -/
def request (window : Window) : FetchRequest := ⟨.node, none, window.limit⟩

/-- The node records of an answer that do not claim the local identifier. -/
def remoteNodes (path : FieldPath) (localId : String) (records : List Record) : FetchOutcome :=
  match records.find? fun record => record.kind ≠ path.kind with
  | some stray => .error (.decoding (QueryError.kindMismatch path.kind stray.kind).message)
  | none => .ok (records.filter fun record => path.extract record ≠ .text localId)

/-- The batches of the outcomes that can be used. -/
def usableBatches : List FetchOutcome → List (List Record)
  | [] => []
  | .ok records :: rest => records :: usableBatches rest
  | .error _ :: rest => usableBatches rest

/-- Merges the local record with what the peers said. -/
def assemble (localRecord : Record) (localId : String) (order : SortOrder)
    (endpoints : List Endpoint) (limit : Nat) (outcomes : List FetchOutcome) : Aggregation :=
  let usable := outcomes.map fun outcome => outcome.bind (remoteNodes order.path localId)
  ⟨Merge.merge ([localRecord] :: usableBatches usable) order limit,
    Aggregation.failuresOf endpoints usable⟩

/-- Why a view fails: its order or the local record does not come about. -/
inductive Error where
  | query (error : QueryError)
  | record (error : RecordError)

/-- Asks listeners and assembles the view. Without endpoints there is no fan-out. -/
def runOn (course : FanOut.Course) (listeners : List Listener) (node : Node) (window : Window) :
    AggregationReport Error :=
  match order, node.toRecord with
  | .error error, _ => .settled (.error (.query error))
  | .ok _, .error error => .settled (.error (.record error))
  | .ok order, .ok localRecord =>
      let run :=
        if listeners.isEmpty then .idle
        else FanOut.run course window.deadline (request window) listeners
      match run.report? with
      | none => .died run.requests
      | some report =>
          let endpoints := listeners.map Listener.endpoint
          let view := assemble localRecord node.id order endpoints window.limit report.outcomes
          { result? := some (.ok view)
            requests := run.requests
            elapsed := report.elapsed
            updates := Aggregation.fetchUpdates .node report.received ++
              Aggregation.callUpdates .node (Aggregation.outcomeName view.partialFailures)
                view.partialFailures }

/-- Asks every endpoint and assembles the view. -/
def run (peers : Peers) (endpoints : List Endpoint) (node : Node) (window : Window)
    (course : FanOut.Course := {}) : AggregationReport Error :=
  runOn course (peers.listeners endpoints) node window

end ClusterQuery.ClusterView
