import ClusterQuery.Endpoint
import ClusterQuery.Record.Decoding
import ClusterQuery.Time.Span

/-!
# Requests to peers

What a peer is asked for, and how a request may fail. A failure concerns one peer; the others
are not touched by it.
-/

namespace ClusterQuery

/-- What every peer is asked for. -/
structure FetchRequest where
  kind : RecordKind
  /-- The canonical text of a filter that the peer may apply. -/
  filter : Option String
  limit : Nat
deriving DecidableEq, Repr

/-- Why a peer did not deliver. -/
inductive FetchFailure where
  | timedOut (after : Time.Span)
  | connection (reason : String)
  | status (code : Nat) (body : String)
  | decoding (reason : String)
  | aborted (reason : String)
deriving DecidableEq, Repr

namespace FetchFailure

def message : FetchFailure → String
  | .timedOut after => "timed out after " ++ after.text
  | .connection reason => "connection failed: " ++ reason
  | .status code body => s!"unexpected status {code}: " ++ body
  | .decoding reason => "decoding response: " ++ reason
  | .aborted reason => "sub-request aborted: " ++ reason

/-- The label of a failure in metrics. -/
def label : FetchFailure → String
  | .timedOut _ => "timeout"
  | .connection _ => "connection"
  | .status _ _ => "status"
  | .decoding _ => "decode"
  | .aborted _ => "aborted"

end FetchFailure

/-- What a request to one peer came to. -/
abbrev FetchOutcome := Except FetchFailure (List Record)

/-- The label of an outcome in metrics. -/
def FetchOutcome.label (outcome : FetchOutcome) : String :=
  match outcome with
  | .ok _ => "success"
  | .error failure => failure.label

/-- The outcome of a body that a peer sent for records of a kind. -/
def FetchOutcome.ofBody (kind : RecordKind) (body : Json) : FetchOutcome :=
  match Record.decodeBatch kind body with
  | .ok records => .ok records
  | .error error => .error (.decoding error.message)

end ClusterQuery
