import ClusterQuery.Fetch.FanOut
import ClusterQuery.Http.Exchange
import ClusterQuery.Json.Reader
import ClusterQuery.Settings.Basic
import ClusterQuery.Text.Truncation

/-!
# Peer client

How a peer is asked over HTTP and what its response means. A body that is no JSON, or records
that do not conform, are decoding failures; the body of an unsuccessful response is kept up to a
number of bytes.
-/

namespace ClusterQuery

/-- How peers are asked. -/
structure PeerClient where
  scheme : String
  basePath : String
  timeout : Time.Span
deriving DecidableEq, Repr

namespace PeerClient

/-- A text without the slashes at its end. -/
def dropSlashes (text : String) : String :=
  String.ofList (text.toList.reverse.dropWhile (· == '/')).reverse

/-- The client for some settings; without a deadline it waits five seconds. -/
def ofSettings (settings : AggregationSettings) : PeerClient :=
  ⟨settings.scheme, dropSlashes settings.basePath,
    if settings.deadline.isZero then .ofSeconds 5 else settings.deadline⟩

/-- The request for records to an endpoint. -/
def request (client : PeerClient) (endpoint : Endpoint) (wanted : FetchRequest) : HttpRequest :=
  let limit := ("limit", toString wanted.limit)
  let query :=
    match wanted.filter with
    | some filter => [limit, ("filter", filter)]
    | none => [limit]
  ⟨.ofPath client.scheme endpoint.text (client.basePath ++ "/" ++ wanted.kind.tag) query, none⟩

/-- The greatest number of bytes kept of the body of an unsuccessful response. -/
def maxErrorBody : Nat := 512

/-- The wording of a body that is no JSON or breaks off. -/
def unreadableBody : String := "error decoding response body"

/-- What a response means for records of a kind. -/
def outcomeOf (kind : RecordKind) (response : HttpResponse) : FetchOutcome :=
  if response.isSuccess then
    match response.strictText?.bind Json.read? with
    | some body => .ofBody kind body
    | none => .error (.decoding unreadableBody)
  else .error (.status response.status (Text.truncateBytes maxErrorBody response.looseText))

def outcome (client : PeerClient) (request : HttpRequest) (kind : RecordKind) :
    Exchange → FetchOutcome
  | .broken => .error (.connection request.unsentText)
  | .silent => .error (.timedOut client.timeout)
  | .answered response => outcomeOf kind response

/-- How an exchange that ended after some time looks to a caller. A silent one ends when the
client gives up. -/
def conduct (client : PeerClient) (request : HttpRequest) (kind : RecordKind)
    (after : Time.Span) (exchange : Exchange) : Conduct :=
  match exchange with
  | .silent => .answers client.timeout (client.outcome request kind .silent)
  | other => .answers after (client.outcome request kind other)

end PeerClient

end ClusterQuery
