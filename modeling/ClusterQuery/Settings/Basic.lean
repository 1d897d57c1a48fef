import ClusterQuery.Aggregation
import ClusterQuery.Directory
import ClusterQuery.Node

/-!
# Settings

What an operator sets: the local node, how peers are found, the bounds of a call, and where the
health server listens. `validate` reports the first setting, in a fixed order, that cannot be
used.
-/

namespace ClusterQuery

/-- The local node. -/
structure NodeSettings where
  id : String := ""
  host : String := "127.0.0.1"
  port : UInt16 := 8080
  labels : Labels := .empty

/-- How peers are found. -/
structure DiscoverySettings where
  space : String := "default"
  service : String := ""
  /-- Base address of the control plane. -/
  server : String := ""
  token : Option String := none
  portName : Option String := none
  /-- Fixed peers, which replace the control plane. -/
  fixed : List String := []
  timeout : Time.Span := .ofSeconds 5
  timeToLive : Time.Span := .zero
  refreshInterval : Time.Span := .ofSeconds 30

/-- The bounds of a call and the form of requests to peers. -/
structure AggregationSettings where
  deadline : Time.Span := .ofSeconds 5
  defaultLimit : Nat := 100
  maxLimit : Nat := 10000
  scheme : String := "http"
  basePath : String := "/actuator"

/-- All settings. -/
structure Settings where
  logLevel : String := "info"
  node : NodeSettings := {}
  discovery : DiscoverySettings := {}
  aggregation : AggregationSettings := {}
  healthAddress : String := ":9090"

namespace AggregationSettings

/-- The bounds of one call: what the caller asks for, or what is set. A deadline of zero counts as
not asked for, and no limit exceeds the greatest one. -/
def window (settings : AggregationSettings) (limit : Option Nat) (deadline : Option Time.Span) :
    Window :=
  { deadline := (deadline.filter fun span => !span.isZero).getD settings.deadline
    limit := min (limit.getD settings.defaultLimit) settings.maxLimit }

end AggregationSettings

namespace NodeSettings

/-- What the local node says about itself; it is always up. -/
def descriptor (settings : NodeSettings) : Node :=
  ⟨settings.id, ⟨settings.host, settings.port⟩, .up, settings.labels⟩

end NodeSettings

namespace DiscoverySettings

def fixedEndpoints (settings : DiscoverySettings) : Except Endpoint.Fault (List Endpoint) :=
  settings.fixed.mapM Endpoint.read

/-- The service whose endpoints are the peers. -/
def serviceKey (settings : DiscoverySettings) : ServiceKey := ⟨settings.space, settings.service⟩

end DiscoverySettings

/-- A setting that cannot be used. -/
inductive SettingsFault where
  | nodeIdMissing
  | portZero
  | serviceMissing
  | serverMissing
  | fixedEndpoint (fault : Endpoint.Fault)
  | refreshIntervalZero
  | deadlineZero
  | maxLimitZero
  | defaultLimitZero
  | defaultAboveMax (defaultLimit maxLimit : Nat)
  | unknownScheme (scheme : String)
  | basePathRelative
deriving DecidableEq, Repr

/-- The wording of a fault and of its causes, the outer one first. -/
def SettingsFault.messages : SettingsFault → List String
  | .nodeIdMissing => ["node.node_id is required"]
  | .portZero => ["node.port must be positive"]
  | .serviceMissing => ["discovery.service_name is required"]
  | .serverMissing =>
      ["discovery.api_server is required when discovery.static_endpoints is empty"]
  | .fixedEndpoint fault => "invalid discovery.static_endpoints" :: fault.messages
  | .refreshIntervalZero => ["discovery.refresh_interval must be positive"]
  | .deadlineZero => ["aggregation.deadline must be positive"]
  | .maxLimitZero => ["aggregation.max_limit must be positive"]
  | .defaultLimitZero => ["aggregation.default_limit must be positive"]
  | .defaultAboveMax defaultLimit maxLimit =>
      [s!"aggregation.default_limit ({defaultLimit}) must not exceed aggregation.max_limit ({maxLimit})"]
  | .unknownScheme scheme => ["invalid aggregation.scheme: " ++ scheme]
  | .basePathRelative => ["aggregation.base_path must start with '/'"]

namespace Settings

/-- Fails with a fault unless a condition holds. -/
def ensure (condition : Bool) (fault : SettingsFault) : Except SettingsFault Unit :=
  if condition then .ok () else .error fault

/-- Checks that there are peers to be found: fixed ones that can be read, or a control plane. -/
def validatePeers (settings : DiscoverySettings) : Except SettingsFault Unit :=
  if settings.fixed.isEmpty then ensure (settings.server ≠ "") .serverMissing
  else
    match settings.fixedEndpoints with
    | .ok _ => .ok ()
    | .error fault => .error (.fixedEndpoint fault)

/-- Checks the bounds of calls and the form of requests. -/
def validateAggregation (settings : AggregationSettings) : Except SettingsFault Unit := do
  ensure (!settings.deadline.isZero) .deadlineZero
  ensure (settings.maxLimit ≠ 0) .maxLimitZero
  ensure (settings.defaultLimit ≠ 0) .defaultLimitZero
  ensure (settings.defaultLimit ≤ settings.maxLimit)
    (.defaultAboveMax settings.defaultLimit settings.maxLimit)
  ensure (settings.scheme = "http" ∨ settings.scheme = "https") (.unknownScheme settings.scheme)
  ensure (settings.basePath.toList.head? = some '/') .basePathRelative

def validate (settings : Settings) : Except SettingsFault Unit := do
  ensure (settings.node.id ≠ "") .nodeIdMissing
  ensure (settings.node.port ≠ 0) .portZero
  ensure (settings.discovery.service ≠ "") .serviceMissing
  validatePeers settings.discovery
  ensure (!settings.discovery.refreshInterval.isZero) .refreshIntervalZero
  validateAggregation settings.aggregation

end Settings

end ClusterQuery
