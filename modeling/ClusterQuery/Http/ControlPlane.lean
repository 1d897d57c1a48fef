import ClusterQuery.Http.Exchange
import ClusterQuery.Http.PeerClient
import ClusterQuery.Json.Form
import ClusterQuery.Settings.Basic

/-!
# Control plane

The control plane lists the endpoints of a service in subsets: ready addresses, and ports that
all of them share. A subset's port is the one with the wanted name, or its first; a subset
without such a port contributes nothing. Whatever else a body holds is passed over.
-/

namespace ClusterQuery

/-- A port of a subset. -/
structure SubsetPort where
  name : Option String
  number : UInt16
deriving DecidableEq, Repr

/-- Addresses that share ports. -/
structure Subset where
  addresses : List String
  ports : List SubsetPort
deriving DecidableEq, Repr

namespace Subset

/-- The port that endpoints of a subset get. -/
def port? (wanted : Option String) (subset : Subset) : Option SubsetPort :=
  match wanted with
  | some name => subset.ports.find? fun port => port.name == some name
  | none => subset.ports.head?

def endpoints (wanted : Option String) (subset : Subset) : List Endpoint :=
  match subset.port? wanted with
  | some port => subset.addresses.map fun address => ⟨address, port.number⟩
  | none => []

end Subset

namespace Subset

/-- Reads the address of a ready node. -/
def readAddress? (document : RawJson) : Option String := do
  match ← document.fields? ["ip"] with
  | [some address] => address.text?
  | _ => none

def readPort? (document : RawJson) : Option SubsetPort := do
  match ← document.fields? ["name", "port"] with
  | [name, some number] =>
      let name ← (name.map RawJson.nullableText?).getD (some none)
      let number ← number.port?
      return ⟨name, number⟩
  | _ => none

def read? (document : RawJson) : Option Subset := do
  match ← document.fields? ["addresses", "ports"] with
  | [addresses, ports] =>
      let addresses ← RawJson.listOrEmpty? readAddress? addresses
      let ports ← RawJson.listOrEmpty? readPort? ports
      return ⟨addresses, ports⟩
  | _ => none

def readAll? (document : RawJson) : Option (List Subset) := do
  match ← document.fields? ["subsets"] with
  | [subsets] => RawJson.listOrEmpty? read? subsets
  | _ => none

end Subset

/-- How the control plane is asked. -/
structure ControlPlane where
  server : String
  token : Option String
  portName : Option String
  timeout : Time.Span
deriving DecidableEq, Repr

namespace ControlPlane

/-- The control plane for some settings. An empty token or port name counts as none, and without
a timeout it is asked for five seconds. -/
def ofSettings (settings : DiscoverySettings) : ControlPlane :=
  ⟨PeerClient.dropSlashes settings.server,
    settings.token.filter fun token => token ≠ "",
    settings.portName.filter fun name => name ≠ "",
    if settings.timeout.isZero then .ofSeconds 5 else settings.timeout⟩

/-- The address of a service's endpoints, as it is put together. -/
def address (plane : ControlPlane) (service : ServiceKey) : String :=
  plane.server ++ "/api/v1/namespaces/" ++ service.space ++ "/endpoints/" ++ service.name

/-- The request for a service's endpoints; none where the address is not one. -/
def request? (plane : ControlPlane) (service : ServiceKey) : Option HttpRequest :=
  (Url.read? (plane.address service)).map fun url => ⟨url, plane.token⟩

def answerOf (plane : ControlPlane) (address : String) (response : HttpResponse) : LookupAnswer :=
  if response.status = 404 then .error .notFound
  else if !response.isSuccess then
    .error (.unreachable
      ("unexpected status " ++ statusText response.status ++ " from " ++ address ++ ": " ++
        response.looseText))
  else
    match response.document?.bind Subset.readAll? with
    | some subsets => .ok (subsets.flatMap (Subset.endpoints plane.portName))
    | none =>
        .error (.malformed
          ("decoding response from " ++ address ++ ": " ++ PeerClient.unreadableBody))

def unsent (plane : ControlPlane) (service : ServiceKey) : LookupAnswer :=
  let reason :=
    match plane.request? service with
    | some request => request.unsentText
    | none => "builder error"
  .error (.unreachable ("requesting " ++ plane.address service ++ ": " ++ reason))

def answer (plane : ControlPlane) (service : ServiceKey) : Exchange → LookupAnswer
  | .broken | .silent => plane.unsent service
  | .answered response => plane.answerOf (plane.address service) response

end ControlPlane

end ClusterQuery
