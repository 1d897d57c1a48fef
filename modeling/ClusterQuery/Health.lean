import ClusterQuery.Endpoint
import ClusterQuery.Metrics.Exposition
import ClusterQuery.Text.Blank
import ClusterQuery.Text.Pieces

/-!
# Health server

A small server beside the program: the metrics, and whether it is alive. The address on which it
listens is set as a host and a port; a port alone stands for every interface.
-/

namespace ClusterQuery.Health

/-- The address for a setting: blanks around it are ignored, an empty one means the usual port,
and a port alone every interface. -/
def listenAddress (setting : String) : String :=
  match Text.trimBlank setting.toList with
  | [] => "0.0.0.0:9090"
  | ':' :: port => "0.0.0.0:" ++ String.ofList port
  | other => String.ofList other

/-- The wording of an address on which the server cannot listen; the fault is its cause. -/
def unusableAddress (address : String) : String := "binding health server to " ++ address

/-- Why a server cannot listen. -/
inductive ListenFault where
  | notAddress
  | invalidPort
  | unknownHost
  /-- No interface of the machine has the address. -/
  | foreignHost
deriving DecidableEq, Repr

def ListenFault.message : ListenFault → String
  | .notAddress => "invalid socket address"
  | .invalidPort => "invalid port value"
  | .unknownHost => "failed to lookup address information: Name or service not known"
  | .foreignHost => "Cannot assign requested address (os error 99)"

/-- A number of an address in four parts, without leading zeros. -/
def isOctet (text : List Char) : Bool :=
  text.all Text.isDigit && 1 ≤ text.length && text.length ≤ 3 && Text.digitsValue text ≤ 255 &&
    (text.length == 1 || text.head? != some '0')

/-- Whether a host is an address in four parts. -/
def isNumericHost (host : List Char) : Bool :=
  let parts := Text.pieces '.' host
  parts.length == 4 && parts.all isOctet

/-- The interface that a host names: one of this machine, given by its address or name. -/
def interface? (host : List Char) : Option String :=
  if isNumericHost host then some (String.ofList host)
  else if host = ['l', 'o', 'c', 'a', 'l', 'h', 'o', 's', 't'] then some "127.0.0.1"
  else if host = ['[', ':', ':', '1', ']'] then some "::1"
  else if host = ['[', ':', ':', ']'] then some "::"
  else none

/-- The interface and port that an address names. -/
def readAddress (address : String) : Except ListenFault (String × Nat) :=
  match Endpoint.splitLastColon? address.toList with
  | none => .error .notAddress
  | some (host, port) =>
      match Text.readNat 65535 port, interface? host with
      | .error _, _ => .error .invalidPort
      | .ok _, none => .error .unknownHost
      | .ok port, some host => .ok (host, port)

/-- Whether every machine has an interface: the loopback ones, and those that stand for all. -/
def isCommonInterface (host : String) : Bool :=
  host ∈ ["0.0.0.0", "::", "::1"] || ['1', '2', '7', '.'].isPrefixOf host.toList

/-- The interface and port on which a machine without a network listens. -/
def listenLocally (address : String) : Except ListenFault (String × Nat) := do
  let (host, port) ← readAddress address
  if isCommonInterface host then return (host, port) else throw .foreignHost

/-- A response of the health server. -/
structure Page where
  status : Nat
  body : String
deriving DecidableEq, Repr

/-- The page at a path; what follows a question mark does not matter. -/
def page (metrics : Metrics) (target : String) : Page :=
  let path := String.ofList (target.toList.takeWhile (· != '?'))
  if path = "/metrics" then ⟨200, metrics.text⟩
  else if path = "/healthz" then ⟨200, "ok"⟩
  else ⟨404, ""⟩

/-- The response to a request: pages can only be got. -/
def respond (metrics : Metrics) (method target : String) : Page :=
  let page := page metrics target
  if method = "GET" ∨ page.status = 404 then page
  else if method = "HEAD" then { page with body := "" }
  else ⟨405, ""⟩

end ClusterQuery.Health
