import ClusterQuery.Command.Deployment
import ClusterQuery.Http.Message
import Std.Async.DNS
import Std.Async.Signal
import Std.Async.TCP
import Std.Async.Timer

/-!
# Command line

The program's outer layer: it reads the settings file, talks to the network and prints. Which
exchanges take place and what they mean is decided by the deployment; here they are carried out.
-/

namespace ClusterQuery.CommandLine

open Std.Async

abbrev Observed := List (HttpRequest × (Time.Span × Exchange))

/-- The network as far as it was observed. -/
def Observed.network (observed : Observed) : Network := fun request =>
  (observed.lookup request).getD (.zero, .broken)

def now : IO Time.Span := return ⟨← IO.monoNanosNow⟩

def millis (span : Time.Span) : Std.Time.Millisecond.Offset :=
  .ofNat (span.nanos / 1000000)

def addresses (endpoint : Endpoint) : Async (Array Std.Net.SocketAddress) := do
  let found ← DNS.getAddrInfo endpoint.host (toString endpoint.port.toNat)
  return found.map fun
    | .v4 address => .v4 ⟨address, endpoint.port⟩
    | .v6 address => .v6 ⟨address, endpoint.port⟩

/-- Everything that comes in until the other side closes the connection. -/
partial def receiveAll (client : TCP.Socket.Client) (before : ByteArray) : Async ByteArray := do
  match ← client.recv? 65536 with
  | none => return before
  | some bytes => receiveAll client (before ++ bytes)

/-- Sends a request and waits for its response. -/
def converse (request : HttpRequest) : Async Exchange := do
  let endpoint := (Endpoint.read request.url.authority).toOption.getD ⟨request.url.authority, 80⟩
  match (← addresses endpoint)[0]? with
  | none => return .broken
  | some address =>
      let client ← TCP.Socket.Client.mk
      client.connect address
      client.send (HttpMessage.ofRequest request).toUTF8
      let bytes ← receiveAll client .empty
      match HttpMessage.readResponse? bytes.toList with
      | some response => return .answered response
      | none => return .broken

/-- An exchange, or a broken one where something fails. -/
def attempt (request : HttpRequest) : Async Exchange := do
  try
    if request.url.scheme = "http" then converse request else return .broken
  catch _ => return .broken

/-- Waits for as long as a client waits. -/
def expire (timeout : Time.Span) : Async Exchange := do
  sleep (millis timeout)
  return .silent

def observe (timeout : Time.Span) (request : HttpRequest) :
    Async (HttpRequest × (Time.Span × Exchange)) := do
  let start ← now
  let exchange ← Async.race (attempt request) (expire timeout)
  let done ← now
  return (request, ⟨done.nanos - start.nanos⟩, exchange)

/-- Carries out the exchanges that a question leads to and that did not take place yet, all at
once. -/
def observeNew (deployment : Deployment) (question : Question) (start : Time.Span)
    (observed : Observed) : Async Observed := do
  let wanted := deployment.requests observed.network question start
  let new := wanted.filter fun request => (observed.lookup request).isNone
  let within := deployment.deadline question
  let found ← Async.concurrentlyAll
    (new.map fun request => observe (deployment.patience within request) request).toArray
  return observed ++ found.toList

def finish (outcome : Outcome) : IO UInt32 := do
  IO.print outcome.output
  IO.eprint outcome.errors
  return outcome.status.toUInt32

/-- Puts a question to the cluster: the control plane goes first, then the peers. -/
def ask (deployment : Deployment) (question : Question) : IO UInt32 := do
  let start ← now
  let observed ← (observeNew deployment question start []).block
  let observed ← (observeNew deployment question start observed).block
  finish (deployment.answer observed.network question start)

/-- What the program keeps while it serves. -/
structure Serving where
  directory : Directory
  metrics : Metrics

partial def keepWarm (deployment : Deployment) (state : IO.Ref Serving) : Async Unit := do
  let request := deployment.source.request? deployment.service
  let observed ← Async.concurrentlyAll
    (request.toArray.map fun request => observe (deployment.patience .zero request) request)
  let moment ← now
  state.modify fun serving =>
    let resolution :=
      deployment.refresh (Observed.network observed.toList) moment serving.directory
    ⟨resolution.directory, serving.metrics.applyAll resolution.updates⟩
  sleep (millis deployment.settings.discovery.refreshInterval)
  keepWarm deployment state

/-- Everything that comes in until the head of a request is whole. -/
partial def receiveRequest (client : TCP.Socket.Client) (before : ByteArray) :
    Async (Option (String × String)) := do
  match HttpMessage.readRequest? before.toList, ← client.recv? 65536 with
  | some request, _ => return some request
  | none, some bytes => receiveRequest client (before ++ bytes)
  | none, none => return none

/-- Answers one request to the health server. -/
def answer (state : IO.Ref Serving) (client : TCP.Socket.Client) : Async Unit := do
  try
    match ← receiveRequest client .empty with
    | some (method, target) =>
        let serving ← state.get
        let page := Health.respond serving.metrics method target
        client.send (HttpMessage.ofPage page).toUTF8
        client.shutdown
    | none => return ()
  catch _ => return ()

/-- Takes connections to the health server, each answered on its own. -/
partial def accept (state : IO.Ref Serving) (server : TCP.Socket.Server) : Async Unit := do
  let client ← server.accept
  background (answer state client)
  accept state server

def listen (host : String) (port : Nat) : Async TCP.Socket.Server := do
  match (← addresses ⟨host, UInt16.ofNat port⟩)[0]? with
  | none => throw (IO.userError Health.ListenFault.unknownHost.message)
  | some address =>
      let server ← TCP.Socket.Server.mk
      server.bind address
      server.listen 128
      return server

/-- Waits until the program is told to end. -/
def untilSignalled : Async Unit := do
  let interrupt ← Signal.Waiter.mk .sigint false
  let terminate ← Signal.Waiter.mk .sigterm false
  let interrupted ← interrupt.wait
  let terminated ← terminate.wait
  discard (Async.race (await interrupted) (await terminated))

/-- Serves until the program is told to end. -/
def serve (deployment : Deployment) : IO UInt32 := do
  match Health.readAddress deployment.healthAddress with
  | .error fault => finish (deployment.cannotListen fault.message)
  | .ok (host, port) =>
      match ← (listen host port).block.toBaseIO with
      | .error error => finish (deployment.cannotListen (toString error))
      | .ok server =>
          let timeToLive := deployment.settings.discovery.timeToLive
          let state ← IO.mkRef (⟨.new timeToLive, .empty⟩ : Serving)
          (do
            background (accept state server)
            background (keepWarm deployment state)
            untilSignalled : Async Unit).block
          return 0

/-- The text of the settings file, or the reason why it cannot be read. -/
def readSettingsFile (name : String) : IO (Except String String) := do
  match ← (IO.FS.readFile name).toBaseIO with
  | .ok text => return .ok text
  | .error (.noFileOrDirectory ..) => return .error "No such file or directory (os error 2)"
  | .error error => return .error (toString error)

def run (arguments : List String) : IO UInt32 := do
  match Startup.read arguments with
  | .error outcome => finish outcome
  | .ok startup =>
      match startup.load (← readSettingsFile startup.settingsFile), startup.errand with
      | .error outcome, _ => finish outcome
      | .ok deployment, .serve => serve deployment
      | .ok deployment, .ask question => ask deployment question

end ClusterQuery.CommandLine

def main (arguments : List String) : IO UInt32 := ClusterQuery.CommandLine.run arguments
