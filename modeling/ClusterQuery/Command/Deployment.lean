import ClusterQuery.Command.Invocation
import ClusterQuery.Command.LogFilter
import ClusterQuery.Command.Outcome
import ClusterQuery.Health
import ClusterQuery.Http.ControlPlane
import ClusterQuery.Http.PeerClient
import ClusterQuery.Settings.Reader

/-!
# Deployments

A run of the program, from its command line to its outcome. The version and help need nothing
else. Every other command needs a settings file; only then is the log filter looked at. What
comes from outside, the file and the network, is given to the functions here.
-/

namespace ClusterQuery

/-- A command that needs a settings file. -/
inductive Errand where
  | serve
  | ask (question : Question)
deriving DecidableEq, Repr

/-- A run that waits for its settings file. -/
structure Startup where
  settingsFile : String
  logLevel : Option String
  errand : Errand
deriving DecidableEq, Repr

/-- Where the peers of a service are found. -/
inductive PeerSource where
  | fixed (endpoints : List Endpoint)
  | controlPlane (plane : ControlPlane)
deriving DecidableEq, Repr

/-- Settings that can be run. -/
structure Deployment where
  settings : Settings
  source : PeerSource

/-- How long an exchange takes, and how it ends. -/
abbrev Network := HttpRequest → Time.Span × Exchange

namespace PeerSource

/-- The source that settings name: the fixed peers, where there are any. -/
def ofSettings (settings : DiscoverySettings) : Except Endpoint.Fault PeerSource :=
  if settings.fixed.isEmpty then .ok (.controlPlane (.ofSettings settings))
  else settings.fixedEndpoints.map .fixed

/-- The request by which a source is asked, where it takes one. -/
def request? (source : PeerSource) (service : ServiceKey) : Option HttpRequest :=
  match source with
  | .fixed _ => none
  | .controlPlane plane => plane.request? service

def lookup (source : PeerSource) (service : ServiceKey) (network : Network) : LookupAnswer :=
  match source with
  | .fixed endpoints => .ok endpoints
  | .controlPlane plane =>
      match plane.request? service with
      | some request => plane.answer service (network request).2
      | none => plane.unsent service

end PeerSource

namespace Startup

/-- What is left to do after the command line is read. -/
def ofInvocation (invocation : Invocation) : Except Outcome Startup :=
  let needingFile (errand : Errand) : Except Outcome Startup :=
    match invocation.settingsFile with
    | some file => .ok ⟨file, invocation.logLevel, errand⟩
    | none => .error (.failed "--config is required (use --help for usage)" [])
  match invocation.command with
  | .version => .error (.succeeded Outcome.versionText)
  | .serve => needingFile .serve
  | .ask question => needingFile (.ask question)

def read (arguments : List String) : Except Outcome Startup := do
  let invocation ← (Invocation.read arguments).mapError Outcome.ofDeclined
  ofInvocation invocation

/-- The outcome when the settings file is of no use. -/
def unusable (startup : Startup) (causes : List String) : Outcome :=
  .failed ("loading config from " ++ startup.settingsFile) causes

/-- The settings in the text of the settings file, or in the reason why it cannot be read. -/
def readSettings (startup : Startup) (file : Except String String) : Except Outcome Settings :=
  match file with
  | .error reason =>
      .error (startup.unusable ["reading config file " ++ startup.settingsFile, reason])
  | .ok text =>
      match Settings.load text with
      | .ok settings => .ok settings
      | .error .unreadable =>
          .error (startup.unusable
            ["parsing config file " ++ startup.settingsFile, "the settings are malformed"])
      | .error (.invalid fault) => .error (startup.unusable fault.messages)

/-- Checks the log filter: the one on the command line, or that of the settings. -/
def checkLogLevel (startup : Startup) (settings : Settings) : Except Outcome Unit :=
  let level := startup.logLevel.getD settings.logLevel
  if LogFilter.isUsable level then .ok ()
  else .error (.failed ("invalid log level: " ++ level) ["invalid filter directive"])

def load (startup : Startup) (file : Except String String) : Except Outcome Deployment := do
  let settings ← startup.readSettings file
  startup.checkLogLevel settings
  match PeerSource.ofSettings settings.discovery with
  | .ok source => return ⟨settings, source⟩
  | .error fault => throw (startup.unusable (SettingsFault.fixedEndpoint fault).messages)

/-- Reads a command line and loads the settings file that it names. -/
def prepare (arguments : List String) (file : String → Except String String) :
    Except Outcome (Deployment × Errand) := do
  let startup ← read arguments
  let deployment ← startup.load (file startup.settingsFile)
  return (deployment, startup.errand)

end Startup

namespace Deployment

def client (deployment : Deployment) : PeerClient := .ofSettings deployment.settings.aggregation

/-- The service whose endpoints are the peers. -/
def service (deployment : Deployment) : ServiceKey := deployment.settings.discovery.serviceKey

def gateway (deployment : Deployment) : Gateway :=
  .new deployment.settings.node.descriptor deployment.service deployment.settings.aggregation
    .allowCached deployment.settings.discovery.timeToLive

/-- What a call meets on a network at a time. -/
def surroundings (deployment : Deployment) (network : Network) (now : Time.Span) :
    Surroundings where
  now := now
  answer := deployment.source.lookup deployment.service network
  peers := fun endpoint wanted =>
    let request := deployment.client.request endpoint wanted
    let (after, exchange) := network request
    deployment.client.conduct request wanted.kind after exchange

/-- Who puts the questions of the command line. -/
def operator : Caller := .trusted "cli"

def ask (deployment : Deployment) (network : Network) (now : Time.Span) : Question → CallReport
  | .nodes => deployment.gateway.clusterView (deployment.surroundings network now) operator
  | .records query =>
      deployment.gateway.records (deployment.surroundings network now) operator query

/-- The exchanges that a question leads to, given how those before them ended. -/
def requests (deployment : Deployment) (network : Network) (question : Question)
    (now : Time.Span := .zero) : List HttpRequest :=
  let report := deployment.ask network now question
  let lookup := if report.asked then (deployment.source.request? deployment.service).toList else []
  lookup ++ report.requests.map fun (endpoint, wanted) => deployment.client.request endpoint wanted

def deadline (deployment : Deployment) : Question → Time.Span
  | .nodes => (deployment.settings.aggregation.window none none).deadline
  | .records query =>
      (deployment.settings.aggregation.window query.limit query.deadline).deadline

/-- How long it makes sense to wait for a response, when one has that long in all. -/
def patience (deployment : Deployment) (within : Time.Span) (request : HttpRequest) : Time.Span :=
  let lookupTimeout :=
    match deployment.source with
    | .fixed _ => none
    | .controlPlane plane =>
        if plane.request? deployment.service = some request then some plane.timeout else none
  lookupTimeout.getD ⟨min deployment.client.timeout.nanos within.nanos⟩

/-- The outcome of a question: its answer as indented JSON. -/
def answer (deployment : Deployment) (network : Network) (question : Question)
    (now : Time.Span := .zero) : Outcome :=
  match (deployment.ask network now question).result? with
  | some (.ok aggregation) => .succeeded (aggregation.document.indentedText ++ "\n")
  | some (.error error) => .failed error.message []
  | none => .died

/-- One round of keeping the membership warm, at a time. -/
def refresh (deployment : Deployment) (network : Network) (now : Time.Span)
    (directory : Directory) : Resolution :=
  directory.resolve now .requireFresh deployment.service
    (deployment.source.lookup deployment.service network)

/-- The address on which the health server is set to listen. -/
def healthAddress (deployment : Deployment) : String :=
  Health.listenAddress deployment.settings.healthAddress

/-- The outcome when the health server cannot listen, for a reason. -/
def cannotListen (deployment : Deployment) (reason : String) : Outcome :=
  .failed (Health.unusableAddress deployment.healthAddress) [reason]

end Deployment

end ClusterQuery
