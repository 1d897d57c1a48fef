import ClusterQuery.Endpoint
import ClusterQuery.Metrics.Basic
import ClusterQuery.Time.Span

/-!
# Directory

The directory resolves a service to its endpoints by asking the control plane, and keeps the
last non-empty answer for each service. A snapshot younger than the time to live spares the
question, and an older one still helps when the control plane cannot be asked; a caller that
requires a fresh answer is never given a snapshot. An answer that there are no endpoints drops
the snapshot.

A resolution is a function of the directory, the time, and the answer that the control plane
gives if it is asked; `asked` says whether it was.
-/

namespace ClusterQuery

/-- A service of the control plane. -/
structure ServiceKey where
  space : String
  name : String
deriving DecidableEq, Repr

/-- Why the control plane gave no list of endpoints. -/
inductive LookupFailure where
  | unreachable (reason : String)
  | notFound
  | malformed (reason : String)
deriving DecidableEq, Repr

def LookupFailure.message : LookupFailure → String
  | .unreachable reason => "control plane unreachable: " ++ reason
  | .notFound => "service not registered with the control plane"
  | .malformed reason => "malformed control plane response: " ++ reason

abbrev LookupAnswer := Except LookupFailure (List Endpoint)

/-- Why a service has no endpoints for a caller. -/
inductive DirectoryError where
  | unavailable (service : ServiceKey) (failure : LookupFailure)
  | notFound (service : ServiceKey)
deriving DecidableEq, Repr

def DirectoryError.message : DirectoryError → String
  | .unavailable service failure =>
      "discovery unavailable for " ++ service.space ++ "/" ++ service.name ++ ": " ++
        failure.message
  | .notFound service =>
      "service " ++ service.space ++ "/" ++ service.name ++ " has no registered endpoints"

/-- Whether a snapshot may stand in for the control plane's answer. -/
inductive Freshness where
  | allowCached
  | requireFresh
deriving DecidableEq, Repr

/-- The endpoints of a service, and when they were resolved. -/
structure Snapshot where
  endpoints : List Endpoint
  resolvedAt : Time.Span
deriving DecidableEq, Repr

/-- The snapshots of the services, and how long each may be reused. -/
structure Directory where
  timeToLive : Time.Span
  snapshots : List (ServiceKey × Snapshot)
deriving DecidableEq, Repr

/-- What a resolution came to. -/
structure Resolution where
  result : Except DirectoryError (List Endpoint)
  /-- The directory afterwards. -/
  directory : Directory
  /-- Whether the control plane was asked. -/
  asked : Bool
  updates : List MetricUpdate

namespace Directory

def new (timeToLive : Time.Span) : Directory := ⟨timeToLive, []⟩

def snapshot? (directory : Directory) (service : ServiceKey) : Option Snapshot :=
  (directory.snapshots.find? fun entry => entry.1 == service).map Prod.snd

/-- The directory without a snapshot of a service. -/
def drop (directory : Directory) (service : ServiceKey) : Directory :=
  { directory with snapshots := directory.snapshots.filter fun entry => entry.1 != service }

/-- The directory with a new snapshot of a service. -/
def store (directory : Directory) (service : ServiceKey) (snapshot : Snapshot) : Directory :=
  { directory with snapshots := (service, snapshot) :: (directory.drop service).snapshots }

@[simp] theorem snapshot?_drop (directory : Directory) (service other : ServiceKey) :
    (directory.drop service).snapshot? other =
      if other = service then none else directory.snapshot? other := by
  simp only [snapshot?, drop]
  induction directory.snapshots with
  | nil => simp
  | cons entry rest ih =>
      by_cases here : entry.1 = service <;> by_cases there : entry.1 = other <;>
        by_cases equal : other = service <;> simp_all

@[simp] theorem snapshot?_store (directory : Directory) (service other : ServiceKey)
    (snapshot : Snapshot) :
    (directory.store service snapshot).snapshot? other =
      if other = service then some snapshot else directory.snapshot? other := by
  by_cases equal : other = service
  · simp [store, snapshot?, equal]
  · have apart : (service == other) = false := by simp [Ne.symm equal]
    have dropped := snapshot?_drop directory service other
    simp only [snapshot?, equal, if_false] at dropped ⊢
    simp [store, apart, dropped]

/-- The snapshot of a service, if it is younger than the time to live. -/
def youngSnapshot? (directory : Directory) (now : Time.Span) (service : ServiceKey) :
    Option Snapshot :=
  (directory.snapshot? service).filter fun snapshot =>
    now.nanos - snapshot.resolvedAt.nanos < directory.timeToLive.nanos

/-- The snapshot that answers a caller without asking the control plane. -/
def cached? (directory : Directory) (now : Time.Span) (freshness : Freshness)
    (service : ServiceKey) : Option Snapshot :=
  match freshness with
  | .allowCached => directory.youngSnapshot? now service
  | .requireFresh => none

/-- The count of a resolution with the given outcome. -/
def counted (outcome : String) : MetricUpdate := .increment .discoveryRequests [outcome]

/-- A resolution for a service that has no endpoints. -/
def withoutEndpoints (directory : Directory) (service : ServiceKey) : Resolution :=
  ⟨.error (.notFound service), directory.drop service, true, [counted "not_found"]⟩

/-- A resolution by the endpoints that the control plane lists. -/
def listed (directory : Directory) (now : Time.Span) (service : ServiceKey)
    (endpoints : List Endpoint) : Resolution :=
  let endpoints := Endpoint.distinct endpoints
  if endpoints.isEmpty then directory.withoutEndpoints service
  else
    ⟨.ok endpoints, directory.store service ⟨endpoints, now⟩, true,
      [counted "success", .setDiscovered endpoints.length]⟩

/-- A resolution without an answer: by the last snapshot, where the caller accepts it. -/
def unanswered (directory : Directory) (freshness : Freshness) (service : ServiceKey)
    (failure : LookupFailure) : Resolution :=
  match freshness, directory.snapshot? service with
  | .allowCached, some snapshot => ⟨.ok snapshot.endpoints, directory, true, [counted "stale"]⟩
  | _, _ => ⟨.error (.unavailable service failure), directory, true, [counted "unavailable"]⟩

/-- A resolution by the answer of the control plane, which arrives now. -/
def answered (directory : Directory) (now : Time.Span) (freshness : Freshness)
    (service : ServiceKey) (answer : LookupAnswer) : Resolution :=
  match answer with
  | .ok endpoints => directory.listed now service endpoints
  | .error .notFound => directory.withoutEndpoints service
  | .error failure => directory.unanswered freshness service failure

/-- Resolves a service for a call that looks at the snapshots at one time and, if it has to ask the
control plane, gets the answer at another. -/
def resolveBetween (directory : Directory) (begun arrived : Time.Span) (freshness : Freshness)
    (service : ServiceKey) (answer : LookupAnswer) : Resolution :=
  match directory.cached? begun freshness service with
  | some snapshot => ⟨.ok snapshot.endpoints, directory, false, [counted "cache_hit"]⟩
  | none => directory.answered arrived freshness service answer

/-- Resolves a service, given what the control plane answers at once if it is asked. -/
def resolve (directory : Directory) (now : Time.Span) (freshness : Freshness)
    (service : ServiceKey) (answer : LookupAnswer) : Resolution :=
  directory.resolveBetween now now freshness service answer

end Directory

end ClusterQuery
