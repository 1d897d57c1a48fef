import ClusterQuery.Record.Schema
import ClusterQuery.Text.Quoted

/-!
# Access

A caller is a principal with a set of capabilities. Reading the records of a kind takes the
capability of that kind.
-/

namespace ClusterQuery

/-- What a caller may be allowed to do. -/
inductive Capability where
  | readClusterInfo
  | readLogs
  | readProfiles
deriving DecidableEq, Repr

namespace Capability

/-- Every capability, in declared order. -/
def all : List Capability := [.readClusterInfo, .readLogs, .readProfiles]

def name : Capability → String
  | .readClusterInfo => "read_cluster_info"
  | .readLogs => "read_logs"
  | .readProfiles => "read_profiles"

/-- The capability that records of a kind take. -/
def ofKind : RecordKind → Capability
  | .log => .readLogs
  | .profile => .readProfiles
  | .node => .readClusterInfo

end Capability

/-- A caller whose identity was established before. -/
structure Caller where
  principal : String
  capabilities : List Capability
deriving DecidableEq, Repr

/-- A capability that a caller lacks. -/
structure Refusal where
  principal : String
  capability : Capability
deriving DecidableEq, Repr

def Refusal.message (refusal : Refusal) : String :=
  "forbidden: " ++ Text.quoted refusal.principal ++ " lacks capability " ++ refusal.capability.name

namespace Caller

def trusted (principal : String) : Caller := ⟨principal, Capability.all⟩

def allows (caller : Caller) (capability : Capability) : Bool :=
  capability ∈ caller.capabilities

/-- Refuses a caller that lacks a capability. -/
def require (caller : Caller) (capability : Capability) : Except Refusal Unit :=
  if caller.allows capability then .ok () else .error ⟨caller.principal, capability⟩

end Caller

end ClusterQuery
