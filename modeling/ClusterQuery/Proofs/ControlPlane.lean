import ClusterQuery.Http.ControlPlane
import ClusterQuery.Json.Writer
import ClusterQuery.Proofs.Directory.Freshness
import ClusterQuery.Proofs.Json.Form
import ClusterQuery.Proofs.Text.Utf8

/-!
# Membership by the control plane

What the control plane answers, said by its documents rather than by the reader: the subsets that a
body stands for, the port that each of them selects, and the members that they contribute one after
the other. A directory that is asked for a fresh answer hands out just these members, each where it
is first seen, and keeps them. Where there are none it forgets the service, and where the response
does not say it stays as it was.
-/

namespace ClusterQuery

namespace Subset

/-! ## The documents of subsets -/

/-- The address that a ready node stands by. -/
def IsAddress (document : RawJson) (address : String) : Prop :=
  ∃ inside, document.HasFields ["ip"] [some (.string inside)] ∧ RawJson.IsText inside address

/-- A port may have no name, or null for it. -/
inductive IsPortName : Option RawJson → Option String → Prop where
  | missing : IsPortName none none
  | null : IsPortName (some .null) none
  | named {inside : List Char} {name : String} (isText : RawJson.IsText inside name) :
      IsPortName (some (.string inside)) (some name)

def IsPort (document : RawJson) (port : SubsetPort) : Prop :=
  ∃ name literal, document.HasFields ["name", "port"] [name, some (.number literal)] ∧
    IsPortName name port.name ∧ literal.IsDigits port.number.toNat

/-- The subset that a document stands for. Either list may be missing. -/
def IsSubset (document : RawJson) (subset : Subset) : Prop :=
  ∃ addresses ports, document.HasFields ["addresses", "ports"] [addresses, ports] ∧
    RawJson.IsList IsAddress addresses subset.addresses ∧ RawJson.IsList IsPort ports subset.ports

/-- The subsets that the document of a service's endpoints lists. -/
def AreSubsets (document : RawJson) (subsets : List Subset) : Prop :=
  ∃ field, document.HasFields ["subsets"] [field] ∧ RawJson.IsList IsSubset field subsets

theorem readAddress?_eq_some_iff (document : RawJson) (address : String) :
    readAddress? document = some address ↔ IsAddress document address := by
  simp only [readAddress?, Option.bind_eq_bind, Option.bind_eq_some_iff,
    RawJson.fields?_eq_some_iff]
  constructor
  · rintro ⟨fields, stands, read⟩
    split at read
    next field =>
      obtain ⟨inside, rfl, isText⟩ := RawJson.text?_eq_some_iff.mp read
      exact ⟨inside, stands, isText⟩
    next => cases read
  · rintro ⟨inside, stands, isText⟩
    exact ⟨_, stands, RawJson.textOf?_eq_some_iff.mpr isText⟩

theorem isPortName_iff {field : Option RawJson} {name : Option String} :
    (field.map RawJson.nullableText?).getD (some none) = some name ↔ IsPortName field name := by
  constructor
  · intro read
    rcases field with _ | _ | _ | _ | inside | _ | _
    · cases read
      exact .missing
    · cases read
      exact .null
    · cases read
    · cases read
    · obtain ⟨text, isText, rfl⟩ := Option.map_eq_some_iff.mp read
      exact .named (RawJson.textOf?_eq_some_iff.mp isText)
    · cases read
    · cases read
  · intro stands
    cases stands with
    | missing => rfl
    | null => rfl
    | named isText =>
        exact Option.map_eq_some_iff.mpr ⟨_, RawJson.textOf?_eq_some_iff.mpr isText, rfl⟩

theorem readPort?_eq_some_iff (document : RawJson) (port : SubsetPort) :
    readPort? document = some port ↔ IsPort document port := by
  simp only [readPort?, Option.bind_eq_bind, Option.bind_eq_some_iff, RawJson.fields?_eq_some_iff]
  constructor
  · rintro ⟨fields, stands, read⟩
    split at read
    next name number =>
      simp only [Option.bind_eq_some_iff] at read
      obtain ⟨found, isName, value, isNumber, equal⟩ := read
      cases equal
      obtain ⟨literal, rfl, isDigits⟩ := RawJson.port?_eq_some_iff.mp isNumber
      exact ⟨name, literal, stands, isPortName_iff.mp isName, isDigits⟩
    next => cases read
  · rintro ⟨name, literal, stands, isName, isDigits⟩
    refine ⟨_, stands, ?_⟩
    simp only [isPortName_iff.mpr isName, RawJson.port?_eq_some_iff.mpr ⟨literal, rfl, isDigits⟩]
    rfl

theorem read?_eq_some_iff (document : RawJson) (subset : Subset) :
    read? document = some subset ↔ IsSubset document subset := by
  simp only [read?, Option.bind_eq_bind, Option.bind_eq_some_iff, RawJson.fields?_eq_some_iff]
  constructor
  · rintro ⟨fields, stands, read⟩
    split at read
    next addresses ports =>
      simp only [Option.bind_eq_some_iff] at read
      obtain ⟨ready, areAddresses, shared, arePorts, equal⟩ := read
      cases equal
      exact ⟨addresses, ports, stands,
        (RawJson.listOrEmpty?_eq_some_iff readAddress?_eq_some_iff).mp areAddresses,
        (RawJson.listOrEmpty?_eq_some_iff readPort?_eq_some_iff).mp arePorts⟩
    next => cases read
  · rintro ⟨addresses, ports, stands, areAddresses, arePorts⟩
    refine ⟨_, stands, ?_⟩
    simp only [(RawJson.listOrEmpty?_eq_some_iff readAddress?_eq_some_iff).mpr areAddresses,
      (RawJson.listOrEmpty?_eq_some_iff readPort?_eq_some_iff).mpr arePorts]
    rfl

theorem readAll?_eq_some_iff (document : RawJson) (subsets : List Subset) :
    readAll? document = some subsets ↔ AreSubsets document subsets := by
  simp only [readAll?, Option.bind_eq_bind, Option.bind_eq_some_iff, RawJson.fields?_eq_some_iff]
  constructor
  · rintro ⟨fields, stands, read⟩
    split at read
    next field =>
      exact ⟨field, stands, (RawJson.listOrEmpty?_eq_some_iff read?_eq_some_iff).mp read⟩
    next => cases read
  · rintro ⟨field, stands, areSubsets⟩
    exact ⟨_, stands, (RawJson.listOrEmpty?_eq_some_iff read?_eq_some_iff).mpr areSubsets⟩

/-- What a subset says about nodes that are not ready, or anything else under a key of its own, is
immaterial. -/
theorem read?_filter_ne {key : String} (unknown : key ∉ ["addresses", "ports"])
    (entries : List (List Char × RawJson)) :
    read? (.object (entries.filter fun entry => RawJson.textOf? entry.1 != some key)) =
      read? (.object entries) := by
  rw [read?, RawJson.fields?_filter_ne unknown]
  rfl

/-! ## The members that a subset contributes -/

/-- The port that the members of a subset get: the first one, or the first one with the name that is
configured. An empty name counts as none. -/
inductive Selects (configured : Option String) (ports : List SubsetPort) (port : SubsetPort) :
    Prop where
  | first {others : List SubsetPort} (unnamed : configured = none ∨ configured = some "")
      (isFirst : ports = port :: others) : Selects configured ports port
  | named {name : String} {before after : List SubsetPort} (wanted : configured = some name)
      (notEmpty : name ≠ "") (split : ports = before ++ port :: after)
      (isNamed : port.name = some name) (notBefore : ∀ earlier ∈ before, earlier.name ≠ some name) :
      Selects configured ports port

/-- The members that a subset contributes: its addresses, each with the selected port, and none
where it has no such port. -/
inductive Contributes (configured : Option String) (subset : Subset) : List Endpoint → Prop where
  | members {port : SubsetPort} (selected : Selects configured subset.ports port) :
      Contributes configured subset (subset.addresses.map fun address => ⟨address, port.number⟩)
  | nothing (unselected : ∀ port, ¬Selects configured subset.ports port) :
      Contributes configured subset []

section Members

variable {configured : Option String} {subset : Subset}

theorem port?_eq_some_iff {port : SubsetPort} :
    subset.port? (configured.filter fun name => name ≠ "") = some port ↔
      Selects configured subset.ports port := by
  constructor
  · intro found
    unfold port? at found
    split at found
    next name wanted =>
      obtain ⟨isConfigured, notEmpty⟩ := Option.filter_eq_some_iff.mp wanted
      obtain ⟨isNamed, before, after, split, notBefore⟩ := List.find?_eq_some_iff_append.mp found
      exact .named isConfigured (by simpa using notEmpty) split (by simpa using isNamed)
        fun earlier member => by simpa using notBefore earlier member
    next unwanted =>
      obtain ⟨others, isFirst⟩ := List.head?_eq_some_iff.mp found
      refine .first ?_ isFirst
      cases configured with
      | none => exact .inl rfl
      | some name => exact .inr (by simpa using Option.filter_eq_none_iff.mp unwanted)
  · intro selects
    cases selects with
    | first unnamed isFirst =>
        have unwanted : (configured.filter fun name => name ≠ "") = none := by
          rcases unnamed with rfl | rfl <;> rfl
        simp only [port?, unwanted, isFirst, List.head?_cons]
    | named wanted notEmpty split isNamed notBefore =>
        have wantedName : (configured.filter fun name => name ≠ "") = some _ :=
          Option.filter_eq_some_iff.mpr ⟨wanted, decide_eq_true notEmpty⟩
        simp only [port?, wantedName]
        exact List.find?_eq_some_iff_append.mpr ⟨by simpa using isNamed, _, _, split,
          fun earlier member => by simpa using notBefore earlier member⟩

theorem contributes_iff {contribution : List Endpoint} :
    Contributes configured subset contribution ↔
      contribution = subset.endpoints (configured.filter fun name => name ≠ "") := by
  cases found : subset.port? (configured.filter fun name => name ≠ "") with
  | some port =>
      rw [endpoints, found]
      constructor
      · intro contributes
        cases contributes with
        | members selected =>
            cases found.symm.trans (port?_eq_some_iff.mpr selected)
            rfl
        | nothing unselected => exact absurd (port?_eq_some_iff.mp found) (unselected port)
      · rintro rfl
        exact .members (port?_eq_some_iff.mp found)
  | none =>
      have unselected (port : SubsetPort) : ¬Selects configured subset.ports port := by
        intro selected
        cases found.symm.trans (port?_eq_some_iff.mpr selected)
      rw [endpoints, found]
      constructor
      · intro contributes
        cases contributes with
        | members selected => exact absurd selected (unselected _)
        | nothing => rfl
      · rintro rfl
        exact .nothing unselected

end Members

end Subset

namespace ControlPlane

/-! ## What a response says -/

def Succeeds (response : HttpResponse) : Prop := 200 ≤ response.status ∧ response.status < 300

/-- The members that a body lists, where it came in whole and its octets spell a document that
stands for subsets. Nothing is asked of what the document holds besides. -/
inductive Lists (configured : Option String) (response : HttpResponse) : List Endpoint → Prop where
  | intro {document : RawJson} {subsets : List Subset} {contributions : List (List Endpoint)}
      (whole : response.complete = true) (spelt : document.SpeltBy (Text.octets response.body))
      (stands : Subset.AreSubsets document subsets)
      (contribute : List.Forall₂ (Subset.Contributes configured) subsets contributions) :
      Lists configured response contributions.flatten

section Response

variable {configured : Option String} {response : HttpResponse} {members : List Endpoint}

theorem isSuccess_iff : response.isSuccess = true ↔ Succeeds response := by
  simp [HttpResponse.isSuccess, Succeeds]

theorem document?_eq_some_iff {document : RawJson} :
    response.document? = some document ↔
      response.complete = true ∧ document.SpeltBy (Text.octets response.body) := by
  rw [HttpResponse.document?]
  split
  next whole => simp only [whole, RawJson.ofBytes?, RawJson.read?_eq_some_iff, true_and]
  next cut => simp [cut]

/-- The subsets that the body of a response is read as. -/
def subsets? (response : HttpResponse) : Option (List Subset) :=
  response.document?.bind Subset.readAll?

theorem subsets?_eq_some_iff {subsets : List Subset} :
    subsets? response = some subsets ↔
      ∃ document, (response.complete = true ∧ document.SpeltBy (Text.octets response.body)) ∧
        Subset.AreSubsets document subsets := by
  simp only [subsets?, Option.bind_eq_some_iff, document?_eq_some_iff,
    Subset.readAll?_eq_some_iff]

/-- Subset by subset, each contributes its endpoints. -/
theorem forall₂_contributes_iff {subsets : List Subset} {contributions : List (List Endpoint)} :
    List.Forall₂ (Subset.Contributes configured) subsets contributions ↔
      contributions = subsets.map (Subset.endpoints (configured.filter fun name => name ≠ "")) := by
  induction subsets generalizing contributions with
  | nil => simp
  | cons subset rest ih => cases contributions <;> simp [Subset.contributes_iff, ih]

theorem lists_iff :
    Lists configured response members ↔ ∃ subsets, subsets? response = some subsets ∧
      members = subsets.flatMap (Subset.endpoints (configured.filter fun name => name ≠ "")) := by
  simp only [subsets?_eq_some_iff, List.flatMap_def]
  constructor
  · intro lists
    cases lists with
    | intro whole spelt stands contribute =>
        rw [forall₂_contributes_iff.mp contribute]
        exact ⟨_, ⟨_, ⟨whole, spelt⟩, stands⟩, rfl⟩
  · rintro ⟨subsets, ⟨document, ⟨whole, spelt⟩, stands⟩, rfl⟩
    exact .intro whole spelt stands (forall₂_contributes_iff.mpr rfl)

theorem Lists.unique {others : List Endpoint} (lists : Lists configured response members)
    (also : Lists configured response others) : members = others := by
  obtain ⟨subsets, read, rfl⟩ := lists_iff.mp lists
  obtain ⟨others, readOther, rfl⟩ := lists_iff.mp also
  cases read.symm.trans readOther
  rfl

end Response

/-- What a response tells about the members of a service, or that it tells nothing. -/
inductive Tells (configured : Option String) (response : HttpResponse) :
    Option (List Endpoint) → Prop where
  /-- A service that is not known has no members. -/
  | unknown (missing : response.status = 404) : Tells configured response (some [])
  | listed {members : List Endpoint} (success : Succeeds response)
      (lists : Lists configured response members) : Tells configured response (some members)
  | failed (failure : ¬Succeeds response) (present : response.status ≠ 404) :
      Tells configured response none
  | unread (success : Succeeds response)
      (unlisted : ∀ members, ¬Lists configured response members) : Tells configured response none

theorem Succeeds.status_ne {response : HttpResponse} (success : Succeeds response) :
    response.status ≠ 404 := by
  intro missing
  have below := success.2
  rw [missing] at below
  omega

/-- A response tells one thing. -/
theorem Tells.unique {configured : Option String} {response : HttpResponse}
    {one other : Option (List Endpoint)} (tells : Tells configured response one)
    (also : Tells configured response other) : one = other := by
  cases tells with
  | unknown missing =>
      cases also with
      | unknown => rfl
      | listed success => exact absurd missing success.status_ne
      | failed _ present => exact absurd missing present
      | unread success => exact absurd missing success.status_ne
  | listed success lists =>
      cases also with
      | unknown missing => exact absurd missing success.status_ne
      | listed _ others => rw [lists.unique others]
      | failed failure => exact absurd success failure
      | unread _ unlisted => exact absurd lists (unlisted _)
  | failed failure present =>
      cases also with
      | unknown missing => exact absurd missing present
      | listed success => exact absurd success failure
      | failed => rfl
      | unread => rfl
  | unread success unlisted =>
      cases also with
      | unknown missing => exact absurd missing success.status_ne
      | listed _ lists => exact absurd lists (unlisted _)
      | failed => rfl
      | unread => rfl

/-- The control plane answers what the response tells, and why it cannot where it tells nothing. -/
theorem answer_cases (settings : DiscoverySettings) (service : ServiceKey)
    (response : HttpResponse) :
    (∃ members, Tells settings.portName response (some members) ∧
      (ofSettings settings).answer service (.answered response) = .ok members) ∨
    (Tells settings.portName response (some []) ∧
      (ofSettings settings).answer service (.answered response) = .error .notFound) ∨
    (Tells settings.portName response none ∧ ∃ failure, failure ≠ .notFound ∧
      (ofSettings settings).answer service (.answered response) = .error failure) := by
  by_cases missing : response.status = 404
  · exact .inr (.inl ⟨.unknown missing, if_pos missing⟩)
  · rw [answer, answerOf, if_neg missing]
    by_cases success : Succeeds response
    · have isSuccess := isSuccess_iff.mpr success
      cases read : subsets? response with
      | some subsets =>
          refine .inl ⟨_, .listed success (lists_iff.mpr ⟨subsets, read, rfl⟩), ?_⟩
          rw [subsets?] at read
          simp only [isSuccess, read]
          rfl
      | none =>
          refine .inr (.inr ⟨.unread success ?_, ?_⟩)
          · intro members lists
            obtain ⟨subsets, other, _⟩ := lists_iff.mp lists
            cases read.symm.trans other
          · rw [subsets?] at read
            simp only [isSuccess, read]
            exact ⟨.malformed _, nofun, rfl⟩
    · have unsuccessful : (!response.isSuccess) = true := by
        rw [Bool.not_eq_true', ← Bool.not_eq_true, isSuccess_iff]
        exact success
      rw [if_pos unsuccessful]
      exact .inr (.inr ⟨.failed success missing, .unreachable _, nofun, rfl⟩)

/-! ## A fresh answer through the directory -/

/-- What a caller that requires a fresh answer gets from a response, and which snapshots are there
afterwards. -/
structure FreshMembership (configured : Option String) (response : HttpResponse)
    (directory : Directory) (arrived : Time.Span) (service : ServiceKey)
    (resolution : Resolution) : Prop where
  asked : resolution.asked = true
  /-- Just the members that are listed are handed out, each where it is first seen. -/
  result_ok_iff (endpoints : List Endpoint) : resolution.result = .ok endpoints ↔
    ∃ members, Tells configured response (some members) ∧ members ≠ [] ∧
      Endpoint.FirstSeen members endpoints
  result_notFound_iff : resolution.result = .error (.notFound service) ↔
    Tells configured response (some [])
  result_unavailable_iff :
    (∃ failure, resolution.result = .error (.unavailable service failure)) ↔
      Tells configured response none
  /-- What is handed out is kept. -/
  stored (endpoints : List Endpoint) : resolution.result = .ok endpoints →
    resolution.directory.snapshot? service = some ⟨endpoints, arrived⟩
  /-- A service without members is forgotten. -/
  dropped : resolution.result = .error (.notFound service) →
    resolution.directory.snapshot? service = none
  /-- Where the response tells nothing, the directory stays as it was. -/
  unchanged (failure : LookupFailure) :
    resolution.result = .error (.unavailable service failure) → resolution.directory = directory
  /-- No other service's snapshot changes. -/
  others (other : ServiceKey) : other ≠ service →
    resolution.directory.snapshot? other = directory.snapshot? other

section Fresh

variable {configured : Option String} {response : HttpResponse} {members : List Endpoint}
  {directory : Directory} {arrived : Time.Span} {service : ServiceKey}

theorem FreshMembership.of_members (tells : Tells configured response (some members))
    (some : members ≠ []) :
    FreshMembership configured response directory arrived service
      (directory.listed arrived service members) := by
  rcases directory.listed_cases arrived service members with ⟨none, _⟩ | ⟨_, listed⟩
  · exact absurd (Endpoint.distinct_eq_nil_iff.mp none) some
  · rw [listed]
    refine ⟨rfl, fun endpoints => ⟨?handedOut, ?back⟩, ⟨nofun, ?known⟩, ⟨nofun, ?unclear⟩,
      ?stored, nofun, nofun, ?others⟩
    case handedOut =>
      intro handedOut
      cases handedOut
      exact ⟨members, tells, some, Endpoint.firstSeen_distinct members⟩
    case back =>
      rintro ⟨others, also, _, firstSeen⟩
      cases tells.unique also
      rw [Endpoint.firstSeen_iff.mp firstSeen]
    case known =>
      intro unknown
      cases tells.unique unknown
      exact absurd rfl some
    case unclear =>
      intro unclear
      cases tells.unique unclear
    case stored =>
      intro endpoints handedOut
      cases handedOut
      rw [Directory.snapshot?_store, if_pos rfl]
    case others =>
      intro other apart
      rw [Directory.snapshot?_store, if_neg apart]

theorem FreshMembership.of_no_members (tells : Tells configured response (some [])) :
    FreshMembership configured response directory arrived service
      (directory.withoutEndpoints service) := by
  refine ⟨rfl, fun endpoints => ⟨nofun, ?listed⟩, ⟨fun _ => tells, fun _ => rfl⟩,
    ⟨nofun, ?unclear⟩, nofun, ?dropped, nofun, ?others⟩
  case listed =>
    rintro ⟨members, also, some, _⟩
    cases tells.unique also
    exact absurd rfl some
  case unclear =>
    intro unclear
    cases tells.unique unclear
  case dropped =>
    intro _
    rw [Directory.withoutEndpoints, Directory.snapshot?_drop, if_pos rfl]
  case others =>
    intro other apart
    rw [Directory.withoutEndpoints, Directory.snapshot?_drop, if_neg apart]

theorem FreshMembership.of_unclear (tells : Tells configured response none)
    (failure : LookupFailure) :
    FreshMembership configured response directory arrived service
      ⟨.error (.unavailable service failure), directory, true,
        [Directory.counted "unavailable"]⟩ := by
  refine ⟨rfl, fun endpoints => ⟨nofun, ?listed⟩, ⟨nofun, ?known⟩,
    ⟨fun _ => tells, fun _ => ⟨failure, rfl⟩⟩, nofun, nofun, fun _ _ => rfl, fun _ _ => rfl⟩
  case listed =>
    rintro ⟨members, also, _⟩
    cases tells.unique also
  case known =>
    intro known
    cases tells.unique known

end Fresh

theorem answered_of_failure {failure : LookupFailure} (notUnknown : failure ≠ .notFound)
    (directory : Directory) (arrived : Time.Span) (service : ServiceKey) :
    directory.answered arrived .requireFresh service (.error failure) =
      ⟨.error (.unavailable service failure), directory, true,
        [Directory.counted "unavailable"]⟩ := by
  cases failure with
  | unreachable reason => rfl
  | notFound => exact absurd rfl notUnknown
  | malformed reason => rfl

/-- A fresh resolution over the control plane, for every response and every directory. A successful
response whose body stands for subsets gives the members that these contribute one after the other,
without repeats in the order in which they are first seen, and these are kept. Where there are none,
or the status is 404, and only there, the service is not found and its snapshot dropped. For any
other status, and for a successful response with any other body, discovery is unavailable and the
directory unchanged. Nodes that are not ready contribute nothing. -/
theorem membership_is_exact (settings : DiscoverySettings) (directory : Directory)
    (begun arrived : Time.Span) (service : ServiceKey) (response : HttpResponse) :
    FreshMembership settings.portName response directory arrived service
        (directory.resolveBetween begun arrived .requireFresh service
          ((ofSettings settings).answer service (.answered response))) ∧
      ∀ entries : List (List Char × RawJson), Subset.read? (.object (entries.filter fun entry =>
          RawJson.textOf? entry.1 != some "notReadyAddresses")) =
        Subset.read? (.object entries) := by
  refine ⟨?_, Subset.read?_filter_ne (by decide)⟩
  rw [Directory.resolveBetween_of_missed rfl]
  rcases answer_cases settings service response with
    ⟨members, tells, answer⟩ | ⟨tells, answer⟩ | ⟨tells, failure, notUnknown, answer⟩
  · rw [answer]
    -- An empty list is treated as if the service were not known.
    by_cases none : members = []
    · cases none
      exact .of_no_members tells
    · exact .of_members tells none
  · rw [answer]
    exact .of_no_members tells
  · rw [answer, answered_of_failure notUnknown]
    exact .of_unclear tells failure

/-- Three subsets, of which the first lists a node that is not ready, the second names two ports
alike, and the third has none. The number beside them is out of every range, but nobody asks for
it. -/
def threeSubsets : HttpResponse :=
  ⟨200, Text.bytes ("\x7b\"metadata\":1e309,\"subsets\":[" ++
    "\x7b\"addresses\":[\x7b\"ip\":\"a\"\x7d,\x7b\"ip\":\"b\"\x7d]," ++
    "\"notReadyAddresses\":[\x7b\"ip\":\"c\"\x7d]," ++
    "\"ports\":[\x7b\"name\":\"grpc\",\"port\":9000\x7d," ++
    "\x7b\"name\":\"http\",\"port\":8080\x7d]\x7d," ++
    "\x7b\"addresses\":[\x7b\"ip\":\"b\"\x7d,\x7b\"ip\":\"d\"\x7d]," ++
    "\"ports\":[\x7b\"name\":\"http\",\"port\":8080\x7d," ++
    "\x7b\"name\":\"http\",\"port\":8081\x7d]\x7d," ++
    "\x7b\"addresses\":[\x7b\"ip\":\"e\"\x7d]\x7d]\x7d"), true⟩

theorem subsets?_threeSubsets :
    subsets? threeSubsets =
      some [⟨["a", "b"], [⟨some "grpc", 9000⟩, ⟨some "http", 8080⟩]⟩,
        ⟨["b", "d"], [⟨some "http", 8080⟩, ⟨some "http", 8081⟩]⟩, ⟨["e"], []⟩] := by
  decide +kernel

theorem membership_of_three_subsets :
    (Directory.resolveBetween (.new .zero) .zero .zero .requireFresh ⟨"default", "nodes"⟩
      ((ofSettings { portName := some "http" }).answer ⟨"default", "nodes"⟩
        (.answered threeSubsets))).result =
      .ok [⟨"a", 8080⟩, ⟨"b", 8080⟩, ⟨"d", 8080⟩] :=
  ((membership_is_exact ..).1.result_ok_iff _).mpr
    ⟨_, .listed ⟨by decide, by decide⟩ (lists_iff.mpr ⟨_, subsets?_threeSubsets, rfl⟩), by decide,
      Endpoint.firstSeen_iff.mpr (by decide)⟩

end ControlPlane

end ClusterQuery
