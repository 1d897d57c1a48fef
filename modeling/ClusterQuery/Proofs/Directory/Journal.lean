import ClusterQuery.Proofs.Directory
import Mathlib.Data.List.Induction
import Mathlib.Data.List.Sort

/-!
# What a directory remembers

Calls come one after the other, the control plane may answer each of them with anything, and any
time may pass between calls and before an answer. The journal of a run holds what every call came
to and whether the control plane was asked. A directory that began empty has a snapshot of a
service if and only if the last lookup that told anything about the service's endpoints listed some,
and the snapshot is that list without repeats, as old as that answer. What calls for one service
leave behind and come to does not depend on the calls for any other.
-/

namespace ClusterQuery

namespace Endpoint

/-- One list holds the endpoints of another, each once, in the order in which they are first
seen there. -/
structure FirstSeen (endpoints kept : List Endpoint) : Prop where
  mem_iff : ∀ endpoint, endpoint ∈ kept ↔ endpoint ∈ endpoints
  inOrder : kept.Pairwise fun earlier later => endpoints.idxOf earlier < endpoints.idxOf later

theorem distinct_concat (endpoints : List Endpoint) (endpoint : Endpoint) :
    distinct (endpoints ++ [endpoint]) = keep (distinct endpoints) endpoint := by
  rw [distinct, List.foldl_append]
  rfl

theorem firstSeen_distinct (endpoints : List Endpoint) :
    FirstSeen endpoints (distinct endpoints) := by
  induction endpoints using List.reverseRecOn with
  | nil => exact ⟨fun _ => Iff.rfl, List.Pairwise.nil⟩
  | append_singleton endpoints last ih =>
      have placed (endpoint : Endpoint) (old : endpoint ∈ distinct endpoints) :
          (endpoints ++ [last]).idxOf endpoint = endpoints.idxOf endpoint :=
        List.idxOf_append_of_mem ((ih.mem_iff endpoint).mp old)
      have inOrder : (distinct endpoints).Pairwise fun earlier later =>
          (endpoints ++ [last]).idxOf earlier < (endpoints ++ [last]).idxOf later := by
        refine ih.inOrder.imp_of_mem fun earlierOld laterOld before => ?_
        rwa [placed _ earlierOld, placed _ laterOld]
      rw [distinct_concat, keep]
      split
      next known =>
        refine ⟨fun endpoint => ?_, inOrder⟩
        rw [List.mem_append, List.mem_singleton, ih.mem_iff]
        exact ⟨.inl, fun either => either.elim id fun equal => equal ▸ (ih.mem_iff last).mp known⟩
      next new =>
        refine ⟨fun endpoint => by rw [List.mem_append, List.mem_append, ih.mem_iff], ?_⟩
        rw [List.pairwise_append]
        refine ⟨inOrder, List.pairwise_singleton _ _, fun earlier old later isLast => ?_⟩
        rw [List.mem_singleton.mp isLast, placed earlier old,
          List.idxOf_append_of_notMem (mt (ih.mem_iff last).mpr new)]
        have inside := List.idxOf_lt_length_of_mem ((ih.mem_iff earlier).mp old)
        omega

/-- No other list holds the endpoints in the order in which they are first seen. -/
theorem firstSeen_iff {endpoints kept : List Endpoint} :
    FirstSeen endpoints kept ↔ kept = distinct endpoints := by
  have other := firstSeen_distinct endpoints
  refine ⟨fun firstSeen => ?_, fun equal => equal ▸ other⟩
  let before (earlier later : Endpoint) : Prop := endpoints.idxOf earlier < endpoints.idxOf later
  have irreflexive : Std.Irrefl before := ⟨fun _ => Nat.lt_irrefl _⟩
  have antisymmetric : Std.Antisymm before := ⟨fun _ _ one other => absurd one (Nat.lt_asymm other)⟩
  exact List.Pairwise.eq_of_mem_iff firstSeen.inOrder other.inOrder fun endpoint =>
    (firstSeen.mem_iff endpoint).trans (other.mem_iff endpoint).symm

theorem distinct_eq_nil_iff {endpoints : List Endpoint} :
    distinct endpoints = [] ↔ endpoints = [] := by
  have members := (firstSeen_distinct endpoints).mem_iff
  simp only [List.eq_nil_iff_forall_not_mem, members]

end Endpoint

/-- Whether an answer tells which endpoints a service has. -/
def LookupAnswer.isDecisive (answer : LookupAnswer) : Bool :=
  match answer with
  | .ok _ | .error .notFound => true
  | .error (.unreachable _) | .error (.malformed _) => false

/-- Whether an answer lists endpoints. -/
def LookupAnswer.listsSome (answer : LookupAnswer) : Bool :=
  match answer with
  | .ok endpoints => !endpoints.isEmpty
  | .error _ => false

namespace Directory

/-- A call in a run of calls. Times count from one beginning, so the time that passes between calls
and before an answer shows in them. -/
structure Call where
  service : ServiceKey
  freshness : Freshness
  /-- When the call looks at the snapshots. -/
  begun : Time.Span
  /-- When the control plane's answer arrives, if it is asked. -/
  arrived : Time.Span
  /-- What the control plane answers if it is asked. -/
  answer : LookupAnswer

/-- A call, and what it came to. -/
structure Entry where
  call : Call
  /-- Whether the control plane was asked. -/
  asked : Bool
  result : Except DirectoryError (List Endpoint)

/-- What a call comes to and leaves behind. -/
def serve (directory : Directory) (call : Call) : Resolution :=
  directory.resolveBetween call.begun call.arrived call.freshness call.service call.answer

/-- The directory after calls, one after the other. -/
def after (directory : Directory) : List Call → Directory
  | [] => directory
  | call :: calls => (directory.serve call).directory.after calls

/-- What a call adds to the journal. -/
def entry (directory : Directory) (call : Call) : Entry :=
  ⟨call, (directory.serve call).asked, (directory.serve call).result⟩

@[simp] theorem entry_call (directory : Directory) (call : Call) :
    (directory.entry call).call = call := rfl

/-- What calls, one after the other, come to. -/
def journal (directory : Directory) : List Call → List Entry
  | [] => []
  | call :: calls => directory.entry call :: (directory.serve call).directory.journal calls

namespace Entry

/-- Whether an entry is of a lookup for a service that told which endpoints the service has. -/
def informs (service : ServiceKey) (entry : Entry) : Bool :=
  entry.asked && decide (service = entry.call.service) && entry.call.answer.isDecisive

end Entry

/-- The last lookup that told which endpoints a service has. -/
def lastLookup? (service : ServiceKey) (entries : List Entry) : Option Entry :=
  (entries.filter (Entry.informs service)).getLast?

/-- The snapshot that a decisive lookup leaves behind, if any. -/
def Call.snapshot? (call : Call) : Option Snapshot :=
  match call.answer with
  | .ok endpoints =>
      if endpoints = [] then none else some ⟨Endpoint.distinct endpoints, call.arrived⟩
  | .error _ => none

theorem Call.snapshot?_eq_none (call : Call) (none : call.answer.listsSome = false) :
    call.snapshot? = Option.none := by
  rw [snapshot?]
  cases answer : call.answer with
  | error failure => rfl
  | ok endpoints =>
      rw [answer] at none
      exact if_pos (by simpa [LookupAnswer.listsSome] using none)

theorem Call.snapshot?_eq_some_iff (call : Call) {snapshot : Snapshot} :
    call.snapshot? = some snapshot ↔
      ∃ endpoints, call.answer = .ok endpoints ∧ endpoints ≠ [] ∧
        Endpoint.FirstSeen endpoints snapshot.endpoints ∧ snapshot.resolvedAt = call.arrived := by
  rw [snapshot?]
  cases call.answer with
  | error failure => simp
  | ok endpoints =>
      obtain ⟨kept, resolvedAt⟩ := snapshot
      simp only [Option.ite_none_left_eq_some, Option.some.injEq, Snapshot.mk.injEq,
        Except.ok.injEq, exists_eq_left', Endpoint.firstSeen_iff, @eq_comm _ kept,
        @eq_comm _ resolvedAt, ne_eq]

/-! ## One call -/

section Serve

variable (directory : Directory) (call : Call)

/-- A call learns nothing about the endpoints and leaves the directory alone, or learns which there
are and stores them, or learns that there are none and drops what was stored. -/
theorem serve_cases :
    (((directory.serve call).asked = false ∨ call.answer.isDecisive = false) ∧
      (directory.serve call).directory = directory ∧
      ∀ endpoints, (directory.serve call).result = .ok endpoints →
        directory.snapshot? call.service ≠ none) ∨
    (∃ endpoints updates, call.answer = .ok endpoints ∧ endpoints ≠ [] ∧
      directory.serve call = ⟨.ok (Endpoint.distinct endpoints),
        directory.store call.service ⟨Endpoint.distinct endpoints, call.arrived⟩, true, updates⟩) ∨
    (call.answer.isDecisive = true ∧ call.answer.listsSome = false ∧
      directory.serve call = directory.withoutEndpoints call.service) := by
  have cases := directory.resolveBetween_cases call.begun call.arrived call.freshness call.service
    call.answer
  rw [← serve] at cases
  rcases cases with ⟨snapshot, cached, equal⟩ | ⟨_, endpoints, answer, equal⟩ |
    ⟨_, answer, equal⟩ | ⟨_, failure, notKnown, answer, equal⟩
  · refine .inl ⟨.inl (by rw [equal]), by rw [equal], fun _ _ missing => ?_⟩
    rw [snapshot?_of_cached? cached] at missing
    cases missing
  · rw [answer]
    rcases directory.listed_cases call.arrived call.service endpoints with
      ⟨none, listed⟩ | ⟨some, listed⟩
    · rw [Endpoint.distinct_eq_nil_iff.mp none]
      exact .inr (.inr ⟨rfl, rfl, equal.trans listed⟩)
    · rw [ne_eq, Endpoint.distinct_eq_nil_iff] at some
      exact .inr (.inl ⟨endpoints, _, rfl, some, equal.trans listed⟩)
  · rw [answer]
    exact .inr (.inr ⟨rfl, rfl, equal⟩)
  · refine .inl ⟨.inr ?_, by rw [equal, unanswered_directory], fun endpoints resolved => ?_⟩
    · rw [answer]
      cases failure with
      | notFound => exact absurd rfl notKnown
      | unreachable reason => rfl
      | malformed reason => rfl
    · rw [equal] at resolved
      obtain ⟨snapshot, _, found, _⟩ := exists_snapshot_of_unanswered resolved
      rw [found]
      exact Option.some_ne_none snapshot

/-- A call that learns nothing about the endpoints leaves the directory as it is. -/
theorem directory_serve_of_untold
    (untold : (directory.serve call).asked = false ∨ call.answer.isDecisive = false) :
    (directory.serve call).directory = directory := by
  rcases directory.serve_cases call with
    ⟨_, same, _⟩ | ⟨endpoints, _, answer, _, equal⟩ | ⟨told, _, equal⟩
  · exact same
  · rw [equal, answer] at untold
    rcases untold with untold | untold <;> cases untold
  · rw [equal, told] at untold
    rcases untold with untold | untold <;> cases untold

/-- Only a lookup that tells about the endpoints of a service changes the service's snapshot. -/
theorem snapshot?_serve (service : ServiceKey) :
    (directory.serve call).directory.snapshot? service =
      if (directory.entry call).informs service then call.snapshot?
      else directory.snapshot? service := by
  rcases directory.serve_cases call with
    ⟨untold, same, _⟩ | ⟨endpoints, _, answer, some, equal⟩ | ⟨told, none, equal⟩
  · have notInformed : (directory.entry call).informs service = false := by
      simp only [Entry.informs, entry, Bool.and_eq_false_iff]
      exact untold.elim (fun notAsked => .inl (.inl notAsked)) .inr
    rw [notInformed, same]
    rfl
  · have informed : (directory.entry call).informs service = decide (service = call.service) := by
      simp [Entry.informs, entry, equal, answer, LookupAnswer.isDecisive]
    rw [informed, equal, snapshot?_store, Call.snapshot?, answer]
    simp only [if_neg some, decide_eq_true_eq]
  · have informed : (directory.entry call).informs service = decide (service = call.service) := by
      simp [Entry.informs, entry, equal, withoutEndpoints, told]
    rw [informed, call.snapshot?_eq_none none, equal, withoutEndpoints, snapshot?_drop]
    simp only [decide_eq_true_eq]

/-- A call comes to endpoints by a lookup that lists some, or by the service's snapshot. -/
theorem of_result_serve_eq_ok {endpoints : List Endpoint}
    (resolved : (directory.serve call).result = .ok endpoints) :
    ((directory.entry call).informs call.service = true ∧ call.answer.listsSome = true) ∨
      directory.snapshot? call.service ≠ none := by
  rcases directory.serve_cases call with
    ⟨_, _, known⟩ | ⟨listed, _, answer, some, equal⟩ | ⟨_, _, equal⟩
  · exact .inr (known endpoints resolved)
  · refine .inl ⟨by simp [Entry.informs, entry, equal, answer, LookupAnswer.isDecisive], ?_⟩
    rw [answer]
    simpa [LookupAnswer.listsSome] using some
  · rw [equal] at resolved
    cases resolved

theorem timeToLive_serve : (directory.serve call).directory.timeToLive = directory.timeToLive := by
  rcases directory.serve_cases call with ⟨_, same, _⟩ | ⟨_, _, _, _, equal⟩ | ⟨_, _, equal⟩
  · rw [same]
  · rw [equal]
    rfl
  · rw [equal]
    rfl

end Serve

/-! ## A run of calls -/

theorem lastLookup?_cons (service : ServiceKey) (entry : Entry) (entries : List Entry) :
    lastLookup? service (entry :: entries) =
      (lastLookup? service entries).or (if entry.informs service then some entry else none) := by
  rw [lastLookup?, List.filter_cons]
  split
  next => rw [List.getLast?_cons, lastLookup?, Option.or_some]
  next => rw [lastLookup?, Option.or_none]

/-- A snapshot after a run is what the last lookup that told about the endpoints left behind. -/
theorem snapshot?_after (directory : Directory) (calls : List Call) (service : ServiceKey) :
    (directory.after calls).snapshot? service =
      match lastLookup? service (directory.journal calls) with
      | some lookup => lookup.call.snapshot?
      | none => directory.snapshot? service := by
  induction calls generalizing directory with
  | nil => rfl
  | cons call calls ih =>
      rw [after, ih, journal, lastLookup?_cons, snapshot?_serve]
      cases lastLookup? service ((directory.serve call).directory.journal calls) with
      | some lookup => rfl
      | none => cases (directory.entry call).informs service <;> rfl

/-- A journal that falls in two parts is of calls that do. -/
theorem of_journal_eq_append {directory : Directory} {calls : List Call} {before rest : List Entry}
    (equal : directory.journal calls = before ++ rest) :
    ∃ first others, calls = first ++ others ∧ directory.journal first = before ∧
      (directory.after first).journal others = rest := by
  induction before generalizing directory calls with
  | nil => exact ⟨[], calls, rfl, rfl, equal⟩
  | cons entry before ih =>
      cases calls with
      | nil => cases equal
      | cons call calls =>
          obtain ⟨rfl, tail⟩ := List.cons.inj equal
          obtain ⟨first, others, rfl, rfl, rest⟩ := ih tail
          exact ⟨call :: first, others, rfl, rfl, rest⟩

theorem of_journal_eq_cons {directory : Directory} {calls : List Call} {first : Entry}
    {rest : List Entry} (equal : directory.journal calls = first :: rest) :
    ∃ call others, first = directory.entry call ∧
      rest = (directory.serve call).directory.journal others := by
  cases calls with
  | nil => cases equal
  | cons call others =>
      obtain ⟨rfl, rfl⟩ := List.cons.inj equal
      exact ⟨call, others, rfl, rfl⟩

/-- After a lookup that listed no endpoints of a service, no call for the service comes to any until
a lookup lists some. -/
theorem exists_listing_of_result_ok {directory : Directory} {calls : List Call}
    {service : ServiceKey} {before between rest : List Entry} {denial later : Entry}
    {endpoints : List Endpoint}
    (equal : directory.journal calls = before ++ denial :: (between ++ later :: rest))
    (denied : denial.informs service = true) (listsNone : denial.call.answer.listsSome = false)
    (same : later.call.service = service) (resolved : later.result = .ok endpoints) :
    ∃ entry ∈ between ++ [later],
      entry.informs service = true ∧ entry.call.answer.listsSome = true := by
  obtain ⟨_, _, -, -, sinceDenial⟩ := of_journal_eq_append equal
  generalize directory.after _ = directory at sinceDenial
  obtain ⟨denying, _, rfl, afterDenial⟩ := of_journal_eq_cons sinceDenial
  have dropped : (directory.serve denying).directory.snapshot? service = none := by
    rw [snapshot?_serve, if_pos denied]
    exact denying.snapshot?_eq_none listsNone
  generalize (directory.serve denying).directory = directory at afterDenial dropped
  obtain ⟨middle, _, -, rfl, sinceLater⟩ := of_journal_eq_append afterDenial.symm
  obtain ⟨calling, _, rfl, -⟩ := of_journal_eq_cons sinceLater
  subst same
  rcases of_result_serve_eq_ok _ calling resolved with listing | found
  · exact ⟨_, List.mem_append_right _ List.mem_cons_self, listing⟩
  · -- The snapshot can only have been left by a lookup between the two calls.
    rw [snapshot?_after] at found
    cases last : lastLookup? calling.service (directory.journal middle) with
    | none =>
        rw [last] at found
        exact absurd dropped found
    | some lookup =>
        rw [last] at found
        obtain ⟨member, informs⟩ := List.mem_filter.mp (List.mem_of_getLast? last)
        refine ⟨lookup, List.mem_append_left _ member, informs, ?_⟩
        by_contra listsNone
        exact found (lookup.call.snapshot?_eq_none (eq_false_of_ne_true listsNone))

/-! ## Calls for other services -/

/-- Two directories that calls for a service cannot tell apart. -/
structure Agree (service : ServiceKey) (left right : Directory) : Prop where
  timeToLive : left.timeToLive = right.timeToLive
  snapshot? : left.snapshot? service = right.snapshot? service

namespace Agree

theorem refl (service : ServiceKey) (directory : Directory) : Agree service directory directory :=
  ⟨rfl, rfl⟩

variable {left right : Directory} {service : ServiceKey} {call : Call}

theorem cached?_eq (agree : Agree service left right) (now : Time.Span) (freshness : Freshness) :
    left.cached? now freshness service = right.cached? now freshness service := by
  cases freshness with
  | requireFresh => rfl
  | allowCached => simp only [cached?, youngSnapshot?, agree.timeToLive, agree.snapshot?]

theorem result_unanswered (agree : Agree service left right) (freshness : Freshness)
    (failure : LookupFailure) :
    (left.unanswered freshness service failure).asked =
        (right.unanswered freshness service failure).asked ∧
      (left.unanswered freshness service failure).result =
        (right.unanswered freshness service failure).result := by
  unfold unanswered
  rw [agree.snapshot?]
  split <;> exact ⟨rfl, rfl⟩

theorem entry_eq (agree : Agree call.service left right) : left.entry call = right.entry call := by
  simp only [entry, serve, resolveBetween, agree.cached?_eq, Entry.mk.injEq, true_and]
  split
  next => exact ⟨rfl, rfl⟩
  next =>
    unfold answered
    split
    next =>
      simp only [listed]
      split <;> exact ⟨rfl, rfl⟩
    next => exact ⟨rfl, rfl⟩
    next => exact agree.result_unanswered _ _

/-- A call for the service leaves the directories alike. -/
theorem serve_both (agree : Agree call.service left right) :
    Agree call.service (left.serve call).directory (right.serve call).directory := by
  refine ⟨?_, ?_⟩
  · rw [timeToLive_serve, timeToLive_serve, agree.timeToLive]
  · rw [snapshot?_serve, snapshot?_serve, agree.entry_eq, agree.snapshot?]

/-- A call for another service changes nothing that calls for the service can tell. -/
theorem serve_other (agree : Agree service left right) (other : call.service ≠ service) :
    Agree service (left.serve call).directory right := by
  refine ⟨(left.timeToLive_serve call).trans agree.timeToLive, ?_⟩
  have untold : (left.entry call).informs service = false := by
    simp [Entry.informs, entry, Ne.symm other]
  rw [snapshot?_serve, untold]
  exact agree.snapshot?

/-- What the calls for a service come to and leave behind is what they do by themselves. -/
theorem journal_filter (agree : Agree service left right) (calls : List Call) :
    ((left.journal calls).filter fun entry => entry.call.service = service) =
        right.journal (calls.filter fun call => call.service = service) ∧
      Agree service (left.after calls)
        (right.after (calls.filter fun call => call.service = service)) := by
  induction calls generalizing left right with
  | nil => exact ⟨rfl, agree⟩
  | cons call calls ih =>
      rw [journal, List.filter_cons, List.filter_cons, entry_call]
      by_cases own : call.service = service
      · subst own
        obtain ⟨entries, directories⟩ := ih agree.serve_both
        rw [if_pos (decide_eq_true rfl), if_pos (decide_eq_true rfl), entries, agree.entry_eq]
        exact ⟨rfl, directories⟩
      · have isOther : ¬decide (call.service = service) = true := by simpa using own
        obtain ⟨entries, directories⟩ := ih (agree.serve_other own)
        rw [if_neg isOther, if_neg isOther, entries]
        exact ⟨rfl, directories⟩

end Agree

/-! ## The law of snapshots -/

/-- A directory has a snapshot of a service if and only if the last lookup that told which endpoints
the service has listed some: it holds what was listed, each endpoint once, in the order in which
they are first seen, and is as old as that answer. So a service that was found to have no
endpoints has none for any caller until a lookup lists some. Calls that learn nothing change no
snapshot and do not renew it. What calls for a service come to and leave behind is what they do
without the calls for other services. -/
theorem snapshots_of_journal (timeToLive : Time.Span) (calls : List Call) (service : ServiceKey) :
    let start := new timeToLive
    let own := calls.filter fun call => call.service = service
    (∀ snapshot, (start.after calls).snapshot? service = some snapshot ↔
      ∃ lookup endpoints, lastLookup? service (start.journal calls) = some lookup ∧
        lookup.call.answer = .ok endpoints ∧ endpoints ≠ [] ∧
        Endpoint.FirstSeen endpoints snapshot.endpoints ∧
        snapshot.resolvedAt = lookup.call.arrived) ∧
    (∀ snapshot, (start.after calls).snapshot? service = some snapshot →
      snapshot.endpoints ≠ [] ∧ snapshot.endpoints.Nodup) ∧
    (∀ before denial between later rest endpoints,
      start.journal calls = before ++ denial :: (between ++ later :: rest) →
      denial.informs service = true → denial.call.answer.listsSome = false →
      later.call.service = service → later.result = .ok endpoints →
      ∃ entry ∈ between ++ [later],
        entry.informs service = true ∧ entry.call.answer.listsSome = true) ∧
    (∀ (directory : Directory) (call : Call),
      (directory.serve call).asked = false ∨ call.answer.isDecisive = false →
        (directory.serve call).directory = directory) ∧
    ((start.journal calls).filter fun entry => entry.call.service = service) = start.journal own ∧
      (start.after calls).snapshot? service = (start.after own).snapshot? service := by
  intro start own
  have left (snapshot : Snapshot) : (start.after calls).snapshot? service = some snapshot ↔
      ∃ lookup endpoints, lastLookup? service (start.journal calls) = some lookup ∧
        lookup.call.answer = .ok endpoints ∧ endpoints ≠ [] ∧
        Endpoint.FirstSeen endpoints snapshot.endpoints ∧
        snapshot.resolvedAt = lookup.call.arrived := by
    rw [snapshot?_after]
    cases lastLookup? service (start.journal calls) with
    | none => simp [start, new, snapshot?]
    | some lookup => simp [lookup.call.snapshot?_eq_some_iff]
  refine ⟨left, fun snapshot found => ?_, ?_, directory_serve_of_untold, ?_⟩
  · obtain ⟨_, endpoints, _, _, some, firstSeen, _⟩ := (left snapshot).mp found
    rw [Endpoint.firstSeen_iff.mp firstSeen, ne_eq, Endpoint.distinct_eq_nil_iff]
    exact ⟨some, Endpoint.nodup_distinct endpoints⟩
  · intro before denial between later rest endpoints equal denied listsNone same resolved
    exact exists_listing_of_result_ok equal denied listsNone same resolved
  · obtain ⟨entries, directories⟩ := (Agree.refl service start).journal_filter calls
    exact ⟨entries, directories.snapshot?⟩

/-- A failed lookup half a minute later, when the snapshot is too old to spare the question, neither
drops the snapshot nor renews it. -/
theorem snapshots_of_two_calls :
    let service : ServiceKey := ⟨"space", "service"⟩
    let listing : Call :=
      ⟨service, .allowCached, .zero, .ofSeconds 1, .ok [⟨"a", 1⟩, ⟨"b", 2⟩, ⟨"a", 1⟩]⟩
    let failing : Call :=
      ⟨service, .allowCached, .ofSeconds 30, .ofSeconds 31, .error (.unreachable "down")⟩
    let start := new (.ofSeconds 5)
    (start.journal [listing, failing]).map Entry.asked = [true, true] ∧
      (start.after [listing, failing]).snapshot? service =
        some ⟨[⟨"a", 1⟩, ⟨"b", 2⟩], .ofSeconds 1⟩ := by
  intro service listing failing start
  obtain ⟨snapshots, -⟩ := snapshots_of_journal (.ofSeconds 5) [listing, failing] service
  have firstSeen : Endpoint.FirstSeen [⟨"a", 1⟩, ⟨"b", 2⟩, ⟨"a", 1⟩] [⟨"a", 1⟩, ⟨"b", 2⟩] :=
    Endpoint.firstSeen_iff.mpr rfl
  have bothAsked : (start.journal [listing, failing]).map Entry.asked = [true, true] := by
    decide +kernel
  have told : (start.entry listing).informs service = true := by decide +kernel
  have untold : ((start.serve listing).directory.entry failing).informs service = false :=
    Bool.and_false _
  have last : lastLookup? service (start.journal [listing, failing]) =
      some (start.entry listing) := by
    rw [journal, journal, lastLookup?_cons, lastLookup?_cons, told, untold]
    rfl
  exact ⟨bothAsked, (snapshots _).mpr
    ⟨_, _, last, rfl, List.cons_ne_nil _ _, firstSeen, rfl⟩⟩

end Directory

end ClusterQuery
