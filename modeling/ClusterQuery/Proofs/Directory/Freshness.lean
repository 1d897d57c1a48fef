import ClusterQuery.Proofs.Directory.Journal

/-!
# How old an answer may be

A caller that requires a fresh answer is told what the control plane says, and nothing else. A
caller that accepts a snapshot is spared the question while the snapshot is younger than the time to
live; once the question is put, the two callers are told the same, unless the control plane cannot
say which endpoints there are. So as long as it can, every list that a caller gets is what the
control plane said in this very call, or less than the time to live ago, however calls overlap.
-/

namespace ClusterQuery.Directory

/-- What a caller is told who hears nothing but the answer of the control plane. -/
def told (service : ServiceKey) : LookupAnswer → Except DirectoryError (List Endpoint)
  | .ok endpoints =>
      if endpoints = [] then .error (.notFound service) else .ok (Endpoint.distinct endpoints)
  | .error .notFound => .error (.notFound service)
  | .error failure => .error (.unavailable service failure)

section OneCall

variable {directory : Directory} {service : ServiceKey} {answer : LookupAnswer}

/-- A snapshot spares the question if and only if it is younger than the time to live. -/
theorem cached?_allowCached_eq_some_iff {now : Time.Span} {snapshot : Snapshot} :
    directory.cached? now .allowCached service = some snapshot ↔
      directory.snapshot? service = some snapshot ∧
        now.nanos - snapshot.resolvedAt.nanos < directory.timeToLive.nanos := by
  simp [cached?, youngSnapshot?, Option.filter_eq_some_iff]

theorem resolveBetween_of_missed {begun : Time.Span} {freshness : Freshness}
    (missed : directory.cached? begun freshness service = none) (arrived : Time.Span) :
    directory.resolveBetween begun arrived freshness service answer =
      directory.answered arrived freshness service answer := by
  simp only [resolveBetween, missed]

/-- An answer that tells which endpoints there are is all that a caller hears. -/
theorem result_answered_of_isDecisive (arrived : Time.Span) (freshness : Freshness)
    (decisive : answer.isDecisive = true) :
    (directory.answered arrived freshness service answer).result = told service answer := by
  rcases answer with (_ | _ | _) | endpoints
  · cases decisive
  · rfl
  · cases decisive
  · rcases directory.listed_cases arrived service endpoints with ⟨none, equal⟩ | ⟨some, equal⟩
    · rw [answered, equal, told, if_pos (Endpoint.distinct_eq_nil_iff.mp none)]
      rfl
    · rw [answered, equal, told, if_neg (mt Endpoint.distinct_eq_nil_iff.mpr some)]

/-- Without such an answer a caller is told so, unless there is a snapshot that it accepts. -/
theorem result_answered_of_not_isDecisive (arrived : Time.Span) (freshness : Freshness)
    (silent : answer.isDecisive = false) :
    (directory.answered arrived freshness service answer).result =
      match freshness, directory.snapshot? service with
      | .allowCached, some snapshot => .ok snapshot.endpoints
      | _, _ => told service answer := by
  have unanswered (failure : LookupFailure) :
      (directory.unanswered freshness service failure).result =
        match freshness, directory.snapshot? service with
        | .allowCached, some snapshot => .ok snapshot.endpoints
        | _, _ => .error (.unavailable service failure) := by
    cases freshness with
    | requireFresh => rfl
    | allowCached =>
        cases found : directory.snapshot? service <;> simp only [Directory.unanswered, found]
  rcases answer with (reason | _ | reason) | endpoints
  · exact unanswered (.unreachable reason)
  · cases silent
  · exact unanswered (.malformed reason)
  · cases silent

/-- A caller that requires a fresh answer has the question put, and hears the answer alone. -/
theorem resolveBetween_requireFresh (directory : Directory) (begun arrived : Time.Span)
    (service : ServiceKey) (answer : LookupAnswer) :
    (directory.resolveBetween begun arrived .requireFresh service answer).asked = true ∧
      (directory.resolveBetween begun arrived .requireFresh service answer).result =
        told service answer := by
  constructor
  · rw [asked_resolveBetween]
    rfl
  · rw [resolveBetween_of_missed rfl]
    cases decisive : answer.isDecisive with
    | true => exact result_answered_of_isDecisive arrived .requireFresh decisive
    | false => exact result_answered_of_not_isDecisive arrived .requireFresh decisive

end OneCall

/-! ## Calls that overlap -/

/-- What a call does at one moment. Between its moments there may be those of other calls. -/
inductive Moment where
  /-- The call looks at the snapshots. -/
  | looks (call : Call)
  /-- The control plane's answer to the call's lookup arrives. -/
  | hears (call : Call)

/-- The directory after a moment. -/
def step (directory : Directory) : Moment → Directory
  | .looks _ => directory
  | .hears call =>
      (directory.answered call.arrived call.freshness call.service call.answer).directory

/-- The endpoints that a call comes to at a moment; one that has to ask comes to none by looking. -/
def gets? (directory : Directory) : Moment → Option (List Endpoint)
  | .looks call =>
      (directory.cached? call.begun call.freshness call.service).map Snapshot.endpoints
  | .hears call =>
      (directory.answered call.arrived call.freshness call.service call.answer).result.toOption

/-- The directory after moments, one after the other. -/
def run (directory : Directory) (moments : List Moment) : Directory := moments.foldl step directory

/-- The moments of a call that no other overlaps. -/
def momentsOf (directory : Directory) (call : Call) : List Moment :=
  .looks call :: if (directory.serve call).asked then [.hears call] else []

/-- A call that no other overlaps leaves behind and comes to what it does at its moments. -/
theorem serve_eq_momentsOf (directory : Directory) (call : Call) :
    (directory.serve call).directory = directory.run (directory.momentsOf call) ∧
      (directory.serve call).result.toOption =
        (directory.momentsOf call).getLast?.bind directory.gets? := by
  have asked : (directory.serve call).asked =
      (directory.cached? call.begun call.freshness call.service).isNone :=
    directory.asked_resolveBetween ..
  cases cached : directory.cached? call.begun call.freshness call.service with
  | some snapshot =>
      rw [cached] at asked
      have served : directory.serve call =
          ⟨.ok snapshot.endpoints, directory, false, [counted "cache_hit"]⟩ := by
        simp only [serve, resolveBetween, cached]
      rw [momentsOf, asked, served]
      refine ⟨rfl, ?_⟩
      change _ = (directory.cached? ..).map Snapshot.endpoints
      rw [cached]
      rfl
  | none =>
      rw [cached] at asked
      rw [momentsOf, asked, serve, resolveBetween_of_missed cached]
      exact ⟨rfl, rfl⟩

section Step

variable {directory : Directory} {service : ServiceKey} {answer : LookupAnswer}

/-- An answer leaves the directory alone, or has its list stored, or the service dropped. -/
theorem directory_answered_cases (directory : Directory) (arrived : Time.Span)
    (freshness : Freshness) (service : ServiceKey) (answer : LookupAnswer) :
    (directory.answered arrived freshness service answer).directory = directory ∨
    (∃ listed, answer = .ok listed ∧
      (directory.answered arrived freshness service answer).directory =
        directory.store service ⟨Endpoint.distinct listed, arrived⟩) ∨
    (directory.answered arrived freshness service answer).directory = directory.drop service := by
  rcases answer with (reason | _ | reason) | listed
  · exact .inl (unanswered_directory freshness (.unreachable reason))
  · exact .inr (.inr rfl)
  · exact .inl (unanswered_directory freshness (.malformed reason))
  · rcases directory.listed_cases arrived service listed with ⟨_, equal⟩ | ⟨_, equal⟩
    · exact .inr (.inr (congrArg Resolution.directory equal))
    · exact .inr (.inl ⟨listed, rfl, congrArg Resolution.directory equal⟩)

theorem timeToLive_step (directory : Directory) (moment : Moment) :
    (directory.step moment).timeToLive = directory.timeToLive := by
  cases moment with
  | looks call => rfl
  | hears call =>
      rcases directory.directory_answered_cases call.arrived call.freshness call.service
        call.answer with same | ⟨_, _, stored⟩ | dropped
      · rw [step, same]
      · rw [step, stored]
        rfl
      · rw [step, dropped]
        rfl

/-- A snapshot after a moment was there before, or is what the moment's lookup listed. -/
theorem of_snapshot?_step {moment : Moment} {snapshot : Snapshot}
    (found : (directory.step moment).snapshot? service = some snapshot) :
    directory.snapshot? service = some snapshot ∨
      ∃ lookup, moment = .hears lookup ∧ lookup.service = service ∧
        lookup.arrived = snapshot.resolvedAt ∧
        ∃ listed, lookup.answer = .ok listed ∧
          Endpoint.FirstSeen listed snapshot.endpoints := by
  cases moment with
  | looks call => exact .inl found
  | hears call =>
      rw [step] at found
      rcases directory.directory_answered_cases call.arrived call.freshness call.service
        call.answer with same | ⟨listed, answer, stored⟩ | dropped
      · exact .inl (same ▸ found)
      · rw [stored, snapshot?_store] at found
        split at found
        next same =>
          cases found
          exact .inr ⟨call, rfl, same.symm, rfl, listed, answer, Endpoint.firstSeen_distinct _⟩
        next => exact .inl found
      · rw [dropped, snapshot?_drop] at found
        split at found
        next => cases found
        next => exact .inl found

end Step

theorem timeToLive_run (directory : Directory) (moments : List Moment) :
    (directory.run moments).timeToLive = directory.timeToLive := by
  induction moments generalizing directory with
  | nil => rfl
  | cons moment moments ih => exact (ih _).trans (timeToLive_step directory moment)

/-- In a run that began without snapshots, a snapshot is what a lookup of the run listed. -/
theorem exists_lookup_of_snapshot? {timeToLive : Time.Span} {moments : List Moment}
    {service : ServiceKey} {snapshot : Snapshot}
    (found : ((new timeToLive).run moments).snapshot? service = some snapshot) :
    ∃ lookup, .hears lookup ∈ moments ∧ lookup.service = service ∧
      lookup.arrived = snapshot.resolvedAt ∧
      ∃ listed, lookup.answer = .ok listed ∧ Endpoint.FirstSeen listed snapshot.endpoints := by
  induction moments using List.reverseRecOn with
  | nil => cases found
  | append_singleton moments last ih =>
      rw [run, List.foldl_append] at found
      rcases of_snapshot?_step found with old | ⟨lookup, rfl, same⟩
      · obtain ⟨lookup, member, same⟩ := ih old
        exact ⟨lookup, List.mem_append_left _ member, same⟩
      · exact ⟨lookup, List.mem_append_right _ (List.mem_singleton_self _), same⟩

/-- A call that looks and comes to endpoints has found a young snapshot. -/
theorem of_gets?_looks {directory : Directory} {call : Call} {endpoints : List Endpoint}
    (resolved : directory.gets? (.looks call) = some endpoints) :
    ∃ snapshot, directory.snapshot? call.service = some snapshot ∧
      snapshot.endpoints = endpoints ∧
      call.begun.nanos - snapshot.resolvedAt.nanos < directory.timeToLive.nanos := by
  obtain ⟨snapshot, cached, equal⟩ := Option.map_eq_some_iff.mp resolved
  cases accepts : call.freshness with
  | requireFresh =>
      rw [accepts] at cached
      cases cached
  | allowCached =>
      rw [accepts, cached?_allowCached_eq_some_iff] at cached
      exact ⟨snapshot, cached.1, equal, cached.2⟩

/-- A call that comes to endpoints by an answer that tells which there are was told those. -/
theorem of_gets?_hears {directory : Directory} {call : Call} {endpoints : List Endpoint}
    (decisive : call.answer.isDecisive = true)
    (resolved : directory.gets? (.hears call) = some endpoints) :
    ∃ listed, call.answer = .ok listed ∧ Endpoint.FirstSeen listed endpoints := by
  rw [gets?, result_answered_of_isDecisive _ _ decisive] at resolved
  rcases answer : call.answer with (_ | _ | _) | listed
  · rw [answer] at resolved
    cases resolved
  · rw [answer] at resolved
    cases resolved
  · rw [answer] at resolved
    cases resolved
  · rw [answer, told] at resolved
    split at resolved
    next => cases resolved
    next =>
      cases resolved
      exact ⟨listed, rfl, Endpoint.firstSeen_distinct listed⟩

/-- The contract of freshness. A caller that requires a fresh answer has the control plane asked
and is told what it answers, whatever the directory and the time are. A caller that accepts a
snapshot is spared the question if and only if there is a snapshot younger than the time to live,
and then gets it; otherwise it is told the same as the other caller, except that the last snapshot,
however old, stands in for an answer that does not tell which endpoints there are. A call by itself
is what it does at its moments; and in a run of moments, however calls overlap, in which every
lookup tells which endpoints there are, every list that a call comes to was listed in answer to its
own lookup, or to one whose answer arrived before, less than the time to live ago. -/
theorem freshness_of_moments (timeToLive : Time.Span) :
    (∀ (directory : Directory) (begun arrived : Time.Span) (service : ServiceKey)
        (answer : LookupAnswer),
      let fresh := directory.resolveBetween begun arrived .requireFresh service answer
      let lenient := directory.resolveBetween begun arrived .allowCached service answer
      fresh.asked = true ∧ fresh.result = told service answer ∧
      (lenient.asked = false ↔ ∃ snapshot, directory.snapshot? service = some snapshot ∧
        begun.nanos - snapshot.resolvedAt.nanos < directory.timeToLive.nanos) ∧
      (lenient.asked = false → ∃ snapshot, directory.snapshot? service = some snapshot ∧
        lenient.result = .ok snapshot.endpoints) ∧
      (lenient.asked = true → answer.isDecisive = true → lenient.result = fresh.result) ∧
      (lenient.asked = true → answer.isDecisive = false →
        lenient.result = match directory.snapshot? service with
          | some snapshot => .ok snapshot.endpoints
          | none => fresh.result)) ∧
    (∀ (directory : Directory) (call : Call),
      (directory.serve call).directory = directory.run (directory.momentsOf call) ∧
        (directory.serve call).result.toOption =
          (directory.momentsOf call).getLast?.bind directory.gets?) ∧
    ∀ moments, (∀ call, .hears call ∈ moments → call.answer.isDecisive = true) →
      ∀ before moment rest endpoints, moments = before ++ moment :: rest →
        ((new timeToLive).run before).gets? moment = some endpoints →
          (∃ call listed, moment = .hears call ∧ call.answer = .ok listed ∧
            Endpoint.FirstSeen listed endpoints) ∨
          (∃ call lookup listed, moment = .looks call ∧ .hears lookup ∈ before ∧
            lookup.service = call.service ∧
            call.begun.nanos - lookup.arrived.nanos < timeToLive.nanos ∧
            lookup.answer = .ok listed ∧ Endpoint.FirstSeen listed endpoints) := by
  refine ⟨?_, serve_eq_momentsOf, ?_⟩
  · intro directory begun arrived service answer fresh lenient
    obtain ⟨freshAsked, freshResult⟩ :=
      directory.resolveBetween_requireFresh begun arrived service answer
    have asked : lenient.asked = (directory.cached? begun .allowCached service).isNone :=
      directory.asked_resolveBetween ..
    have missed (isAsked : lenient.asked = true) :
        lenient = directory.answered arrived .allowCached service answer := by
      rw [isAsked] at asked
      exact resolveBetween_of_missed (Option.isNone_iff_eq_none.mp asked.symm) arrived
    refine ⟨freshAsked, freshResult, ?_, ?_, ?_, ?_⟩
    · rw [asked]
      simp only [← cached?_allowCached_eq_some_iff, Option.isNone_eq_false_iff,
        Option.isSome_iff_exists]
    · intro spared
      rw [asked, Option.isNone_eq_false_iff, Option.isSome_iff_exists] at spared
      obtain ⟨snapshot, cached⟩ := spared
      refine ⟨snapshot, (cached?_allowCached_eq_some_iff.mp cached).1, ?_⟩
      simp only [lenient, resolveBetween, cached]
    · intro isAsked decisive
      rw [missed isAsked, freshResult]
      exact result_answered_of_isDecisive arrived .allowCached decisive
    · intro isAsked silent
      rw [missed isAsked, freshResult, result_answered_of_not_isDecisive arrived _ silent]
      cases directory.snapshot? service <;> rfl
  · rintro _ answered before moment rest endpoints rfl resolved
    cases moment with
    | hears call =>
        have decisive := answered call (List.mem_append_right _ List.mem_cons_self)
        obtain ⟨listed, answer, firstSeen⟩ := of_gets?_hears decisive resolved
        exact .inl ⟨call, listed, rfl, answer, firstSeen⟩
    | looks call =>
        obtain ⟨snapshot, found, rfl, young⟩ := of_gets?_looks resolved
        obtain ⟨lookup, member, same, arrived, listed, answer, firstSeen⟩ :=
          exists_lookup_of_snapshot? found
        rw [timeToLive_run, ← arrived] at young
        exact .inr ⟨call, lookup, listed, rfl, member, same, young, answer, firstSeen⟩

/-- Two calls look before either hears, so both ask; the second answer to arrive is what a third
call finds at the age of four seconds. At that of five, which is the time to live, a snapshot does
not help. -/
theorem freshness_of_overlapping_calls :
    let call (begun arrived : Nat) (host : String) : Call :=
      ⟨⟨"space", "service"⟩, .allowCached, .ofSeconds begun, .ofSeconds arrived, .ok [⟨host, 1⟩]⟩
    let one := call 0 2 "a"
    let other := call 1 3 "b"
    let spared := call 7 7 "c"
    let asking := call 8 8 "c"
    let before : List Moment := [.looks one, .looks other, .hears one, .hears other]
    let directory := (new (.ofSeconds 5)).run before
    (∀ call, .hears call ∈ before ++ [.looks spared] → call.answer.isDecisive = true) ∧
      directory.gets? (.looks spared) = some [⟨"b", 1⟩] ∧
      directory.gets? (.looks asking) = none ∧
      ∃ lookup listed, .hears lookup ∈ before ∧
        spared.begun.nanos - lookup.arrived.nanos < (Time.Span.ofSeconds 5).nanos ∧
        lookup.answer = .ok listed ∧ Endpoint.FirstSeen listed [⟨"b", 1⟩] := by
  intro call one other spared asking before directory
  have answered : ∀ call, .hears call ∈ before ++ [.looks spared] →
      call.answer.isDecisive = true := by
    intro heard member
    simp only [before, List.cons_append, List.nil_append, List.mem_cons, reduceCtorEq, false_or,
      Moment.hears.injEq, List.not_mem_nil, or_false] at member
    rcases member with rfl | rfl <;> rfl
  have found : directory.gets? (.looks spared) = some [⟨"b", 1⟩] := by decide +kernel
  refine ⟨answered, found, by decide +kernel, ?_⟩
  rcases (freshness_of_moments (.ofSeconds 5)).2.2 _ answered before _ [] _ rfl found with
    ⟨_, _, isHeard, -⟩ | ⟨_, lookup, listed, isLook, member, -, young, answer, firstSeen⟩
  · cases isHeard
  · cases isLook
    exact ⟨lookup, listed, member, young, answer, firstSeen⟩

end ClusterQuery.Directory
