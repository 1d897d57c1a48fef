import ClusterQuery.Directory
import Mathlib.Data.List.Nodup

/-!
# Reachable directories

Calls may overlap: each looks at the snapshots, asks the control plane, and writes what it was told
when the answer arrives. The reachable directories are those that such writes lead to, in any order.
In all of them, a snapshot holds endpoints without repeats, and at least one.
-/

namespace ClusterQuery

namespace Endpoint

/-- One more endpoint keeps a list without repeats. -/
def keep (kept : List Endpoint) (endpoint : Endpoint) : List Endpoint :=
  if endpoint ∈ kept then kept else kept ++ [endpoint]

theorem nodup_keep {kept : List Endpoint} (distinct : kept.Nodup) (endpoint : Endpoint) :
    (keep kept endpoint).Nodup := by
  rw [keep]
  split
  next => exact distinct
  next new =>
    refine List.Nodup.append distinct (List.nodup_singleton endpoint) ?_
    rw [List.disjoint_singleton]
    exact new

theorem nodup_distinct (endpoints : List Endpoint) : (distinct endpoints).Nodup := by
  change (endpoints.foldl keep []).Nodup
  exact List.foldlRecOn endpoints keep List.nodup_nil fun kept nodup endpoint _ =>
    nodup_keep nodup endpoint

end Endpoint

namespace Directory

/-- The four ways in which a resolution may go. -/
theorem resolveBetween_cases (directory : Directory) (begun arrived : Time.Span)
    (freshness : Freshness) (service : ServiceKey) (answer : LookupAnswer) :
    (∃ snapshot, directory.cached? begun freshness service = some snapshot ∧
      directory.resolveBetween begun arrived freshness service answer =
        ⟨.ok snapshot.endpoints, directory, false, [counted "cache_hit"]⟩) ∨
    (directory.cached? begun freshness service = none ∧ ∃ endpoints, answer = .ok endpoints ∧
      directory.resolveBetween begun arrived freshness service answer =
        directory.listed arrived service endpoints) ∨
    (directory.cached? begun freshness service = none ∧ answer = .error .notFound ∧
      directory.resolveBetween begun arrived freshness service answer =
        directory.withoutEndpoints service) ∨
    (directory.cached? begun freshness service = none ∧
      ∃ failure, failure ≠ .notFound ∧ answer = .error failure ∧
        directory.resolveBetween begun arrived freshness service answer =
          directory.unanswered freshness service failure) := by
  simp only [Directory.resolveBetween]
  cases cached : directory.cached? begun freshness service with
  | some snapshot => exact .inl ⟨snapshot, rfl, rfl⟩
  | none =>
      refine .inr ?_
      rcases answer with (reason | _ | reason) | endpoints
      · exact .inr (.inr ⟨rfl, .unreachable reason, nofun, rfl, rfl⟩)
      · exact .inr (.inl ⟨rfl, rfl, rfl⟩)
      · exact .inr (.inr ⟨rfl, .malformed reason, nofun, rfl, rfl⟩)
      · exact .inl ⟨rfl, endpoints, rfl, rfl⟩

variable {directory : Directory} {service : ServiceKey}

/-- A snapshot that spares the question is the service's snapshot. -/
theorem snapshot?_of_cached? {now : Time.Span} {freshness : Freshness} {snapshot : Snapshot}
    (cached : directory.cached? now freshness service = some snapshot) :
    directory.snapshot? service = some snapshot := by
  cases freshness with
  | allowCached => exact (Option.filter_eq_some_iff.mp cached).1
  | requireFresh => cases cached

/-- The directories that overlapping calls can lead to. -/
inductive Reachable : Directory → Prop where
  | new (timeToLive : Time.Span) : Reachable (.new timeToLive)
  /-- The control plane listed endpoints. -/
  | listed {directory : Directory} (reachable : Reachable directory) (now : Time.Span)
      (service : ServiceKey) (endpoints : List Endpoint) :
      Reachable (directory.listed now service endpoints).directory
  /-- The control plane does not know the service. -/
  | unknown {directory : Directory} (reachable : Reachable directory) (service : ServiceKey) :
      Reachable (directory.withoutEndpoints service).directory

theorem listed_cases (directory : Directory) (now : Time.Span) (service : ServiceKey)
    (endpoints : List Endpoint) :
    (Endpoint.distinct endpoints = [] ∧
      directory.listed now service endpoints = directory.withoutEndpoints service) ∨
    (Endpoint.distinct endpoints ≠ [] ∧
      directory.listed now service endpoints =
        ⟨.ok (Endpoint.distinct endpoints),
          directory.store service ⟨Endpoint.distinct endpoints, now⟩, true,
          [counted "success", .setDiscovered (Endpoint.distinct endpoints).length]⟩) := by
  by_cases none : Endpoint.distinct endpoints = []
  · exact .inl ⟨none, if_pos (List.isEmpty_iff.mpr none)⟩
  · exact .inr ⟨none, if_neg (mt List.isEmpty_iff.mp none)⟩

/-- Without an answer, the last snapshot helps where it is accepted. -/
theorem unanswered_cases (directory : Directory) (freshness : Freshness) (service : ServiceKey)
    (failure : LookupFailure) :
    (∃ snapshot, freshness = .allowCached ∧ directory.snapshot? service = some snapshot ∧
      directory.unanswered freshness service failure =
        ⟨.ok snapshot.endpoints, directory, true, [counted "stale"]⟩) ∨
    directory.unanswered freshness service failure =
      ⟨.error (.unavailable service failure), directory, true, [counted "unavailable"]⟩ := by
  cases freshness with
  | requireFresh => exact .inr rfl
  | allowCached =>
      cases found : directory.snapshot? service with
      | none => exact .inr (by simp only [unanswered, found])
      | some snapshot => exact .inl ⟨snapshot, rfl, rfl, by simp only [unanswered, found]⟩

theorem unanswered_directory (freshness : Freshness) (failure : LookupFailure) :
    (directory.unanswered freshness service failure).directory = directory := by
  rcases directory.unanswered_cases freshness service failure with ⟨_, _, _, equal⟩ | equal <;>
    exact congrArg Resolution.directory equal

/-- Without an answer, only the last snapshot gives endpoints, and only where it is accepted. -/
theorem exists_snapshot_of_unanswered {freshness : Freshness} {failure : LookupFailure}
    {endpoints : List Endpoint}
    (resolved : (directory.unanswered freshness service failure).result = .ok endpoints) :
    ∃ snapshot, freshness = .allowCached ∧ directory.snapshot? service = some snapshot ∧
      endpoints = snapshot.endpoints := by
  rcases directory.unanswered_cases freshness service failure with
    ⟨snapshot, accepted, found, equal⟩ | equal
  · rw [equal] at resolved
    cases resolved
    exact ⟨snapshot, accepted, found, rfl⟩
  · rw [equal] at resolved
    cases resolved

theorem snapshot?_of_withoutEndpoints {other : ServiceKey} {snapshot : Snapshot}
    (found : (directory.withoutEndpoints other).directory.snapshot? service = some snapshot) :
    directory.snapshot? service = some snapshot := by
  rw [withoutEndpoints, snapshot?_drop] at found
  split at found
  next => cases found
  next => exact found

namespace Reachable

/-- A call leads from a reachable directory to a reachable one. -/
theorem resolve (reachable : Reachable directory) (now : Time.Span) (freshness : Freshness)
    (service : ServiceKey) (answer : LookupAnswer) :
    Reachable (directory.resolve now freshness service answer).directory := by
  rw [Directory.resolve]
  rcases directory.resolveBetween_cases now now freshness service answer with
    ⟨_, _, equal⟩ | ⟨_, endpoints, _, equal⟩ | ⟨_, _, equal⟩ | ⟨_, failure, _, _, equal⟩
  · exact equal ▸ reachable
  · exact equal ▸ reachable.listed now service endpoints
  · exact equal ▸ reachable.unknown service
  · rw [equal, unanswered_directory]
    exact reachable

/-- A snapshot holds endpoints, and none of them twice. -/
theorem proper_snapshot (reachable : Reachable directory) {snapshot : Snapshot}
    (found : directory.snapshot? service = some snapshot) :
    snapshot.endpoints ≠ [] ∧ snapshot.endpoints.Nodup := by
  induction reachable with
  | new timeToLive => cases found
  | @listed directory _ now other endpoints ih =>
      rcases directory.listed_cases now other endpoints with ⟨_, equal⟩ | ⟨some, equal⟩
      · rw [equal] at found
        exact ih (snapshot?_of_withoutEndpoints found)
      · rw [equal, snapshot?_store] at found
        split at found
        next =>
          cases found
          exact ⟨some, Endpoint.nodup_distinct endpoints⟩
        next => exact ih found
  | @unknown directory _ other ih => exact ih (snapshot?_of_withoutEndpoints found)

end Reachable

/-- The endpoints that a call gets are some, and none of them twice. -/
theorem Reachable.proper_resolve (reachable : Reachable directory) {now : Time.Span}
    {freshness : Freshness} {answer : LookupAnswer} {endpoints : List Endpoint}
    (resolved : (directory.resolve now freshness service answer).result = .ok endpoints) :
    endpoints ≠ [] ∧ endpoints.Nodup := by
  rw [Directory.resolve] at resolved
  rcases directory.resolveBetween_cases now now freshness service answer with
    ⟨snapshot, cached, equal⟩ | ⟨_, listed, _, equal⟩ | ⟨_, _, equal⟩ | ⟨_, failure, _, _, equal⟩
  · rw [equal] at resolved
    cases resolved
    exact reachable.proper_snapshot (snapshot?_of_cached? cached)
  · rw [equal] at resolved
    rcases directory.listed_cases now service listed with ⟨_, equal⟩ | ⟨some, equal⟩
    · rw [equal] at resolved
      cases resolved
    · rw [equal] at resolved
      cases resolved
      exact ⟨some, Endpoint.nodup_distinct listed⟩
  · rw [equal] at resolved
    cases resolved
  · rw [equal] at resolved
    obtain ⟨snapshot, _, found, rfl⟩ := exists_snapshot_of_unanswered resolved
    exact reachable.proper_snapshot found

/-- A call gets no endpoints if the control plane lists none, or cannot say. -/
theorem of_resolve_eq_error {now : Time.Span} {freshness : Freshness} {answer : LookupAnswer}
    {error : DirectoryError}
    (failed : (directory.resolve now freshness service answer).result = .error error) :
    error = .notFound service ∨
      ∃ failure, failure ≠ .notFound ∧ answer = .error failure ∧
        error = .unavailable service failure := by
  rw [Directory.resolve] at failed
  rcases directory.resolveBetween_cases now now freshness service answer with
    ⟨_, _, equal⟩ | ⟨_, endpoints, _, equal⟩ | ⟨_, _, equal⟩ |
      ⟨_, failure, notUnknown, answered, equal⟩
  · rw [equal] at failed
    cases failed
  · rw [equal] at failed
    rcases directory.listed_cases now service endpoints with ⟨_, equal⟩ | ⟨_, equal⟩
    · rw [equal] at failed
      cases failed
      exact .inl rfl
    · rw [equal] at failed
      cases failed
  · rw [equal] at failed
    cases failed
    exact .inl rfl
  · rw [equal] at failed
    rcases directory.unanswered_cases freshness service failure with ⟨_, _, _, equal⟩ | equal
    · rw [equal] at failed
      cases failed
    · rw [equal] at failed
      cases failed
      exact .inr ⟨failure, notUnknown, answered, rfl⟩

/-! ## Effects of a resolution -/

/-- The control plane is asked if no snapshot spares the question. -/
theorem asked_resolveBetween (directory : Directory) (begun arrived : Time.Span)
    (freshness : Freshness) (service : ServiceKey) (answer : LookupAnswer) :
    (directory.resolveBetween begun arrived freshness service answer).asked =
      (directory.cached? begun freshness service).isNone := by
  rcases directory.resolveBetween_cases begun arrived freshness service answer with
    ⟨_, cached, equal⟩ | ⟨missed, endpoints, _, equal⟩ | ⟨missed, _, equal⟩ |
      ⟨missed, failure, _, _, equal⟩
  · rw [equal, cached]
    rfl
  · rw [equal, missed]
    rcases directory.listed_cases arrived service endpoints with ⟨_, equal⟩ | ⟨_, equal⟩ <;>
      exact congrArg Resolution.asked equal
  · rw [equal, missed]
    rfl
  · rw [equal, missed]
    rcases directory.unanswered_cases freshness service failure with ⟨_, _, _, equal⟩ | equal <;>
      exact congrArg Resolution.asked equal

theorem asked_resolve (directory : Directory) (now : Time.Span) (freshness : Freshness)
    (service : ServiceKey) (answer : LookupAnswer) :
    (directory.resolve now freshness service answer).asked =
      (directory.cached? now freshness service).isNone :=
  directory.asked_resolveBetween now now freshness service answer

/-- A resolution counts itself once, under an outcome that tells whether the control plane was
asked, and increments no other counter. -/
structure CountedAs (outcome : String) (resolution : Resolution) : Prop where
  updates : ∃ others, resolution.updates = counted outcome :: others ∧
    ∀ counter labels, .increment counter labels ∉ others
  asked : resolution.asked = decide (outcome ≠ "cache_hit")

theorem exists_countedAs_resolve (directory : Directory) (now : Time.Span)
    (freshness : Freshness) (service : ServiceKey) (answer : LookupAnswer) :
    ∃ outcome, CountedAs outcome (directory.resolve now freshness service answer) := by
  have noOthers (counter : Counter) (labels : List String) :
      MetricUpdate.increment counter labels ∉ ([] : List MetricUpdate) := List.not_mem_nil
  rw [Directory.resolve]
  rcases directory.resolveBetween_cases now now freshness service answer with
    ⟨_, _, equal⟩ | ⟨_, endpoints, _, equal⟩ | ⟨_, _, equal⟩ | ⟨_, failure, _, _, equal⟩
  · rw [equal]
    exact ⟨"cache_hit", ⟨[], rfl, noOthers⟩, rfl⟩
  · rw [equal]
    rcases directory.listed_cases now service endpoints with ⟨_, equal⟩ | ⟨_, equal⟩
    · rw [equal]
      exact ⟨"not_found", ⟨[], rfl, noOthers⟩, rfl⟩
    · rw [equal]
      exact ⟨"success", ⟨_, rfl, by simp⟩, rfl⟩
  · rw [equal]
    exact ⟨"not_found", ⟨[], rfl, noOthers⟩, rfl⟩
  · rw [equal]
    rcases directory.unanswered_cases freshness service failure with ⟨_, _, _, equal⟩ | equal
    · rw [equal]
      exact ⟨"stale", ⟨[], rfl, noOthers⟩, rfl⟩
    · rw [equal]
      exact ⟨"unavailable", ⟨[], rfl, noOthers⟩, rfl⟩

theorem count_updates_resolve (directory : Directory) (now : Time.Span) (freshness : Freshness)
    (service : ServiceKey) (answer : LookupAnswer) :
    ∃ outcome, ∀ labels,
      (directory.resolve now freshness service answer).updates.count
        (.increment .discoveryRequests labels) = if labels = [outcome] then 1 else 0 := by
  obtain ⟨outcome, ⟨others, updates, notCounted⟩, -⟩ :=
    directory.exists_countedAs_resolve now freshness service answer
  refine ⟨outcome, fun labels => ?_⟩
  rw [updates, List.count_cons, List.count_eq_zero.mpr (notCounted _ labels), counted]
  simp only [beq_iff_eq, MetricUpdate.increment.injEq, true_and, Nat.zero_add]
  exact if_congr eq_comm rfl rfl

end Directory

end ClusterQuery
