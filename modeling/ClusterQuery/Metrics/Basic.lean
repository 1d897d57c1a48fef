import ClusterQuery.Number.Binary64

/-!
# Metrics

Counters with labels, one gauge, and histograms of durations. The state is a value: an update
gives the next state, and `count` reads a counter back. A counter that was never touched counts
zero and is not exported.
-/

namespace ClusterQuery

/-- The counters. -/
inductive Counter where
  | discoveryRequests
  | fetchRequests
  | aggregations
  | partialFailures
  | forbidden
deriving DecidableEq, Repr

/-- The histograms of durations. -/
inductive Timer where
  | fetchDuration
  | aggregationDuration
deriving DecidableEq, Repr

/-- Samples sorted into buckets: how many fell into each bucket but not into an earlier one, how
many there are in all, and their sum. -/
structure Histogram where
  buckets : List Nat
  samples : Nat
  sum : Binary64
deriving DecidableEq, Repr

namespace Timer

/-- The upper bounds of a histogram's buckets. -/
def bounds : Timer → List Binary64
  | .fetchDuration =>
      [.ofDecimal false 5 (-3), .ofDecimal false 1 (-2), .ofDecimal false 5 (-2),
        .ofDecimal false 1 (-1), .ofDecimal false 5 (-1), .ofNat 1, .ofNat 5]
  | .aggregationDuration =>
      [.ofDecimal false 1 (-2), .ofDecimal false 5 (-2), .ofDecimal false 1 (-1),
        .ofDecimal false 5 (-1), .ofNat 1, .ofNat 5, .ofNat 10]

end Timer

namespace Histogram

def empty (timer : Timer) : Histogram := ⟨timer.bounds.map fun _ => 0, 0, .zero false⟩

/-- Counts a sample in the first bucket whose bound it does not exceed, if there is one. -/
def countIn (value : Binary64) : List Binary64 → List Nat → List Nat
  | bound :: bounds, count :: counts =>
      if value.atMost bound then (count + 1) :: counts else count :: countIn value bounds counts
  | _, counts => counts

def observe (timer : Timer) (value : Binary64) (histogram : Histogram) : Histogram :=
  { buckets := countIn value timer.bounds histogram.buckets
    samples := histogram.samples + 1
    sum := histogram.sum.add value }

end Histogram

/-- A change to the metrics. -/
inductive MetricUpdate where
  | increment (counter : Counter) (labels : List String)
  | setDiscovered (count : Nat)
deriving DecidableEq, Repr

/-- The state of all metrics. -/
structure Metrics where
  counts : List ((Counter × List String) × Nat)
  endpointsDiscovered : Binary64
  durations : List ((Timer × List String) × Histogram)
deriving Repr

namespace Metrics

def empty : Metrics := ⟨[], .zero false, []⟩

/-- Changes the value of a key, which starts from `initial` where it is new. -/
def adjust {κ α : Type} [DecidableEq κ] (key : κ) (initial : α) (change : α → α) :
    List (κ × α) → List (κ × α)
  | [] => [(key, change initial)]
  | (other, value) :: rest =>
      if other = key then (other, change value) :: rest
      else (other, value) :: adjust key initial change rest

def find? {κ α : Type} [DecidableEq κ] (key : κ) : List (κ × α) → Option α
  | [] => none
  | (other, value) :: rest => if other = key then some value else find? key rest

theorem find?_adjust {κ α : Type} [DecidableEq κ] (key other : κ) (initial : α)
    (change : α → α) (entries : List (κ × α)) :
    find? other (adjust key initial change entries) =
      if other = key then some (change ((find? key entries).getD initial))
      else find? other entries := by
  induction entries with
  | nil =>
      by_cases equal : other = key
      · simp [adjust, find?, equal]
      · simp [adjust, find?, equal, Ne.symm equal]
  | cons entry rest ih =>
      obtain ⟨name, value⟩ := entry
      by_cases here : name = key
      · by_cases equal : other = key
        · simp [adjust, find?, here, equal]
        · simp [adjust, find?, here, equal, Ne.symm equal]
      · by_cases there : name = other
        · subst there
          simp [adjust, find?, here]
        · simp [adjust, find?, here, there, ih]

/-- The value of a counter under labels, in the order in which the counter declares them. -/
def count (metrics : Metrics) (counter : Counter) (labels : List String) : Nat :=
  (find? (counter, labels) metrics.counts).getD 0

def increment (metrics : Metrics) (counter : Counter) (labels : List String) : Metrics :=
  { metrics with counts := adjust (counter, labels) 0 (· + 1) metrics.counts }

@[simp] theorem count_increment (metrics : Metrics) (counter other : Counter)
    (labels others : List String) :
    (metrics.increment counter labels).count other others =
      metrics.count other others + if (other, others) = (counter, labels) then 1 else 0 := by
  simp only [count, increment, find?_adjust]
  split
  next equal => simp [equal]
  next => simp

def observe (metrics : Metrics) (timer : Timer) (labels : List String) (value : Binary64) :
    Metrics :=
  { metrics with
    durations :=
      adjust (timer, labels) (Histogram.empty timer) (Histogram.observe timer value)
        metrics.durations }

/-- The number of samples of a histogram. -/
def samples (metrics : Metrics) (timer : Timer) (labels : List String) : Nat :=
  ((find? (timer, labels) metrics.durations).map Histogram.samples).getD 0

def apply (metrics : Metrics) : MetricUpdate → Metrics
  | .increment counter labels => metrics.increment counter labels
  | .setDiscovered count => { metrics with endpointsDiscovered := .ofNat count }

@[simp] theorem count_apply (metrics : Metrics) (update : MetricUpdate) (counter : Counter)
    (labels : List String) :
    (metrics.apply update).count counter labels =
      metrics.count counter labels + if update = .increment counter labels then 1 else 0 := by
  cases update with
  | increment other others =>
      rw [apply, count_increment]
      simp only [MetricUpdate.increment.injEq, Prod.mk.injEq, eq_comm]
  | setDiscovered count => rfl

def applyAll (metrics : Metrics) (updates : List MetricUpdate) : Metrics :=
  updates.foldl apply metrics

/-- A counter goes up by as many as there are updates that increment it. -/
theorem count_applyAll (metrics : Metrics) (updates : List MetricUpdate) (counter : Counter)
    (labels : List String) :
    (metrics.applyAll updates).count counter labels =
      metrics.count counter labels + updates.count (.increment counter labels) := by
  induction updates generalizing metrics with
  | nil => rfl
  | cons update updates ih =>
      rw [applyAll, List.foldl_cons, ← applyAll, ih, count_apply, List.count_cons]
      simp only [beq_iff_eq]
      omega

end Metrics

end ClusterQuery
