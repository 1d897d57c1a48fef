import ClusterQuery.Metrics.Basic

/-!
# Counting updates

What a sequence of updates does to a counter, under some of its labels or under all of them, is the
number of updates that increment it there.
-/

namespace ClusterQuery

/-- Whether an update increments a counter under some of its labels. -/
def MetricUpdate.increments (counter : Counter) (chosen : List String → Bool) :
    MetricUpdate → Bool
  | .increment other labels => decide (other = counter) && chosen labels
  | .setDiscovered _ => false

namespace Metrics

/-- How many updates increment a counter under some of its labels. -/
def tally (counter : Counter) (chosen : List String → Bool) (updates : List MetricUpdate) : Nat :=
  updates.countP (MetricUpdate.increments counter chosen)

/-- The sum of the values of some keys. -/
def sumOver {κ : Type} (chosen : κ → Bool) : List (κ × Nat) → Nat
  | [] => 0
  | (key, value) :: rest => (if chosen key then value else 0) + sumOver chosen rest

/-- The sum of a counter over some of its labels. -/
def total (metrics : Metrics) (counter : Counter) (chosen : List String → Bool) : Nat :=
  sumOver (fun key => decide (key.1 = counter) && chosen key.2) metrics.counts

variable {counter other : Counter} {chosen : List String → Bool} {labels : List String}

@[simp] theorem tally_nil : tally counter chosen [] = 0 := rfl

@[simp] theorem tally_append (earlier later : List MetricUpdate) :
    tally counter chosen (earlier ++ later) =
      tally counter chosen earlier + tally counter chosen later :=
  List.countP_append

theorem tally_cons (update : MetricUpdate) (updates : List MetricUpdate) :
    tally counter chosen (update :: updates) =
      tally counter chosen updates + (update.increments counter chosen).toNat := by
  rw [tally, List.countP_cons]
  cases update.increments counter chosen <;> rfl

/-- Updates of other counters do not count. -/
theorem tally_eq_zero {updates : List MetricUpdate}
    (others : ∀ labels, .increment counter labels ∉ updates) :
    tally counter chosen updates = 0 := by
  rw [tally, List.countP_eq_zero]
  intro update member increments
  cases update with
  | setDiscovered count => cases increments
  | increment other labels =>
      rw [MetricUpdate.increments, Bool.and_eq_true, decide_eq_true_iff] at increments
      exact others labels (increments.1 ▸ member)

/-- Adding one to the value of a key adds one to the sum if the key is among those chosen. -/
theorem sumOver_adjust {κ : Type} [DecidableEq κ] (chosen : κ → Bool) (key : κ)
    (entries : List (κ × Nat)) :
    sumOver chosen (adjust key 0 (· + 1) entries) =
      sumOver chosen entries + (chosen key).toNat := by
  induction entries with
  | nil => cases here : chosen key <;> simp [adjust, sumOver, here]
  | cons entry rest ih =>
      obtain ⟨name, value⟩ := entry
      rw [adjust]
      split
      next same =>
        subst same
        cases here : chosen name <;> simp [sumOver, here, Nat.add_right_comm]
      next => rw [sumOver, sumOver, ih, Nat.add_assoc]

theorem total_apply (metrics : Metrics) (update : MetricUpdate) :
    (metrics.apply update).total counter chosen =
      metrics.total counter chosen + (update.increments counter chosen).toNat := by
  cases update with
  | setDiscovered count => rfl
  | increment other labels => exact sumOver_adjust _ (other, labels) metrics.counts

theorem applyAll_append (metrics : Metrics) (earlier later : List MetricUpdate) :
    metrics.applyAll (earlier ++ later) = (metrics.applyAll earlier).applyAll later :=
  List.foldl_append

/-- The sum of a counter goes up by as many as there are updates that increment it. -/
theorem total_applyAll (metrics : Metrics) (updates : List MetricUpdate) :
    (metrics.applyAll updates).total counter chosen =
      metrics.total counter chosen + tally counter chosen updates := by
  induction updates generalizing metrics with
  | nil => rfl
  | cons update updates ih =>
      rw [applyAll, List.foldl_cons, ← applyAll, ih, total_apply, tally_cons]
      omega

/-- A counter goes up by as many as there are updates that increment it under the same labels. -/
theorem count_applyAll_eq_tally (metrics : Metrics) (updates : List MetricUpdate) :
    (metrics.applyAll updates).count counter labels =
      metrics.count counter labels + tally counter (fun others => others = labels) updates := by
  have same : updates.count (.increment counter labels) =
      tally counter (fun others => others = labels) updates := by
    rw [List.count_eq_countP, tally]
    apply List.countP_congr
    intro update _
    cases update with
    | setDiscovered count => simp [MetricUpdate.increments]
    | increment other others => simp [MetricUpdate.increments]
  rw [count_applyAll, same]

end Metrics

end ClusterQuery
