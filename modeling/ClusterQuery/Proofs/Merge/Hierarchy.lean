import ClusterQuery.Proofs.Merge.Repeats
import Mathlib.Data.List.Forall2
import Mathlib.Data.List.Perm.Subperm

/-!
# Merging in stages

A batch may be condensed before it is merged: sorted, freed of repeats and cut to a limit. What is
cut off comes after as many entries as the limit allows, all of which stand before it in any merge
as well. So it could not have reached the first records of a merge with no greater limit, and
neither could a repeat of it that comes up in its stead.
-/

namespace ClusterQuery.Merge

variable (order : SortOrder)

theorem sameKey_or_isBefore_of_atMost {pivot record : Record}
    (atMost : order.atMost record pivot = true) :
    isBefore order pivot record = true ∨ sameKey order pivot record = true := by
  have swapped : order.compareKeys (order.key pivot) (order.key record) =
      (order.compareKeys (order.key record) (order.key pivot)).swap := Std.OrientedCmp.eq_swap
  simp only [isBefore, sameKey, SortOrder.atMost, SortOrder.compare, swapped] at atMost ⊢
  cases compared : order.compareKeys (order.key record) (order.key pivot) with
  | lt => exact .inl rfl
  | eq => exact .inr rfl
  | gt =>
      rw [compared] at atMost
      cases atMost

/-- A sorted sequence begins with the records that come before a given one, and goes on with those
that have its key, in the order given. -/
theorem exists_sort_eq_append (pivot : Record) (records : List Record) :
    ∃ later, order.sort records =
      order.sort (records.filter (isBefore order pivot)) ++
        (records.filter (sameKey order pivot) ++ later) := by
  have parts := StableSort.eq_before_tied_after order.atMost_trans (pairwise_sort order records) pivot
  rw [tied_atMost, filter_sameKey_sort,
    List.filter_congr fun record _ => (isBefore_eq_not_atMost order pivot record).symm,
    filter_sort, List.append_assoc] at parts
  exact ⟨_, parts⟩

/-- Distinct entries of a list are all among those that are kept of a longer one. -/
theorem length_le_withoutRepeats {few many : List Record}
    (distinct : (few.map (entryOf order)).Nodup) (subset : few ⊆ many) :
    few.length ≤ (withoutRepeats order [] many).length := by
  rw [← List.length_map (entryOf order), ← List.length_map (entryOf order)]
  apply List.Subperm.length_le
  apply List.subperm_of_subset distinct
  intro entry member
  rw [mem_map_entryOf_withoutRepeats]
  exact List.map_subset (entryOf order) subset member

/-- In the first records of a merge, nothing depends on the end of a sorted stretch of distinct
entries that is long enough without it. -/
theorem take_wholeMerge_cut {limit : Nat} {before kept cut after : List Record}
    (sorted : (kept ++ cut).Pairwise (order.atMost · ·))
    (distinct : (kept.map (entryOf order)).Nodup) (enough : limit ≤ kept.length) :
    (wholeMerge order (before ++ (kept ++ cut) ++ after)).take limit =
      (wholeMerge order (before ++ kept ++ after)).take limit := by
  cases cut with
  | nil => rw [List.append_nil]
  | cons pivot cut =>
      obtain ⟨-, cutSorted, inOrder⟩ := List.pairwise_append.mp sorted
      -- Nothing that is cut off comes before the first record that is.
      have noneBefore : (pivot :: cut).filter (isBefore order pivot) = [] := by
        rw [List.filter_eq_nil_iff]
        intro record member
        rw [isBefore_eq_not_atMost]
        rcases List.mem_cons.mp member with rfl | later
        · simpa using order.atMost_total record record
        · simpa using List.rel_of_pairwise_cons cutSorted later
      let front := order.sort ((before ++ kept ++ after).filter (isBefore order pivot)) ++
        (before ++ kept).filter (sameKey order pivot)
      -- Both merges begin with the same records, those that are kept among them.
      have keptInFront : kept ⊆ front := by
        intro record member
        rcases sameKey_or_isBefore_of_atMost order (inOrder record member pivot List.mem_cons_self)
          with isBefore | same
        · apply List.mem_append_left
          rw [SortOrder.sort, List.mem_mergeSort, List.mem_filter]
          exact ⟨by simp [member], isBefore⟩
        · apply List.mem_append_right
          rw [List.mem_filter]
          exact ⟨by simp [member], same⟩
      have room : limit ≤ (withoutRepeats order [] front).length :=
        Nat.le_trans enough (length_le_withoutRepeats order distinct keptInFront)
      have firstOf {records later : List Record} (begins : order.sort records = front ++ later) :
          (wholeMerge order records).take limit = (withoutRepeats order [] front).take limit := by
        rw [wholeMerge, begins, withoutRepeats_append, List.take_append_of_le_length room]
      obtain ⟨restWhole, whole⟩ :=
        exists_sort_eq_append order pivot (before ++ (kept ++ pivot :: cut) ++ after)
      obtain ⟨restShort, short⟩ := exists_sort_eq_append order pivot (before ++ kept ++ after)
      have wholeBegins : order.sort (before ++ (kept ++ pivot :: cut) ++ after) =
          front ++ ((pivot :: cut ++ after).filter (sameKey order pivot) ++ restWhole) := by
        rw [whole]
        simp only [front, List.filter_append, noneBefore, List.nil_append, List.append_assoc]
      have shortBegins : order.sort (before ++ kept ++ after) =
          front ++ (after.filter (sameKey order pivot) ++ restShort) := by
        rw [short]
        simp only [front, List.filter_append, List.append_assoc]
      rw [firstOf wholeBegins, firstOf shortBegins]

/-- In the first records of a merge, a stretch of the records may be condensed to no fewer. -/
theorem take_wholeMerge_merge {limit large : Nat} (atMost : limit ≤ large)
    (before : List Record) (batch : List Record) (after : List Record) :
    (wholeMerge order (before ++ merge [batch] order large ++ after)).take limit =
      (wholeMerge order (before ++ batch ++ after)).take limit := by
  rw [merge_eq_take_wholeMerge, List.flatten_singleton,
    ← wholeMerge_append_wholeMerge order before batch after]
  by_cases room : (wholeMerge order batch).length ≤ large
  · rw [List.take_of_length_le room]
  · have parts := List.take_append_drop large (wholeMerge order batch)
    conv_rhs => rw [← parts]
    refine (take_wholeMerge_cut order ?_ ?_ ?_).symm
    · rw [parts]
      exact pairwise_wholeMerge order batch
    · rw [List.map_take]
      exact (nodup_map_entryOf_withoutRepeats order [] _).sublist (List.take_sublist _ _)
    · rw [List.length_take]
      omega

/-- What may stand in place of a batch: the batch, or what a merge with a limit makes of it. -/
def Stands (limit : Nat) (batch other : List Record) : Prop :=
  other = batch ∨ other = merge [batch] order limit

/-- Some of the batches of a merge may be condensed beforehand, to no fewer records than the merge
is cut to. -/
theorem merge_of_stands {small large : Nat} (atMost : small ≤ large)
    {batches others : List (List Record)}
    (stand : List.Forall₂ (Stands order large) batches others) :
    merge others order small = merge batches order small := by
  have afterAny : ∀ before, (wholeMerge order (before ++ others.flatten)).take small =
      (wholeMerge order (before ++ batches.flatten)).take small := by
    induction stand with
    | nil => exact fun before => rfl
    | @cons batch other batches others first _ ih =>
        intro before
        rw [List.flatten_cons, List.flatten_cons, ← List.append_assoc, ← List.append_assoc]
        rcases first with rfl | rfl
        · exact ih _
        · rw [take_wholeMerge_merge order atMost, ih]
  rw [merge_eq_take_wholeMerge, merge_eq_take_wholeMerge]
  exact afterAny []

/-- Merging groups of batches and then what they come to is merging all batches. -/
theorem merge_of_groups {small large : Nat} (atMost : small ≤ large)
    (groups : List (List (List Record))) :
    merge (groups.map fun group => merge group order large) order small =
      merge groups.flatten order small := by
  have stand : List.Forall₂ (Stands order large) (groups.map List.flatten)
      (groups.map fun group => merge group order large) := by
    rw [List.forall₂_map_left_iff, List.forall₂_map_right_iff, List.forall₂_same]
    intro group _
    right
    apply merge_congr
    rw [List.flatten_singleton]
  rw [merge_of_stands order atMost stand]
  apply merge_congr
  rw [List.flatten_flatten]

/-- What a merge comes to is not changed by a further merge that has room for it. -/
theorem merge_merge {small large : Nat} (atMost : small ≤ large) (batches : List (List Record)) :
    merge [merge batches order small] order large = merge batches order small := by
  have fits : [merge batches order small].flatten.length ≤ small := by
    rw [List.flatten_singleton]
    exact length_merge_le order batches small
  calc merge [merge batches order small] order large
      = merge [merge batches order small] order small := by
        rw [merge_eq_wholeMerge order fits, merge_eq_wholeMerge order (Nat.le_trans fits atMost)]
    _ = merge batches order small := by
        have stages := merge_of_groups order (Nat.le_refl small) [batches]
        rwa [List.map_singleton, List.flatten_singleton] at stages

end ClusterQuery.Merge
