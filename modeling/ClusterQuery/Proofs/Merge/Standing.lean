import ClusterQuery.Proofs.Merge.Reference
import Mathlib.Data.List.Dedup

/-!
# Where a record stands in a merge

A record whose key no other record has comes right after the records that are before it in the
order, each of which counts once however often it is repeated. So it depends on the number of those,
and on nothing else, whether the limit leaves the record in its place.
-/

namespace ClusterQuery.Merge

variable (order : SortOrder)

/-- What a merge tells records apart by: the key and the printed document. -/
def entryOf (record : Record) : Value × String := (order.key record, record.text)

/-- Whether a record comes before another one in the order. -/
def isBefore (pivot record : Record) : Bool := order.compare record pivot == .lt

/-- The records that come before another one, each once. -/
def entriesBefore (pivot : Record) (records : List Record) : List (Value × String) :=
  ((records.filter (isBefore order pivot)).map (entryOf order)).dedup

theorem sameEntry_iff_entryOf_eq {left right : Record} :
    sameEntry order left right = true ↔ entryOf order left = entryOf order right := by
  rw [sameEntry_iff, entryOf, entryOf, Prod.mk.injEq]

theorem isBefore_eq_not_atMost (pivot record : Record) :
    isBefore order pivot record = !order.atMost pivot record := by
  have swapped : order.compareKeys (order.key pivot) (order.key record) =
      (order.compareKeys (order.key record) (order.key pivot)).swap := Std.OrientedCmp.eq_swap
  simp only [isBefore, SortOrder.atMost, SortOrder.compare, swapped]
  cases order.compareKeys (order.key record) (order.key pivot) <;> rfl

/-- No other record is under the key of a record whose key the others do not have. -/
theorem filter_sameKey_cons {pivot : Record} {records : List Record}
    (others : ∀ record ∈ records, order.key record ≠ order.key pivot) :
    (pivot :: records).filter (sameKey order pivot) = [pivot] := by
  rw [List.filter_cons_of_pos ((sameKey_iff order).mpr rfl), List.filter_eq_nil_iff.mpr]
  intro record member same
  exact others record member ((sameKey_iff order).mp same).symm

/-- A record does not come before itself. -/
theorem entriesBefore_cons_self (pivot : Record) (records : List Record) :
    entriesBefore order pivot (pivot :: records) = entriesBefore order pivot records := by
  have notBefore : isBefore order pivot pivot = false := by
    rw [isBefore_eq_not_atMost]
    simpa using order.atMost_total pivot pivot
  rw [entriesBefore, List.filter_cons_of_neg (by simp [notBefore])]
  rfl

/-- Whether a record comes before another one depends on its key. -/
theorem isBefore_congr {pivot left right : Record}
    (same : entryOf order left = entryOf order right) :
    isBefore order pivot left = isBefore order pivot right := by
  obtain ⟨sameKey, -⟩ := Prod.mk.inj same
  rw [isBefore, isBefore, SortOrder.compare, SortOrder.compare, sameKey]

/-- Whether a record is under the key of another one depends on its entry. -/
theorem sameKey_congr (pivot : Record) {left right : Record}
    (same : entryOf order left = entryOf order right) :
    sameKey order pivot left = sameKey order pivot right := by
  rw [Bool.eq_iff_iff, sameKey_iff, sameKey_iff, (Prod.mk.inj same).1]

/-- Whatever is left out repeats a record that is kept, or one that came earlier. -/
theorem exists_entryOf_eq_of_mem {earlier records : List Record} {record : Record}
    (member : record ∈ records) :
    ∃ kept ∈ earlier ++ withoutRepeats order earlier records,
      entryOf order kept = entryOf order record := by
  induction records generalizing earlier with
  | nil => cases member
  | cons first rest ih =>
      -- The first record itself: it is kept, or repeats an earlier one.
      have ofFirst : ∃ kept ∈ earlier ++ withoutRepeats order earlier (first :: rest),
          entryOf order kept = entryOf order first := by
        rw [withoutRepeats]
        split
        next repeats =>
          obtain ⟨previous, old, same⟩ := List.any_eq_true.mp repeats
          exact ⟨previous, List.mem_append_left _ old, (sameEntry_iff_entryOf_eq order).mp same⟩
        next => exact ⟨first, by simp, rfl⟩
      rcases List.mem_cons.mp member with rfl | later
      · exact ofFirst
      · obtain ⟨kept, keptMember, same⟩ := @ih (first :: earlier) later
        rw [List.cons_append, List.mem_cons] at keptMember
        rcases keptMember with rfl | keptMember
        · rw [← same]
          exact ofFirst
        · refine ⟨kept, ?_, same⟩
          rw [withoutRepeats]
          split
          next => exact keptMember
          next => exact List.append_subset.mpr ⟨List.subset_append_left _ _,
            fun _ inRest => List.mem_append_right _ (List.mem_cons_of_mem _ inRest)⟩ keptMember

/-- No two of the records that are kept have the same entry. -/
theorem nodup_map_entryOf_withoutRepeats (earlier records : List Record) :
    ((withoutRepeats order earlier records).map (entryOf order)).Nodup := by
  rw [List.Nodup, List.pairwise_map]
  apply (pairwise_withoutRepeats order earlier records).imp
  intro left right different same
  rw [(sameEntry_iff_entryOf_eq order).mpr same] at different
  cases different

/-- A sorted sequence without repeats holds each record before another one once. -/
theorem length_filter_isBefore (pivot : Record) (records : List Record) :
    ((withoutRepeats order [] (order.sort records)).filter (isBefore order pivot)).length =
      (entriesBefore order pivot records).length := by
  have distinct : (((withoutRepeats order [] (order.sort records)).filter
      (isBefore order pivot)).map (entryOf order)).Nodup :=
    (nodup_map_entryOf_withoutRepeats order [] _).sublist (List.filter_sublist.map _)
  have same : ∀ entry,
      entry ∈ ((withoutRepeats order [] (order.sort records)).filter
        (isBefore order pivot)).map (entryOf order) ↔ entry ∈ entriesBefore order pivot records := by
    intro entry
    rw [entriesBefore, List.mem_dedup]
    simp only [List.mem_map, List.mem_filter]
    constructor
    · rintro ⟨record, ⟨member, before⟩, rfl⟩
      have inSorted := (withoutRepeats_sublist order [] _).subset member
      exact ⟨record, ⟨List.mem_mergeSort.mp inSorted, before⟩, rfl⟩
    · rintro ⟨record, ⟨member, before⟩, rfl⟩
      have inSorted : record ∈ order.sort records := List.mem_mergeSort.mpr member
      obtain ⟨kept, keptMember, same⟩ := @exists_entryOf_eq_of_mem order [] _ _ inSorted
      exact ⟨kept, ⟨keptMember, (isBefore_congr order same).trans before⟩, same⟩
  rw [← List.length_map (entryOf order)]
  exact ((List.perm_ext_iff_of_nodup distinct (List.nodup_dedup _)).mpr same).length_eq

/-- A record whose key no other record has is left in a merge if and only if the limit exceeds the
number of records before it. -/
theorem filter_sameKey_merge {batches : List (List Record)} (limit : Nat) {pivot : Record}
    (alone : batches.flatten.filter (sameKey order pivot) = [pivot]) :
    (merge batches order limit).filter (sameKey order pivot) =
      if (entriesBefore order pivot batches.flatten).length < limit then [pivot] else [] := by
  rw [merge_eq_take_withoutRepeats, ← length_filter_isBefore]
  generalize isKept : withoutRepeats order [] (order.sort batches.flatten) = kept
  have sorted : kept.Pairwise (order.atMost · ·) :=
    isKept ▸ (pairwise_sort order _).sublist (withoutRepeats_sublist order [] _)
  have ofPivot : kept.filter (sameKey order pivot) = [pivot] := by
    have inSort : (order.sort batches.flatten).filter (sameKey order pivot) = [pivot] := by
      rw [filter_sameKey_sort, alone]
    have pivotMember : pivot ∈ order.sort batches.flatten :=
      (List.mem_filter.mp (inSort ▸ List.mem_singleton_self pivot)).1
    obtain ⟨standing, member, same⟩ := @exists_entryOf_eq_of_mem order [] _ _ pivotMember
    rw [isKept, List.nil_append] at member
    have isPivot : standing ∈ kept.filter (sameKey order pivot) :=
      List.mem_filter.mpr ⟨member, (sameKey_iff order).mpr (Prod.mk.inj same).1.symm⟩
    have few := (withoutRepeats_sublist order [] (order.sort batches.flatten)).filter
      (sameKey order pivot)
    rw [isKept, inSort] at few
    exact few.eq_of_length_le (List.length_pos_of_mem isPivot)
  rw [← tied_atMost] at ofPivot ⊢
  rw [StableSort.filter_tied_take order.atMost_trans sorted ofPivot]
  rw [List.filter_congr fun record _ => isBefore_eq_not_atMost order pivot record]

end ClusterQuery.Merge
