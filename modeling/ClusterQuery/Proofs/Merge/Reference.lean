import ClusterQuery.Proofs.Merge.Interleaving

/-!
# What a merge comes to

A merge is the stable sort of all batches, one after the other, without the records that repeat an
earlier one under the same key, cut to the limit. A merge remembers texts only while the key stays
the same; in a sorted sequence this is enough, since a key that was left behind does not come back.
-/

namespace ClusterQuery.Merge

variable (order : SortOrder)

/-- Whether two records have equal keys. -/
def sameKey (left right : Record) : Bool := order.compare left right == .eq

/-- Whether two records have equal keys and the same printed document. -/
def sameEntry (left right : Record) : Bool :=
  sameKey order left right && left.text == right.text

/-- A sequence without the records that repeat one before them; `earlier` holds the records that
come before the sequence. -/
def withoutRepeats (earlier : List Record) : List Record → List Record
  | [] => []
  | record :: rest =>
      if earlier.any fun previous => sameEntry order previous record then
        withoutRepeats (record :: earlier) rest
      else record :: withoutRepeats (record :: earlier) rest

theorem sameKey_iff {left right : Record} :
    sameKey order left right = true ↔ order.key left = order.key right := by
  rw [sameKey, beq_iff_eq]
  exact order.compareKeys_eq_iff

theorem sameEntry_iff {left right : Record} :
    sameEntry order left right = true ↔
      order.key left = order.key right ∧ left.text = right.text := by
  simp [sameEntry, sameKey_iff]

/-- Records with equal keys are those that may stand in either order. -/
theorem tied_atMost : StableSort.tied order.atMost = sameKey order := by
  funext left right
  have swapped : order.compareKeys (order.key right) (order.key left) =
      (order.compareKeys (order.key left) (order.key right)).swap := Std.OrientedCmp.eq_swap
  simp only [StableSort.tied, SortOrder.atMost, sameKey, SortOrder.compare, swapped]
  cases order.compareKeys (order.key left) (order.key right) <;> rfl

/-! ## Runs of equal keys -/

namespace KeyRun

theorem key_enter (run : KeyRun) (key : Value) : (run.enter key).key = some key := by
  obtain ⟨current, texts⟩ := run
  cases current with
  | none => rfl
  | some current =>
      by_cases same : current = key
      · subst same
        simp [enter, holds, Std.ReflCmp.compare_self]
      · simp [enter, holds, Std.LawfulEqCmp.compare_eq_iff_eq, same]

theorem enter_of_key_eq {run : KeyRun} {key : Value} (same : run.key = some key) :
    run.enter key = run := by
  have holds : run.holds key = true := by simp [holds, same, Std.LawfulEqCmp.compare_eq_iff_eq]
  simp [enter, holds]

theorem enter_of_key_ne {run : KeyRun} {current key : Value} (known : run.key = some current)
    (different : current ≠ key) : run.enter key = ⟨some key, []⟩ := by
  have holds : run.holds key = false := by
    simp [holds, known, Std.LawfulEqCmp.compare_eq_iff_eq, different]
  simp [enter, holds]

/-- The run knows, for every key that may still come up, the texts of the earlier records with
that key. -/
def Remembers (run : KeyRun) (earlier : List Record) : Prop :=
  ∀ key text, (∀ record ∈ earlier, order.keysAtMost (order.key record) key = true) →
    (text ∈ (run.enter key).texts ↔
      ∃ record ∈ earlier, order.key record = key ∧ record.text = text)

theorem remembers_none : Remembers order .none [] := by
  intro key text _
  simp [KeyRun.none, enter, holds]

/-- One record keeps the run's memory, provided that its text is in the run afterwards. -/
theorem Remembers.step {run next : KeyRun} {earlier : List Record} {record : Record}
    (remembers : Remembers order run earlier)
    (inOrder : ∀ previous ∈ earlier,
      order.keysAtMost (order.key previous) (order.key record) = true)
    (sameKey : next.key = some (order.key record))
    (texts : ∀ text, text ∈ next.texts ↔
      text = record.text ∨ text ∈ (run.enter (order.key record)).texts) :
    Remembers order next (record :: earlier) := by
  intro key text atMost
  by_cases same : order.key record = key
  · subst same
    rw [enter_of_key_eq sameKey, texts, remembers _ text inOrder]
    constructor
    · rintro (equal | ⟨previous, member, previousKey, previousText⟩)
      · exact ⟨record, by simp, rfl, equal.symm⟩
      · exact ⟨previous, List.mem_cons_of_mem record member, previousKey, previousText⟩
    · rintro ⟨previous, member, previousKey, previousText⟩
      rcases List.mem_cons.mp member with equal | old
      · exact .inl (equal ▸ previousText.symm)
      · exact .inr ⟨previous, old, previousKey, previousText⟩
  · -- The key has moved on, and no earlier record can have the new one.
    rw [enter_of_key_ne sameKey same]
    constructor
    · exact fun member => absurd member List.not_mem_nil
    · rintro ⟨previous, member, previousKey, -⟩
      rcases List.mem_cons.mp member with equal | old
      · exact absurd (equal ▸ previousKey) same
      · have before := inOrder previous old
        have after := atMost record (by simp)
        rw [previousKey] at before
        exact absurd (order.keysAtMost_antisymm after before) same

end KeyRun

/-! ## The loop in two passes -/

/-- The records of a sequence that a merge takes, when it is in a run. -/
def distinctFrom (run : KeyRun) : List (Value × Record) → List Record
  | [] => []
  | (key, record) :: rest =>
      if record.text ∈ (run.enter key).texts then distinctFrom (run.enter key) rest
      else record :: distinctFrom ((run.enter key).add record) rest

/-- Ending the merge early is cutting what it would take. -/
theorem takeHeads_eq_take {limit : Nat} (positive : 0 < limit) (run : KeyRun)
    (heads : List Head) :
    takeHeads order limit run heads = (distinctFrom run (sequence order heads)).take limit := by
  fun_induction takeHeads order limit run heads with
  | case1 => simp [distinctFrom]
  | case2 limit run head others heads entered known ih =>
      rw [ih positive, sequence_cons, distinctFrom, if_pos known]
  | case3 limit run head others entered new last =>
      have one : limit = 1 := Nat.le_antisymm last positive
      rw [sequence_cons, distinctFrom, if_neg new, one, List.take_succ_cons, List.take_zero]
  | case4 limit run head others heads entered new more ih =>
      obtain ⟨less, rfl⟩ : ∃ less, limit = less + 1 := ⟨limit - 1, by omega⟩
      rw [ih (by omega), sequence_cons, distinctFrom, if_neg new, List.take_succ_cons]
      rfl

/-- In a sorted sequence, remembering the texts of one run leaves out all repeats. -/
theorem distinctFrom_eq_withoutRepeats {run : KeyRun} {earlier records : List Record}
    (remembers : run.Remembers order earlier)
    (inOrder : ∀ previous ∈ earlier, ∀ record ∈ records,
      order.keysAtMost (order.key previous) (order.key record) = true)
    (sorted : records.Pairwise (order.atMost · ·)) :
    distinctFrom run (records.map (keyed order)) = withoutRepeats order earlier records := by
  induction records generalizing run earlier with
  | nil => rfl
  | cons record records ih =>
      have before : ∀ previous ∈ earlier,
          order.keysAtMost (order.key previous) (order.key record) = true :=
        fun previous member => inOrder previous member record (by simp)
      have after : ∀ previous ∈ record :: earlier, ∀ later ∈ records,
          order.keysAtMost (order.key previous) (order.key later) = true := by
        intro previous member later laterMember
        rcases List.mem_cons.mp member with equal | old
        · exact equal ▸ List.rel_of_pairwise_cons sorted laterMember
        · exact inOrder previous old later (List.mem_cons_of_mem record laterMember)
      have known : record.text ∈ (run.enter (order.key record)).texts ↔
          (earlier.any fun previous => sameEntry order previous record) = true := by
        rw [remembers _ _ before]
        simp [sameEntry_iff]
      rw [List.map_cons, keyed, distinctFrom, withoutRepeats]
      by_cases taken : record.text ∈ (run.enter (order.key record)).texts
      · rw [if_pos taken, if_pos (known.mp taken)]
        refine ih (remembers.step order before (run.key_enter _) ?_) after sorted.of_cons
        intro text
        constructor
        · exact .inr
        · rintro (rfl | member)
          · exact taken
          · exact member
      · rw [if_neg taken, if_neg (fun repeated => taken (known.mpr repeated))]
        refine congrArg (record :: ·) (ih (remembers.step order before ?_ ?_) after sorted.of_cons)
        · exact run.key_enter _
        · intro text
          exact List.mem_cons

/-! ## The reference -/

theorem pairwise_sort (records : List Record) :
    (order.sort records).Pairwise (order.atMost · ·) :=
  List.pairwise_mergeSort order.atMost_trans order.atMost_total records

/-- Sorting keeps the records with one key in the order given, in either direction. -/
theorem filter_sameKey_sort (records : List Record) (record : Record) :
    (order.sort records).filter (sameKey order record) = records.filter (sameKey order record) := by
  rw [← tied_atMost]
  exact StableSort.filter_tied_mergeSort order.atMost_total order.atMost_trans records record

theorem merge_eq_take_withoutRepeats (batches : List (List Record)) (limit : Nat) :
    merge batches order limit =
      (withoutRepeats order [] (order.sort batches.flatten)).take limit := by
  rw [merge]
  split
  next none => rw [none, List.take_zero]
  next some =>
    rw [takeHeads_eq_take order (Nat.pos_of_ne_zero some), sequence_openBatches,
      distinctFrom_eq_withoutRepeats order (KeyRun.remembers_none order) (by simp)
        (pairwise_sort order batches.flatten)]

theorem withoutRepeats_sublist (earlier records : List Record) :
    (withoutRepeats order earlier records).Sublist records := by
  induction records generalizing earlier with
  | nil => exact List.Sublist.refl []
  | cons record records ih =>
      rw [withoutRepeats]
      split
      · exact (ih (record :: earlier)).cons record
      · exact (ih (record :: earlier)).cons_cons record

theorem not_sameEntry_of_mem_withoutRepeats {earlier records : List Record} {record : Record}
    (member : record ∈ withoutRepeats order earlier records) :
    ∀ previous ∈ earlier, sameEntry order previous record = false := by
  induction records generalizing earlier with
  | nil => exact absurd member List.not_mem_nil
  | cons first records ih =>
      rw [withoutRepeats] at member
      split at member
      next => exact fun previous old => ih member previous (List.mem_cons_of_mem first old)
      next new =>
        rcases List.mem_cons.mp member with equal | later
        · simpa [equal] using new
        · exact fun previous old => ih later previous (List.mem_cons_of_mem first old)

theorem pairwise_withoutRepeats (earlier records : List Record) :
    (withoutRepeats order earlier records).Pairwise
      fun left right => sameEntry order left right = false := by
  induction records generalizing earlier with
  | nil => exact List.Pairwise.nil
  | cons record records ih =>
      rw [withoutRepeats]
      split
      · exact ih (record :: earlier)
      · refine List.Pairwise.cons (fun later member => ?_) (ih (record :: earlier))
        exact not_sameEntry_of_mem_withoutRepeats order member record (by simp)

/-! ## What a merge gives back -/

variable (batches : List (List Record)) (limit : Nat)

variable {batches} in
/-- Where one batch ends and the next begins makes no difference. -/
theorem merge_congr {others : List (List Record)} (same : batches.flatten = others.flatten) :
    merge batches order limit = merge others order limit := by
  rw [merge_eq_take_withoutRepeats, merge_eq_take_withoutRepeats, same]

theorem merge_sublist_sort : (merge batches order limit).Sublist (order.sort batches.flatten) := by
  rw [merge_eq_take_withoutRepeats]
  exact (List.take_sublist _ _).trans (withoutRepeats_sublist order [] _)

theorem length_merge_le : (merge batches order limit).length ≤ limit := by
  rw [merge_eq_take_withoutRepeats]
  exact List.length_take_le _ _

theorem pairwise_merge : (merge batches order limit).Pairwise (order.atMost · ·) :=
  (pairwise_sort order batches.flatten).sublist (merge_sublist_sort order batches limit)

/-- No two records of a merge share both key and printed document. -/
theorem merge_pairwise_ne : (merge batches order limit).Pairwise
    fun left right => sameEntry order left right = false := by
  rw [merge_eq_take_withoutRepeats]
  exact (pairwise_withoutRepeats order [] _).sublist (List.take_sublist _ _)

variable {batches limit} in
theorem exists_batch_of_mem_merge {record : Record} (member : record ∈ merge batches order limit) :
    ∃ batch ∈ batches, record ∈ batch := by
  have sorted := (merge_sublist_sort order batches limit).subset member
  rw [SortOrder.sort, List.mem_mergeSort] at sorted
  exact List.mem_flatten.mp sorted

/-- A merge is the stable sort of the batches, one after the other, without the records that
repeat an earlier one, cut to the limit. Records with equal keys come in the order of their
batches and then in that of their batch, whatever the direction. -/
theorem merge_eq_reference :
    merge batches order limit =
        (withoutRepeats order [] (order.sort batches.flatten)).take limit ∧
      (∀ record, ((merge batches order limit).filter (sameKey order record)).Sublist
        (batches.flatten.filter (sameKey order record))) ∧
      merge batches order 0 = [] := by
  refine ⟨merge_eq_take_withoutRepeats order batches limit, fun record => ?_, rfl⟩
  rw [← filter_sameKey_sort order batches.flatten record]
  exact (merge_sublist_sort order batches limit).filter (sameKey order record)

end ClusterQuery.Merge
