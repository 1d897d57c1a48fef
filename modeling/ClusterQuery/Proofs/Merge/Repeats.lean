import ClusterQuery.Proofs.Merge.Standing

/-!
# Leaving out repeats

Whether a record is left out depends on the entries that came earlier, and not on which records had
them or how often. So repeats may be left out piece by piece, before or after a part of the records
is selected, and before or after sorting. What a merge comes to before the limit cuts it is
determined by its records under each key.
-/

namespace ClusterQuery.Merge

variable (order : SortOrder)

/-- A record repeats an earlier one if and only if its entry has occurred. -/
theorem any_sameEntry_iff {earlier : List Record} {record : Record} :
    (earlier.any fun previous => sameEntry order previous record) = true ↔
      entryOf order record ∈ earlier.map (entryOf order) := by
  simp only [List.any_eq_true, sameEntry_iff_entryOf_eq, List.mem_map]

theorem withoutRepeats_cons_of_mem {earlier rest : List Record} {record : Record}
    (repeats : entryOf order record ∈ earlier.map (entryOf order)) :
    withoutRepeats order earlier (record :: rest) =
      withoutRepeats order (record :: earlier) rest := by
  rw [withoutRepeats, if_pos ((any_sameEntry_iff order).mpr repeats)]

theorem withoutRepeats_cons_of_not_mem {earlier rest : List Record} {record : Record}
    (new : entryOf order record ∉ earlier.map (entryOf order)) :
    withoutRepeats order earlier (record :: rest) =
      record :: withoutRepeats order (record :: earlier) rest := by
  rw [withoutRepeats, if_neg (mt (any_sameEntry_iff order).mp new)]

/-- Earlier records with the same entries leave out the same records. -/
theorem withoutRepeats_congr {earlier others : List Record}
    (same : ∀ entry, entry ∈ earlier.map (entryOf order) ↔ entry ∈ others.map (entryOf order))
    (records : List Record) :
    withoutRepeats order earlier records = withoutRepeats order others records := by
  induction records generalizing earlier others with
  | nil => rfl
  | cons record rest ih =>
      have sameRest : ∀ entry, entry ∈ (record :: earlier).map (entryOf order) ↔
          entry ∈ (record :: others).map (entryOf order) := by
        intro entry
        simp only [List.map_cons, List.mem_cons, same entry]
      by_cases repeats : entryOf order record ∈ earlier.map (entryOf order)
      · rw [withoutRepeats_cons_of_mem order repeats,
          withoutRepeats_cons_of_mem order ((same _).mp repeats), ih sameRest]
      · rw [withoutRepeats_cons_of_not_mem order repeats,
          withoutRepeats_cons_of_not_mem order (mt (same _).mpr repeats), ih sameRest]

theorem withoutRepeats_append (earlier left right : List Record) :
    withoutRepeats order earlier (left ++ right) =
      withoutRepeats order earlier left ++
        withoutRepeats order (left.reverse ++ earlier) right := by
  induction left generalizing earlier with
  | nil => rfl
  | cons record left ih =>
      rw [List.reverse_cons, List.append_assoc, List.cons_append, List.singleton_append]
      by_cases repeats : entryOf order record ∈ earlier.map (entryOf order)
      · rw [withoutRepeats_cons_of_mem order repeats, withoutRepeats_cons_of_mem order repeats, ih]
      · rw [withoutRepeats_cons_of_not_mem order repeats,
          withoutRepeats_cons_of_not_mem order repeats, ih, List.cons_append]

/-- The records that are kept have all the entries. -/
theorem mem_map_entryOf_withoutRepeats {records : List Record} {entry : Value × String} :
    entry ∈ (withoutRepeats order [] records).map (entryOf order) ↔
      entry ∈ records.map (entryOf order) := by
  simp only [List.mem_map]
  constructor
  · rintro ⟨record, member, rfl⟩
    exact ⟨record, (withoutRepeats_sublist order [] records).subset member, rfl⟩
  · rintro ⟨record, member, rfl⟩
    exact @exists_entryOf_eq_of_mem order [] records record member

/-- Leaving out some of the repeats first makes no difference. -/
theorem withoutRepeats_withoutRepeats {earlier fewer : List Record}
    (known : ∀ entry ∈ fewer.map (entryOf order), entry ∈ earlier.map (entryOf order))
    (records : List Record) :
    withoutRepeats order earlier (withoutRepeats order fewer records) =
      withoutRepeats order earlier records := by
  induction records generalizing earlier fewer with
  | nil => rfl
  | cons record rest ih =>
      by_cases repeats : entryOf order record ∈ fewer.map (entryOf order)
      · -- What comes earlier has the record's entry with or without the record.
        have same : ∀ entry, entry ∈ (record :: earlier).map (entryOf order) ↔
            entry ∈ earlier.map (entryOf order) := by
          intro entry
          rw [List.map_cons, List.mem_cons]
          constructor
          · rintro (rfl | old)
            · exact known _ repeats
            · exact old
          · exact .inr
        have knownStill : ∀ entry ∈ (record :: fewer).map (entryOf order),
            entry ∈ earlier.map (entryOf order) := by
          rw [List.map_cons, List.forall_mem_cons]
          exact ⟨known _ repeats, known⟩
        rw [withoutRepeats_cons_of_mem order repeats,
          withoutRepeats_cons_of_mem order (known _ repeats), ih knownStill,
          withoutRepeats_congr order same]
      · have knownRest : ∀ entry ∈ (record :: fewer).map (entryOf order),
            entry ∈ (record :: earlier).map (entryOf order) := by
          rw [List.map_cons, List.map_cons, List.forall_mem_cons]
          exact ⟨List.mem_cons_self, fun entry old => List.mem_cons_of_mem _ (known entry old)⟩
        rw [withoutRepeats_cons_of_not_mem order repeats]
        by_cases old : entryOf order record ∈ earlier.map (entryOf order)
        · rw [withoutRepeats_cons_of_mem order old, withoutRepeats_cons_of_mem order old,
            ih knownRest]
        · rw [withoutRepeats_cons_of_not_mem order old, withoutRepeats_cons_of_not_mem order old,
            ih knownRest]

/-- Repeats within a stretch of the records may be left out beforehand. -/
theorem withoutRepeats_append_withoutRepeats (before middle after : List Record) :
    withoutRepeats order [] (before ++ withoutRepeats order [] middle ++ after) =
      withoutRepeats order [] (before ++ middle ++ after) := by
  have same : ∀ entry,
      entry ∈ ((before ++ withoutRepeats order [] middle).reverse ++ []).map (entryOf order) ↔
        entry ∈ ((before ++ middle).reverse ++ []).map (entryOf order) := by
    intro entry
    simp only [List.append_nil, List.map_reverse, List.mem_reverse, List.map_append,
      List.mem_append, mem_map_entryOf_withoutRepeats]
  rw [withoutRepeats_append, withoutRepeats_append order [] before,
    withoutRepeats_withoutRepeats order (by simp), withoutRepeats_append order [] (before ++ middle),
    withoutRepeats_append order [] before, withoutRepeats_congr order same]

/-- Repeats may be left out before or after a selection that depends on the entries. -/
theorem filter_withoutRepeats {chosen : Record → Bool} {earlier records : List Record}
    (byEntry : ∀ left ∈ earlier ++ records, ∀ right ∈ earlier ++ records,
      entryOf order left = entryOf order right → chosen left = chosen right) :
    (withoutRepeats order earlier records).filter chosen =
      withoutRepeats order (earlier.filter chosen) (records.filter chosen) := by
  induction records generalizing earlier with
  | nil => rfl
  | cons record rest ih =>
      have sameRecords (other : Record) :
          other ∈ record :: earlier ++ rest ↔ other ∈ earlier ++ record :: rest :=
        List.perm_middle.mem_iff.symm
      have tail := @ih (record :: earlier) (by simpa only [sameRecords] using byEntry)
      cases isChosen : chosen record with
      | true =>
          -- The earlier records with the entry of a chosen one are chosen as well.
          have same : entryOf order record ∈ (earlier.filter chosen).map (entryOf order) ↔
              entryOf order record ∈ earlier.map (entryOf order) := by
            simp only [List.mem_map, List.mem_filter]
            constructor
            · rintro ⟨previous, ⟨old, -⟩, equal⟩
              exact ⟨previous, old, equal⟩
            · rintro ⟨previous, old, equal⟩
              have alike := byEntry previous (List.mem_append_left _ old) record (by simp) equal
              exact ⟨previous, ⟨old, alike.trans isChosen⟩, equal⟩
          rw [List.filter_cons_of_pos isChosen] at tail
          rw [List.filter_cons_of_pos isChosen]
          by_cases repeats : entryOf order record ∈ earlier.map (entryOf order)
          · rw [withoutRepeats_cons_of_mem order repeats,
              withoutRepeats_cons_of_mem order (same.mpr repeats), tail]
          · rw [withoutRepeats_cons_of_not_mem order repeats, List.filter_cons_of_pos isChosen,
              withoutRepeats_cons_of_not_mem order (mt same.mp repeats), tail]
      | false =>
          have notChosen : ¬chosen record = true := by simp [isChosen]
          rw [List.filter_cons_of_neg notChosen] at tail
          rw [List.filter_cons_of_neg notChosen, ← tail]
          by_cases repeats : entryOf order record ∈ earlier.map (entryOf order)
          · rw [withoutRepeats_cons_of_mem order repeats]
          · rw [withoutRepeats_cons_of_not_mem order repeats, List.filter_cons_of_neg notChosen]

/-! ## A merge that no limit cuts -/

/-- What a merge comes to before the limit cuts it. -/
def wholeMerge (records : List Record) : List Record :=
  withoutRepeats order [] (order.sort records)

theorem merge_eq_take_wholeMerge (batches : List (List Record)) (limit : Nat) :
    merge batches order limit = (wholeMerge order batches.flatten).take limit :=
  merge_eq_take_withoutRepeats order batches limit

/-- A limit that is not below the number of the records cuts nothing. -/
theorem merge_eq_wholeMerge {batches : List (List Record)} {limit : Nat}
    (room : batches.flatten.length ≤ limit) :
    merge batches order limit = wholeMerge order batches.flatten := by
  rw [merge_eq_take_wholeMerge]
  apply List.take_of_length_le
  apply Nat.le_trans _ room
  have shorter := (withoutRepeats_sublist order [] (order.sort batches.flatten)).length_le
  rwa [SortOrder.sort, List.length_mergeSort] at shorter

theorem pairwise_wholeMerge (records : List Record) :
    (wholeMerge order records).Pairwise (order.atMost · ·) :=
  (pairwise_sort order records).sublist (withoutRepeats_sublist order [] _)

theorem filter_sort (chosen : Record → Bool) (records : List Record) :
    (order.sort records).filter chosen = order.sort (records.filter chosen) :=
  StableSort.filter_mergeSort order.atMost_total order.atMost_trans chosen records

/-- Records may be selected by their entries before or after they are merged. -/
theorem filter_wholeMerge {chosen : Record → Bool} {records : List Record}
    (byEntry : ∀ left ∈ records, ∀ right ∈ records,
      entryOf order left = entryOf order right → chosen left = chosen right) :
    (wholeMerge order records).filter chosen = wholeMerge order (records.filter chosen) := by
  rw [wholeMerge, filter_withoutRepeats, List.filter_nil, filter_sort]
  · rfl
  · simpa only [List.nil_append, SortOrder.sort, List.mem_mergeSort] using byEntry

/-- Under one key, a merge holds the records in the order given, without repeats. -/
theorem filter_sameKey_wholeMerge (record : Record) (records : List Record) :
    (wholeMerge order records).filter (sameKey order record) =
      withoutRepeats order [] (records.filter (sameKey order record)) := by
  rw [wholeMerge, filter_withoutRepeats order fun _ _ _ _ => sameKey_congr order record,
    List.filter_nil, filter_sameKey_sort]

/-- A merge is determined by what it holds under each key. -/
theorem wholeMerge_congr {records others : List Record}
    (same : ∀ record,
      withoutRepeats order [] (records.filter (sameKey order record)) =
        withoutRepeats order [] (others.filter (sameKey order record))) :
    wholeMerge order records = wholeMerge order others := by
  apply StableSort.eq_of_filter_tied_eq order.atMost_total (pairwise_wholeMerge order records)
    (pairwise_wholeMerge order others)
  intro record
  rw [tied_atMost, filter_sameKey_wholeMerge, filter_sameKey_wholeMerge, same]

/-- Merging a stretch of the records beforehand makes no difference. -/
theorem wholeMerge_append_wholeMerge (before middle after : List Record) :
    wholeMerge order (before ++ wholeMerge order middle ++ after) =
      wholeMerge order (before ++ middle ++ after) := by
  apply wholeMerge_congr
  intro record
  simp only [List.filter_append, filter_sameKey_wholeMerge, withoutRepeats_append_withoutRepeats]

/-- A record that comes before another one has another key. -/
theorem sameKey_eq_false_of_compare_eq_lt {pivot record : Record}
    (less : order.compare record pivot = .lt ∨ order.compare pivot record = .lt) :
    sameKey order pivot record = false := by
  rw [Bool.eq_false_iff, ne_eq, sameKey_iff]
  intro same
  have equal : order.compareKeys (order.key record) (order.key record) = .eq :=
    order.compareKeys_eq_iff.mpr rfl
  rw [SortOrder.compare, SortOrder.compare, same, equal] at less
  rcases less with less | less <;> cases less

/-- A sorted sequence is what comes before a record, what is under its key, and what comes after
it. -/
theorem exists_eq_append_sameKey {records : List Record}
    (sorted : records.Pairwise (order.atMost · ·)) (pivot : Record) :
    ∃ before after, records = before ++ records.filter (sameKey order pivot) ++ after ∧
      (∀ record ∈ before, order.compare record pivot = .lt) ∧
      ∀ record ∈ after, order.compare pivot record = .lt := by
  have parts := StableSort.eq_before_tied_after order.atMost_trans sorted pivot
  rw [tied_atMost] at parts
  refine ⟨_, _, parts, ?_, ?_⟩
  · intro record member
    have chosen := (List.mem_filter.mp member).2
    rwa [← isBefore_eq_not_atMost, isBefore, beq_iff_eq] at chosen
  · intro record member
    have chosen := (Bool.and_eq_true_iff.mp (List.mem_filter.mp member).2).2
    rwa [← isBefore_eq_not_atMost, isBefore, beq_iff_eq] at chosen

/-- A record whose key the others do not have is merged with them by putting it in its place. -/
theorem exists_wholeMerge_cons {pivot : Record} {records : List Record}
    (others : ∀ record ∈ records, order.key record ≠ order.key pivot) :
    ∃ before after, wholeMerge order (pivot :: records) = before ++ pivot :: after ∧
      before ++ after = wholeMerge order records ∧
      (∀ record ∈ before, order.compare record pivot = .lt) ∧
      ∀ record ∈ after, order.compare pivot record = .lt := by
  obtain ⟨before, after, parts, isBefore, isAfter⟩ :=
    exists_eq_append_sameKey order (pairwise_wholeMerge order (pivot :: records)) pivot
  rw [filter_sameKey_wholeMerge, filter_sameKey_cons order others, List.append_assoc] at parts
  -- What is not under the pivot's key: everything but the pivot, on both sides.
  let other (record : Record) : Bool := !sameKey order pivot record
  have byEntry (left right : Record) (same : entryOf order left = entryOf order right) :
      other left = other right := congrArg (!·) (sameKey_congr order pivot same)
  have notPivot : ¬other pivot = true := by
    simp [other, sameKey_iff]
  have beforeOther : before.filter other = before := by
    rw [List.filter_eq_self]
    intro record member
    simp [other, sameKey_eq_false_of_compare_eq_lt order (.inl (isBefore record member))]
  have afterOther : after.filter other = after := by
    rw [List.filter_eq_self]
    intro record member
    simp [other, sameKey_eq_false_of_compare_eq_lt order (.inr (isAfter record member))]
  have recordsOther : records.filter other = records := by
    rw [List.filter_eq_self]
    intro record member
    have different := (others record member).symm
    simpa [other, ← Bool.not_eq_true, sameKey_iff] using different
  refine ⟨before, after, parts, ?_, isBefore, isAfter⟩
  calc before ++ after
      = (before ++ pivot :: after).filter other := by
        rw [List.filter_append, List.filter_cons_of_neg notPivot, beforeOther, afterOther]
    _ = (wholeMerge order (pivot :: records)).filter other := by
        rw [parts]
        rfl
    _ = wholeMerge order ((pivot :: records).filter other) :=
        filter_wholeMerge order fun left _ right _ => byEntry left right
    _ = wholeMerge order records := by
        rw [List.filter_cons_of_neg notPivot, recordsOther]

end ClusterQuery.Merge
