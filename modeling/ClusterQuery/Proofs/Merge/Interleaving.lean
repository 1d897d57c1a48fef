import ClusterQuery.Merge
import ClusterQuery.Proofs.Merge.StableSort
import ClusterQuery.Proofs.ValueOrder

/-!
# The sequence of heads

Ignoring duplicates and the limit, a merge takes one head after another until all batches are
empty. Since heads of different batches never compare equal, putting two of them in their places
does not depend on which goes first. Opening one more batch in front of others therefore merges it
into their sequence, and the whole sequence is the stable sort of all batches one after the other.
-/

namespace ClusterQuery.Merge

variable (order : SortOrder)

/-- Whether a keyed record may stand before another. -/
def keyedAtMost (left right : Value × Record) : Bool := order.keysAtMost left.1 right.1

/-- All keyed records of a head, in order. -/
def Head.content (head : Head) : List (Value × Record) := (head.key, head.record) :: head.rest

theorem Head.size_eq_length_content (head : Head) : head.size = head.content.length := rfl

/-- The keyed records of the heads in the order in which a merge takes them. -/
def sequence : List Head → List (Value × Record)
  | [] => []
  | head :: others => (head.key, head.record) :: sequence (insertHead? order head.next? others)
termination_by heads => remaining heads
decreasing_by exact Nat.lt_of_succ_le (Nat.le_of_eq (remaining_next order head others))

@[simp] theorem sequence_nil : sequence order [] = [] := by rw [sequence]

theorem sequence_cons (head : Head) (others : List Head) :
    sequence order (head :: others) =
      (head.key, head.record) :: sequence order (insertHead? order head.next? others) := by
  rw [sequence]

/-- The next head of a batch holds what is left of it, unless nothing is. -/
theorem Head.next?_cases (head : Head) :
    (head.next? = none ∧ head.rest = []) ∨
      ∃ next, head.next? = some next ∧ next.batch = head.batch ∧ next.content = head.rest := by
  obtain ⟨key, batch, record, rest⟩ := head
  cases rest with
  | nil => exact .inl ⟨rfl, rfl⟩
  | cons first rest => exact .inr ⟨⟨first.1, batch, first.2, rest⟩, rfl, rfl, rfl⟩

instance : Std.TransCmp (Head.compare order) := by
  have lexicographic : Head.compare order =
      compareLex (fun left right => order.compareKeys left.key right.key)
        (compareOn Head.batch) := by
    funext left right
    rfl
  rw [lexicographic]
  have byKey : Std.TransCmp fun left right : Head => order.compareKeys left.key right.key :=
    { eq_swap := Std.OrientedCmp.eq_swap
      isLE_trans := Std.TransCmp.isLE_trans }
  infer_instance

/-- Heads of different batches never compare equal. -/
theorem Head.compare_ne_eq {left right : Head} (apart : left.batch ≠ right.batch) :
    Head.compare order left right ≠ .eq := by
  intro equal
  simp only [Head.compare, Ordering.then_eq_eq, Std.compare_eq_iff_eq] at equal
  exact apart equal.2

/-- A head goes before one of a later batch unless its key comes after. -/
theorem Head.compare_eq_lt_iff {left right : Head} (earlier : left.batch < right.batch) :
    Head.compare order left right = .lt ↔ order.keysAtMost left.key right.key = true := by
  have batches : Ord.compare left.batch right.batch = .lt := Nat.compare_eq_lt.mpr earlier
  simp only [Head.compare, batches, SortOrder.keysAtMost]
  cases order.compareKeys left.key right.key <;> decide

/-- Two heads of different batches may be put in their places in either order. -/
theorem insertHead_comm {first second : Head} (apart : first.batch ≠ second.batch)
    (heads : List Head) :
    insertHead order first (insertHead order second heads) =
      insertHead order second (insertHead order first heads) := by
  wlog smaller : Head.compare order first second = .lt generalizing first second
  · have larger : Head.compare order second first = .lt := by
      have different := Head.compare_ne_eq order apart
      cases compared : Head.compare order first second with
      | lt => exact absurd compared smaller
      | eq => exact absurd compared different
      | gt => exact Std.OrientedCmp.lt_of_gt compared
    exact (this apart.symm larger).symm
  have notBefore : Head.compare order second first ≠ .lt := Std.OrientedCmp.not_lt_of_lt smaller
  induction heads with
  | nil => simp [insertHead, smaller, notBefore]
  | cons other others ih =>
      by_cases secondBefore : Head.compare order second other = .lt
      · have firstBefore : Head.compare order first other = .lt :=
          Std.TransCmp.lt_trans smaller secondBefore
        simp [insertHead, smaller, notBefore, secondBefore, firstBefore]
      · by_cases firstBefore : Head.compare order first other = .lt
        · simp [insertHead, notBefore, secondBefore, firstBefore]
        · simp [insertHead, secondBefore, firstBefore, ih]

theorem mem_insertHead {item head : Head} {heads : List Head} :
    item ∈ insertHead order head heads ↔ item = head ∨ item ∈ heads := by
  induction heads with
  | nil => simp [insertHead]
  | cons other others ih =>
      simp only [insertHead]
      split
      · simp only [List.mem_cons]
      · simp only [List.mem_cons, ih]
        exact or_left_comm

/-- Taking a record of a head leaves the batches of the heads as they are. -/
theorem batch_of_mem_next {item head : Head} {others : List Head}
    (member : item ∈ insertHead? order head.next? others) :
    item.batch = head.batch ∨ item ∈ others := by
  rcases head.next?_cases with ⟨none, -⟩ | ⟨next, some, batch, -⟩
  · rw [none] at member
    exact .inr member
  · rw [some] at member
    rcases (mem_insertHead order).mp member with equal | later
    · exact .inl (equal ▸ batch)
    · exact .inr later

/-- Refilling from one batch and putting a head of another in its place commute. -/
theorem insertHead?_next_comm {head other : Head} (apart : head.batch ≠ other.batch)
    (others : List Head) :
    insertHead? order other.next? (insertHead order head others) =
      insertHead order head (insertHead? order other.next? others) := by
  rcases other.next?_cases with ⟨none, -⟩ | ⟨next, some, batch, -⟩
  · rw [none]
    rfl
  · rw [some]
    exact insertHead_comm order (batch ▸ Ne.symm apart) others

/-- A head put in front of heads of later batches merges its records into their sequence. -/
theorem sequence_insertHead (head : Head) (heads : List Head)
    (earlier : ∀ other ∈ heads, head.batch < other.batch) :
    sequence order (insertHead order head heads) =
      head.content.merge (sequence order heads) (keyedAtMost order) := by
  -- What is left of the head's batch merges into the same sequence.
  have next : sequence order (insertHead? order head.next? heads) =
      head.rest.merge (sequence order heads) (keyedAtMost order) := by
    rcases head.next?_cases with ⟨none, rest⟩ | ⟨next, some, batch, content⟩
    · rw [none, rest, List.nil_merge]
      rfl
    · rw [some, ← content]
      exact sequence_insertHead next heads (batch ▸ earlier)
  cases shape : heads with
  | nil =>
      rw [shape] at next
      rw [insertHead, sequence_cons, next, sequence_nil, List.merge_right, List.merge_right]
      rfl
  | cons other others =>
      rw [shape] at next earlier
      have before := earlier other (by simp)
      have keys := Head.compare_eq_lt_iff order before
      by_cases first : Head.compare order head other = .lt
      · have here : insertHead order head (other :: others) = head :: other :: others := by
          simp [insertHead, first]
        have atMost : keyedAtMost order (head.key, head.record) (other.key, other.record) = true :=
          keys.mp first
        rw [here, sequence_cons, next, sequence_cons, Head.content,
          List.cons_merge_cons_pos _ _ _ atMost]
      · have there :
            insertHead order head (other :: others) = other :: insertHead order head others := by
          simp [insertHead, first]
        have notAtMost :
            ¬keyedAtMost order (head.key, head.record) (other.key, other.record) = true :=
          fun atMost => first (keys.mpr atMost)
        have later : ∀ item ∈ insertHead? order other.next? others, head.batch < item.batch := by
          intro item member
          rcases batch_of_mem_next order member with equal | old
          · exact equal ▸ before
          · exact earlier item (List.mem_cons_of_mem other old)
        have rest := sequence_insertHead head (insertHead? order other.next? others) later
        rw [there, sequence_cons, insertHead?_next_comm order (Nat.ne_of_lt before), rest,
          sequence_cons, Head.content, List.cons_merge_cons_neg _ _ _ notAtMost]
termination_by remaining (head :: heads)
decreasing_by
  · have shorter : next.size + 1 = head.size := by
      rw [Head.size_eq_length_content, content, Head.size]
    rw [remaining_cons, remaining_cons]
    omega
  · have refilled := remaining_next order other others
    rw [shape, remaining_cons, remaining_cons]
    omega

/-- A record with the key by which it is ordered. -/
def keyed (record : Record) : Value × Record := (order.key record, record)

theorem sortedBatch_eq (records : List Record) :
    sortedBatch order records = (records.map (keyed order)).mergeSort (keyedAtMost order) := rfl

/-- Sorting with keys is sorting by the keys. -/
theorem map_keyed_sort (records : List Record) :
    (order.sort records).map (keyed order) =
      (records.map (keyed order)).mergeSort (keyedAtMost order) :=
  List.map_mergeSort fun _ _ _ _ => rfl

theorem keyedAtMost_trans (first second third : Value × Record)
    (before : keyedAtMost order first second = true)
    (after : keyedAtMost order second third = true) : keyedAtMost order first third = true :=
  order.keysAtMost_trans _ _ _ before after

theorem keyedAtMost_total (left right : Value × Record) :
    (keyedAtMost order left right || keyedAtMost order right left) = true :=
  order.keysAtMost_total _ _

/-- Heads are opened with the positions of their batches. -/
theorem start_le_batch {start : Nat} {batches : List (List Record)} {head : Head}
    (member : head ∈ openBatches order start batches) : start ≤ head.batch := by
  induction batches generalizing start with
  | nil => exact absurd member List.not_mem_nil
  | cons records batches ih =>
      have later : head ∈ openBatches order (start + 1) batches → start ≤ head.batch :=
        fun old => Nat.le_of_succ_le (ih old)
      rw [openBatches] at member
      cases sorted : sortedBatch order records with
      | nil =>
          rw [sorted] at member
          exact later member
      | cons first rest =>
          rw [sorted] at member
          rcases (mem_insertHead order).mp member with equal | old
          · exact Nat.le_of_eq (congrArg Head.batch equal).symm
          · exact later old

/-- A merge takes the records of all batches in their stable order. -/
theorem sequence_openBatches (start : Nat) (batches : List (List Record)) :
    sequence order (openBatches order start batches) =
      (order.sort batches.flatten).map (keyed order) := by
  rw [map_keyed_sort]
  induction batches generalizing start with
  | nil => simp [openBatches]
  | cons records batches ih =>
      rw [List.flatten_cons, List.map_append,
        StableSort.mergeSort_append (keyedAtMost_total order) (keyedAtMost_trans order),
        ← ih (start + 1), ← sortedBatch_eq, openBatches]
      cases sortedBatch order records with
      | nil => exact (List.nil_merge _).symm
      | cons first rest =>
          exact sequence_insertHead order ⟨first.1, start, first.2, rest⟩ _
            fun head member => start_le_batch order member

end ClusterQuery.Merge
