import ClusterQuery.Query.SortOrder

/-!
# Merging batches

Several batches of records become one sequence. Each batch is sorted by itself; then the
smallest head of the batches is taken again and again, a tie going to the earlier batch. Within
a run of equal keys a record whose printed document was already seen is left out, and the
sequence is cut to a limit.
-/

namespace ClusterQuery.Merge

/-- The least record of a batch that is left, with its key, the batch's position, and the rest
of the sorted batch. -/
structure Head where
  key : Value
  batch : Nat
  record : Record
  rest : List (Value × Record)

namespace Head

/-- The head of a sorted batch, if it has one. -/
def ofSorted? (batch : Nat) : List (Value × Record) → Option Head
  | [] => none
  | (key, record) :: rest => some ⟨key, batch, record, rest⟩

/-- The next head of the same batch. -/
def next? (head : Head) : Option Head := ofSorted? head.batch head.rest

/-- Order of heads: by key in the wanted direction, then by the batch's position. -/
def compare (order : SortOrder) (left right : Head) : Ordering :=
  (order.compareKeys left.key right.key).then (Ord.compare left.batch right.batch)

/-- How many records a head and its batch still hold. -/
def size (head : Head) : Nat := head.rest.length + 1

end Head

/-- A batch with its keys, sorted; records with equal keys stay in the order given. -/
def sortedBatch (order : SortOrder) (records : List Record) : List (Value × Record) :=
  (records.map fun record => (order.key record, record)).mergeSort
    fun left right => order.compareKeys left.1 right.1 != .gt

/-- Puts a head in its place among heads in order. -/
def insertHead (order : SortOrder) (head : Head) : List Head → List Head
  | [] => [head]
  | other :: others =>
      if Head.compare order head other == .lt then head :: other :: others
      else other :: insertHead order head others

/-- Puts a head in its place, where there is one. -/
def insertHead? (order : SortOrder) (head : Option Head) (heads : List Head) : List Head :=
  match head with
  | some head => insertHead order head heads
  | none => heads

/-- The heads of the batches in order, their positions counted from `start`. -/
def openBatches (order : SortOrder) (start : Nat) : List (List Record) → List Head
  | [] => []
  | records :: batches =>
      insertHead? order (Head.ofSorted? start (sortedBatch order records))
        (openBatches order (start + 1) batches)

/-- How many records are left in all. -/
def remaining : List Head → Nat
  | [] => 0
  | head :: heads => head.size + remaining heads

@[simp] theorem remaining_cons (head : Head) (heads : List Head) :
    remaining (head :: heads) = head.size + remaining heads := rfl

@[simp] theorem remaining_insertHead (order : SortOrder) (head : Head) (heads : List Head) :
    remaining (insertHead order head heads) = head.size + remaining heads := by
  induction heads with
  | nil => rfl
  | cons other others ih =>
      simp only [insertHead]
      split
      · exact remaining_cons head (other :: others)
      · rw [remaining_cons, ih, remaining_cons]
        omega

/-- Taking the first record of a head leaves one record less. -/
theorem remaining_next (order : SortOrder) (head : Head) (others : List Head) :
    remaining (insertHead? order head.next? others) + 1 = remaining (head :: others) := by
  obtain ⟨key, batch, record, rest⟩ := head
  cases rest with
  | nil =>
      simp only [Head.next?, Head.ofSorted?, insertHead?, remaining_cons, Head.size,
        List.length_nil]
      omega
  | cons first rest =>
      simp only [Head.next?, Head.ofSorted?, insertHead?, remaining_insertHead, remaining_cons,
        Head.size, List.length_cons]
      omega

/-- The run of equal keys that a merge is in: its key, and the texts of the records taken since
the key last changed. -/
structure KeyRun where
  key : Option Value
  texts : List String

namespace KeyRun

/-- The run before the first record. -/
def none : KeyRun := ⟨.none, []⟩

/-- Whether a key is the key of the run. -/
def holds (run : KeyRun) (key : Value) : Bool :=
  match run.key with
  | some current => current.compare key == .eq
  | .none => false

/-- The run once a record with a key comes up; another key starts a new one. -/
def enter (run : KeyRun) (key : Value) : KeyRun :=
  if run.holds key then run else ⟨some key, []⟩

/-- The run once a record of it is taken. -/
def add (run : KeyRun) (record : Record) : KeyRun :=
  { run with texts := record.text :: run.texts }

end KeyRun

/-- Takes the first head again and again, putting the next one of its batch in its place. A
record whose text was taken in the same run is left out, and the merge ends once `limit` records
are taken. -/
def takeHeads (order : SortOrder) (limit : Nat) (run : KeyRun) : List Head → List Record
  | [] => []
  | head :: others =>
      let heads := insertHead? order head.next? others
      let run := run.enter head.key
      if head.record.text ∈ run.texts then takeHeads order limit run heads
      else if limit ≤ 1 then [head.record]
      else head.record :: takeHeads order (limit - 1) (run.add head.record) heads
termination_by heads => remaining heads
decreasing_by all_goals exact Nat.lt_of_succ_le (Nat.le_of_eq (remaining_next order head others))

/-- Merges batches into one ordered sequence of at most `limit` records. -/
def merge (batches : List (List Record)) (order : SortOrder) (limit : Nat) : List Record :=
  if limit = 0 then [] else takeHeads order limit .none (openBatches order 0 batches)

end ClusterQuery.Merge
