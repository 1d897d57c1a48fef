/-!
# Labels

Free-form labels of a node: names with texts, kept in the order of the names, each name once.
`insert` puts a label in place of one with the same name.
-/

namespace ClusterQuery

/-- Names with texts, in the order of the names. -/
structure Labels where
  entries : List (String × String)
  sorted : entries.Pairwise fun left right => left.1 < right.1
deriving DecidableEq

namespace Labels

def empty : Labels := ⟨[], .nil⟩

instance : Inhabited Labels := ⟨empty⟩

/-- Puts a name with its text among entries in order. -/
def insertEntry (name text : String) : List (String × String) → List (String × String)
  | [] => [(name, text)]
  | (other, old) :: rest =>
      if name < other then (name, text) :: (other, old) :: rest
      else if name = other then (name, text) :: rest
      else (other, old) :: insertEntry name text rest

theorem name_mem_insertEntry {name text : String} {entries : List (String × String)}
    {entry : String × String} (member : entry ∈ insertEntry name text entries) :
    entry.1 = name ∨ entry ∈ entries := by
  induction entries with
  | nil => simp_all [insertEntry]
  | cons first rest ih =>
      simp only [insertEntry] at member
      split at member
      · simp only [List.mem_cons] at member
        rcases member with rfl | rfl | member <;> simp_all
      · split at member
        · simp only [List.mem_cons] at member
          rcases member with rfl | member <;> simp_all
        · simp only [List.mem_cons] at member
          rcases member with rfl | member
          · simp
          · rcases ih member with equal | member <;> simp_all

theorem sorted_insertEntry (name text : String) {entries : List (String × String)}
    (sorted : entries.Pairwise fun left right => left.1 < right.1) :
    (insertEntry name text entries).Pairwise fun left right => left.1 < right.1 := by
  induction entries with
  | nil => simp [insertEntry]
  | cons first rest ih =>
      obtain ⟨below, sortedRest⟩ := List.pairwise_cons.1 sorted
      simp only [insertEntry]
      split
      next before =>
        refine List.pairwise_cons.2 ⟨fun entry member => ?_, sorted⟩
        rcases List.mem_cons.1 member with rfl | member
        · exact before
        · exact String.lt_trans before (below entry member)
      next notBefore =>
        split
        next equal =>
          refine List.pairwise_cons.2 ⟨fun entry member => ?_, sortedRest⟩
          simpa [equal] using below entry member
        next different =>
          refine List.pairwise_cons.2 ⟨fun entry member => ?_, ih sortedRest⟩
          rcases name_mem_insertEntry member with equal | member
          · rw [equal]
            exact Std.lt_of_le_of_ne (Std.not_lt.1 notBefore) (Ne.symm different)
          · exact below entry member

def insert (labels : Labels) (name text : String) : Labels :=
  ⟨insertEntry name text labels.entries, sorted_insertEntry name text labels.sorted⟩

/-- The labels of a list of entries; of equal names the last counts. -/
def ofList (entries : List (String × String)) : Labels :=
  entries.foldl (fun labels entry => labels.insert entry.1 entry.2) empty

end Labels

end ClusterQuery
