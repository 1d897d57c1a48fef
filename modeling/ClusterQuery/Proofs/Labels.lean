import ClusterQuery.Labels
import Mathlib.Data.List.Induction

/-!
# What labels hold

Putting entries among labels one by one keeps the last text of each name. Entries that are in order
already are kept as they are, so labels are made of their own entries.
-/

namespace ClusterQuery.Labels

private theorem names_ne_of_lt {left right : String} (before : left < right) : left ≠ right := by
  rintro rfl
  exact String.lt_irrefl left before

/-- A name that is put among labels has the new text, and every other name keeps its own. -/
theorem mem_insertEntry_iff {name text : String} {entries : List (String × String)}
    (sorted : entries.Pairwise fun left right => left.1 < right.1) {entry : String × String} :
    entry ∈ insertEntry name text entries ↔
      entry = (name, text) ∨ entry ∈ entries ∧ entry.1 ≠ name := by
  induction entries with
  | nil => simp [insertEntry]
  | cons first rest ih =>
      obtain ⟨other, old⟩ := first
      obtain ⟨below, sortedRest⟩ := List.pairwise_cons.mp sorted
      rw [insertEntry]
      split
      next before =>
        -- All names that are there stand behind the new one.
        have behind : ∀ entry ∈ (other, old) :: rest, name < entry.1 :=
          List.forall_mem_cons.mpr
            ⟨before, fun entry member => String.lt_trans before (below entry member)⟩
        rw [List.mem_cons,
          and_iff_left_of_imp fun member => Ne.symm (names_ne_of_lt (behind entry member))]
      next notBefore =>
        split
        next same =>
          subst same
          have others (member : entry ∈ rest) : entry.1 ≠ name :=
            Ne.symm (names_ne_of_lt (below entry member))
          simp only [List.mem_cons]
          constructor
          · rintro (equal | member)
            · exact .inl equal
            · exact .inr ⟨.inr member, others member⟩
          · rintro (equal | ⟨rfl | member, different⟩)
            · exact .inl equal
            · exact absurd rfl different
            · exact .inr member
        next different =>
          have apart (equal : entry = (other, old)) : entry.1 ≠ name :=
            equal ▸ Ne.symm different
          simp only [List.mem_cons, ih sortedRest]
          constructor
          · rintro (equal | equal | ⟨member, others⟩)
            · exact .inr ⟨.inl equal, apart equal⟩
            · exact .inl equal
            · exact .inr ⟨.inr member, others⟩
          · rintro (equal | ⟨equal | member, others⟩)
            · exact .inr (.inl equal)
            · exact .inl equal
            · exact .inr (.inr ⟨member, others⟩)

/-- A name behind all others goes to the end. -/
theorem insertEntry_of_forall_lt {name : String} (text : String)
    {entries : List (String × String)} (below : ∀ entry ∈ entries, entry.1 < name) :
    insertEntry name text entries = entries ++ [(name, text)] := by
  induction entries with
  | nil => rfl
  | cons first rest ih =>
      obtain ⟨before, belowRest⟩ := List.forall_mem_cons.mp below
      rw [insertEntry, if_neg (String.lt_asymm before), if_neg (Ne.symm (names_ne_of_lt before)),
        ih belowRest]
      rfl

theorem ofList_concat (entries : List (String × String)) (name text : String) :
    ofList (entries ++ [(name, text)]) = (ofList entries).insert name text := by
  rw [ofList, List.foldl_append]
  rfl

/-- Entries in order are kept as they are. -/
theorem entries_ofList {entries : List (String × String)}
    (sorted : entries.Pairwise fun left right => left.1 < right.1) :
    (ofList entries).entries = entries := by
  induction entries using List.reverseRecOn with
  | nil => rfl
  | append_singleton entries last ih =>
      obtain ⟨sortedBefore, -, below⟩ := List.pairwise_append.mp sorted
      have belowLast : ∀ entry ∈ entries, entry.1 < last.1 :=
        fun entry member => below entry member last (List.mem_singleton_self last)
      rw [ofList_concat, insert]
      exact (congrArg _ (ih sortedBefore)).trans (insertEntry_of_forall_lt last.2 belowLast)

/-- Labels are made of their own entries. -/
theorem ofList_entries (labels : Labels) : ofList labels.entries = labels := by
  have same := entries_ofList labels.sorted
  cases made : ofList labels.entries
  cases labels
  rw [made] at same
  cases same
  rfl

end ClusterQuery.Labels
