import ClusterQuery.Text.Blank
import Mathlib.Data.List.DropRight

/-!
# Trimmed text

A text is trimmed when it neither begins nor ends with a blank. Trimming gives such a text, leaves
it alone, and does not see blanks that are put around a text.
-/

namespace ClusterQuery.Text

/-- Whether a text neither begins nor ends with a blank. -/
def isTrimmed (text : List Char) : Bool :=
  text.head?.all (fun c => !isBlank c) && text.getLast?.all fun c => !isBlank c

theorem isTrimmed_iff {text : List Char} :
    isTrimmed text = true ↔
      (∀ c ∈ text.head?, isBlank c = false) ∧ ∀ c ∈ text.getLast?, isBlank c = false := by
  simp [isTrimmed, Option.all_eq_true]

theorem dropWhile_eq_self_of_head? {text : List Char}
    (first : ∀ c ∈ text.head?, isBlank c = false) : text.dropWhile isBlank = text := by
  cases text with
  | nil => rfl
  | cons c rest => exact List.dropWhile_cons_of_neg (by simpa using first c rfl)

theorem dropWhileEnd_eq_self_of_getLast? {text : List Char}
    (last : ∀ c ∈ text.getLast?, isBlank c = false) : dropWhileEnd isBlank text = text := by
  rw [dropWhileEnd, dropWhile_eq_self_of_head?, List.reverse_reverse]
  rwa [List.head?_reverse]

/-- Trimming leaves a trimmed text alone. -/
theorem trimBlank_eq_self {text : List Char} (trimmed : isTrimmed text = true) :
    trimBlank text = text := by
  obtain ⟨first, last⟩ := isTrimmed_iff.mp trimmed
  rw [trimBlank, dropWhile_eq_self_of_head? first, dropWhileEnd_eq_self_of_getLast? last]

theorem head?_dropWhile {text : List Char} :
    ∀ c ∈ (text.dropWhile isBlank).head?, isBlank c = false := by
  intro c member
  have found := List.head?_dropWhile_not isBlank text
  rw [member] at found
  exact found

/-- What is dropped at the end of a text are the blanks that it ends with. -/
theorem dropWhileEnd_append_takeWhile (text : List Char) :
    dropWhileEnd isBlank text ++ (text.reverse.takeWhile isBlank).reverse = text := by
  rw [dropWhileEnd, ← List.reverse_append, List.takeWhile_append_dropWhile, List.reverse_reverse]

/-- A text is what trimming leaves of it, with blanks around. -/
theorem eq_append_trimBlank_append (text : List Char) :
    ∃ lead trail, (∀ c ∈ lead, isBlank c = true) ∧ (∀ c ∈ trail, isBlank c = true) ∧
      text = lead ++ trimBlank text ++ trail := by
  refine ⟨text.takeWhile isBlank, ((text.dropWhile isBlank).reverse.takeWhile isBlank).reverse,
    ?_, ?_, ?_⟩
  · intro c member
    exact List.all_eq_true.mp List.all_takeWhile c member
  · intro c member
    rw [List.mem_reverse] at member
    exact List.all_eq_true.mp List.all_takeWhile c member
  · rw [trimBlank, List.append_assoc, dropWhileEnd_append_takeWhile,
      List.takeWhile_append_dropWhile]

/-- Dropping blanks at the end keeps the beginning, if anything is left. -/
theorem head?_dropWhileEnd {text : List Char} (first : ∀ c ∈ text.head?, isBlank c = false) :
    ∀ c ∈ (dropWhileEnd isBlank text).head?, isBlank c = false := by
  intro c member
  apply first
  rw [← dropWhileEnd_append_takeWhile text, List.head?_append, member]
  rfl

/-- Trimming gives a trimmed text. -/
theorem isTrimmed_trimBlank (text : List Char) : isTrimmed (trimBlank text) = true := by
  rw [isTrimmed_iff]
  refine ⟨head?_dropWhileEnd head?_dropWhile, ?_⟩
  rw [trimBlank, dropWhileEnd, List.getLast?_reverse]
  exact head?_dropWhile

/-- Trimming does not see blanks before a text. -/
theorem trimBlank_append_left {before : List Char} (blank : ∀ c ∈ before, isBlank c = true)
    (text : List Char) : trimBlank (before ++ text) = trimBlank text := by
  rw [trimBlank, List.dropWhile_append_of_pos blank, trimBlank]

/-- Trimming does not see blanks after a text. -/
theorem trimBlank_append_right (text : List Char) {after : List Char}
    (blank : ∀ c ∈ after, isBlank c = true) : trimBlank (text ++ after) = trimBlank text := by
  have dropEnd (kept : List Char) :
      dropWhileEnd isBlank (kept ++ after) = dropWhileEnd isBlank kept := by
    rw [dropWhileEnd, List.reverse_append, List.dropWhile_append_of_pos, dropWhileEnd]
    simpa using blank
  rw [trimBlank, List.dropWhile_append, trimBlank]
  split
  next none =>
    -- All of the text is blank, and what comes after is trimmed away from the front.
    rw [List.isEmpty_iff] at none
    have gone : after.dropWhile isBlank = [] := by simpa using blank
    rw [none, gone]
  next => exact dropEnd _

end ClusterQuery.Text
