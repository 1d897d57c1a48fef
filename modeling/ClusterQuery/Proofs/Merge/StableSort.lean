import Mathlib.Data.List.Basic

/-!
# Stable sorting

A sorted list is determined by what it holds of each class of tied elements, in order. Stable
sorting keeps those classes as they are, and merging puts the classes of one list before those of
the other; so sorting two lists one after the other is merging their sorted forms.
-/

namespace ClusterQuery.StableSort

variable {α : Type} {le : α → α → Bool}

/-- Whether two elements may stand in either order. -/
def tied (le : α → α → Bool) (left right : α) : Bool := le left right && le right left

theorem tied_self (total : ∀ a b, (le a b || le b a) = true) (element : α) :
    tied le element element = true := by
  simpa [tied] using total element element

/-- Elements tied with one element may stand in any order. -/
theorem le_of_tied (trans : ∀ a b c, le a b = true → le b c = true → le a c = true)
    {element left right : α} (leftTied : tied le element left = true)
    (rightTied : tied le element right = true) : le left right = true := by
  simp only [tied, Bool.and_eq_true] at leftTied rightTied
  exact trans left element right leftTied.2 rightTied.1

/-- A sorted list is determined by its classes of tied elements. -/
theorem eq_of_filter_tied_eq (total : ∀ a b, (le a b || le b a) = true) {left right : List α}
    (leftSorted : left.Pairwise (le · ·)) (rightSorted : right.Pairwise (le · ·))
    (same : ∀ element, left.filter (tied le element) = right.filter (tied le element)) :
    left = right := by
  have member : ∀ element, element ∈ left ↔ element ∈ right := by
    intro element
    have classes := congrArg (element ∈ ·) (same element)
    simpa [tied_self total] using classes
  induction left generalizing right with
  | nil =>
      cases right with
      | nil => rfl
      | cons first right => simpa using member first
  | cons first left ih =>
      cases right with
      | nil => simpa using member first
      | cons other right =>
          have reflexive (element : α) : le element element = true := by
            simpa using total element element
          have forward : le other first = true := by
            rcases List.mem_cons.mp ((member first).mp (by simp)) with equal | later
            · exact equal ▸ reflexive first
            · exact List.rel_of_pairwise_cons rightSorted later
          have backward : le first other = true := by
            rcases List.mem_cons.mp ((member other).mpr (by simp)) with equal | later
            · exact equal ▸ reflexive other
            · exact List.rel_of_pairwise_cons leftSorted later
          have heads := same first
          rw [List.filter_cons_of_pos (tied_self total first),
            List.filter_cons_of_pos (by simp [tied, forward, backward])] at heads
          obtain rfl : first = other := (List.cons.inj heads).1
          have tails : ∀ element,
              left.filter (tied le element) = right.filter (tied le element) := by
            intro element
            have both := same element
            by_cases here : tied le element first = true
            · rw [List.filter_cons_of_pos here, List.filter_cons_of_pos here] at both
              exact (List.cons.inj both).2
            · rwa [List.filter_cons_of_neg here, List.filter_cons_of_neg here] at both
          refine congrArg (first :: ·) (ih leftSorted.of_cons rightSorted.of_cons tails ?_)
          intro element
          have classes := congrArg (element ∈ ·) (tails element)
          simpa [tied_self total] using classes

/-- A sorted list is what comes before an element, then what is tied with it, then what comes
after it. -/
theorem eq_before_tied_after (trans : ∀ a b c, le a b = true → le b c = true → le a c = true)
    {list : List α} (sorted : list.Pairwise (le · ·)) (pivot : α) :
    list = (list.filter fun element => !le pivot element) ++ list.filter (tied le pivot) ++
      list.filter fun element => le pivot element && !le element pivot := by
  induction list with
  | nil => rfl
  | cons first rest ih =>
      have split := ih sorted.of_cons
      -- What comes after the first element is not before the pivot if the first is not.
      have noneBefore (reached : le pivot first = true) :
          (rest.filter fun element => !le pivot element) = [] := by
        rw [List.filter_eq_nil_iff]
        intro element member
        simpa using trans pivot first element reached (List.rel_of_pairwise_cons sorted member)
      cases reached : le pivot first with
      | false =>
          simp only [List.filter_cons, tied, reached, Bool.not_false, Bool.false_and, if_true,
            Bool.false_eq_true, if_false, List.cons_append]
          exact congrArg (first :: ·) split
      | true =>
          rw [noneBefore reached, List.nil_append] at split
          cases passed : le first pivot with
          | true =>
              simp only [List.filter_cons, tied, reached, passed, Bool.not_true, Bool.and_self,
                Bool.and_false, if_true, Bool.false_eq_true, if_false, noneBefore reached,
                List.nil_append, List.cons_append]
              exact congrArg (first :: ·) split
          | false =>
              have noneTied : rest.filter (tied le pivot) = [] := by
                rw [List.filter_eq_nil_iff]
                intro element member isTied
                rw [tied, Bool.and_eq_true] at isTied
                have back := trans first element pivot
                  (List.rel_of_pairwise_cons sorted member) isTied.2
                rw [passed] at back
                cases back
              rw [noneTied, List.nil_append] at split
              simp only [List.filter_cons, tied, reached, passed, Bool.not_true, Bool.not_false,
                Bool.and_false, Bool.and_self, if_true, Bool.false_eq_true, if_false,
                noneBefore reached, noneTied, List.nil_append]
              exact congrArg (first :: ·) split

/-- An element of a sorted list that is tied with no other is among the first ones of the list if
and only if there are fewer before it. -/
theorem filter_tied_take (trans : ∀ a b c, le a b = true → le b c = true → le a c = true)
    {list : List α} (sorted : list.Pairwise (le · ·)) {pivot : α}
    (alone : list.filter (tied le pivot) = [pivot]) (limit : Nat) :
    (list.take limit).filter (tied le pivot) =
      if (list.filter fun element => !le pivot element).length < limit then [pivot] else [] := by
  have self : tied le pivot pivot = true :=
    (List.mem_filter.mp (alone ▸ List.mem_singleton_self pivot)).2
  have split := eq_before_tied_after trans sorted pivot
  rw [alone, List.append_assoc, List.singleton_append] at split
  have noneBefore : ∀ count, ((list.filter fun element => !le pivot element).take count).filter
      (tied le pivot) = [] := by
    intro count
    rw [List.filter_eq_nil_iff]
    intro element member isTied
    have before := (List.mem_filter.mp (List.mem_of_mem_take member)).2
    rw [tied, Bool.and_eq_true] at isTied
    simp [isTied.1] at before
  have noneAfter : ∀ count, ((list.filter fun element =>
      le pivot element && !le element pivot).take count).filter (tied le pivot) = [] := by
    intro count
    rw [List.filter_eq_nil_iff]
    intro element member isTied
    have after := (List.mem_filter.mp (List.mem_of_mem_take member)).2
    rw [tied, Bool.and_eq_true] at isTied
    simp [isTied.2] at after
  conv_lhs => rw [split, List.take_append, List.filter_append, noneBefore, List.nil_append]
  split
  next room =>
    obtain ⟨more, equal⟩ := Nat.exists_eq_add_of_lt room
    rw [equal, Nat.add_assoc, Nat.add_sub_cancel_left, List.take_succ_cons,
      List.filter_cons_of_pos self, noneAfter]
  next full => rw [Nat.sub_eq_zero_of_le (Nat.le_of_not_lt full), List.take_zero, List.filter_nil]

/-- Stable sorting leaves every class of tied elements as it is. -/
theorem filter_tied_mergeSort (total : ∀ a b, (le a b || le b a) = true)
    (trans : ∀ a b c, le a b = true → le b c = true → le a c = true) (elements : List α)
    (element : α) :
    (elements.mergeSort le).filter (tied le element) = elements.filter (tied le element) := by
  have inOrder : (elements.filter (tied le element)).Pairwise (le · ·) := by
    apply List.Pairwise.imp_of_mem _ (List.pairwise_of_forall fun _ _ => True.intro)
    intro left right leftMember rightMember _
    exact le_of_tied trans (List.mem_filter.mp leftMember).2 (List.mem_filter.mp rightMember).2
  have kept : (elements.filter (tied le element)).Sublist (elements.mergeSort le) :=
    List.sublist_mergeSort trans total inOrder List.filter_sublist
  have classes := kept.filter (tied le element)
  simp only [List.filter_filter, Bool.and_self] at classes
  refine (classes.eq_of_length ?_).symm
  exact ((List.mergeSort_perm elements le).filter _).length_eq.symm

/-- Stable sorting and selecting may be done in either order. -/
theorem filter_mergeSort (total : ∀ a b, (le a b || le b a) = true)
    (trans : ∀ a b c, le a b = true → le b c = true → le a c = true) (chosen : α → Bool)
    (elements : List α) :
    (elements.mergeSort le).filter chosen = (elements.filter chosen).mergeSort le := by
  apply eq_of_filter_tied_eq total
  · exact (List.pairwise_mergeSort trans total elements).filter chosen
  · exact List.pairwise_mergeSort trans total (elements.filter chosen)
  · intro element
    rw [filter_tied_mergeSort total trans, List.filter_comm, filter_tied_mergeSort total trans,
      List.filter_comm]

/-- Merging a sorted list with another puts its classes of tied elements first. -/
theorem filter_tied_merge (trans : ∀ a b c, le a b = true → le b c = true → le a c = true)
    {left : List α} (leftSorted : left.Pairwise (le · ·)) (right : List α) (element : α) :
    (left.merge right le).filter (tied le element) =
      left.filter (tied le element) ++ right.filter (tied le element) := by
  fun_induction List.merge left right le with
  | case1 right => simp
  | case2 left => simp
  | case3 first left other right smaller ih =>
      have rest := ih leftSorted.of_cons
      by_cases here : tied le element first = true
      · rw [List.filter_cons_of_pos here, List.filter_cons_of_pos here, rest, List.cons_append]
      · rw [List.filter_cons_of_neg here, List.filter_cons_of_neg here, rest]
  | case4 first left other right larger ih =>
      have rest := ih leftSorted
      by_cases here : tied le element other = true
      · -- No element of the left list can be tied with one that precedes its first.
        have none : (first :: left).filter (tied le element) = [] := by
          rw [List.filter_eq_nil_iff]
          intro item member itemTied
          have itemFirst : le item other = true := le_of_tied trans itemTied here
          rcases List.mem_cons.mp member with equal | later
          · exact larger (equal ▸ itemFirst)
          · exact larger (trans first item other (List.rel_of_pairwise_cons leftSorted later)
              itemFirst)
        rw [none] at rest ⊢
        rw [List.filter_cons_of_pos here, List.filter_cons_of_pos here, rest]
        rfl
      · rw [List.filter_cons_of_neg here, List.filter_cons_of_neg here, rest]

/-- Sorting two lists one after the other is merging their sorted forms. -/
theorem mergeSort_append (total : ∀ a b, (le a b || le b a) = true)
    (trans : ∀ a b c, le a b = true → le b c = true → le a c = true) (left right : List α) :
    (left ++ right).mergeSort le = (left.mergeSort le).merge (right.mergeSort le) le := by
  have leftSorted := List.pairwise_mergeSort trans total left
  have rightSorted := List.pairwise_mergeSort trans total right
  apply eq_of_filter_tied_eq total (List.pairwise_mergeSort trans total (left ++ right))
    (List.pairwise_merge trans total _ _ leftSorted rightSorted)
  intro element
  rw [filter_tied_mergeSort total trans, filter_tied_merge trans leftSorted,
    filter_tied_mergeSort total trans, filter_tied_mergeSort total trans, List.filter_append]

end ClusterQuery.StableSort
