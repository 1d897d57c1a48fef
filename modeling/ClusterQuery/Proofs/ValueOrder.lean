import ClusterQuery.Query.SortOrder

/-!
# The order of values is linear

A value is compared by its sort, then by what its sort is ordered by. Both steps read off a key:
the rank of the sort, two numbers and a text. Since the key determines the value, comparing values
is a linear order, and so is comparing the keys of a sort order in either direction.
-/

namespace ClusterQuery

namespace Binary64

/-- The position in the total order tells any two bit patterns apart. -/
theorem totalKey_injective {left right : Binary64} (equal : left.totalKey = right.totalKey) :
    left = right := by
  have leftBound := left.bits.toNat_lt
  have rightBound := right.bits.toNat_lt
  have signWeight : Nat.pow 2 63 = 9223372036854775808 := rfl
  have sameBits : left.bits.toNat = right.bits.toNat := by
    simp only [totalKey, isNegative, magnitude, signWeight, decide_eq_true_eq] at equal
    split at equal <;> split at equal <;> omega
  cases left
  cases right
  exact congrArg Binary64.mk (UInt64.toNat_inj.mp sameBits)

end Binary64

namespace Value

/-- The number by which values of one sort are compared first. -/
def majorKey : Value → Int
  | .bool value => value.toNat
  | .int value => value
  | .float value => value.totalKey
  | .timestamp value => value.seconds
  | .enum rank _ => rank
  | .null | .text _ => 0

/-- The number by which values of one sort are compared next. -/
def minorKey : Value → Nat
  | .timestamp value => value.nanos
  | _ => 0

/-- The text by which values of one sort are compared last. -/
def textKey : Value → String
  | .enum _ name => name
  | .text value => value
  | _ => ""

/-- Comparison by sort, then by the three keys. -/
def compareByKeys : Value → Value → Ordering :=
  compareLex (compareOn sortRank)
    (compareLex (compareOn majorKey) (compareLex (compareOn minorKey) (compareOn textKey)))

private theorem compare_natCast (left right : Nat) :
    Ord.compare (left : Int) (right : Int) = Ord.compare left right := by
  simp only [Int.compare_eq_ite_lt, Nat.compare_eq_ite_lt, Int.ofNat_lt]

private theorem compare_toNat (left right : Bool) :
    Ord.compare left.toNat right.toNat = Ord.compare left right := by
  cases left <;> cases right <;> rfl

theorem compare_of_sortRank_ne {left right : Value} (different : left.sortRank ≠ right.sortRank) :
    left.compare right = Ord.compare left.sortRank right.sortRank := by
  cases left <;> cases right <;> simp_all [compare, sortRank]

theorem compare_eq_compareByKeys (left right : Value) :
    left.compare right = compareByKeys left right := by
  by_cases same : left.sortRank = right.sortRank
  · cases left <;> cases right <;>
      simp_all [sortRank, compare, compareByKeys, compareLex, compareOn, majorKey, minorKey,
        textKey, compare_natCast, compare_toNat, Time.Instant.compare]
  · rw [compare_of_sortRank_ne same]
    have apart : Ord.compare left.sortRank right.sortRank ≠ .eq := by
      simpa only [ne_eq, Std.compare_eq_iff_eq] using same
    simp only [compareByKeys, compareLex, compareOn]
    cases ranks : Ord.compare left.sortRank right.sortRank with
    | eq => exact absurd ranks apart
    | lt | gt => rfl

theorem compare_eq_compareByKeys' : compare = compareByKeys := by
  funext left right
  exact compare_eq_compareByKeys left right

instance : Std.TransCmp compare := by
  rw [compare_eq_compareByKeys']
  unfold compareByKeys
  infer_instance

/-- Values that compare equal are equal. -/
theorem eq_of_compare_eq {left right : Value} (equal : left.compare right = .eq) :
    left = right := by
  rw [compare_eq_compareByKeys] at equal
  simp only [compareByKeys, compareLex, compareOn, Ordering.then_eq_eq, Std.compare_eq_iff_eq]
    at equal
  obtain ⟨sameSort, sameMajor, sameMinor, sameText⟩ := equal
  cases left <;> cases right <;> cases sameSort
  case null.null => rfl
  case bool.bool left right => cases left <;> cases right <;> first | rfl | cases sameMajor
  case int.int => exact congrArg Value.int sameMajor
  case float.float => exact congrArg Value.float (Binary64.totalKey_injective sameMajor)
  case timestamp.timestamp left right =>
    cases left
    cases right
    cases sameMajor
    cases sameMinor
    rfl
  case enum.enum =>
    cases Int.ofNat_inj.mp sameMajor
    cases sameText
    rfl
  case text.text => exact congrArg Value.text sameText

instance : Std.LawfulEqCmp compare where
  compare_self := Std.ReflCmp.compare_self
  eq_of_compare := eq_of_compare_eq

end Value

namespace SortOrder

variable (order : SortOrder)

instance : Std.TransCmp order.compareKeys := by
  cases direction : order.direction with
  | ascending =>
      have same : order.compareKeys = Value.compare := by
        funext left right
        simp [compareKeys, direction, Direction.apply]
      rw [same]
      infer_instance
  | descending =>
      have reversed : order.compareKeys = fun left right => Value.compare right left := by
        funext left right
        have swapped : right.compare left = (left.compare right).swap := Std.OrientedCmp.eq_swap
        rw [compareKeys, direction, swapped]
        rfl
      rw [reversed]
      exact Std.TransCmp.opposite

/-- Neither direction takes two different keys for equal. -/
theorem compareKeys_eq_iff {left right : Value} :
    order.compareKeys left right = .eq ↔ left = right := by
  cases direction : order.direction <;>
    simp [compareKeys, direction, Direction.apply, Std.LawfulEqCmp.compare_eq_iff_eq]

/-- Whether a key may stand before another. -/
def keysAtMost (left right : Value) : Bool := order.compareKeys left right != .gt

theorem keysAtMost_iff_isLE {left right : Value} :
    order.keysAtMost left right = true ↔ (order.compareKeys left right).isLE = true := by
  simp [keysAtMost, Ordering.isLE_iff_ne_gt]

theorem keysAtMost_trans (first second third : Value)
    (before : order.keysAtMost first second = true) (after : order.keysAtMost second third = true) :
    order.keysAtMost first third = true := by
  rw [keysAtMost_iff_isLE] at before after ⊢
  exact Std.TransCmp.isLE_trans before after

theorem keysAtMost_total (left right : Value) :
    (order.keysAtMost left right || order.keysAtMost right left) = true := by
  have swapped : order.compareKeys right left = (order.compareKeys left right).swap :=
    Std.OrientedCmp.eq_swap
  simp only [keysAtMost, swapped]
  cases order.compareKeys left right <;> rfl

theorem keysAtMost_antisymm {left right : Value} (before : order.keysAtMost left right = true)
    (after : order.keysAtMost right left = true) : left = right := by
  rw [keysAtMost_iff_isLE] at before after
  exact order.compareKeys_eq_iff.mp (Std.OrientedCmp.isLE_antisymm before after)

theorem atMost_trans (first second third : Record) :
    order.atMost first second = true → order.atMost second third = true →
      order.atMost first third = true :=
  order.keysAtMost_trans (order.key first) (order.key second) (order.key third)

theorem atMost_total (left right : Record) :
    (order.atMost left right || order.atMost right left) = true :=
  order.keysAtMost_total (order.key left) (order.key right)

end SortOrder

end ClusterQuery
