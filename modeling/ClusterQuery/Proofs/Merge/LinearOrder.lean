import ClusterQuery.Proofs.Json.Equality
import ClusterQuery.Proofs.Merge.Interleaving
import ClusterQuery.Proofs.Text.ByteOrder
import Mathlib.Order.Defs.Unbundled

/-!
# Values, records and heads in one line

Which of two values comes first, said sort by sort and without the comparison: floating point
numbers by the clauses of the IEEE total order, instants by their second and then their nanosecond,
names by their rank and then their code points. The comparison decides just this, so values stand in
one line with null at its start. Records stand in the line of their keys, several at one place, and
in the other direction they stand in the exact reverse. Heads of different batches never share a
place.
-/

namespace ClusterQuery

/-- A comparison by which things stand in one line, those that compare equal at one place. -/
structure InOneLine {α : Type} (compare : α → α → Ordering) : Prop where
  refl (item : α) : compare item item = .eq
  swap (left right : α) : compare right left = (compare left right).swap
  total (left right : α) : compare left right ≠ .gt ∨ compare right left ≠ .gt
  trans (first second third : α) : compare first second ≠ .gt → compare second third ≠ .gt →
    compare first third ≠ .gt

theorem inOneLine_of_transCmp {α : Type} (compare : α → α → Ordering) [Std.TransCmp compare] :
    InOneLine compare where
  refl _ := Std.ReflCmp.compare_self
  swap _ _ := Std.OrientedCmp.eq_swap
  total left right := by
    have swapped : compare right left = (compare left right).swap := Std.OrientedCmp.eq_swap
    rw [swapped]
    cases compare left right <;> decide
  trans first second third := by
    simp only [← Ordering.isLE_iff_ne_gt]
    exact Std.TransCmp.isLE_trans

namespace Binary64

/-- The IEEE total order: numbers by their value, a negative zero before a positive one, a NaN
beyond all numbers on the side of its sign, and NaNs of one sign by their bits, outwards. -/
inductive Below (x y : Binary64) : Prop where
  | value (xNumber : x.isNaN = false) (yNumber : y.isNaN = false)
      (less : x.numericKey < y.numericKey)
  | zeros (xZero : x.isZero = true) (yZero : y.isZero = true) (negative : x.isNegative = true)
      (positive : y.isNegative = false)
  | beforeNumbers (xNaN : x.isNaN = true) (negative : x.isNegative = true)
      (yNumber : y.isNaN = false)
  | afterNumbers (xNumber : x.isNaN = false) (yNaN : y.isNaN = true)
      (positive : y.isNegative = false)
  | signs (xNaN : x.isNaN = true) (yNaN : y.isNaN = true) (negative : x.isNegative = true)
      (positive : y.isNegative = false)
  | positive (xNaN : x.isNaN = true) (yNaN : y.isNaN = true) (xPositive : x.isNegative = false)
      (yPositive : y.isNegative = false) (less : x.magnitude < y.magnitude)
  | negative (xNaN : x.isNaN = true) (yNaN : y.isNaN = true) (xNegative : x.isNegative = true)
      (yNegative : y.isNegative = true) (less : y.magnitude < x.magnitude)

section TotalOrder

variable {x y : Binary64}

theorem isNaN_iff : x.isNaN = true ↔ infiniteMagnitude < x.magnitude := by simp [isNaN]

theorem isNumber_iff : x.isNaN = false ↔ x.magnitude ≤ infiniteMagnitude := by simp [isNaN]

theorem totalKey_of_negative (negative : x.isNegative = true) :
    x.totalKey = -(x.magnitude : Int) - 1 := if_pos negative

theorem totalKey_of_positive (positive : x.isNegative = false) : x.totalKey = x.magnitude :=
  if_neg (Bool.not_eq_true _ ▸ positive)

theorem totalKey_lt_of_below (below : Below x y) : x.totalKey < y.totalKey := by
  cases below with
  | value _ _ less =>
      cases xSign : x.isNegative <;> cases ySign : y.isNegative <;>
        simp only [totalKey, numericKey, xSign, ySign, if_true, if_false, reduceCtorEq] at less ⊢
      all_goals omega
  | zeros _ _ negative positive =>
      rw [totalKey_of_negative negative, totalKey_of_positive positive]
      omega
  | beforeNumbers xNaN negative yNumber =>
      rw [isNaN_iff] at xNaN
      rw [isNumber_iff] at yNumber
      rw [totalKey_of_negative negative, totalKey]
      split <;> omega
  | afterNumbers xNumber yNaN positive =>
      rw [isNumber_iff] at xNumber
      rw [isNaN_iff] at yNaN
      rw [totalKey_of_positive positive, totalKey]
      split <;> omega
  | signs _ _ negative positive =>
      rw [totalKey_of_negative negative, totalKey_of_positive positive]
      omega
  | positive _ _ xPositive yPositive less =>
      rw [totalKey_of_positive xPositive, totalKey_of_positive yPositive]
      omega
  | negative _ _ xNegative yNegative less =>
      rw [totalKey_of_negative xNegative, totalKey_of_negative yNegative]
      omega

/-- Numbers that are in order but not by their value are the two zeros. -/
theorem zeros_of_totalKey_lt (less : x.totalKey < y.totalKey)
    (same : ¬x.numericKey < y.numericKey) :
    x.isZero = true ∧ y.isZero = true ∧ x.isNegative = true ∧ y.isNegative = false := by
  rw [isZero_iff, isZero_iff]
  cases xSign : x.isNegative <;> cases ySign : y.isNegative <;>
    simp only [totalKey, numericKey, xSign, ySign, if_true, if_false, reduceCtorEq, and_true,
      and_false] at less same ⊢
  all_goals omega

theorem below_of_totalKey_lt (less : x.totalKey < y.totalKey) : Below x y := by
  cases xNaN : x.isNaN <;> cases yNaN : y.isNaN
  case false.false =>
    by_cases value : x.numericKey < y.numericKey
    · exact .value xNaN yNaN value
    · obtain ⟨xZero, yZero, negative, positive⟩ := zeros_of_totalKey_lt less value
      exact .zeros xZero yZero negative positive
  case false.true =>
    have positive : y.isNegative = false := by
      rw [← Bool.not_eq_true]
      intro negative
      rw [isNumber_iff] at xNaN
      rw [isNaN_iff] at yNaN
      rw [totalKey_of_negative negative, totalKey] at less
      split at less <;> omega
    exact .afterNumbers xNaN yNaN positive
  case true.false =>
    have negative : x.isNegative = true := by
      rw [← Bool.not_eq_false]
      intro positive
      rw [isNaN_iff] at xNaN
      rw [isNumber_iff] at yNaN
      rw [totalKey_of_positive positive, totalKey] at less
      split at less <;> omega
    exact .beforeNumbers xNaN negative yNaN
  case true.true =>
    cases xSign : x.isNegative <;> cases ySign : y.isNegative
    case false.false =>
      rw [totalKey_of_positive xSign, totalKey_of_positive ySign] at less
      exact .positive xNaN yNaN xSign ySign (Int.ofNat_lt.mp less)
    case false.true =>
      rw [totalKey_of_positive xSign, totalKey_of_negative ySign] at less
      omega
    case true.false => exact .signs xNaN yNaN xSign ySign
    case true.true =>
      rw [totalKey_of_negative xSign, totalKey_of_negative ySign] at less
      exact .negative xNaN yNaN xSign ySign (by omega)

theorem below_iff : Below x y ↔ x.totalKey < y.totalKey :=
  ⟨totalKey_lt_of_below, below_of_totalKey_lt⟩

end TotalOrder

end Binary64

namespace Value

/-- Which of two values comes first. -/
inductive Below : Value → Value → Prop where
  /-- Values of different sorts stand in the order of the sorts. -/
  | sort {left right : Value} (less : left.sortRank < right.sortRank) : Below left right
  | bool : Below (.bool false) (.bool true)
  | int {left right : Int} (less : left < right) : Below (.int left) (.int right)
  | float {left right : Binary64} (below : left.Below right) : Below (.float left) (.float right)
  | second {left right : Time.Instant} (less : left.seconds < right.seconds) :
      Below (.timestamp left) (.timestamp right)
  | nanosecond {left right : Time.Instant} (same : left.seconds = right.seconds)
      (less : left.nanos < right.nanos) : Below (.timestamp left) (.timestamp right)
  | rank {leftRank rightRank : Nat} {left right : String} (less : leftRank < rightRank) :
      Below (.enum leftRank left) (.enum rightRank right)
  | name {rank : Nat} {left right : String}
      (less : List.Lex (fun one other => one.toNat < other.toNat) left.toList right.toList) :
      Below (.enum rank left) (.enum rank right)
  | text {left right : String}
      (less : List.Lex (fun one other => one.toNat < other.toNat) left.toList right.toList) :
      Below (.text left) (.text right)

theorem compare_text_eq_lt_iff {left right : String} :
    Ord.compare left right = .lt ↔
      List.Lex (fun one other => one.toNat < other.toNat) left.toList right.toList := by
  rw [compare_lt_iff_lt, String.lt_iff_toList_lt]
  rfl

theorem below_of_compare {left right : Value} (less : left.compare right = .lt) :
    Below left right := by
  unfold compare at less
  split at less
  next => cases less
  next left right =>
    obtain ⟨rfl, rfl⟩ : left = false ∧ right = true := Bool.lt_iff.mp (compare_lt_iff_lt.mp less)
    exact .bool
  next => exact .int (compare_lt_iff_lt.mp less)
  next => exact .float (Binary64.below_iff.mpr (compare_lt_iff_lt.mp less))
  next =>
    rcases Ordering.then_eq_lt.mp less with second | ⟨same, nanosecond⟩
    · exact .second (compare_lt_iff_lt.mp second)
    · exact .nanosecond (compare_eq_iff_eq.mp same) (compare_lt_iff_lt.mp nanosecond)
  next =>
    rcases Ordering.then_eq_lt.mp less with rank | ⟨same, name⟩
    · exact .rank (compare_lt_iff_lt.mp rank)
    · cases compare_eq_iff_eq.mp same
      exact .name (compare_text_eq_lt_iff.mp name)
  next => exact .text (compare_text_eq_lt_iff.mp less)
  next => exact .sort (compare_lt_iff_lt.mp less)

theorem compare_of_below {left right : Value} (below : Below left right) :
    left.compare right = .lt := by
  cases below with
  | sort less =>
      rw [compare_of_sortRank_ne (Nat.ne_of_lt less)]
      exact compare_lt_iff_lt.mpr less
  | bool => rfl
  | int less => exact compare_lt_iff_lt.mpr less
  | float below => exact compare_lt_iff_lt.mpr (Binary64.below_iff.mp below)
  | second less => exact Ordering.then_eq_lt.mpr (.inl (compare_lt_iff_lt.mpr less))
  | nanosecond same less =>
      exact Ordering.then_eq_lt.mpr
        (.inr ⟨compare_eq_iff_eq.mpr same, compare_lt_iff_lt.mpr less⟩)
  | rank less => exact Ordering.then_eq_lt.mpr (.inl (compare_lt_iff_lt.mpr less))
  | name less =>
      exact Ordering.then_eq_lt.mpr
        (.inr ⟨compare_eq_iff_eq.mpr rfl, compare_text_eq_lt_iff.mpr less⟩)
  | text less => exact compare_text_eq_lt_iff.mpr less

/-- Values stand in one line, each at a place of its own, and null at its start. -/
structure Linear : Prop where
  line : InOneLine compare
  lt_iff (left right : Value) : left.compare right = .lt ↔ Below left right
  gt_iff (left right : Value) : left.compare right = .gt ↔ Below right left
  eq_iff (left right : Value) : left.compare right = .eq ↔ left = right
  antisymm (left right : Value) : left.compare right ≠ .gt → right.compare left ≠ .gt →
    left = right
  null_first (value : Value) : value ≠ .null → Value.null.compare value = .lt
  /-- The order of code points is that of bytes. -/
  bytes (left right : String) : (Value.text left).compare (.text right) = .lt ↔
    Text.bytes left < Text.bytes right

theorem linear : Linear where
  line := inOneLine_of_transCmp compare
  lt_iff _ _ := ⟨below_of_compare, compare_of_below⟩
  gt_iff _ _ := Std.OrientedCmp.gt_iff_lt.trans ⟨below_of_compare, compare_of_below⟩
  eq_iff _ _ := Std.LawfulEqCmp.compare_eq_iff_eq
  antisymm _ _ before after :=
    eq_of_compare_eq (Std.OrientedCmp.isLE_antisymm (Ordering.isLE_iff_ne_gt.mpr before)
      (Ordering.isLE_iff_ne_gt.mpr after))
  null_first value notNull := by
    apply compare_of_below
    cases value with
    | null => exact absurd rfl notNull
    | _ => exact .sort (Nat.succ_pos _)
  bytes _ _ := (compare_lt_iff_lt).trans Text.bytes_lt_iff.symm

end Value

instance (order : SortOrder) : Std.TransCmp order.compare := by
  have byKey : Std.TransCmp fun left right : Record =>
      order.compareKeys (order.key left) (order.key right) :=
    { eq_swap := Std.OrientedCmp.eq_swap
      isLE_trans := Std.TransCmp.isLE_trans }
  exact byKey

namespace Merge

/-- Of heads of different batches, one goes before the other. -/
theorem isStrictTotalOrder_heads (order : SortOrder) {heads : Set Head}
    (distinct : heads.InjOn Head.batch) :
    IsStrictTotalOrder heads fun left right => Head.compare order left right = .lt where
  irrefl head less := by
    have same : Head.compare order head head = .eq := Std.ReflCmp.compare_self
    cases same.symm.trans less
  trans _ _ _ := Std.TransCmp.lt_trans
  trichotomous left right notBefore notAfter := by
    by_contra different
    have apart : left.1.batch ≠ right.1.batch := fun same =>
      different (Subtype.ext (distinct left.2 right.2 same))
    cases compared : Head.compare order left right with
    | lt => exact notBefore compared
    | eq => exact Head.compare_ne_eq order apart compared
    | gt => exact notAfter (Std.OrientedCmp.lt_of_gt compared)

/-- Values stand in one line, in which null comes first and no two values share a place. In either
direction the records stand in the line of their keys, descending in the exact reverse of ascending,
and heads of different batches stand in a strict line. -/
theorem order_is_linear (order : SortOrder) {heads : Set Head}
    (distinct : heads.InjOn Head.batch) :
    Value.Linear ∧ InOneLine order.compare ∧
      (∀ left right, (SortOrder.mk order.path .descending).compare left right =
        (SortOrder.mk order.path .ascending).compare right left) ∧
      IsStrictTotalOrder heads fun left right => Head.compare order left right = .lt := by
  refine ⟨Value.linear, inOneLine_of_transCmp order.compare, ?_,
    isStrictTotalOrder_heads order distinct⟩
  intro left right
  exact (Value.linear.line.swap _ _).symm

/-- Two heads share a NaN for a key, and a third has none, which in descending order goes last. -/
theorem order_is_linear_of_three_heads :
    let record : Record :=
      ⟨.node, .object [("node", .object [("id", .string "a"), ("host", .string "h"),
          ("port", .ofNat 1), ("status", .string "UP")])],
        [.scalar (.text "a"), .scalar (.text "h"), .scalar (.int 1), .scalar (.enum 0 "UP"),
          .scalar .null, .scalar .null, .unread], by rfl⟩
    let order : SortOrder := ⟨⟨.node, "node.host", [1], .string⟩, .descending⟩
    let head (key : Value) (batch : Nat) : Head := ⟨key, batch, record, []⟩
    let heads : Set Head :=
      {head .null 0, head (.float (.nan true)) 1, head (.float (.nan true)) 2}
    heads.InjOn Head.batch ∧
      (IsStrictTotalOrder heads fun left right => Head.compare order left right = .lt) ∧
      Head.compare order (head (.float (.nan true)) 1) (head (.float (.nan true)) 2) = .lt ∧
      Head.compare order (head (.float (.nan true)) 2) (head .null 0) = .lt := by
  intro record order head heads
  have distinct : heads.InjOn Head.batch := by
    rintro _ (rfl | rfl | rfl) _ (rfl | rfl | rfl) same <;> first | rfl | cases same
  exact ⟨distinct, (order_is_linear order distinct).2.2.2, by decide, by decide⟩

end Merge

end ClusterQuery
