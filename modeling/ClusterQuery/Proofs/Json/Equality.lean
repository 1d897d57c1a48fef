import ClusterQuery.Proofs.Json.DocumentText

/-!
# Equality of documents

Numbers of equal documents are equal as numbers, which the two floating zeros are. So equal
documents differ in nothing but the signs of zeros: they are the same once the signs are dropped.
-/

namespace ClusterQuery

/-! ## Numbers -/

namespace Binary64

/-- The number without the sign that a zero may have. -/
def unsignZero (x : Binary64) : Binary64 := if x.isZero then zero false else x

variable {left right : Binary64}

theorem isZero_iff {x : Binary64} : x.isZero = true ↔ x.magnitude = 0 := by
  rw [isZero, beq_iff_eq]

theorem numericKey_unsignZero (x : Binary64) : x.unsignZero.numericKey = x.numericKey := by
  unfold unsignZero
  split
  next isZero => simp [numericKey, isZero_iff.mp isZero, zero, magnitude_ofMagnitude]
  next => rfl

/-- Numbers at one numeric position are the same, if they are no zeros of different signs. -/
theorem numericKey_eq_iff :
    left.numericKey = right.numericKey ↔ left.unsignZero = right.unsignZero := by
  constructor
  · intro same
    have size : left.magnitude = right.magnitude := by
      unfold numericKey at same
      split at same <;> split at same <;> omega
    by_cases isZero : right.magnitude = 0
    · rw [unsignZero, unsignZero, if_pos (isZero_iff.mpr (size.trans isZero)),
        if_pos (isZero_iff.mpr isZero)]
    · have sign : left.isNegative = right.isNegative := by
        rw [Bool.eq_iff_iff]
        unfold numericKey at same
        split at same <;> split at same <;> simp_all
      rw [← ofMagnitude_magnitude left, sign, size, ofMagnitude_magnitude]
  · intro same
    rw [← numericKey_unsignZero left, same, numericKey_unsignZero]

theorem not_isNaN_of_isFinite {x : Binary64} (finite : x.isFinite = true) : x.isNaN = false := by
  rw [isFinite, decide_eq_true_eq] at finite
  rw [isNaN, decide_eq_false_iff_not]
  exact Nat.lt_asymm finite

theorem sameNumber_iff (leftFinite : left.isFinite = true) (rightFinite : right.isFinite = true) :
    left.sameNumber right = true ↔ left.unsignZero = right.unsignZero := by
  simp [sameNumber, not_isNaN_of_isFinite leftFinite, not_isNaN_of_isFinite rightFinite,
    numericKey_eq_iff]

end Binary64

namespace JsonNumber

/-- The number without the sign that a floating zero may have. -/
def unsignZero : JsonNumber → JsonNumber
  | .whole value => .whole value
  | .floating value => .floating value.unsignZero

theorem same_iff {left right : JsonNumber} (leftFinite : left.isFinite = true)
    (rightFinite : right.isFinite = true) :
    left.same right = true ↔ left.unsignZero = right.unsignZero := by
  cases left with
  | whole left => cases right <;> simp [same, unsignZero]
  | floating left =>
      cases right with
      | whole right => simp [same, unsignZero]
      | floating right =>
          simp only [same, unsignZero, floating.injEq]
          exact Binary64.sameNumber_iff leftFinite rightFinite

end JsonNumber

/-! ## Documents -/

namespace Json

mutual

/-- The document without the signs of its floating zeros. -/
def unsignZeros : Json → Json
  | .number value => .number value.unsignZero
  | .array items => .array (unsignItems items)
  | .object entries => .object (unsignEntries entries)
  | .null => .null
  | .bool value => .bool value
  | .string value => .string value

/-- The documents of a list without the signs of their floating zeros. -/
def unsignItems : List Json → List Json
  | [] => []
  | item :: rest => unsignZeros item :: unsignItems rest

/-- Entries without the signs of the floating zeros in their values. -/
def unsignEntries : List (String × Json) → List (String × Json)
  | [] => []
  | (key, value) :: rest => (key, unsignZeros value) :: unsignEntries rest

end

mutual

/-- Documents are equal if and only if they differ in the signs of floating zeros, if at all. -/
theorem same_iff (left right : Json) (leftFinite : left.isFinite = true)
    (rightFinite : right.isFinite = true) :
    left.same right = true ↔ left.unsignZeros = right.unsignZeros := by
  cases left with
  | null => cases right <;> simp [same, unsignZeros]
  | bool left => cases right <;> simp [same, unsignZeros]
  | string left => cases right <;> simp [same, unsignZeros]
  | number left =>
      cases right with
      | number right =>
          simp only [same, unsignZeros, number.injEq]
          exact JsonNumber.same_iff leftFinite rightFinite
      | _ => simp [same, unsignZeros]
  | array lefts =>
      cases right with
      | array rights =>
          simp only [same, unsignZeros, array.injEq]
          exact sameItems_iff lefts rights leftFinite rightFinite
      | _ => simp [same, unsignZeros]
  | object lefts =>
      cases right with
      | object rights =>
          simp only [same, unsignZeros, object.injEq]
          exact sameEntries_iff lefts rights leftFinite rightFinite
      | _ => simp [same, unsignZeros]

theorem sameItems_iff (lefts rights : List Json) (leftFinite : itemsFinite lefts = true)
    (rightFinite : itemsFinite rights = true) :
    sameItems lefts rights = true ↔ unsignItems lefts = unsignItems rights := by
  match lefts, rights with
  | [], [] => exact iff_of_true rfl rfl
  | [], _ :: _ => simp [sameItems, unsignItems]
  | _ :: _, [] => simp [sameItems, unsignItems]
  | left :: lefts, right :: rights =>
      simp only [itemsFinite, Bool.and_eq_true] at leftFinite rightFinite
      simp only [sameItems, unsignItems, Bool.and_eq_true, List.cons.injEq,
        same_iff left right leftFinite.1 rightFinite.1,
        sameItems_iff lefts rights leftFinite.2 rightFinite.2]

theorem sameEntries_iff (lefts rights : List (String × Json))
    (leftFinite : entriesFinite lefts = true) (rightFinite : entriesFinite rights = true) :
    sameEntries lefts rights = true ↔ unsignEntries lefts = unsignEntries rights := by
  match lefts, rights with
  | [], [] => exact iff_of_true rfl rfl
  | [], _ :: _ => simp [sameEntries, unsignEntries]
  | _ :: _, [] => simp [sameEntries, unsignEntries]
  | (leftKey, left) :: lefts, (rightKey, right) :: rights =>
      simp only [entriesFinite, Bool.and_eq_true] at leftFinite rightFinite
      simp only [sameEntries, unsignEntries, Bool.and_eq_true, beq_iff_eq, List.cons.injEq,
        Prod.mk.injEq, same_iff left right leftFinite.1 rightFinite.1,
        sameEntries_iff lefts rights leftFinite.2 rightFinite.2]

end

/-! ## What equal documents have in common -/

/-- Equal entries have equal values for a key, or none. -/
theorem lookup_of_sameEntries {lefts rights : List (String × Json)}
    (same : sameEntries lefts rights = true) (key : String) :
    (lookup key lefts = none ∧ lookup key rights = none) ∨
      ∃ left right, lookup key lefts = some left ∧ lookup key rights = some right ∧
        left.same right = true := by
  induction lefts generalizing rights with
  | nil =>
      cases rights with
      | nil => exact .inl ⟨rfl, rfl⟩
      | cons right rights => simp [sameEntries] at same
  | cons left lefts ih =>
      cases rights with
      | nil => simp [sameEntries] at same
      | cons right rights =>
          simp only [sameEntries, Bool.and_eq_true, beq_iff_eq] at same
          obtain ⟨⟨sameName, sameValue⟩, sameRest⟩ := same
          rw [lookup, lookup, ← sameName]
          split
          · exact .inr ⟨left.2, right.2, rfl, rfl, sameValue⟩
          · exact ih sameRest

/-- Where a document has an object for a key, an equal document has one with equal entries. -/
theorem get?_object_of_same {left right : Json} (same : left.same right = true) {key : String}
    {lefts : List (String × Json)} (isLeft : left.get? key = some (.object lefts)) :
    ∃ rights, right.get? key = some (.object rights) ∧ sameEntries lefts rights = true := by
  cases left with
  | object _ =>
      cases right with
      | object _ =>
          rcases lookup_of_sameEntries same key with
            ⟨noLeft, -⟩ | ⟨value, other, isValue, isOther, sameValue⟩
          · rw [get?, noLeft] at isLeft
            cases isLeft
          · rw [get?, isValue, Option.some.injEq] at isLeft
            subst isLeft
            cases other with
            | object rights => exact ⟨rights, isOther, sameValue⟩
            | _ => simp [Json.same] at sameValue
      | _ => simp [Json.same] at same
  | _ => cases isLeft

end Json

end ClusterQuery
