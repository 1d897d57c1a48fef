import ClusterQuery.Proofs.Json.Equality
import ClusterQuery.Proofs.Record.Extraction
import ClusterQuery.Query.SortOrder

/-!
# Equality of records

Equal records have the same field values: the signs of floating zeros are all that their documents
can differ in, and no declared field is a floating point number. Records of one kind that have one
text are the same record.
-/

namespace ClusterQuery

/-! ## Decoding equal documents -/

theorem RecordKind.type_ne_float (kind : RecordKind) :
    ∀ field ∈ kind.schema.fields, field.type ≠ .float := by
  cases kind <;> decide

theorem Json.isNull_eq_of_same {left right : Json} (same : left.same right = true) :
    left.isNull = right.isNull := by
  cases left <;> cases right <;> simp_all [Json.same, isNull]

/-- Only floating point fields tell equal documents apart. -/
theorem FieldType.coerce_eq_of_same {type : FieldType} (notFloat : type ≠ .float)
    {left right : Json} (same : left.same right = true) :
    type.coerce left = type.coerce right := by
  cases left with
  | number left =>
      cases right with
      | number right =>
          cases left with
          | whole left =>
              cases right with
              | whole right =>
                  simp only [Json.same, JsonNumber.same, beq_iff_eq] at same
                  rw [same]
              | floating right => simp [Json.same, JsonNumber.same] at same
          | floating left =>
              cases right with
              | whole right => simp [Json.same, JsonNumber.same] at same
              | floating right => cases type <;> first | rfl | exact absurd rfl notFloat
      | _ => simp [Json.same] at same
  | _ => cases right <;> simp_all [Json.same, coerce]

/-- A document that is equal to one that a field takes is taken, with the same slot. -/
theorem FieldType.decode_of_same {type : FieldType} (notFloat : type ≠ .float)
    (flat : type.inner? = none) {left right : Json} (same : left.same right = true) {path : String}
    {slot : Slot} (decoded : type.decode path left = .ok slot) :
    type.decode path right = .ok slot := by
  by_cases orderable : type.isOrderable = true
  · rw [decode_of_isOrderable orderable] at decoded ⊢
    rw [← coerce_eq_of_same notFloat same]
    cases coerced : type.coerce left with
    | none =>
        rw [coerced] at decoded
        cases decoded
    | some _ => rwa [coerced] at decoded
  · -- A collection is not read; equal documents are collections of one sort.
    cases type with
    | objectOf => cases flat
    | list => cases left <;> cases right <;> simp_all [decode, Json.same]
    | map => cases left <;> cases right <;> simp_all [decode, Json.same]
    | _ => exact absurd rfl orderable

theorem Field.decode_of_sameEntries {field : Field} (notFloat : field.type ≠ .float)
    (flat : field.type.inner? = none) {lefts rights : List (String × Json)}
    (same : Json.sameEntries lefts rights = true) {path : String} {slot : Slot}
    (decoded : field.decode path lefts = .ok slot) : field.decode path rights = .ok slot := by
  rw [decode_eq, present?] at decoded ⊢
  rcases Json.lookup_of_sameEntries same field.name with
    ⟨noLeft, noRight⟩ | ⟨left, right, isLeft, isRight, sameValue⟩
  · rw [noLeft] at decoded
    rwa [noRight]
  · rw [isLeft, Option.filter_some, Json.isNull_eq_of_same sameValue] at decoded
    rw [isRight, Option.filter_some]
    cases isNull : right.isNull with
    | true => rwa [isNull] at decoded
    | false =>
        rw [isNull] at decoded
        exact FieldType.decode_of_same notFloat flat sameValue decoded

/-- Equal documents conform to the schema of a kind with the same slots. -/
theorem RecordKind.decode_of_same (kind : RecordKind) {left right : Json}
    (same : left.same right = true) {slots : List Slot}
    (decoded : kind.schema.decode left = .ok slots) : kind.schema.decode right = .ok slots := by
  obtain ⟨lefts, isRoot, fields⟩ := Schema.decode_eq_ok_iff.mp decoded
  obtain ⟨rights, isRootAlso, sameEntries⟩ := Json.get?_object_of_same same isRoot
  refine Schema.decode_eq_ok_iff.mpr ⟨rights, isRootAlso, Field.decodeAll_eq_ok_iff.mpr ?_⟩
  rw [Field.decodeAll_eq_ok_iff, List.forall₂_iff_get] at fields
  obtain ⟨sameLength, each⟩ := fields
  refine List.forall₂_iff_get.mpr ⟨sameLength, fun position inside insideSlots => ?_⟩
  exact Field.decode_of_sameEntries (kind.type_ne_float _ (List.get_mem _ _))
    (kind.inner?_eq_none _ (List.get_mem _ _)) sameEntries (each position inside insideSlots)

namespace Record

variable {left right : Record}

theorem same_iff : left.same right = true ↔
    left.kind = right.kind ∧ left.document.same right.document = true := by
  rw [same, Bool.and_eq_true, beq_iff_eq]

/-- A record is determined by its kind and its document. -/
theorem eq_of_document (sameKind : left.kind = right.kind)
    (sameDocument : left.document = right.document) : left = right := by
  obtain ⟨kind, document, slots, conforms⟩ := left
  obtain ⟨_, _, others, conformsAlso⟩ := right
  subst sameKind sameDocument
  have equal : slots = others := Except.ok.inj (conforms.symm.trans conformsAlso)
  subst equal
  rfl

/-- A record is determined by its kind and its text. -/
theorem eq_of_text (sameKind : left.kind = right.kind) (leftFinite : left.document.isFinite = true)
    (rightFinite : right.document.isFinite = true) (sameText : left.text = right.text) :
    left = right :=
  eq_of_document sameKind (Json.text_inj leftFinite rightFinite sameText)

/-- Equal records have the same slots. -/
theorem slots_eq_of_same (equal : left.same right = true) : left.slots = right.slots := by
  obtain ⟨sameKind, sameDocument⟩ := same_iff.mp equal
  have conforms := left.kind.decode_of_same sameDocument left.conforms
  rw [sameKind, right.conforms] at conforms
  exact (Except.ok.inj conforms).symm

/-- Equal records have the same key in every order. -/
theorem key_eq_of_same (order : SortOrder) (equal : left.same right = true) :
    order.key left = order.key right := by
  rw [SortOrder.key, SortOrder.key, FieldPath.extract, FieldPath.extract, valueAt, valueAt,
    slots_eq_of_same equal]

end Record

end ClusterQuery
