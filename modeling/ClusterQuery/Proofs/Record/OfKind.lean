import ClusterQuery.Http.PeerClient
import ClusterQuery.Proofs.Json.Finite
import ClusterQuery.Proofs.Record.Equality

/-!
# Records of one kind

Whatever a peer answers, an answer that can be used holds records of the kind that was asked for,
and the numbers in their documents are finite, as all numbers that are read. Among such records the
text tells which record it is, and equality overlooks the signs of floating zeros, and nothing else.
-/

namespace ClusterQuery

/-- Records of one kind whose documents hold finite numbers only. -/
structure Record.OfKind (kind : RecordKind) (records : List Record) : Prop where
  kind_eq : ∀ record ∈ records, record.kind = kind
  finite : ∀ record ∈ records, record.document.isFinite = true

namespace Record.OfKind

variable {kind : RecordKind} {records : List Record}

section Members

variable (uniform : OfKind kind records)
variable {left right : Record} (leftMember : left ∈ records) (rightMember : right ∈ records)

include uniform leftMember rightMember

theorem eq_of_text (sameText : left.text = right.text) : left = right := by
  apply Record.eq_of_text _ (uniform.finite left leftMember) (uniform.finite right rightMember)
    sameText
  rw [uniform.kind_eq left leftMember, uniform.kind_eq right rightMember]

theorem same_iff_unsignZeros :
    left.same right = true ↔ left.document.unsignZeros = right.document.unsignZeros := by
  rw [Record.same_iff, uniform.kind_eq left leftMember, uniform.kind_eq right rightMember,
    Json.same_iff _ _ (uniform.finite left leftMember) (uniform.finite right rightMember)]
  exact and_iff_right rfl

end Members

theorem nil : OfKind kind [] := ⟨List.forall_mem_nil _, List.forall_mem_nil _⟩

theorem cons {record : Record} (ofKind : record.kind = kind)
    (finite : record.document.isFinite = true) (uniform : OfKind kind records) :
    OfKind kind (record :: records) :=
  ⟨List.forall_mem_cons.mpr ⟨ofKind, uniform.kind_eq⟩,
    List.forall_mem_cons.mpr ⟨finite, uniform.finite⟩⟩

theorem of_mapM_decode {items : List Json} (finite : Json.itemsFinite items = true)
    (decoded : items.mapM (decode kind) = .ok records) : OfKind kind records := by
  rw [mapM_eq_ok_iff] at decoded
  induction decoded with
  | nil => exact nil
  | cons first _ ih =>
      rw [Json.itemsFinite, Bool.and_eq_true] at finite
      obtain ⟨ofKind, rfl⟩ := Record.of_decode_eq_ok first
      exact cons ofKind finite.1 (ih finite.2)

/-- Decoding a body makes records of the kind that it is decoded for. -/
theorem of_decodeBatch {body : Json} (finite : body.isFinite = true)
    (decoded : decodeBatch kind body = .ok records) : OfKind kind records := by
  cases body with
  | array items => exact of_mapM_decode finite decoded
  | object entries =>
      simp only [decodeBatch] at decoded
      cases one : decode kind (.object entries) with
      | error fault =>
          rw [one] at decoded
          cases decoded
      | ok record =>
          rw [one] at decoded
          cases decoded
          obtain ⟨ofKind, isDocument⟩ := Record.of_decode_eq_ok one
          exact cons ofKind (isDocument ▸ finite) nil
  | _ => cases decoded

/-- What a peer's response comes to, if it can be used, are records of the kind that was asked
for. -/
theorem of_outcomeOf {response : HttpResponse}
    (usable : PeerClient.outcomeOf kind response = .ok records) : OfKind kind records := by
  rw [PeerClient.outcomeOf] at usable
  split at usable
  next =>
    split at usable
    next body read =>
      obtain ⟨text, -, isBody⟩ := Option.bind_eq_some_iff.mp read
      rw [FetchOutcome.ofBody] at usable
      split at usable
      next decoded =>
        cases usable
        exact of_decodeBatch (Json.isFinite_of_read? isBody) decoded
      next => cases usable
    next => cases usable
  next => cases usable

end Record.OfKind

end ClusterQuery
