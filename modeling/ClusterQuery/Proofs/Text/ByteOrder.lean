import ClusterQuery.Proofs.Text.Utf8
import Mathlib.Data.String.Basic

/-!
# The order of texts is the order of their bytes

Of two characters, the one with the smaller code is spelled by smaller bytes: the first byte in
which they differ is smaller, and it is the lead byte where one takes fewer bytes than the other. So
texts are in the order of their characters' codes just if their bytes are in order.
-/

namespace ClusterQuery.Text

/-- The bytes of a smaller character come first, whatever follows. -/
theorem utf8EncodeChar_append_lt {smaller larger : Char} (less : smaller < larger)
    (left right : List UInt8) :
    String.utf8EncodeChar smaller ++ left < String.utf8EncodeChar larger ++ right := by
  have codes : smaller.val.toNat < larger.val.toNat := less
  have spellsSmaller := spells_utf8EncodeChar smaller
  have spellsLarger := spells_utf8EncodeChar larger
  generalize String.utf8EncodeChar smaller = smallerBytes at *
  generalize String.utf8EncodeChar larger = largerBytes at *
  -- Of different sizes, the lead bytes differ; of one size, the codes' first digits to base 64.
  cases spellsSmaller <;> cases spellsLarger <;>
    simp only [List.cons_append, List.nil_append, List.cons_lt_cons_iff, UInt8.lt_iff_toNat_lt,
      ← UInt8.toNat_inj] <;> omega

theorem flatMap_utf8EncodeChar_lt {left right : List Char} (less : left < right) :
    left.flatMap String.utf8EncodeChar < right.flatMap String.utf8EncodeChar := by
  induction less with
  | @nil c rest =>
      rw [List.flatMap_nil, List.flatMap_cons]
      obtain ⟨first, others, encoded, -, -⟩ := exists_utf8EncodeChar_eq c
      rw [encoded]
      exact List.nil_lt_cons ..
  | rel less =>
      rw [List.flatMap_cons, List.flatMap_cons]
      exact utf8EncodeChar_append_lt less _ _
  | cons _ ih =>
      rw [List.flatMap_cons, List.flatMap_cons]
      exact List.append_left_lt ih

/-- Texts are in the order of their characters' codes just if their bytes are in order. -/
theorem bytes_lt_iff {left right : String} : bytes left < bytes right ↔ left < right := by
  have ordered {one other : String} (less : one < other) : bytes one < bytes other := by
    rw [bytes_eq_flatMap, bytes_eq_flatMap]
    exact flatMap_utf8EncodeChar_lt (String.lt_iff_toList_lt.mp less)
  refine ⟨fun less => ?_, ordered⟩
  rcases lt_trichotomy left right with before | rfl | after
  · exact before
  · exact absurd less (List.lt_irrefl _)
  · exact absurd less (List.lt_asymm (ordered after))

end ClusterQuery.Text
