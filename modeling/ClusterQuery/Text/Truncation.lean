import ClusterQuery.Text.Utf8

/-!
# Cutting a text to a number of bytes

A text that takes more bytes than allowed is cut where a character begins. The place is found from
the allowed number of bytes, by walking back over the bytes that go on with a character. The walk
ends at the start of the text if not before, and a text can be cut wherever it ends.
-/

namespace ClusterQuery.Text

/-- Whether a byte goes on with a character that began before it. -/
def isContinuation (byte : UInt8) : Bool := 0x80 ≤ byte.toNat && byte.toNat < 0xC0

/-- Whether a character begins at an offset into some bytes. Their start and their end count too. -/
def isBoundary (bytes : List UInt8) (offset : Nat) : Bool :=
  offset == 0 ||
    match bytes[offset]? with
    | some byte => !isContinuation byte
    | none => offset == bytes.length

/-- The boundary that a walk back from an offset comes to; none if it went below zero. -/
def walkBack? (bytes : List UInt8) (offset : Nat) : Option Nat :=
  if isBoundary bytes offset then some offset
  else
    match offset with
    | 0 => none
    | before + 1 => walkBack? bytes before

/-- The characters in front of an offset; none if it is inside a character or behind them all. -/
def charsBefore? (offset : Nat) (chars : List Char) : Option (List Char) :=
  match offset, chars with
  | 0, _ => some []
  | _ + 1, [] => none
  | offset + 1, c :: rest =>
      if c.utf8Size ≤ offset + 1 then
        (charsBefore? (offset + 1 - c.utf8Size) rest).map (c :: ·)
      else none

/-- A string cut to at most `limit` bytes; none if there were no place to cut it. -/
def truncate? (limit : Nat) (text : String) : Option String :=
  if (bytes text).length ≤ limit then some text
  else do
    let offset ← walkBack? (bytes text) limit
    let start ← charsBefore? offset text.toList
    return String.ofList start

/-! ## There is always a place to cut -/

theorem bytes_eq_flatMap (text : String) :
    bytes text = text.toList.flatMap String.utf8EncodeChar := by
  rw [bytes, String.toUTF8_eq_toByteArray, ← String.ofList_toList (s := text),
    String.toByteArray_ofList, String.toList_ofList, List.utf8Encode]
  exact List.toList_data_toByteArray

/-- Only the first byte of a character does not go on with it. -/
theorem exists_utf8EncodeChar_eq (c : Char) :
    ∃ first others, String.utf8EncodeChar c = first :: others ∧
      isContinuation first = false ∧ ∀ other ∈ others, isContinuation other = true := by
  have follows (code : Nat) : isContinuation (UInt8.ofNat (code % 64 + 128)) = true := by
    simp only [isContinuation, UInt8.toNat_ofNat', Bool.and_eq_true, decide_eq_true_eq]
    omega
  have leads {code : Nat} (outside : code % 256 < 0x80 ∨ 0xC0 ≤ code % 256) :
      isContinuation (UInt8.ofNat code) = false := by
    simp only [isContinuation, UInt8.toNat_ofNat', Bool.and_eq_false_iff, decide_eq_false_iff_not]
    omega
  simp only [String.utf8EncodeChar]
  split
  next => exact ⟨_, _, rfl, leads (by omega), nofun⟩
  split
  next => exact ⟨_, _, rfl, leads (by omega), List.forall_mem_singleton.mpr (follows _)⟩
  split
  next =>
    exact ⟨_, _, rfl, leads (by omega),
      List.forall_mem_cons.mpr ⟨follows _, List.forall_mem_singleton.mpr (follows _)⟩⟩
  next =>
    exact ⟨_, _, rfl, leads (by omega), List.forall_mem_cons.mpr ⟨follows _,
      List.forall_mem_cons.mpr ⟨follows _, List.forall_mem_singleton.mpr (follows _)⟩⟩⟩

/-- The first byte of a text does not go on with a character. -/
theorem isContinuation_of_head? {chars : List Char} {byte : UInt8}
    (head : (chars.flatMap String.utf8EncodeChar)[0]? = some byte) :
    isContinuation byte = false := by
  cases chars with
  | nil => cases head
  | cons c rest =>
      obtain ⟨first, others, encoded, begins, -⟩ := exists_utf8EncodeChar_eq c
      simp only [List.flatMap_cons, encoded, List.cons_append, List.getElem?_cons_zero,
        Option.some.injEq] at head
      exact head ▸ begins

/-- The boundaries in a text are its start and, behind its first character, those of the rest. -/
theorem isBoundary_cons (c : Char) (rest : List Char) (offset : Nat) :
    isBoundary (String.utf8EncodeChar c ++ rest.flatMap String.utf8EncodeChar) offset =
      (offset == 0 || decide (c.utf8Size ≤ offset) &&
        isBoundary (rest.flatMap String.utf8EncodeChar) (offset - c.utf8Size)) := by
  obtain ⟨first, others, encoded, -, goesOn⟩ := exists_utf8EncodeChar_eq c
  have size : others.length + 1 = c.utf8Size := by
    rw [← String.length_utf8EncodeChar c, encoded, List.length_cons]
  rw [encoded]
  cases offset with
  | zero => rfl
  | succ offset =>
      by_cases inside : offset < others.length
      · have byte : (others ++ rest.flatMap String.utf8EncodeChar)[offset]? = some others[offset] :=
          (List.getElem?_append_left inside).trans (List.getElem?_eq_getElem inside)
        have large : ¬c.utf8Size ≤ offset + 1 := by omega
        simp [isBoundary, byte, goesOn _ (List.getElem_mem inside), large]
      · have behind : others.length ≤ offset := Nat.le_of_not_lt inside
        have fits : c.utf8Size ≤ offset + 1 := by omega
        have left : offset + 1 - c.utf8Size = offset - others.length := by omega
        simp only [isBoundary, List.cons_append, List.getElem?_cons_succ,
          List.getElem?_append_right behind, left, fits, decide_true, Bool.true_and]
        cases found : (rest.flatMap String.utf8EncodeChar)[offset - others.length]? with
        | some byte =>
            cases begins : offset - others.length == 0 with
            | false => rfl
            | true =>
                rw [eq_of_beq begins] at found
                simp [isContinuation_of_head? found]
        | none =>
            have past := List.getElem?_eq_none_iff.mp found
            rw [Bool.eq_iff_iff]
            simp only [List.length_cons, List.length_append, Bool.or_eq_true, beq_iff_eq]
            omega

theorem isSome_charsBefore? (offset : Nat) (chars : List Char) :
    (charsBefore? offset chars).isSome =
      isBoundary (chars.flatMap String.utf8EncodeChar) offset := by
  fun_induction charsBefore? offset chars with
  | case1 => rfl
  | case2 offset => rfl
  | case3 offset c rest fits ih => simp [isBoundary_cons, fits, ih]
  | case4 offset c rest large => simp [isBoundary_cons, large]

/-- The walk comes to the last boundary that is not behind the offset it began at. -/
theorem exists_walkBack?_eq (bytes : List UInt8) (offset : Nat) :
    ∃ stop, walkBack? bytes offset = some stop ∧ stop ≤ offset ∧ isBoundary bytes stop = true ∧
      ∀ between, stop < between → between ≤ offset → isBoundary bytes between = false := by
  induction offset with
  | zero => exact ⟨0, rfl, Nat.le_refl 0, rfl, fun between after upTo => by omega⟩
  | succ offset ih =>
      cases here : isBoundary bytes (offset + 1) with
      | true =>
          refine ⟨offset + 1, ?_, Nat.le_refl _, here, fun between after upTo => by omega⟩
          rw [walkBack?, if_pos here]
      | false =>
          obtain ⟨stop, reached, before, boundary, last⟩ := ih
          refine ⟨stop, ?_, Nat.le_succ_of_le before, boundary, ?_⟩
          · rw [walkBack?, if_neg (by simp [here])]
            exact reached
          · intro between after upTo
            rcases Nat.le_succ_iff.mp upTo with inside | equal
            · exact last between after inside
            · exact equal ▸ here

theorem isSome_truncate? (limit : Nat) (text : String) :
    (truncate? limit text).isSome = true := by
  obtain ⟨stop, reached, -, boundary, -⟩ := exists_walkBack?_eq (bytes text) limit
  rw [bytes_eq_flatMap, ← isSome_charsBefore?] at boundary
  obtain ⟨start, found⟩ := Option.isSome_iff_exists.mp boundary
  rw [truncate?]
  split
  next => rfl
  next => simp [reached, found]

/-- A string cut to at most `limit` bytes, without splitting a character. -/
def truncateBytes (limit : Nat) (text : String) : String :=
  (truncate? limit text).get (isSome_truncate? limit text)

end ClusterQuery.Text
