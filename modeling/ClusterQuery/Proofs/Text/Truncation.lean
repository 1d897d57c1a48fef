import ClusterQuery.Text.Truncation
import Mathlib.Data.List.Basic

/-!
# Texts cut to a number of bytes

A boundary in the bytes of a text is the size of some of its first characters. So the walk back from
a limit comes to the size of the longest start that keeps to the limit, and it does so within three
steps, as no character has more than four bytes.
-/

namespace ClusterQuery.Text

/-- The number of bytes that some characters take. -/
def byteCount : List Char → Nat
  | [] => 0
  | c :: rest => c.utf8Size + byteCount rest

@[simp] theorem byteCount_cons (c : Char) (rest : List Char) :
    byteCount (c :: rest) = c.utf8Size + byteCount rest := rfl

@[simp] theorem byteCount_append (front back : List Char) :
    byteCount (front ++ back) = byteCount front + byteCount back := by
  induction front with
  | nil => rw [List.nil_append, byteCount, Nat.zero_add]
  | cons c front ih => rw [List.cons_append, byteCount_cons, byteCount_cons, ih, Nat.add_assoc]

theorem byteCount_replicate (count : Nat) (c : Char) :
    byteCount (List.replicate count c) = count * c.utf8Size := by
  induction count with
  | zero => rw [List.replicate_zero, byteCount, Nat.zero_mul]
  | succ count ih => rw [List.replicate_succ, byteCount_cons, ih, Nat.succ_mul, Nat.add_comm]

theorem length_bytes (text : String) : (bytes text).length = byteCount text.toList := by
  rw [bytes_eq_flatMap]
  induction text.toList with
  | nil => rfl
  | cons c rest ih =>
      rw [List.flatMap_cons, List.length_append, String.length_utf8EncodeChar, ih, byteCount_cons]

theorem utf8ByteSize_eq (text : String) : text.utf8ByteSize = byteCount text.toList :=
  length_bytes text

/-- Of two starts of a text, one with at most as many bytes is a start of the other. -/
theorem prefix_of_byteCount_le {one other chars : List Char} (oneStart : one <+: chars)
    (otherStart : other <+: chars) (smaller : byteCount one ≤ byteCount other) :
    one <+: other := by
  rcases List.prefix_or_prefix_of_prefix oneStart otherStart with isStart | isStart
  · exact isStart
  · obtain ⟨more, rfl⟩ := isStart
    cases more with
    | nil => simp
    | cons c more =>
        have positive := c.utf8Size_pos
        rw [byteCount_append, byteCount_cons] at smaller
        omega

/-! ## Boundaries are sizes of starts -/

theorem of_charsBefore?_eq_some {offset : Nat} {chars start : List Char}
    (found : charsBefore? offset chars = some start) :
    start <+: chars ∧ byteCount start = offset := by
  fun_induction charsBefore? offset chars generalizing start with
  | case1 chars =>
      cases found
      exact ⟨List.nil_prefix, rfl⟩
  | case2 offset => cases found
  | case3 offset c rest fits ih =>
      obtain ⟨others, foundOthers, rfl⟩ := Option.map_eq_some_iff.mp found
      obtain ⟨isStart, size⟩ := ih foundOthers
      refine ⟨List.cons_prefix_cons.mpr ⟨rfl, isStart⟩, ?_⟩
      rw [byteCount_cons, size]
      exact Nat.add_sub_cancel' fits
  | case4 offset c rest large => cases found

theorem charsBefore?_byteCount (start rest : List Char) :
    charsBefore? (byteCount start) (start ++ rest) = some start := by
  induction start with
  | nil => rw [byteCount, charsBefore?]
  | cons c start ih =>
      have positive := c.utf8Size_pos
      obtain ⟨others, size⟩ : ∃ others, byteCount (c :: start) = others + 1 :=
        Nat.exists_eq_add_one_of_ne_zero (by rw [byteCount_cons]; omega)
      have fits : c.utf8Size ≤ others + 1 := by rw [← size, byteCount_cons]; omega
      have left : others + 1 - c.utf8Size = byteCount start := by
        rw [← size, byteCount_cons]; omega
      rw [size, List.cons_append, charsBefore?, if_pos fits, left, ih]
      rfl

/-- A boundary in the bytes of a text is the size of some of its first characters. -/
theorem isBoundary_bytes_iff {text : String} {offset : Nat} :
    isBoundary (bytes text) offset = true ↔
      ∃ start, start <+: text.toList ∧ byteCount start = offset := by
  rw [bytes_eq_flatMap, ← isSome_charsBefore?, Option.isSome_iff_exists]
  constructor
  · rintro ⟨start, found⟩
    exact ⟨start, of_charsBefore?_eq_some found⟩
  · rintro ⟨start, ⟨rest, split⟩, rfl⟩
    exact ⟨start, split ▸ charsBefore?_byteCount start rest⟩

/-! ## The longest start within a limit -/

/-- One text is the start of another, in whole characters, that takes the most bytes within a
limit. -/
structure IsLongestStart (limit : Nat) (text start : String) : Prop where
  isStart : start.toList <+: text.toList
  fits : start.utf8ByteSize ≤ limit
  /-- Every start within the limit is a start of this one. -/
  longest : ∀ other : String, other.toList <+: text.toList → other.utf8ByteSize ≤ limit →
    other.toList <+: start.toList

theorem isLongestStart_self {limit : Nat} {text : String} (fits : text.utf8ByteSize ≤ limit) :
    IsLongestStart limit text text where
  isStart := List.prefix_refl _
  fits := fits
  longest _ isStart _ := isStart

/-- There is one longest start only. -/
theorem IsLongestStart.unique {limit : Nat} {text one other : String}
    (oneLongest : IsLongestStart limit text one) (otherLongest : IsLongestStart limit text other) :
    one = other := by
  have oneInOther := otherLongest.longest one oneLongest.isStart oneLongest.fits
  have otherInOne := oneLongest.longest other otherLongest.isStart otherLongest.fits
  exact String.toList_injective
    (oneInOther.eq_of_length (Nat.le_antisymm oneInOther.length_le otherInOne.length_le))

/-- A start within the limit is the longest one if its next character goes beyond the limit. -/
theorem isLongestStart_of_next {limit : Nat} {text start : String} {next : Char} {rest : List Char}
    (split : text.toList = start.toList ++ next :: rest) (fits : start.utf8ByteSize ≤ limit)
    (beyond : limit < start.utf8ByteSize + next.utf8Size) : IsLongestStart limit text start where
  isStart := ⟨next :: rest, split.symm⟩
  fits := fits
  longest := by
    intro other otherStart otherFits
    rw [utf8ByteSize_eq] at beyond otherFits
    have withNext : start.toList ++ [next] <+: text.toList := ⟨rest, by simp [split]⟩
    have withNextSize : byteCount (start.toList ++ [next]) =
        byteCount start.toList + next.utf8Size := by
      simp [byteCount]
    have inWithNext : other.toList <+: start.toList ++ [next] :=
      prefix_of_byteCount_le otherStart withNext (by omega)
    rcases List.prefix_concat_iff.mp inWithNext with equal | inStart
    · rw [equal] at otherFits
      omega
    · exact inStart

/-- The walk back ends at the size of a start that no other start within the limit exceeds. -/
theorem exists_walkBack?_bytes (limit : Nat) (text : String) :
    ∃ start, start <+: text.toList ∧ walkBack? (bytes text) limit = some (byteCount start) ∧
      byteCount start ≤ limit ∧
      ∀ other, other <+: text.toList → byteCount other ≤ limit →
        byteCount other ≤ byteCount start := by
  obtain ⟨stop, reached, within, boundary, last⟩ := exists_walkBack?_eq (bytes text) limit
  obtain ⟨start, isStart, rfl⟩ := isBoundary_bytes_iff.mp boundary
  refine ⟨start, isStart, reached, within, fun other otherStart fits => ?_⟩
  apply Nat.le_of_not_lt
  intro larger
  have noBoundary := last _ larger fits
  rw [isBoundary_bytes_iff.mpr ⟨other, otherStart, rfl⟩] at noBoundary
  cases noBoundary

/-- Where a text goes on behind such a start, its next character goes beyond the limit. -/
theorem lt_byteCount_add_four {limit : Nat} {start chars : List Char} (isStart : start <+: chars)
    (largest : ∀ other, other <+: chars → byteCount other ≤ limit →
      byteCount other ≤ byteCount start)
    (large : limit < byteCount chars) : limit < byteCount start + 4 := by
  obtain ⟨rest, rfl⟩ := isStart
  cases rest with
  | nil =>
      rw [List.append_nil] at large
      exact Nat.lt_add_right 4 large
  | cons c rest =>
      have nextStart : start ++ [c] <+: start ++ c :: rest := ⟨rest, by simp⟩
      have nextSize : byteCount (start ++ [c]) = byteCount start + c.utf8Size := by
        simp [byteCount]
      have beyond : limit < byteCount start + c.utf8Size := by
        apply Nat.lt_of_not_le
        intro inside
        have notLarger := largest _ nextStart (nextSize ▸ inside)
        have positive := c.utf8Size_pos
        omega
      exact Nat.lt_of_lt_of_le beyond (Nat.add_le_add_left c.utf8Size_le_four _)

/-- The walk back from a limit inside a text ends at the size of the longest start within the limit,
after at most three steps. -/
theorem walkBack?_bytes {limit : Nat} {text : String} (large : limit < text.utf8ByteSize) :
    ∃ start, walkBack? (bytes text) limit = some start.utf8ByteSize ∧
      limit < start.utf8ByteSize + 4 ∧
      charsBefore? start.utf8ByteSize text.toList = some start.toList ∧
      IsLongestStart limit text start := by
  obtain ⟨start, isStart, reached, within, largest⟩ := exists_walkBack?_bytes limit text
  have asText : (String.ofList start).toList = start := String.toList_ofList
  have size : (String.ofList start).utf8ByteSize = byteCount start := by
    rw [utf8ByteSize_eq, asText]
  rw [utf8ByteSize_eq] at large
  refine ⟨String.ofList start, ?_, ?_, ?_, ?_⟩
  · rw [size, reached]
  · rw [size]
    exact lt_byteCount_add_four isStart largest large
  · obtain ⟨rest, split⟩ := isStart
    rw [size, asText, ← split, charsBefore?_byteCount]
  · refine ⟨asText.symm ▸ isStart, size ▸ within, fun other otherStart fits => ?_⟩
    rw [utf8ByteSize_eq] at fits
    rw [asText]
    exact prefix_of_byteCount_le otherStart isStart (largest _ otherStart fits)

theorem truncate?_of_walkBack? {limit : Nat} {text start : String}
    (large : limit < text.utf8ByteSize)
    (reached : walkBack? (bytes text) limit = some start.utf8ByteSize)
    (found : charsBefore? start.utf8ByteSize text.toList = some start.toList) :
    truncate? limit text = some start := by
  have cut : ¬(bytes text).length ≤ limit := Nat.not_le_of_lt large
  rw [truncate?, if_neg cut, reached]
  simp [found]

/-- What cutting a text to a limit of bytes comes to. -/
structure CutSafely (limit : Nat) (text : String) (result : Option String) : Prop where
  /-- There is a result, and it is the longest start within the limit. -/
  exists_longest : ∃ start, result = some start ∧ IsLongestStart limit text start
  /-- A text within the limit is not cut. -/
  whole : text.utf8ByteSize ≤ limit → result = some text
  /-- Otherwise the walk back from the limit, without going below zero, comes within three steps to
  the size of the result. -/
  walk : limit < text.utf8ByteSize → ∃ start, result = some start ∧
    walkBack? (bytes text) limit = some start.utf8ByteSize ∧
    start.utf8ByteSize ≤ limit ∧ limit < start.utf8ByteSize + 4

theorem truncate?_eq_longest (limit : Nat) (text : String) :
    ∃ start, truncate? limit text = some start ∧ IsLongestStart limit text start := by
  by_cases fits : text.utf8ByteSize ≤ limit
  · exact ⟨text, if_pos fits, isLongestStart_self fits⟩
  · have large := Nat.lt_of_not_le fits
    obtain ⟨start, reached, -, found, longest⟩ := walkBack?_bytes large
    exact ⟨start, truncate?_of_walkBack? large reached found, longest⟩

theorem cutSafely_truncate? (limit : Nat) (text : String) :
    CutSafely limit text (truncate? limit text) where
  exists_longest := truncate?_eq_longest limit text
  whole := fun fits => if_pos fits
  walk := by
    intro large
    obtain ⟨start, reached, near, found, longest⟩ := walkBack?_bytes large
    exact ⟨start, truncate?_of_walkBack? large reached found, reached, longest.fits, near⟩

end ClusterQuery.Text
