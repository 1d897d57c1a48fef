import ClusterQuery.Proofs.Text.Numeral
import ClusterQuery.Proofs.Time.Calendar
import ClusterQuery.Time.Instant

/-!
# Instants through their text

The text of an instant is read back as that instant if its year has four digits. Other years are
written with a sign, which nothing reads.
-/

namespace ClusterQuery.Time.Instant

open Text

/-! ## Pieces of a text -/

@[simp] theorem expect_cons (c : Char) (rest : List Char) : expect c (c :: rest) = some rest := by
  simp [expect]

theorem readFixed_decimalPadded {width value : Nat} (positive : 0 < width)
    (fits : value < 10 ^ width) (rest : List Char) :
    readFixed width (decimalPadded width value ++ rest) = some (value, rest) := by
  have length := length_decimalPadded positive fits
  have digits : (decimalPadded width value).all isDigit = true := by
    rw [List.all_eq_true]
    exact fun _ member => isDigit_of_mem_decimalPadded member
  simp only [readFixed]
  rw [List.take_left' length, List.drop_left' length, if_pos ⟨length, digits⟩,
    digitsValue_decimalPadded]

theorem readFixed_eq_none {width : Nat} {first : Char} (notDigit : isDigit first = false)
    (rest : List Char) : readFixed (width + 1) (first :: rest) = none := by
  simp only [readFixed, List.take_succ_cons, List.all_cons, notDigit]
  exact if_neg nofun

theorem readFixed_two {value : Nat} (fits : value < 100) (rest : List Char) :
    readFixed 2 (decimalPadded 2 value ++ rest) = some (value, rest) :=
  readFixed_decimalPadded (by decide) fits rest

theorem readDate_chars {date : Date} {year : Nat} (isYear : date.year = year)
    (fourDigits : year < 10000) (real : date.isReal = true) (rest : List Char) :
    readDate (decimalPadded 4 year ++ '-' :: (decimalPadded 2 date.month ++
      '-' :: (decimalPadded 2 date.day ++ rest))) = some (date, rest) := by
  obtain ⟨_, month, day⟩ := date
  obtain ⟨monthBound, dayBound⟩ : month ≤ 12 ∧ day ≤ 31 := Date.bounds_of_isReal real
  subst isYear
  have readYear := readFixed_decimalPadded (by decide : 0 < 4) fourDigits
  simp only [readDate, Option.bind_eq_bind, Option.bind_some, expect_cons, readYear,
    readFixed_two (show month < 100 by omega), readFixed_two (show day < 100 by omega)]
  rw [if_pos real]
  rfl

theorem spanDigits_decimalPadded (width value : Nat) {next : Char} (notDigit : isDigit next = false)
    (rest : List Char) :
    spanDigits (decimalPadded width value ++ next :: rest) =
      (decimalPadded width value, next :: rest) := by
  apply spanDigits_append fun _ member => isDigit_of_mem_decimalPadded member
  simp [notDigit]

/-- A year has a sign unless it has four digits. -/
theorem yearChars_cases (year : Int) :
    yearChars year = decimalPadded 4 year.natAbs ∨
      ∃ sign, (sign = '-' ∨ sign = '+') ∧ yearChars year = sign :: decimalPadded 4 year.natAbs := by
  unfold yearChars
  split
  next => exact .inr ⟨'-', .inl rfl, rfl⟩
  next =>
    split
    next => exact .inr ⟨'+', .inr rfl, rfl⟩
    next => exact .inl rfl

theorem fractionChars_cases (nanos : Nat) :
    fractionChars nanos = [] ∨
      ∃ width value, fractionChars nanos = '.' :: decimalPadded width value := by
  unfold fractionChars
  split
  next => exact .inl rfl
  next =>
    refine .inr ?_
    split
    next => exact ⟨_, _, rfl⟩
    next =>
      split
      next => exact ⟨_, _, rfl⟩
      next => exact ⟨_, _, rfl⟩

/-- A fraction of up to nine digits is read as that many parts of a second. -/
theorem readFraction_decimalPadded {width value nanos : Nat} (positive : 0 < width)
    (short : width ≤ 9) (fits : value < 10 ^ width) (whole : value * 10 ^ (9 - width) = nanos)
    {next : Char} (notDigit : isDigit next = false) (rest : List Char) :
    readFraction ('.' :: (decimalPadded width value ++ next :: rest)) =
      some (nanos, next :: rest) := by
  have length := length_decimalPadded positive fits
  have some : (decimalPadded width value).isEmpty = false := by
    rw [List.isEmpty_eq_false_iff, ← List.length_pos_iff]
    omega
  simp only [readFraction, spanDigits_decimalPadded width value notDigit, some]
  rw [List.take_of_length_le (by omega), digitsValue_decimalPadded, length, ← whole]
  rfl

/-- The fraction of an instant's text is read back, whichever number of digits it has. -/
theorem readFraction_fractionChars {nanos : Nat} (fits : nanos < nanosPerSecond)
    (rest : List Char) :
    readFraction (fractionChars nanos ++ '+' :: rest) = some (nanos, '+' :: rest) := by
  rw [nanosPerSecond] at fits
  have plus : isDigit '+' = false := by decide
  unfold fractionChars
  split
  next none =>
    rw [none]
    rfl
  next =>
    split
    next millis =>
      exact readFraction_decimalPadded (by decide) (by decide) (by omega) (by omega) plus rest
    next =>
      split
      next micros =>
        exact readFraction_decimalPadded (by decide) (by decide) (by omega) (by omega) plus rest
      next =>
        exact readFraction_decimalPadded (by decide) (by decide) (by omega) (by omega) plus rest

/-- A time of day is read back; the second 60 stands for a leap second. -/
theorem readClock_chars {clock nanos : Nat} (inDay : clock < 86400)
    (fits : nanos < 2 * nanosPerSecond) (leap : nanosPerSecond ≤ nanos → clock % 60 = 59)
    (rest : List Char) :
    readClock (decimalPadded 2 (clock / 3600) ++ ':' :: (decimalPadded 2 (clock / 60 % 60) ++
      ':' :: (decimalPadded 2 (clock % 60 + nanos / nanosPerSecond) ++
        (fractionChars (nanos % nanosPerSecond) ++ '+' :: rest)))) =
      some (⟨clock, nanos⟩, '+' :: rest) := by
  have fraction := readFraction_fractionChars
    (show nanos % nanosPerSecond < nanosPerSecond from Nat.mod_lt _ (by decide)) rest
  rw [nanosPerSecond] at *
  simp only [readClock, Option.bind_eq_bind, Option.bind_some, expect_cons,
    readFixed_two (show clock / 3600 < 100 by omega),
    readFixed_two (show clock / 60 % 60 < 100 by omega),
    readFixed_two (show clock % 60 + nanos / 1000000000 < 100 by omega), fraction]
  rw [if_pos (by omega)]
  by_cases isLeap : 1000000000 ≤ nanos
  · have last := leap isLeap
    rw [if_pos (by omega), nanosPerSecond]
    have second : (clock / 3600 * 60 + clock / 60 % 60) * 60 + 59 = clock := by omega
    have whole : 1000000000 + nanos % 1000000000 = nanos := by omega
    rw [second, whole]
    rfl
  · rw [if_neg (by omega)]
    have second : (clock / 3600 * 60 + clock / 60 % 60) * 60 +
        (clock % 60 + nanos / 1000000000) = clock := by omega
    rw [second, Nat.mod_eq_of_lt (by omega)]
    rfl

/-! ## Whole instants -/

/-- What holds of every instant that is read: nanoseconds beyond a second belong to a leap second,
which ends a minute. -/
structure Proper (instant : Instant) : Prop where
  nanos_lt : instant.nanos < 2 * nanosPerSecond
  leap : nanosPerSecond ≤ instant.nanos → instant.seconds % 60 = 59

theorem Proper.of_nanos_lt {seconds : Int} {nanos : Nat} (small : nanos < nanosPerSecond) :
    Proper ⟨seconds, nanos⟩ :=
  ⟨Nat.lt_of_lt_of_le small (by decide), fun leap => absurd leap (Nat.not_le_of_lt small)⟩

/-- The year in which an instant falls. -/
def year (instant : Instant) : Int := (Date.ofDays (instant.seconds / secondsPerDay)).year

/-- Whether the year of an instant has four digits. -/
def hasPlainYear (instant : Instant) : Bool := 0 ≤ instant.year && instant.year ≤ 9999

theorem hasPlainYear_iff {instant : Instant} :
    instant.hasPlainYear = true ↔ 0 ≤ instant.year ∧ instant.year ≤ 9999 := by
  simp [hasPlainYear]

/-- The text of an instant with a plain year is read back. -/
theorem ofRfc3339?_chars {instant : Instant} (proper : instant.Proper)
    (plain : instant.hasPlainYear = true) : ofRfc3339? instant.chars = some instant := by
  obtain ⟨seconds, nanos⟩ := instant
  obtain ⟨nanosBound, leap⟩ := proper
  obtain ⟨yearStart, yearFinish⟩ := hasPlainYear_iff.mp plain
  simp only [year, secondsPerDay] at yearStart yearFinish nanosBound leap
  obtain ⟨year, isYear⟩ := Int.eq_ofNat_of_zero_le yearStart
  obtain ⟨clock, isClock⟩ : ∃ clock : Nat, seconds % 86400 = clock :=
    Int.eq_ofNat_of_zero_le (Int.emod_nonneg _ (by decide))
  have yearText : yearChars (Date.ofDays (seconds / 86400)).year = decimalPadded 4 year := by
    rw [isYear, yearChars, if_neg (by omega), if_neg (by omega), Int.natAbs_natCast]
  have offset : readOffset ['+', '0', '0', ':', '0', '0'] = some 0 := by decide
  simp only [chars, secondsPerDay, isClock, Int.toNat_natCast, yearText, ofRfc3339?,
    readDate_chars isYear (by omega) (Date.isReal_ofDays _), Option.bind_eq_bind, Option.bind_some,
    true_or, if_true, readClock_chars (show clock < 86400 by omega) nanosBound (by omega), offset,
    Date.toDays_ofDays]
  have whole : seconds / 86400 * 86400 + clock - 0 = seconds := by omega
  rw [whole]
  rfl

/-- A year with a sign is not read. -/
theorem ofRfc3339?_chars_eq_none {instant : Instant} (notPlain : instant.hasPlainYear = false) :
    ofRfc3339? instant.chars = none := by
  have signed : ∃ sign digits, yearChars instant.year = sign :: digits ∧ isDigit sign = false := by
    rw [← Bool.not_eq_true, hasPlainYear_iff] at notPlain
    by_cases negative : instant.year < 0
    · exact ⟨'-', _, if_pos negative, by decide⟩
    · refine ⟨'+', decimalPadded 4 instant.year.natAbs, ?_, by decide⟩
      rw [yearChars, if_neg negative, if_pos (by omega)]
  obtain ⟨sign, digits, equal, notDigit⟩ := signed
  rw [year] at equal
  simp only [chars, equal, List.cons_append, ofRfc3339?, readDate, readFixed_eq_none notDigit]
  rfl

/-- The text of an instant is no number. -/
theorem readInt64_chars (instant : Instant) : readInt64 instant.chars = none := by
  have dash : isDigit '-' = false := by decide
  have some (year : Int) : ∃ first rest, yearChars year = first :: rest := by
    rcases yearChars_cases year with plain | ⟨sign, _, signed⟩
    · rw [plain]
      exact List.exists_cons_of_ne_nil (decimalPadded_ne_nil 4 year.natAbs)
    · exact ⟨sign, _, signed⟩
  obtain ⟨first, rest, equal⟩ := some (Date.ofDays (instant.seconds / secondsPerDay)).year
  simp only [chars, equal, List.cons_append]
  exact readInt64_eq_none (List.mem_append_right _ List.mem_cons_self) dash

theorem read?_chars {instant : Instant} (proper : instant.Proper) :
    read? instant.chars = if instant.hasPlainYear then some instant else none := by
  rw [read?, readInt64_chars]
  cases plain : instant.hasPlainYear with
  | true => exact ofRfc3339?_chars proper plain
  | false => exact ofRfc3339?_chars_eq_none plain

/-! ## Instants that are read -/

theorem proper_of_ofMillis? {millis : Int} {instant : Instant}
    (success : ofMillis? millis = some instant) : instant.Proper := by
  rw [ofMillis?] at success
  split at success
  next =>
    cases success
    have nanosBound : (millis % 1000).toNat * 1000000 < nanosPerSecond := by
      rw [nanosPerSecond]
      omega
    exact .of_nanos_lt nanosBound
  next => cases success

theorem lt_of_readFraction {text rest : List Char} {nanos : Nat}
    (success : readFraction text = some (nanos, rest)) : nanos < nanosPerSecond := by
  unfold readFraction at success
  split at success
  next digits =>
    rcases span : spanDigits digits with ⟨run, after⟩
    rw [span] at success
    dsimp only at success
    split at success
    next => cases success
    next =>
      cases success
      generalize kept : run.take 9 = leading
      have short : leading.length ≤ 9 := kept ▸ List.length_take_le _ _
      have all : ∀ c ∈ leading, isDigit c = true := by
        intro c member
        have inRun : c ∈ (spanDigits digits).1 := span ▸ List.mem_of_mem_take (kept ▸ member)
        exact isDigit_of_mem_spanDigits inRun
      calc digitsValue leading * 10 ^ (9 - leading.length)
          < 10 ^ leading.length * 10 ^ (9 - leading.length) :=
            Nat.mul_lt_mul_of_pos_right (digitsValue_lt all) (Nat.pow_pos (by decide))
        _ = nanosPerSecond := by rw [← Nat.pow_add, Nat.add_sub_cancel' short, nanosPerSecond]
  next =>
    cases success
    decide

theorem proper_of_readClock {text rest : List Char} {second nanos : Nat}
    (success : readClock text = some (⟨second, nanos⟩, rest)) :
    nanos < 2 * nanosPerSecond ∧ (nanosPerSecond ≤ nanos → second % 60 = 59) := by
  simp only [readClock, Option.bind_eq_bind, Option.bind_eq_some_iff] at success
  obtain ⟨⟨hour, _⟩, _, _, _, ⟨minute, _⟩, _, _, _, ⟨second, _⟩, _, ⟨part, _⟩, fraction, success⟩ :=
    success
  have nanosBound := lt_of_readFraction fraction
  split at success
  next =>
    split at success
    next =>
      cases success
      exact ⟨by omega, fun _ => by omega⟩
    next =>
      cases success
      exact ⟨by omega, fun leap => absurd leap (Nat.not_le_of_lt nanosBound)⟩
  next => cases success

/-- An offset is a whole number of minutes. -/
theorem dvd_of_readOffset {text : List Char} {offset : Int}
    (success : readOffset text = some offset) : 60 ∣ offset := by
  unfold readOffset at success
  split at success
  next =>
    cases success
    decide
  next =>
    cases success
    decide
  next =>
    simp only [Option.bind_eq_bind, Option.bind_eq_some_iff] at success
    obtain ⟨⟨hours, _⟩, _, _, _, ⟨minutes, _⟩, _, success⟩ := success
    split at success
    next =>
      split at success
      next =>
        cases success
        omega
      next =>
        split at success
        next =>
          cases success
          omega
        next => cases success
    next => cases success
  next => cases success

theorem proper_of_ofRfc3339? {text : List Char} {instant : Instant}
    (success : ofRfc3339? text = some instant) : instant.Proper := by
  simp only [ofRfc3339?, Option.bind_eq_bind, Option.bind_eq_some_iff] at success
  obtain ⟨⟨date, rest⟩, _, success⟩ := success
  split at success
  next =>
    split at success
    next =>
      simp only [Option.bind_eq_some_iff] at success
      obtain ⟨⟨⟨second, nanos⟩, _⟩, clockRead, offset, offsetRead, success⟩ := success
      cases success
      obtain ⟨nanosBound, leap⟩ := proper_of_readClock clockRead
      have minutes := dvd_of_readOffset offsetRead
      refine ⟨nanosBound, fun isLeap => ?_⟩
      have last := leap isLeap
      simp only [secondsPerDay]
      omega
    next => cases success
  next => cases success

/-- Every instant that is read is proper. -/
theorem proper_of_read? {text : List Char} {instant : Instant}
    (success : read? text = some instant) : instant.Proper := by
  rw [read?] at success
  split at success
  next => exact proper_of_ofMillis? success
  next => exact proper_of_ofRfc3339? success

end ClusterQuery.Time.Instant
