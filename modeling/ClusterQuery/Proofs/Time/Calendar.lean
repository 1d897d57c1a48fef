import ClusterQuery.Time.Calendar
import Mathlib.Data.Int.Basic
import Mathlib.Tactic.IntervalCases

/-!
# The calendar and its day count

Every day has a date, the date is real, and its distance from 1970 is the day again. An era is four
centuries of 36524 days and one day more; a century is twenty-five blocks of 1461 days but for the
last day; a block is four years of 365 days and one day more. The extra days end years that are
followed by a leap day's year, which is why a year here has a day 365 only before a leap year.
-/

namespace ClusterQuery.Time

/-! ## Years of an era -/

/-- Where a day of an era lies: century, block of four years, year and day of the year. -/
theorem exists_place_of_dayOfEra {dayOfEra : Int} (start : 0 ≤ dayOfEra)
    (finish : dayOfEra < daysPerEra) :
    ∃ century block year day : Int,
      dayOfEra = 36524 * century + 1461 * block + 365 * year + day ∧
      (0 ≤ century ∧ century ≤ 3) ∧ (0 ≤ block ∧ block ≤ 24) ∧ (0 ≤ year ∧ year ≤ 3) ∧
      (0 ≤ day ∧ day ≤ 365) ∧ (day = 365 → year = 3 ∧ (block = 24 → century = 3)) := by
  rw [daysPerEra] at finish
  obtain ⟨century, rest, split, centuryBounds, restBounds, lastCentury⟩ :
      ∃ century rest : Int, dayOfEra = 36524 * century + rest ∧ (0 ≤ century ∧ century ≤ 3) ∧
        (0 ≤ rest ∧ rest ≤ 36524) ∧ (rest = 36524 → century = 3) := by
    by_cases last : dayOfEra = 146096
    · exact ⟨3, 36524, by omega⟩
    · exact ⟨dayOfEra / 36524, dayOfEra % 36524, by omega⟩
  by_cases last : rest % 1461 = 1460
  · exact ⟨century, rest / 1461, 3, 365, by omega⟩
  · exact ⟨century, rest / 1461, rest % 1461 / 365, rest % 1461 % 365, by omega⟩

/-- The year of an era, computed from a day of it. -/
theorem yearOfEra_eq {century block year day dayOfEra : Int}
    (place : dayOfEra = 36524 * century + 1461 * block + 365 * year + day)
    (centuryBounds : 0 ≤ century ∧ century ≤ 3) (blockBounds : 0 ≤ block ∧ block ≤ 24)
    (yearBounds : 0 ≤ year ∧ year ≤ 3) (dayBounds : 0 ≤ day ∧ day ≤ 365)
    (leap : day = 365 → year = 3 ∧ (block = 24 → century = 3)) :
    (dayOfEra - dayOfEra / 1460 + dayOfEra / 36524 - dayOfEra / 146096) / 365 =
      100 * century + 4 * block + year := by
  have centuries : dayOfEra / 36524 - dayOfEra / 146096 = century := by
    by_cases last : dayOfEra = 146096
    · omega
    · have inside : dayOfEra - 36524 * century ≤ 36523 := by omega
      have whole : dayOfEra / 36524 = century := by omega
      omega
  have extra : dayOfEra / 1460 =
      25 * century + block + (24 * century + block + 365 * year + day) / 1460 := by omega
  have within : 0 ≤ day - (24 * century + block + 365 * year + day) / 1460 ∧
      day - (24 * century + block + 365 * year + day) / 1460 ≤ 364 := by
    by_cases full : day = 365 <;> omega
  omega

theorem isLeapYear_iff {year : Int} :
    isLeapYear year = true ↔ year % 4 = 0 ∧ (year % 100 ≠ 0 ∨ year % 400 = 0) := by
  simp [isLeapYear]

/-- The date of a day: a year counted from March and a day of that year, which make up the day. -/
theorem Date.exists_ofMarch_eq_ofDays (days : Int) :
    ∃ era year dayOfYear : Int,
      (0 ≤ year ∧ year < 400) ∧ (0 ≤ dayOfYear ∧ dayOfYear ≤ 365) ∧
      (dayOfYear = 365 → isLeapYear (year + era * 400 + 1) = true) ∧
      ofDays days = ofMarch (year + era * 400) dayOfYear ∧
      days + epochOffset =
        era * daysPerEra + (365 * year + year / 4 - year / 100 + dayOfYear) := by
  have start : 0 ≤ (days + epochOffset) % daysPerEra := Int.emod_nonneg _ (by decide)
  have finish : (days + epochOffset) % daysPerEra < daysPerEra := Int.emod_lt_of_pos _ (by decide)
  obtain ⟨century, block, year, day, place, centuryBounds, blockBounds, yearBounds, dayBounds,
    leap⟩ := exists_place_of_dayOfEra start finish
  have whole : (days + epochOffset) % daysPerEra =
      365 * (100 * century + 4 * block + year) + (100 * century + 4 * block + year) / 4 -
        (100 * century + 4 * block + year) / 100 + day := by omega
  refine ⟨(days + epochOffset) / daysPerEra, 100 * century + 4 * block + year, day, by omega,
    dayBounds, fun last => ?_, ?_, ?_⟩
  · obtain ⟨lastYear, lastBlock⟩ := leap last
    rw [isLeapYear_iff]
    by_cases finalBlock : block = 24
    · have finalCentury := lastBlock finalBlock
      omega
    · omega
  · simp only [ofDays]
    rw [yearOfEra_eq place centuryBounds blockBounds yearBounds dayBounds leap]
    congr 1
    omega
  · rw [← whole, Int.mul_comm]
    exact (Int.mul_ediv_add_emod _ _).symm

/-! ## Months of a year -/

/-- A day of a year counted from March is a day of one of its months. The last of them is never
left, however long it is. -/
theorem Date.exists_month_of_ofMarch {dayOfYear : Int} (start : 0 ≤ dayOfYear)
    (finish : dayOfYear ≤ 365) (year : Int) :
    ∃ month day : Nat, month ≤ 11 ∧ 1 ≤ day ∧
      dayOfYear + 1 = (153 * (month : Int) + 2) / 5 + day ∧
      dayOfYear < (153 * ((month : Int) + 1) + 2) / 5 ∧
      ofMarch year dayOfYear =
        if month < 10 then ⟨year, month + 3, day⟩ else ⟨year + 1, month - 9, day⟩ := by
  obtain ⟨month, monthEq⟩ : ∃ month : Nat, (5 * dayOfYear + 2) / 153 = month :=
    ⟨((5 * dayOfYear + 2) / 153).toNat, by omega⟩
  obtain ⟨day, dayEq⟩ : ∃ day : Nat, dayOfYear - (153 * (month : Int) + 2) / 5 + 1 = day :=
    ⟨(dayOfYear - (153 * (month : Int) + 2) / 5 + 1).toNat, by omega⟩
  refine ⟨month, day, by omega, by omega, by omega, by omega, ?_⟩
  simp only [ofMarch, monthEq, dayEq]
  by_cases early : month < 10
  · have inYear : (month : Int) < 10 := by omega
    have notJanuary : ¬(month : Int) + 3 ≤ 2 := by omega
    simp only [if_pos early, if_pos inYear, if_neg notJanuary]
    rfl
  · have nextYear : ¬(month : Int) < 10 := by omega
    have january : (month : Int) - 9 ≤ 2 := by omega
    have number : ((month : Int) - 9).toNat = month - 9 := by omega
    simp only [if_neg early, if_neg nextYear, if_pos january, number, Int.toNat_natCast]

/-- The days to a date that is given as a day of a year, both counted from March. -/
theorem Date.toDays_ofMarch {dayOfYear : Int} (start : 0 ≤ dayOfYear) (finish : dayOfYear ≤ 365)
    (year : Int) :
    (ofMarch year dayOfYear).toDays =
      year / 400 * daysPerEra +
        (year % 400 * 365 + year % 400 / 4 - year % 400 / 100 + dayOfYear) - epochOffset := by
  obtain ⟨month, day, _, _, days, _, equal⟩ := exists_month_of_ofMarch start finish year
  rw [equal]
  by_cases early : month < 10
  · rw [if_pos early]
    have late : ¬month + 3 ≤ 2 := by omega
    simp only [toDays, if_neg late]
    omega
  · rw [if_neg early]
    have january : month - 9 ≤ 2 := by omega
    have number : ((month - 9 : Nat) : Int) + 9 = month := by omega
    simp only [toDays, if_pos january, number, Int.add_sub_cancel]
    omega

/-- A day of a year is real, if a day 365 comes before a leap year only. -/
theorem Date.isReal_ofMarch {dayOfYear : Int} (start : 0 ≤ dayOfYear) (finish : dayOfYear ≤ 365)
    {year : Int} (leap : dayOfYear = 365 → isLeapYear (year + 1) = true) :
    (ofMarch year dayOfYear).isReal = true := by
  obtain ⟨month, day, monthFinish, dayStart, days, within, equal⟩ :=
    exists_month_of_ofMarch start finish year
  have inMonth (year : Int) (month : Nat) (monthBounds : 1 ≤ month ∧ month ≤ 12)
      (dayBound : day ≤ daysInMonth year month) : (Date.mk year month day).isReal = true := by
    simp [isReal, monthBounds, dayStart, dayBound]
  rw [equal]
  by_cases february : month = 11
  · subst february
    refine inMonth (year + 1) 2 (by decide) ?_
    simp only [daysInMonth]
    by_cases last : dayOfYear = 365
    · rw [if_pos (leap last)]
      omega
    · split <;> omega
  · have earlier : month ≤ 10 := by omega
    interval_cases month <;>
      exact inMonth _ _ (by decide) (by simp only [daysInMonth]; omega)

theorem Date.bounds_of_isReal {date : Date} (real : date.isReal = true) :
    date.month ≤ 12 ∧ date.day ≤ 31 := by
  simp only [isReal, Bool.and_eq_true, decide_eq_true_eq] at real
  have longest : daysInMonth date.year date.month ≤ 31 := by
    unfold daysInMonth
    split
    next => split <;> decide
    all_goals decide
  exact ⟨real.1.1.2, Nat.le_trans real.2 longest⟩

/-! ## Days and dates -/

/-- The date of a day is that many days from 1970. -/
theorem Date.toDays_ofDays (days : Int) : (ofDays days).toDays = days := by
  obtain ⟨era, year, dayOfYear, yearBounds, ⟨start, finish⟩, -, equal, whole⟩ :=
    exists_ofMarch_eq_ofDays days
  rw [equal, toDays_ofMarch start finish]
  have eras : (year + era * 400) / 400 = era := by omega
  have years : (year + era * 400) % 400 = year := by omega
  rw [eras, years]
  omega

/-- Every day has a real date. -/
theorem Date.isReal_ofDays (days : Int) : (ofDays days).isReal = true := by
  obtain ⟨era, year, dayOfYear, -, ⟨start, finish⟩, leap, equal, -⟩ := exists_ofMarch_eq_ofDays days
  rw [equal]
  exact isReal_ofMarch start finish leap

end ClusterQuery.Time
