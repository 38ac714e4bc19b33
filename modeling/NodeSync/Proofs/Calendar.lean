/-
Module: NodeSync.Proofs.Calendar
Purpose: The dates of day numbers. A day number has one date, which is valid and has that day number
  again, and the year of the date is as early or late as the day number.
Main exports: Date.yearStart, Date.dayNumber_ofDayNumber, Date.isValid_ofDayNumber,
  Date.le_year_ofDayNumber, Date.year_ofDayNumber_le
-/
import Mathlib.Tactic.IntervalCases
import NodeSync.Calendar

namespace NodeSync.Date

set_option autoImplicit false

/-! ## Years from March -/

/-- The days from the first of March of the year 0 to that of another year. -/
def yearStart (year : Int) : Int := 365 * year + year / 4 - year / 100 + year / 400

theorem yearStart_add_eras (year eras : Int) :
    yearStart (year + eras * 400) = yearStart year + eras * 146097 := by
  simp only [yearStart]
  omega

theorem yearStart_succ_le (year : Int) : yearStart (year + 1) ≤ yearStart year + 366 := by
  simp only [yearStart]
  omega

theorem yearStart_mono {year later : Int} (order : year ≤ later) :
    yearStart year ≤ yearStart later := by
  simp only [yearStart]
  omega

theorem lt_of_yearStart_lt (year later : Int) (order : yearStart year < yearStart later) :
    year < later := by
  refine Int.not_le.mp fun reverse => ?_
  exact absurd (yearStart_mono reverse) (Int.not_le.mpr order)

/-- The leap day is the last day of the year before the March that follows it. -/
theorem isLeapYear_iff (year : Int) :
    isLeapYear (year + 1) = true ↔ yearStart (year + 1) - yearStart year = 366 := by
  simp only [isLeapYear, yearStart, Bool.and_eq_true, Bool.or_eq_true, beq_iff_eq, bne_iff_ne]
  omega

theorem dayNumber_eq (date : Date) :
    dayNumber date = yearStart (if date.month ≤ 2 then date.year - 1 else date.year) +
      (153 * (if date.month ≤ 2 then (date.month : Int) + 9 else date.month - 3) + 2) / 5 +
      date.day - 719469 := by
  simp only [dayNumber, yearStart]
  split <;> omega

/-- The year that is computed for a day of an era is the one that the day is in. -/
theorem yearOfEra_spec {day year : Int} (low : 0 ≤ day) (high : day < 146097)
    (computed : year = (day - day / 1460 + day / 36524 - day / 146096) / 365) :
    0 ≤ year ∧ year < 400 ∧ yearStart year ≤ day ∧ day < yearStart (year + 1) := by
  -- The last day of an era is one beyond the fourth century.
  obtain ⟨century, isCentury⟩ : ∃ century, century = day / 36524 - day / 146096 := ⟨_, rfl⟩
  have four : 0 ≤ century ∧ century ≤ 3 := by omega
  have from365 : 365 * year ≤ day - day / 1460 + century := by omega
  have to365 : day - day / 1460 + century < 365 * year + 365 := by omega
  have within : 100 * century ≤ year ∧ year < 100 * century + 100 := by omega
  have centuries : year / 100 = century := by omega
  have eras : year / 400 = 0 := by omega
  have leaps : year / 4 ≤ day / 1460 := by
    have : 1460 * (year / 4) ≤ day := by omega
    omega
  simp only [yearStart, centuries, eras]
  refine ⟨by omega, by omega, by omega, ?_⟩
  by_cases last : year = 100 * century + 99
  · have : (year + 1) / 4 = 25 * century + 25 := by omega
    have : (year + 1) / 100 = century + 1 := by omega
    rcases (by omega : century = 3 ∨ day / 146096 = 0) with rfl | short
    · omega
    · omega
  · have : day / 1460 ≤ (year + 1) / 4 := by omega
    have : (year + 1) / 100 = century := by omega
    have : (year + 1) / 400 = 0 := by omega
    omega

/-! ## The date of a day number -/

/-- The parts of the date of a day number: the year from March and the month in it. -/
theorem ofDayNumber_eq (days : Int) : ∃ year ofYear month : Int,
    0 ≤ ofYear ∧ yearStart year + ofYear < yearStart (year + 1) ∧
      days + 719468 = yearStart year + ofYear ∧ month = (5 * ofYear + 2) / 153 ∧
      ofDayNumber days =
        ⟨if month < 10 then year else year + 1,
          (if month < 10 then month + 3 else month - 9).toNat,
          (ofYear - (153 * month + 2) / 5 + 1).toNat⟩ := by
  obtain ⟨ofEra, isOfEra⟩ : ∃ ofEra, ofEra = (days + 719468) % 146097 := ⟨_, rfl⟩
  obtain ⟨year, computed⟩ : ∃ year,
    year = (ofEra - ofEra / 1460 + ofEra / 36524 - ofEra / 146096) / 365 := ⟨_, rfl⟩
  obtain ⟨low, high, start, next⟩ := yearOfEra_spec (by omega) (by omega) computed
  have begun : yearStart year = 365 * year + year / 4 - year / 100 := by
    simp only [yearStart]
    omega
  refine ⟨year + (days + 719468) / 146097 * 400, ofEra - yearStart year, _, by omega, ?_, ?_, rfl,
    ?_⟩
  · rw [Int.add_right_comm, yearStart_add_eras, yearStart_add_eras]
    omega
  · rw [yearStart_add_eras]
    omega
  · simp only [ofDayNumber, ← isOfEra, ← computed, ← begun]
    congr 1
    split <;> split <;> first | rfl | omega

/-- The date of a day number has that day number. -/
theorem dayNumber_ofDayNumber (days : Int) : (ofDayNumber days).dayNumber = days := by
  obtain ⟨year, ofYear, month, low, high, same, isMonth, date⟩ := ofDayNumber_eq days
  have length := yearStart_succ_le year
  rw [date, dayNumber_eq]
  dsimp only
  by_cases before : month < 10
  · simp only [before, if_true]
    rw [if_neg (by omega), if_neg (by omega)]
    omega
  · simp only [before, if_false]
    rw [if_pos (by omega), if_pos (by omega), Int.add_sub_cancel]
    omega

/-- The date of a day number is one of the calendar. -/
theorem isValid_ofDayNumber (days : Int) : (ofDayNumber days).isValid = true := by
  obtain ⟨year, ofYear, month, low, high, same, isMonth, date⟩ := ofDayNumber_eq days
  have length := yearStart_succ_le year
  have first : 0 ≤ month := by omega
  rw [date]
  simp only [isValid, daysInMonth, Bool.and_eq_true, decide_eq_true_eq]
  by_cases february : month = 11
  · subst february
    have leap := isLeapYear_iff year
    cases long : isLeapYear (year + 1) with
    | true =>
        simp [long]
        omega
    | false =>
        simp [long] at leap ⊢
        omega
  · have last : month ≤ 10 := by omega
    interval_cases month <;> simp <;> omega

/-- The date of a day number from a new year on is not of an earlier year. -/
theorem le_year_ofDayNumber {days year : Int} (reached : dayNumber ⟨year, 1, 1⟩ ≤ days) :
    year ≤ (ofDayNumber days).year := by
  obtain ⟨march, ofYear, month, low, high, same, isMonth, date⟩ := ofDayNumber_eq days
  have newYear : dayNumber ⟨year, 1, 1⟩ = yearStart (year - 1) + 306 - 719468 := by
    simp [dayNumber_eq]
    omega
  rw [date]
  dsimp only
  split
  · have := lt_of_yearStart_lt (year - 1) march (by omega)
    omega
  · have := lt_of_yearStart_lt (year - 1) (march + 1) (by omega)
    omega

/-- The date of a day number up to the end of a year is not of a later year. -/
theorem year_ofDayNumber_le {days year : Int} (reached : days ≤ dayNumber ⟨year, 12, 31⟩) :
    (ofDayNumber days).year ≤ year := by
  obtain ⟨march, ofYear, month, low, high, same, isMonth, date⟩ := ofDayNumber_eq days
  have yearEnd : dayNumber ⟨year, 12, 31⟩ = yearStart year + 305 - 719468 := by
    simp [dayNumber_eq]
    omega
  have next : yearStart year + 365 ≤ yearStart (year + 1) := by
    simp only [yearStart]
    omega
  rw [date]
  dsimp only
  split
  · have := lt_of_yearStart_lt march (year + 1) (by omega)
    omega
  · have := lt_of_yearStart_lt march year (by omega)
    omega

end NodeSync.Date
