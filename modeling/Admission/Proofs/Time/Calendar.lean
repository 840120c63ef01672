import Admission.Time.Calendar
import Mathlib.Tactic.IntervalCases

/-!
# Dates and day numbers

A day of the cycle of 400 years is split into a century, a leap cycle of four years, a year and a
day of that year, all counted from zero and from the first of March.  The two directions between
dates and day numbers are compared part by part.

## Main results

* `Date.dayNumber_ofDayNumber`: the date of a day number has that day number.
* `Date.isValid_ofDayNumber`: within the calendar it is a date of the calendar.
-/

namespace Admission.Time

/-! ## The cycle of 400 years -/

/-- The parts of a day of the cycle.  Only the last year of a leap cycle has a day 365, and the last
leap cycle of a century only in the last century. -/
structure EraParts (d century cycle year day : Int) : Prop where
  century_bounds : 0 ≤ century ∧ century ≤ 3
  cycle_bounds : 0 ≤ cycle ∧ cycle ≤ 24
  year_bounds : 0 ≤ year ∧ year ≤ 3
  day_bounds : 0 ≤ day ∧ day ≤ 365
  leap : day = 365 → year = 3 ∧ (cycle = 24 → century = 3)
  sum : d = 36524 * century + 1461 * cycle + 365 * year + day

/-- Every day of the cycle has its parts. -/
theorem exists_eraParts {d : Int} (h0 : 0 ≤ d) (h1 : d < 146097) :
    ∃ century cycle year day, EraParts d century cycle year day := by
  by_cases hLast : d = 146096
  · exact ⟨3, 24, 3, 365, by omega, by omega, by omega, by omega, by omega, by omega⟩
  · by_cases hLeap : d % 36524 % 1461 = 1460
    · exact ⟨d / 36524, d % 36524 / 1461, 3, 365, by omega, by omega, by omega, by omega, by omega,
        by omega⟩
    · exact ⟨d / 36524, d % 36524 / 1461, d % 36524 % 1461 / 365, d % 36524 % 1461 % 365, by omega,
        by omega, by omega, by omega, by omega, by omega⟩

namespace EraParts

variable {d century cycle year day : Int}

/-- The year of the cycle that a day lies in. -/
theorem yearOfEra_eq (h : EraParts d century cycle year day) :
    (d - d / 1460 + d / 36524 - d / 146096) / 365 = 100 * century + 4 * cycle + year := by
  obtain ⟨hCentury, hCycle, hYear, hDay, hLeap, hSum⟩ := h
  by_cases hLast : d = 146096
  · have hParts : century = 3 ∧ cycle = 24 ∧ year = 3 := by omega
    omega
  · have hEra : d / 146096 = 0 := by omega
    have hCenturies : d / 36524 = century := by omega
    -- the quotient by 1460 runs ahead by one near the end of a leap cycle
    have hCycles : d / 1460 = 25 * century + cycle ∨
        d / 1460 = 25 * century + cycle + 1 ∧ 1364 ≤ 365 * year + day := by omega
    rw [hEra, hCenturies]
    rcases hCycles with hCycles | ⟨hCycles, hLate⟩
    · have hEarly : 365 * year + day < 1460 := by omega
      omega
    · omega

/-- The days of the years before. -/
theorem daysBefore_eq (h : EraParts d century cycle year day) :
    365 * (100 * century + 4 * cycle + year) + (100 * century + 4 * cycle + year) / 4 -
      (100 * century + 4 * cycle + year) / 100 = d - day := by
  obtain ⟨hCentury, hCycle, hYear, hDay, hLeap, hSum⟩ := h
  have hFour : (100 * century + 4 * cycle + year) / 4 = 25 * century + cycle := by omega
  have hHundred : (100 * century + 4 * cycle + year) / 100 = century := by omega
  omega

/-- A year with a day 365 ends in a leap year. -/
theorem isLeapYear_of_day (h : EraParts d century cycle year day) (hDay : day = 365) (era : Int) :
    isLeapYear (100 * century + 4 * cycle + year + era * 400 + 1) = true := by
  obtain ⟨hYear, hLast⟩ := h.leap hDay
  have hCentury := h.century_bounds
  have hCycle := h.cycle_bounds
  subst hYear
  generalize hy : 100 * century + 4 * cycle + 3 + era * 400 + 1 = y
  have hFour : y % 4 = 0 := by omega
  have hHundred : y % 100 = 0 → y % 400 = 0 := by omega
  by_cases h400 : y % 400 = 0
  · simp [isLeapYear, hFour, h400]
  · have h100 : y % 100 ≠ 0 := fun hy => h400 (hHundred hy)
    simp [isLeapYear, hFour, h100]

end EraParts

namespace Date

/-! ## Years that start in March -/

/-- A day, counted from zero, of the year that starts in March of a year. -/
def ofMarchYear (y day : Int) : Date :=
  let monthFromMarch := (5 * day + 2) / 153
  let month := if monthFromMarch < 10 then monthFromMarch + 3 else monthFromMarch - 9
  ⟨if month ≤ 2 then y + 1 else y, month.toNat, (day - (153 * monthFromMarch + 2) / 5 + 1).toNat⟩

theorem dayNumber_ofMarchYear (y : Int) {day : Int} (h0 : 0 ≤ day) (h1 : day ≤ 365) :
    (ofMarchYear y day).dayNumber =
      y / 400 * 146097 + (y % 400 * 365 + y % 400 / 4 - y % 400 / 100 + day) - 719468 := by
  simp only [ofMarchYear, dayNumber]
  by_cases hm : (5 * day + 2) / 153 < 10
  · have hMonth : ¬ ((5 * day + 2) / 153 + 3).toNat ≤ 2 := by omega
    have hMonth' : 2 < ((5 * day + 2) / 153 + 3).toNat := by omega
    have hLate : ¬ (5 * day + 2) / 153 + 3 ≤ 2 := by omega
    simp only [if_pos hm, if_neg hMonth, if_neg hLate, if_pos hMonth']
    omega
  · have hMonth : ((5 * day + 2) / 153 - 9).toNat ≤ 2 := by omega
    have hMonth' : ¬ 2 < ((5 * day + 2) / 153 - 9).toNat := by omega
    have hLate : (5 * day + 2) / 153 - 9 ≤ 2 := by omega
    have hYear : y + 1 - 1 = y := by omega
    simp only [if_neg hm, if_pos hMonth, if_pos hLate, if_neg hMonth', hYear]
    omega

/-- Months have the days that fall to them, if day 365 falls into a leap year only. -/
theorem day_ofMarchYear (y : Int) {day : Int} (h0 : 0 ≤ day) (h1 : day ≤ 365)
    (hLeap : day = 365 → isLeapYear (y + 1) = true) :
    (1 ≤ (ofMarchYear y day).month ∧ (ofMarchYear y day).month ≤ 12) ∧
      1 ≤ (ofMarchYear y day).day ∧ (ofMarchYear y day).day ≤
        daysInMonth (ofMarchYear y day).year (ofMarchYear y day).month := by
  have hm0 : 0 ≤ (5 * day + 2) / 153 := by omega
  have hm1 : (5 * day + 2) / 153 ≤ 11 := by omega
  simp only [ofMarchYear]
  generalize hm : (5 * day + 2) / 153 = m at *
  interval_cases m <;> simp [daysInMonth] <;> try omega
  by_cases hDay : day = 365
  · rw [if_pos (hLeap hDay)]
    omega
  · split <;> omega

theorem year_ofMarchYear (y : Int) {day : Int} (h0 : 0 ≤ day) (h1 : day ≤ 365) :
    (ofMarchYear y day).year = if day < 306 then y else y + 1 := by
  simp only [ofMarchYear]
  by_cases hDay : day < 306
  · have hm : (5 * day + 2) / 153 < 10 := by omega
    have hMonth : ¬ (5 * day + 2) / 153 + 3 ≤ 2 := by omega
    rw [if_pos hDay, if_pos hm, if_neg hMonth]
  · have hm : ¬ (5 * day + 2) / 153 < 10 := by omega
    have hMonth : (5 * day + 2) / 153 - 9 ≤ 2 := by omega
    rw [if_neg hDay, if_neg hm, if_pos hMonth]

/-! ## Day numbers -/

theorem exists_eraParts_ofDay (n : Int) :
    ∃ century cycle year day, EraParts ((n + 719468) % 146097) century cycle year day :=
  exists_eraParts (by omega) (by omega)

/-- The date of a day number, by the parts of the day within its cycle. -/
theorem ofDayNumber_eq {n century cycle year day : Int}
    (h : EraParts ((n + 719468) % 146097) century cycle year day) :
    ofDayNumber n =
      ofMarchYear (100 * century + 4 * cycle + year + (n + 719468) / 146097 * 400) day := by
  have hYear := h.yearOfEra_eq
  have hDay : (n + 719468) % 146097 -
      (365 * (100 * century + 4 * cycle + year) + (100 * century + 4 * cycle + year) / 4 -
        (100 * century + 4 * cycle + year) / 100) = day := by
    rw [h.daysBefore_eq]
    omega
  simp only [ofDayNumber, hYear, hDay, ofMarchYear]

/-- The date of a day number has that day number. -/
theorem dayNumber_ofDayNumber (n : Int) : (ofDayNumber n).dayNumber = n := by
  obtain ⟨century, cycle, year, day, h⟩ := exists_eraParts_ofDay n
  have hCentury := h.century_bounds
  have hCycle := h.cycle_bounds
  have hYear := h.year_bounds
  have hBefore := h.daysBefore_eq
  rw [ofDayNumber_eq h, dayNumber_ofMarchYear _ h.day_bounds.1 h.day_bounds.2]
  generalize hy : 100 * century + 4 * cycle + year = y at hBefore ⊢
  have hEra : (y + (n + 719468) / 146097 * 400) / 400 = (n + 719468) / 146097 := by omega
  have hOfEra : (y + (n + 719468) / 146097 * 400) % 400 = y := by omega
  rw [hEra, hOfEra]
  omega

/-- The days of the calendar, from the first of its first year to the last of its last. -/
theorem isValid_ofDayNumber {n : Int} (hFirst : -96465292 ≤ n) (hLast : n ≤ 95026236) :
    (ofDayNumber n).isValid = true := by
  obtain ⟨century, cycle, year, day, h⟩ := exists_eraParts_ofDay n
  have hCentury := h.century_bounds
  have hCycle := h.cycle_bounds
  have hYear := h.year_bounds
  have hSum := h.sum
  have hLeap := fun hDay => h.isLeapYear_of_day hDay ((n + 719468) / 146097)
  have hDay := day_ofMarchYear _ h.day_bounds.1 h.day_bounds.2 hLeap
  have hYears := year_ofMarchYear (100 * century + 4 * cycle + year + (n + 719468) / 146097 * 400)
    h.day_bounds.1 h.day_bounds.2
  rw [← ofDayNumber_eq h] at hDay hYears
  have hBounds : firstYear ≤ (ofDayNumber n).year ∧ (ofDayNumber n).year ≤ lastYear := by
    rw [hYears, firstYear, lastYear]
    have hDay := h.day_bounds
    split <;> omega
  simp only [isValid, Bool.and_eq_true, decide_eq_true_eq]
  exact ⟨⟨⟨⟨⟨hBounds.1, hBounds.2⟩, hDay.1.1⟩, hDay.1.2⟩, hDay.2.1⟩, hDay.2.2⟩

end Date

end Admission.Time
