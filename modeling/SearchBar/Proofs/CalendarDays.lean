import Mathlib
import SearchBar.Calendar

/-!
# Counting the days of the calendar

The days of the calendar are counted from the first day of year 1. The number of
a day tells its year, and within the year its month and its day of the month. The
first day is a Monday, so every seventh number is one, and the first week of a
year begins on the Monday of the week that holds the fourth of January. Then the
weeks of a year are followed by those of the next year without a gap.

Main statements: a day of the year is the one with its number
(`CalendarDate.ofDayOfYear?_eq_some_iff`), a week date is the day so many weeks and
days behind the beginning of the first week (`CalendarDate.ofWeek?_eq_some_iff`),
and a year has the weeks up to the first week of the next year (`weekStart_succ`).
-/

namespace SearchBar

/-- A period of years is complete behind every multiple of it, and only there. -/
theorem div_next {year : Nat} (present : 1 ≤ year) (period : Nat) :
    year / period = (year - 1) / period + if year % period = 0 then 1 else 0 := by
  have step : (year - 1 + 1) / period =
      (year - 1) / period + if period ∣ year - 1 + 1 then 1 else 0 := Nat.succ_div
  rw [Nat.sub_add_cancel present] at step
  simpa only [Nat.dvd_iff_mod_eq_zero] using step

/-- Behind the days of a year the next year begins. -/
theorem daysBeforeYear_succ {year : Nat} (present : 1 ≤ year) :
    daysBeforeYear (year + 1) = daysBeforeYear year + daysInYear year := by
  have four := div_next present 4
  have hundred := div_next present 100
  have cycle := div_next present 400
  have fewer : (year - 1) / 100 ≤ (year - 1) / 4 := Nat.div_le_div_left (by decide) (by decide)
  have next : year + 1 - 1 = year := Nat.add_sub_cancel year 1
  have leap : isLeapYear year = true ↔
      year % 4 = 0 ∧ (year % 100 ≠ 0 ∨ year % 400 = 0) := by
    simp [isLeapYear]
  -- multiples of 400 are multiples of 100, and those are multiples of 4
  have nested : (year % 400 = 0 → year % 100 = 0) ∧ (year % 100 = 0 → year % 4 = 0) := by omega
  simp only [daysBeforeYear, daysInYear, leap, next, four, hundred, cycle]
  by_cases inFour : year % 4 = 0
  · by_cases inHundred : year % 100 = 0
    · by_cases inCycle : year % 400 = 0
      · simp only [inFour, inHundred, inCycle, if_true, or_true, and_true]
        omega
      · simp only [inFour, inHundred, inCycle, if_true, if_false, ne_eq, not_true, or_false,
          and_false]
        omega
    · simp only [inFour, inHundred, mt nested.1 inHundred, if_true, if_false, ne_eq, not_false_iff,
        true_or, and_true]
      omega
  · have notHundred := mt nested.2 inFour
    simp only [inFour, notHundred, mt nested.1 notHundred, if_false, false_and]
    omega

/-- A later year begins later. -/
theorem daysBeforeYear_mono : Monotone daysBeforeYear := by
  apply monotone_nat_of_le_succ
  intro year
  cases year with
  | zero => exact Nat.le_refl 0
  | succ year =>
    rw [daysBeforeYear_succ (Nat.le_add_left 1 year)]
    exact Nat.le_add_right _ _

/-- A year has 365 or 366 days. -/
theorem daysInYear_bounds (year : Nat) : 365 ≤ daysInYear year ∧ daysInYear year ≤ 366 := by
  unfold daysInYear
  split <;> omega

/-- The months make up the year. -/
theorem sum_monthLengths (year : Nat) : (monthLengths year).sum = daysInYear year := by
  by_cases long : isLeapYear year = true
  · simp [monthLengths, daysInYear, long]
  · simp [monthLengths, daysInYear, long]

namespace CalendarDate

/-- The number of days of the year in front of a day. -/
def dayOfYear (date : CalendarDate) : Nat :=
  ((monthLengths date.year).take (date.month - 1)).sum + (date.day - 1)

/-- The number of days in front of a day, from the first day of year 1 on. -/
def ordinal (date : CalendarDate) : Nat := daysBeforeYear date.year + date.dayOfYear

/-- A day that exists has the numbers that it was made from. -/
theorem ofNumbers?_eq_some_iff {year month day : Nat} {date : CalendarDate} :
    ofNumbers? year month day = some date ↔ date = ⟨year, month, day⟩ ∧ date.Exists := by
  unfold ofNumbers?
  constructor
  · intro made
    split at made
    · rename_i real
      cases made
      exact ⟨rfl, real⟩
    · cases made
  · rintro ⟨rfl, real⟩
    rw [if_pos real]

/-- The month found and the day of it are those that the days passed lead to. -/
theorem sum_monthAndDay (lengths : List Nat) (month day : Nat) :
    ∃ passed, (monthAndDay lengths month day).1 = month + passed ∧
      (lengths.take passed).sum + (monthAndDay lengths month day).2 = day + 1 := by
  induction lengths generalizing month day with
  | nil => exact ⟨0, rfl, by simp [monthAndDay]⟩
  | cons length lengths ih =>
    by_cases inside : day < length
    · exact ⟨0, by simp [monthAndDay, inside], by simp [monthAndDay, inside]⟩
    · obtain ⟨passed, found, total⟩ := ih (month + 1) (day - length)
      refine ⟨passed + 1, ?_, ?_⟩
      · rw [monthAndDay, if_neg inside, found]
        omega
      · rw [monthAndDay, if_neg inside, List.take_succ_cons, List.sum_cons]
        omega

/-- The days in front of a month and some of its days lead to that month. -/
theorem monthAndDay_sum {lengths : List Nat} {passed day : Nat}
    (inside : day < lengths.getD passed 0) (month : Nat) :
    monthAndDay lengths month ((lengths.take passed).sum + day) = (month + passed, day + 1) := by
  induction lengths generalizing month passed with
  | nil => simp at inside
  | cons length lengths ih =>
    cases passed with
    | zero =>
      have short : day < length := by simpa using inside
      simp [monthAndDay, short]
    | succ passed =>
      have behind : day < lengths.getD passed 0 := by simpa using inside
      have beyond : ¬ length + (lengths.take passed).sum + day < length := by omega
      have rest : length + (lengths.take passed).sum + day - length =
          (lengths.take passed).sum + day := by omega
      rw [List.take_succ_cons, List.sum_cons, monthAndDay, if_neg beyond, rest, ih behind]
      simp only [Prod.mk.injEq, and_true]
      omega

/-- A day of a year is the day of the calendar with that number. -/
theorem ofDayOfYear?_eq_some_iff {year day : Nat} {date : CalendarDate} :
    ofDayOfYear? year day = some date ↔
      date.Exists ∧ date.year = year ∧ date.dayOfYear = day := by
  unfold ofDayOfYear?
  simp only [ofNumbers?_eq_some_iff]
  constructor
  · rintro ⟨same, real⟩
    obtain ⟨passed, month, total⟩ := sum_monthAndDay (monthLengths year) 1 day
    have numbers : date.year = year ∧ date.month = 1 + passed ∧
        date.day = (monthAndDay (monthLengths year) 1 day).2 := by
      rw [same, ← month]
      exact ⟨rfl, rfl, rfl⟩
    obtain ⟨sameYear, sameMonth, sameDay⟩ := numbers
    refine ⟨real, sameYear, ?_⟩
    have first : 1 ≤ date.day := real.2.2.2.2.1
    have front : date.month - 1 = passed := by omega
    rw [dayOfYear, sameYear, front]
    omega
  · rintro ⟨real, rfl, rfl⟩
    obtain ⟨-, -, firstMonth, -, firstDay, lastDay⟩ := id real
    have inside : date.day - 1 < (monthLengths date.year).getD (date.month - 1) 0 := by
      rw [daysInMonth, if_neg (by omega)] at lastDay
      omega
    have month : 1 + (date.month - 1) = date.month := by omega
    have day : date.day - 1 + 1 = date.day := by omega
    rw [dayOfYear, monthAndDay_sum inside, month, day]
    exact ⟨rfl, real⟩

/-- The number of a day is below the number of days of its year. -/
theorem dayOfYear_lt {date : CalendarDate} (real : date.Exists) :
    date.dayOfYear < daysInYear date.year := by
  obtain ⟨-, -, firstMonth, lastMonth, firstDay, lastDay⟩ := real
  rw [daysInMonth, if_neg (by omega)] at lastDay
  have size : date.month - 1 < (monthLengths date.year).length := by
    show date.month - 1 < 12
    omega
  have month : (monthLengths date.year).getD (date.month - 1) 0 =
      (monthLengths date.year)[date.month - 1] := by
    rw [List.getD_eq_getElem?_getD, List.getElem?_eq_getElem size, Option.getD_some]
  have cut := List.sum_take_add_sum_drop (monthLengths date.year) (date.month - 1)
  rw [sum_monthLengths, List.drop_eq_getElem_cons size, List.sum_cons] at cut
  rw [dayOfYear]
  omega

/-- The number of a day tells its year. -/
theorem year_eq_of_ordinal {date : CalendarDate} (real : date.Exists) {year : Nat}
    (low : daysBeforeYear year ≤ date.ordinal) (high : date.ordinal < daysBeforeYear (year + 1)) :
    date.year = year := by
  have inside := dayOfYear_lt real
  have next := daysBeforeYear_succ real.1
  rw [ordinal] at low high
  rcases Nat.lt_trichotomy date.year year with before | same | behind
  · have mono := daysBeforeYear_mono (show date.year + 1 ≤ year from before)
    omega
  · exact same
  · have mono := daysBeforeYear_mono (show year + 1 ≤ date.year from behind)
    omega

/-- A day in a year is the day of the calendar whose number is that of the first day of the year and
the days passed. -/
theorem ofDayOfYear?_eq_some_iff_ordinal {year day : Nat} (present : 1 ≤ year)
    (inside : day < daysInYear year) {date : CalendarDate} :
    ofDayOfYear? year day = some date ↔
      date.Exists ∧ date.ordinal = daysBeforeYear year + day := by
  rw [ofDayOfYear?_eq_some_iff]
  constructor
  · rintro ⟨real, rfl, rfl⟩
    exact ⟨real, rfl⟩
  · rintro ⟨real, number⟩
    have next := daysBeforeYear_succ present
    have same : date.year = year := year_eq_of_ordinal real (by omega) (by omega)
    rw [ordinal, same] at number
    exact ⟨real, same, by omega⟩

end CalendarDate

/-- The number of the first day of the first week of a year, the Monday of the week that holds the
fourth of January. -/
def weekStart (year : Nat) : Nat := (daysBeforeYear year + 3) / 7 * 7

/-- The weeks of a year are followed by the first week of the next year. -/
theorem weekStart_succ {year : Nat} (present : 1 ≤ year) :
    weekStart (year + 1) = weekStart year + 7 * CalendarDate.weeksInYear year := by
  simp only [weekStart, CalendarDate.weeksInYear, firstWeekday, daysBeforeYear_succ present,
    daysInYear]
  cases isLeapYear year with
  | true =>
    simp only [if_true, and_true]
    split <;> omega
  | false =>
    simp only [Bool.false_eq_true, if_false, and_false, or_false]
    split <;> omega

namespace CalendarDate

/-- The year, the week and the weekday of a week date are numbers of the calendar. -/
def IsWeekDay (year week weekday : Nat) : Prop :=
  calendarYears.1 ≤ year ∧ year ≤ calendarYears.2 ∧ 1 ≤ week ∧ week ≤ weeksInYear year ∧
    1 ≤ weekday ∧ weekday ≤ 7

/-- A day counted from the first of a year that may lie in the next year is the day of the calendar
with that number. -/
theorem ofYearOrNext_eq_some_iff {year day : Nat} (present : 1 ≤ year)
    (near : day < daysInYear year + 365) {date : CalendarDate} :
    ofWeek?.ofYearOrNext year day = some date ↔
      date.Exists ∧ date.ordinal = daysBeforeYear year + day := by
  unfold ofWeek?.ofYearOrNext
  by_cases inside : day < daysInYear year
  · rw [if_pos inside, ofDayOfYear?_eq_some_iff_ordinal present inside]
  · have short : day - daysInYear year < daysInYear (year + 1) := by
      have least := (daysInYear_bounds (year + 1)).1
      omega
    have number : daysBeforeYear (year + 1) + (day - daysInYear year) =
        daysBeforeYear year + day := by
      have next := daysBeforeYear_succ present
      omega
    rw [if_neg inside, ofDayOfYear?_eq_some_iff_ordinal (by omega) short, number]

/-- A week date is the day of the calendar so many weeks and days behind the beginning of the first
week of its year. It may lie in the year before or in the year after. -/
theorem ofWeek?_eq_some_iff {year week weekday : Nat} {date : CalendarDate} :
    ofWeek? year week weekday = some date ↔
      IsWeekDay year week weekday ∧ date.Exists ∧
        date.ordinal = weekStart year + (7 * (week - 1) + (weekday - 1)) := by
  unfold ofWeek? IsWeekDay
  by_cases numbers : calendarYears.1 ≤ year ∧ year ≤ calendarYears.2 ∧ 1 ≤ week ∧
      week ≤ weeksInYear year ∧ 1 ≤ weekday ∧ weekday ≤ 7
  · have present : 1 ≤ year := numbers.1
    have weeks : weeksInYear year ≤ 53 := by
      unfold weeksInYear
      split <;> omega
    have least := (daysInYear_bounds year).1
    have first : firstWeekday year = daysBeforeYear year % 7 := rfl
    have start : weekStart year = (daysBeforeYear year + 3) / 7 * 7 := rfl
    rw [if_pos numbers]
    simp only [numbers, and_self, true_and]
    by_cases early : firstWeekday year ≤ 3
    · rw [if_pos early]
      by_cases before : 7 * (week - 1) + (weekday - 1) < firstWeekday year
      · -- the first year of the calendar begins on a Monday, so there is a year before
        have past : 2 ≤ year := by
          by_contra none
          have one : year = 1 := by omega
          rw [one] at before
          exact absurd before (Nat.not_lt_zero _)
        have previous : year - 1 + 1 = year := by omega
        have next := daysBeforeYear_succ (show 1 ≤ year - 1 by omega)
        have size := (daysInYear_bounds (year - 1)).1
        rw [previous] at next
        have number : daysBeforeYear (year - 1) + (daysInYear (year - 1) +
            (7 * (week - 1) + (weekday - 1)) - firstWeekday year) =
              weekStart year + (7 * (week - 1) + (weekday - 1)) := by omega
        rw [if_pos before, ofDayOfYear?_eq_some_iff_ordinal (by omega) (by omega), number]
      · have number : daysBeforeYear year + (7 * (week - 1) + (weekday - 1) - firstWeekday year) =
            weekStart year + (7 * (week - 1) + (weekday - 1)) := by omega
        rw [if_neg before, ofYearOrNext_eq_some_iff present (by omega), number]
    · have number :
          daysBeforeYear year + (7 * (week - 1) + (weekday - 1) + 7 - firstWeekday year) =
            weekStart year + (7 * (week - 1) + (weekday - 1)) := by omega
      rw [if_neg early, ofYearOrNext_eq_some_iff present (by omega), number]
  · rw [if_neg numbers]
    simp [numbers]

end CalendarDate

end SearchBar
