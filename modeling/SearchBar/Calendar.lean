import SearchBar.Text.Numerals

/-!
# Calendar values

Days of the Gregorian calendar from year 1 to year 9999, times of day, and the
distance of a local time from universal time, to the microsecond. Week dates
name a year, a week from Monday to Sunday and a weekday; the first week of a
year is the one that holds its first Thursday.
-/

namespace SearchBar

open Text

/-- A leap year has 366 days. -/
def isLeapYear (year : Nat) : Bool :=
  year % 4 == 0 && (year % 100 != 0 || year % 400 == 0)

/-- The numbers of days of the twelve months. -/
def monthLengths (year : Nat) : List Nat :=
  [31, if isLeapYear year then 29 else 28, 31, 30, 31, 30, 31, 31, 30, 31, 30, 31]

/-- The number of days of a month, zero if there is no such month. -/
def daysInMonth (year month : Nat) : Nat :=
  if month = 0 then 0 else (monthLengths year).getD (month - 1) 0

/-- The number of days of a year. -/
def daysInYear (year : Nat) : Nat := if isLeapYear year then 366 else 365

/-- The number of days from the first day of year 1 to the first day of a year. -/
def daysBeforeYear (year : Nat) : Nat :=
  let past := year - 1
  365 * past + past / 4 - past / 100 + past / 400

/-- The weekday of the first day of a year, counted from Monday as zero. -/
def firstWeekday (year : Nat) : Nat := daysBeforeYear year % 7

/-- A day of the calendar. -/
structure CalendarDate where
  year : Nat
  month : Nat
  day : Nat
  deriving DecidableEq, Repr

/-- The first and the last year of the calendar. -/
def calendarYears : Nat × Nat := (1, 9999)

namespace CalendarDate

/-- The day exists: its year is in the calendar, its month in the year and its day in the month. -/
def Exists (date : CalendarDate) : Prop :=
  calendarYears.1 ≤ date.year ∧ date.year ≤ calendarYears.2 ∧ 1 ≤ date.month ∧ date.month ≤ 12 ∧
    1 ≤ date.day ∧ date.day ≤ daysInMonth date.year date.month

instance (date : CalendarDate) : Decidable date.Exists := by
  unfold Exists
  infer_instance

/-- The day with these numbers, if it exists. -/
def ofNumbers? (year month day : Nat) : Option CalendarDate :=
  if (CalendarDate.mk year month day).Exists then some ⟨year, month, day⟩ else none

/-- The month and the day of the month, given the lengths of the months that are left and the
number of days passed. -/
def monthAndDay : List Nat → Nat → Nat → Nat × Nat
  | [], month, day => (month, day + 1)
  | length :: lengths, month, day =>
    if day < length then (month, day + 1) else monthAndDay lengths (month + 1) (day - length)

/-- The day so many days after the first of its year, if it exists. -/
def ofDayOfYear? (year day : Nat) : Option CalendarDate :=
  let found := monthAndDay (monthLengths year) 1 day
  ofNumbers? year found.1 found.2

/-- The number of weeks of a year. -/
def weeksInYear (year : Nat) : Nat :=
  if firstWeekday year = 3 ∨ (firstWeekday year = 2 ∧ isLeapYear year) then 53 else 52

/-- The day with this year, week and weekday, if it exists. Its first days may belong to the year
before, its last days to the year after. -/
def ofWeek? (year week weekday : Nat) : Option CalendarDate :=
  if calendarYears.1 ≤ year ∧ year ≤ calendarYears.2 ∧ 1 ≤ week ∧ week ≤ weeksInYear year ∧
      1 ≤ weekday ∧ weekday ≤ 7 then
    let first := firstWeekday year
    let passed := 7 * (week - 1) + (weekday - 1)
    if first ≤ 3 then
      if passed < first then
        ofDayOfYear? (year - 1) (daysInYear (year - 1) + passed - first)
      else ofYearOrNext (passed - first)
    else ofYearOrNext (passed + 7 - first)
  else none
where
  /-- A day counted from the first of the year that may lie in the year after. -/
  ofYearOrNext (day : Nat) : Option CalendarDate :=
    if day < daysInYear year then ofDayOfYear? year day
    else ofDayOfYear? (year + 1) (day - daysInYear year)

/-- The day with a year of four digits, a month of two and a day of two. -/
def text (date : CalendarDate) : String :=
  paddedNumeral 4 date.year ++ "-" ++ paddedNumeral 2 date.month ++ "-" ++
    paddedNumeral 2 date.day

end CalendarDate

/-- The number of microseconds of a second. -/
def microsecondsPerSecond : Nat := 1000000

/-- The fraction of a second in six digits behind a point. It is written only if there is one. -/
def fractionText (microsecond : Nat) : String :=
  if microsecond = 0 then "" else "." ++ paddedNumeral 6 microsecond

/-- A time of day. -/
structure ClockTime where
  hour : Nat
  minute : Nat
  second : Nat
  microsecond : Nat := 0
  deriving DecidableEq, Repr

namespace ClockTime

/-- The time exists on a clock of 24 hours. -/
def Exists (time : ClockTime) : Prop :=
  time.hour < 24 ∧ time.minute < 60 ∧ time.second < 60 ∧ time.microsecond < microsecondsPerSecond

instance (time : ClockTime) : Decidable time.Exists := by
  unfold Exists
  infer_instance

/-- The number of whole seconds, also of a time that no clock shows. -/
def seconds (time : ClockTime) : Nat := 3600 * time.hour + 60 * time.minute + time.second

/-- The distance that the time stands for as a distance from universal time, in microseconds. It is
none unless there are whole seconds. -/
def distance (time : ClockTime) : Nat :=
  if time.seconds = 0 then 0 else microsecondsPerSecond * time.seconds + time.microsecond

/-- The time with two digits for each number, and the fraction of a second. -/
def text (time : ClockTime) : String :=
  paddedNumeral 2 time.hour ++ ":" ++ paddedNumeral 2 time.minute ++ ":" ++
    paddedNumeral 2 time.second ++ fractionText time.microsecond

end ClockTime

/-- The number of microseconds of a day. -/
def microsecondsPerDay : Nat := 86400 * microsecondsPerSecond

/-- The distance from universal time in microseconds, east being positive. Seconds are written only
if the distance is not one of whole minutes. -/
def offsetText (offset : Int) : String :=
  let seconds := offset.natAbs / microsecondsPerSecond
  let fraction := offset.natAbs % microsecondsPerSecond
  (if offset < 0 then "-" else "+") ++ paddedNumeral 2 (seconds / 3600) ++ ":" ++
    paddedNumeral 2 (seconds / 60 % 60) ++
    (if seconds % 60 = 0 ∧ fraction = 0 then ""
      else ":" ++ paddedNumeral 2 (seconds % 60) ++ fractionText fraction)

/-- A day, or a time of a day, whose distance from universal time may be known. -/
inductive Moment
  | day (date : CalendarDate)
  | dateTime (date : CalendarDate) (time : ClockTime) (offset : Option Int)
  deriving DecidableEq, Repr

/-- The moment in the extended form of the calendar standard. -/
def Moment.text : Moment → String
  | day date => date.text
  | dateTime date time offset =>
    date.text ++ "T" ++ time.text ++ ((offset.map offsetText).getD "")

end SearchBar
