import SearchBar.Calendar
import SearchBar.DateText

/-!
# Reading calendar values

Calendar values are read from the basic and the extended form of the calendar
standard: a day by month or by week, and behind a separator a time with an
optional distance from universal time. The point in front of a fraction of a
second is no date character, but the digits of a fraction may stand behind the
seconds without it.
-/

namespace SearchBar

open Text

/-- Reads exactly so many decimal digits. -/
def readDigits (count : Nat) (text : List Char) : Option (Nat × List Char) :=
  let digits := text.take count
  if digits.length = count ∧ digits.all isDecimalDigit then
    some (decimalValue digits, text.drop count)
  else none

/-- Drops the mark that stands between two numbers of the extended form. -/
def behindMark (extended : Bool) (mark : Char) (text : List Char) : Option (List Char) :=
  if extended then
    match text with
    | c :: rest => if c = mark then some rest else none
    | [] => none
  else some text

/-- Reads the week and the weekday of a week date. Without a weekday it is the first day of the
week. -/
def readWeek (extended : Bool) (year : Nat) (text : List Char) : Option CalendarDate := do
  let (week, rest) ← readDigits 2 text
  match rest, extended with
  | [], _ => CalendarDate.ofWeek? year week 1
  | '-' :: rest, true => do
    let (weekday, _) ← readDigits 1 rest
    CalendarDate.ofWeek? year week weekday
  | _, true => none
  | rest, false => do
    let (weekday, _) ← readDigits 1 rest
    CalendarDate.ofWeek? year week weekday

/-- Reads a day behind its year. Nothing is asked of the text behind the day. -/
def readMonthAndDay (extended : Bool) (year : Nat) (text : List Char) : Option CalendarDate := do
  let (month, rest) ← readDigits 2 text
  let (day, _) ← readDigits 2 (← behindMark extended '-' rest)
  CalendarDate.ofNumbers? year month day

/-- Reads a day in either form. A hyphen behind the year makes the form extended. -/
def readDay (text : List Char) : Option CalendarDate := do
  let (year, rest) ← readDigits 4 text
  match rest with
  | '-' :: 'W' :: rest => readWeek true year rest
  | '-' :: rest => readMonthAndDay true year rest
  | 'W' :: rest => readWeek false year rest
  | rest => readMonthAndDay false year rest

/-- Reads a fraction of a second in microseconds. It has up to six digits, and further digits do not
count. -/
def readFraction (text : List Char) : Option (Nat × List Char) := do
  let (value, rest) ← readDigits (min 6 text.length) text
  some (value * Nat.pow 10 (6 - text.length), rest.dropWhile isDecimalDigit)

/-- Reads a time of up to four numbers and gives the text that is left unread. A colon behind the
hour has to be followed by one behind each number. One character behind a number does not make
another number. -/
def readClock (text : List Char) : Option (ClockTime × List Char) := do
  let (hour, rest) ← readDigits 2 text
  if rest.length ≤ 1 then some (⟨hour, 0, 0, 0⟩, rest)
  else do
    let extended := rest.head? == some ':'
    let (minute, rest) ← readDigits 2 (← behindMark extended ':' rest)
    if rest.length ≤ 1 then some (⟨hour, minute, 0, 0⟩, rest)
    else do
      let (second, rest) ← readDigits 2 (← behindMark extended ':' rest)
      if rest.length ≤ 1 then some (⟨hour, minute, second, 0⟩, rest)
      else do
        let (microsecond, rest) ← readFraction (← behindMark extended ':' rest)
        some (⟨hour, minute, second, microsecond⟩, rest)

/-- A character that opens the distance from universal time. -/
def opensOffset (c : Char) : Bool := c == '+' || c == '-' || c == 'Z'

/-- Reads the distance from universal time. The letter means none, and nothing stands behind it; a
distance is shorter than a day, though its minutes and seconds may exceed an hour and a minute. -/
def readOffset : List Char → Option Int
  | [] => none
  | 'Z' :: text => if text.isEmpty then some 0 else none
  | sign :: text => do
    let (time, unread) ← readClock text
    let size := time.distance
    if unread.isEmpty ∧ size < microsecondsPerDay then some (if sign = '-' then -size else size)
    else none

/-- Reads a time of day and the distance from universal time behind it. In front of a distance, text
that is no part of the time is passed over. -/
def readTime (text : List Char) : Option (ClockTime × Option Int) := do
  let (time, unread) ← readClock (text.takeWhile fun c => !opensOffset c)
  if time.Exists then
    match text.dropWhile fun c => !opensOffset c with
    | [] => if unread.isEmpty then some (time, none) else none
    | zone => do
      let offset ← readOffset zone
      some (time, some offset)
  else none

/-- The place of the character between a day and a time. It follows from the form of the day; a
week date in the basic form reaches as far as its digits, unless they belong to the time. -/
def separatorPlace (text : List Char) : Nat :=
  if text.length = 7 then 7
  else if text[4]? = some '-' then
    if text[5]? = some 'W' then
      if text[8]? = some '-' then
        if (text[10]?.map isDecimalDigit).getD false then 8 else 10
      else 8
    else 10
  else if text[4]? = some 'W' then
    let stop := 7 + ((text.drop 7).takeWhile isDecimalDigit).length
    if stop < 9 then stop else if stop % 2 = 0 then 7 else 8
  else 8

/-- Reads a day, one character that separates, and a time. -/
def readDateTime (text : List Char) : Option Moment :=
  if text.length < 7 then none
  else do
    let place := separatorPlace text
    let date ← readDay (text.take place)
    let (time, offset) ← readTime (text.drop (place + 1))
    some (.dateTime date time offset)

/-- Reads a day that is the whole text. -/
def readDate (text : List Char) : Option Moment :=
  if text.length = 7 ∨ text.length = 8 ∨ text.length = 10 then (readDay text).map .day else none

/-- The calendar value of a text that holds a time exactly if it holds a `T`. -/
def Moment.read (text : List Char) : Option Moment :=
  if text.contains 'T' then readDateTime text else readDate text

/-- The calendar value of a date text, if it has one. -/
def DateText.moment? (date : DateText) : Option Moment := Moment.read date.text.toList

end SearchBar
