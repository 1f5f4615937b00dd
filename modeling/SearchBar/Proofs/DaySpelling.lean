import SearchBar.Calendar.Reading
import SearchBar.Proofs.CalendarDays

/-!
# The spelling of days

A day is spelled by its month or by its week, with marks between the numbers or
without them. A day by its month has the numbers typed, a day by its week is so
many weeks and days behind the beginning of the first week. Every spelling of a
day that exists is read as that day, with the mark of a time behind it where it
is looked for; and a day that is read exists and is spelled at the front.

Main statements: `DaySpelling.read`, `DaySpelling.of_read`,
`DaySpelling.separatorPlace_eq`.
-/

namespace SearchBar

open Text

/-- So many digits that stand for a number. -/
structure Digits (count : Nat) (digits : List Char) (n : Nat) : Prop where
  /-- There are so many. -/
  length : digits.length = count
  /-- There is nothing but digits. -/
  all : ∀ c ∈ digits, isDecimalDigit c = true
  /-- They stand for the number. -/
  value : decimalValue digits = n

/-- A mark between two numbers of the extended form. The basic form has none. -/
def markIn (extended : Bool) (mark : Char) : List Char := if extended then [mark] else []

/-- The spelling of days: by the numbers of the year, the month and the day of the month, or by the
numbers of the year, the week and the weekday, which are numbers of the calendar. Without a weekday
it is the first day of the week. -/
inductive DaySpelling : List Char → CalendarDate → Prop
  | month (extended : Bool) {year month day : List Char} {date : CalendarDate}
    (years : Digits 4 year date.year) (months : Digits 2 month date.month)
    (days : Digits 2 day date.day) :
    DaySpelling (year ++ (markIn extended '-' ++ (month ++ (markIn extended '-' ++ day)))) date
  | week (extended : Bool) {year week : List Char} {y w : Nat} {date : CalendarDate}
    (years : Digits 4 year y) (weeks : Digits 2 week w) (inside : CalendarDate.IsWeekDay y w 1)
    (number : date.ordinal = weekStart y + 7 * (w - 1)) :
    DaySpelling (year ++ (markIn extended '-' ++ 'W' :: week)) date
  | weekday (extended : Bool) {year week weekday : List Char} {y w d : Nat} {date : CalendarDate}
    (years : Digits 4 year y) (weeks : Digits 2 week w) (weekdays : Digits 1 weekday d)
    (inside : CalendarDate.IsWeekDay y w d)
    (number : date.ordinal = weekStart y + (7 * (w - 1) + (d - 1))) :
    DaySpelling (year ++ (markIn extended '-' ++ 'W' :: (week ++ (markIn extended '-' ++ weekday))))
      date

/-- A digit is no other character. -/
theorem ne_of_isDecimalDigit {c d : Char} (digit : isDecimalDigit c = true)
    (other : isDecimalDigit d = false) : c ≠ d := by
  rintro rfl
  rw [digit] at other
  cases other

/-- At least one digit begins with a digit. -/
theorem Digits.exists_cons {count n : Nat} {digits : List Char}
    (run : Digits (count + 1) digits n) :
    ∃ c rest, digits = c :: rest ∧ isDecimalDigit c = true := by
  cases digits with
  | nil => exact absurd run.length (Nat.succ_ne_zero count).symm
  | cons c rest => exact ⟨c, rest, rfl, run.all c List.mem_cons_self⟩

/-- A mark between two numbers is that mark. -/
theorem eq_of_mem_markIn {extended : Bool} {mark c : Char} (member : c ∈ markIn extended mark) :
    c = mark := by
  cases extended with
  | false => cases member
  | true => exact List.mem_singleton.mp member

/-- A day is spelled by digits, hyphens and the letter of a week. -/
theorem DaySpelling.characters {text : List Char} {date : CalendarDate}
    (spelled : DaySpelling text date) :
    ∀ c ∈ text, isDecimalDigit c = true ∨ c = '-' ∨ c = 'W' := by
  intro c member
  have digit : ∀ {count n : Nat} {digits : List Char}, Digits count digits n → c ∈ digits →
      isDecimalDigit c = true ∨ c = '-' ∨ c = 'W' :=
    fun run inside => Or.inl (run.all c inside)
  have hyphen : ∀ {extended : Bool}, c ∈ markIn extended '-' →
      isDecimalDigit c = true ∨ c = '-' ∨ c = 'W' :=
    fun inside => Or.inr (Or.inl (eq_of_mem_markIn inside))
  cases spelled with
  | month extended years months days =>
    simp only [List.mem_append] at member
    rcases member with inside | inside | inside | inside | inside
    · exact digit years inside
    · exact hyphen inside
    · exact digit months inside
    · exact hyphen inside
    · exact digit days inside
  | week extended years weeks =>
    simp only [List.mem_append, List.mem_cons] at member
    rcases member with inside | inside | letter | inside
    · exact digit years inside
    · exact hyphen inside
    · exact Or.inr (Or.inr letter)
    · exact digit weeks inside
  | weekday extended years weeks weekdays =>
    simp only [List.mem_append, List.mem_cons] at member
    rcases member with inside | inside | letter | inside | inside | inside
    · exact digit years inside
    · exact hyphen inside
    · exact Or.inr (Or.inr letter)
    · exact digit weeks inside
    · exact hyphen inside
    · exact digit weekdays inside

/-- The length of a mark between two numbers. -/
theorem length_markIn (extended : Bool) (mark : Char) :
    (markIn extended mark).length = if extended then 1 else 0 := by
  cases extended <;> rfl

/-- A day is spelled by seven, eight or ten characters. -/
theorem DaySpelling.length {text : List Char} {date : CalendarDate}
    (spelled : DaySpelling text date) :
    text.length = 7 ∨ text.length = 8 ∨ text.length = 10 := by
  cases spelled with
  | month extended years months days =>
    simp only [List.length_append, length_markIn, years.length, months.length, days.length]
    cases extended <;> simp
  | week extended years weeks =>
    simp only [List.length_append, List.length_cons, length_markIn, years.length, weeks.length]
    cases extended <;> simp
  | weekday extended years weeks weekdays =>
    simp only [List.length_append, List.length_cons, length_markIn, years.length, weeks.length,
      weekdays.length]
    cases extended <;> simp

/-- Digits are read exactly from the front of a text that begins with so many of them. -/
theorem readDigits_eq_some_iff {count n : Nat} {text rest : List Char} :
    readDigits count text = some (n, rest) ↔
      ∃ digits, text = digits ++ rest ∧ Digits count digits n := by
  simp only [readDigits]
  constructor
  · intro read
    split at read
    · rename_i found
      cases read
      exact ⟨text.take count, (List.take_append_drop count text).symm, found.1,
        List.all_eq_true.mp found.2, rfl⟩
    · cases read
  · rintro ⟨digits, rfl, size, run, value⟩
    simp only [List.take_left' size, List.drop_left' size, size, List.all_eq_true.mpr run, and_self,
      if_true, value]

/-- Digits are read in front of anything. -/
theorem Digits.read {count n : Nat} {digits : List Char} (run : Digits count digits n)
    (rest : List Char) : readDigits count (digits ++ rest) = some (n, rest) :=
  readDigits_eq_some_iff.mpr ⟨digits, rfl, run⟩

/-- Digits are read at the end of a text. -/
theorem Digits.read_last {count n : Nat} {digits : List Char} (run : Digits count digits n) :
    readDigits count digits = some (n, []) :=
  readDigits_eq_some_iff.mpr ⟨digits, (List.append_nil digits).symm, run⟩

/-- What goes on behind digits goes on behind the number they stand for. -/
theorem readDigits_bind_eq_some {α : Type} {count : Nat} {text : List Char}
    {next : Nat × List Char → Option α} {result : α}
    (read : (readDigits count text).bind next = some result) :
    ∃ digits n rest, text = digits ++ rest ∧ Digits count digits n ∧
      next (n, rest) = some result := by
  obtain ⟨⟨n, rest⟩, found, made⟩ := Option.bind_eq_some_iff.mp read
  obtain ⟨digits, same, run⟩ := readDigits_eq_some_iff.mp found
  exact ⟨digits, n, rest, same, run, made⟩

/-- A mark is dropped exactly if it stands at the front. -/
theorem behindMark_eq_some_iff {extended : Bool} {mark : Char} {text rest : List Char} :
    behindMark extended mark text = some rest ↔ text = markIn extended mark ++ rest := by
  cases extended with
  | false =>
    show some text = some rest ↔ text = rest
    exact Option.some_inj
  | true =>
    cases text with
    | nil => exact ⟨nofun, nofun⟩
    | cons c left =>
      show (if c = mark then some left else none) = some rest ↔ c :: left = mark :: rest
      rw [List.cons.injEq]
      by_cases same : c = mark
      · rw [if_pos same, Option.some_inj]
        exact ⟨fun left => ⟨same, left⟩, fun both => both.2⟩
      · rw [if_neg same]
        exact ⟨nofun, fun both => absurd both.1 same⟩

/-- What goes on behind a mark and digits goes on behind the number they stand for. -/
theorem behindMark_bind_eq_some {α : Type} {extended : Bool} {mark : Char} {count : Nat}
    {text : List Char} {next : Nat × List Char → Option α} {result : α}
    (read : ((behindMark extended mark text).bind fun left =>
      (readDigits count left).bind next) = some result) :
    ∃ digits n rest, text = markIn extended mark ++ (digits ++ rest) ∧ Digits count digits n ∧
      next (n, rest) = some result := by
  obtain ⟨left, marked, made⟩ := Option.bind_eq_some_iff.mp read
  obtain ⟨digits, n, rest, rfl, run, made⟩ := readDigits_bind_eq_some made
  exact ⟨digits, n, rest, behindMark_eq_some_iff.mp marked, run, made⟩

/-- A mark is dropped in front of anything. -/
theorem behindMark_markIn (extended : Bool) (mark : Char) (rest : List Char) :
    behindMark extended mark (markIn extended mark ++ rest) = some rest :=
  behindMark_eq_some_iff.mpr rfl

/-- A day is read by its month exactly if it exists and is spelled at the front of the text. -/
theorem readMonthAndDay_eq_some_iff {extended : Bool} {year : Nat} {text : List Char}
    {date : CalendarDate} :
    readMonthAndDay extended year text = some date ↔
      date.Exists ∧ date.year = year ∧ ∃ month day behind,
        text = month ++ (markIn extended '-' ++ (day ++ behind)) ∧ Digits 2 month date.month ∧
          Digits 2 day date.day := by
  constructor
  · intro read
    obtain ⟨month, m, rest, rfl, months, made⟩ := readDigits_bind_eq_some read
    obtain ⟨day, d, behind, rfl, days, found⟩ := behindMark_bind_eq_some made
    obtain ⟨rfl, real⟩ := CalendarDate.ofNumbers?_eq_some_iff.mp found
    exact ⟨real, rfl, month, day, behind, rfl, months, days⟩
  · rintro ⟨real, rfl, month, day, behind, rfl, months, days⟩
    have made : CalendarDate.ofNumbers? date.year date.month date.day = some date :=
      CalendarDate.ofNumbers?_eq_some_iff.mpr ⟨rfl, real⟩
    simp [readMonthAndDay, months.read, behindMark_markIn, days.read, made]

/-- A day is read by its week exactly if it exists and is spelled by the whole text, or with a
weekday at the front of the text. -/
theorem readWeek_eq_some_iff {extended : Bool} {year : Nat} {text : List Char}
    {date : CalendarDate} :
    readWeek extended year text = some date ↔
      date.Exists ∧ ∃ week w, Digits 2 week w ∧
        (text = week ∧ CalendarDate.IsWeekDay year w 1 ∧
            date.ordinal = weekStart year + 7 * (w - 1) ∨
          ∃ weekday d behind, text = week ++ (markIn extended '-' ++ (weekday ++ behind)) ∧
            Digits 1 weekday d ∧ CalendarDate.IsWeekDay year w d ∧
              date.ordinal = weekStart year + (7 * (w - 1) + (d - 1))) := by
  constructor
  · intro read
    obtain ⟨week, w, rest, rfl, weeks, made⟩ := readDigits_bind_eq_some read
    -- a weekday is read in the same way in both forms
    have withDay : ∀ {left : List Char}, rest = markIn extended '-' ++ left →
        ((readDigits 1 left).bind fun weekday => CalendarDate.ofWeek? year w weekday.1) =
          some date → date.Exists ∧ ∃ weekday d behind,
            week ++ rest = week ++ (markIn extended '-' ++ (weekday ++ behind)) ∧
              Digits 1 weekday d ∧ CalendarDate.IsWeekDay year w d ∧
                date.ordinal = weekStart year + (7 * (w - 1) + (d - 1)) := by
      rintro left rfl found
      obtain ⟨weekday, d, behind, rfl, weekdays, found⟩ := readDigits_bind_eq_some found
      obtain ⟨inside, real, number⟩ := CalendarDate.ofWeek?_eq_some_iff.mp found
      exact ⟨real, weekday, d, behind, rfl, weekdays, inside, number⟩
    simp only at made
    split at made
    · obtain ⟨inside, real, number⟩ := CalendarDate.ofWeek?_eq_some_iff.mp made
      exact ⟨real, week, w, weeks, Or.inl ⟨List.append_nil week, inside, number⟩⟩
    · obtain ⟨real, spelled⟩ := withDay rfl made
      exact ⟨real, week, w, weeks, Or.inr spelled⟩
    · cases made
    · obtain ⟨real, spelled⟩ := withDay rfl made
      exact ⟨real, week, w, weeks, Or.inr spelled⟩
  · rintro ⟨real, week, w, weeks, ⟨rfl, inside, number⟩ |
      ⟨weekday, d, behind, rfl, weekdays, inside, number⟩⟩
    · have made : CalendarDate.ofWeek? year w 1 = some date :=
        CalendarDate.ofWeek?_eq_some_iff.mpr ⟨inside, real, number⟩
      simp [readWeek, weeks.read_last, made]
    · have made : CalendarDate.ofWeek? year w d = some date :=
        CalendarDate.ofWeek?_eq_some_iff.mpr ⟨inside, real, number⟩
      cases extended with
      | false =>
        have dayRead := weekdays.read behind
        obtain ⟨c, others, rfl, -⟩ := weekdays.exists_cons
        simp only [List.cons_append] at dayRead
        simp [readWeek, markIn, weeks.read, dayRead, made]
      | true => simp [readWeek, markIn, weeks.read, weekdays.read, made]

/-- A day that is read exists, and is spelled at the front of the text. -/
theorem DaySpelling.of_read {text : List Char} {date : CalendarDate}
    (read : readDay text = some date) :
    date.Exists ∧ ∃ front behind, text = front ++ behind ∧ DaySpelling front date := by
  obtain ⟨year, y, rest, rfl, years, made⟩ := readDigits_bind_eq_some read
  have byMonth : ∀ (extended : Bool) {left : List Char}, rest = markIn extended '-' ++ left →
      readMonthAndDay extended y left = some date →
        date.Exists ∧ ∃ front behind, year ++ rest = front ++ behind ∧ DaySpelling front date := by
    rintro extended left rfl found
    obtain ⟨real, rfl, month, day, behind, rfl, months, days⟩ :=
      readMonthAndDay_eq_some_iff.mp found
    exact ⟨real, _, behind, by simp only [List.append_assoc], .month extended years months days⟩
  have byWeek : ∀ (extended : Bool) {left : List Char},
      rest = markIn extended '-' ++ 'W' :: left → readWeek extended y left = some date →
        date.Exists ∧ ∃ front behind, year ++ rest = front ++ behind ∧ DaySpelling front date := by
    rintro extended left rfl found
    obtain ⟨real, week, w, weeks, ⟨rfl, inside, number⟩ |
      ⟨weekday, d, behind, rfl, weekdays, inside, number⟩⟩ := readWeek_eq_some_iff.mp found
    · exact ⟨real, _, [], (List.append_nil _).symm, .week extended years weeks inside number⟩
    · exact ⟨real, _, behind, by simp only [List.append_assoc, List.cons_append],
        .weekday extended years weeks weekdays inside number⟩
  simp only at made
  split at made
  · exact byWeek true rfl made
  · exact byMonth true rfl made
  · exact byWeek false rfl made
  · exact byMonth false rfl made

/-- A day that exists is read from its spelling. -/
theorem DaySpelling.read {text : List Char} {date : CalendarDate}
    (spelled : DaySpelling text date) (real : date.Exists) : readDay text = some date := by
  cases spelled with
  | @month extended year month day _ years months days =>
    have found : readMonthAndDay extended date.year (month ++ (markIn extended '-' ++ day)) =
        some date := readMonthAndDay_eq_some_iff.mpr
      ⟨real, rfl, month, day, [], by rw [List.append_nil], months, days⟩
    -- the digit behind the year, or behind its hyphen, begins no week
    obtain ⟨c, others, rfl, digit⟩ := months.exists_cons
    have notHyphen : c ≠ '-' := ne_of_isDecimalDigit digit (by decide)
    have notWeek : c ≠ 'W' := ne_of_isDecimalDigit digit (by decide)
    cases extended with
    | false => simpa [readDay, markIn, years.read, notHyphen, notWeek] using found
    | true => simpa [readDay, markIn, years.read, notWeek] using found
  | @week extended year week y w _ years weeks inside number =>
    have found : readWeek extended y week = some date := readWeek_eq_some_iff.mpr
      ⟨real, week, w, weeks, Or.inl ⟨rfl, inside, number⟩⟩
    cases extended with
    | false => simpa [readDay, markIn, years.read] using found
    | true => simpa [readDay, markIn, years.read] using found
  | @weekday extended year week weekday y w d _ years weeks weekdays inside number =>
    have found : readWeek extended y (week ++ (markIn extended '-' ++ weekday)) = some date :=
      readWeek_eq_some_iff.mpr ⟨real, week, w, weeks, Or.inr
        ⟨weekday, d, [], by rw [List.append_nil], weekdays, inside, number⟩⟩
    cases extended with
    | false => simpa [readDay, markIn, years.read] using found
    | true => simpa [readDay, markIn, years.read] using found

/-- Behind a spelling of a day, the mark of a time stands in the place where it is looked for. -/
theorem DaySpelling.separatorPlace_eq {text : List Char} {date : CalendarDate}
    (spelled : DaySpelling text date) (behind : List Char) :
    separatorPlace (text ++ 'T' :: behind) = text.length := by
  have size := spelled.length
  have longer : (text ++ 'T' :: behind).length ≠ 7 := by
    rw [List.length_append, List.length_cons]
    omega
  have four : ∀ {year : List Char} {y : Nat}, Digits 4 year y →
      ∃ a b c d, year = [a, b, c, d] := by
    intro year y years
    match year, years.length with
    | [a, b, c, d], _ => exact ⟨a, b, c, d, rfl⟩
  have two : ∀ {number : List Char} {n : Nat}, Digits 2 number n →
      ∃ a b, number = [a, b] ∧ a ≠ '-' ∧ a ≠ 'W' := by
    intro number n run
    match number, run.length, run.all with
    | [a, b], _, digits =>
      have digit := digits a List.mem_cons_self
      exact ⟨a, b, rfl, ne_of_isDecimalDigit digit (by decide),
        ne_of_isDecimalDigit digit (by decide)⟩
  unfold separatorPlace
  rw [if_neg longer]
  cases spelled with
  | month extended years months days =>
    obtain ⟨a, b, c, d, rfl⟩ := four years
    obtain ⟨e, f, rfl, notHyphen, notWeek⟩ := two months
    obtain ⟨g, h, rfl, -, -⟩ := two days
    cases extended with
    | false => simp [markIn, notHyphen, notWeek]
    | true => simp [markIn, notWeek]
  | week extended years weeks =>
    obtain ⟨a, b, c, d, rfl⟩ := four years
    obtain ⟨e, f, rfl, -, -⟩ := two weeks
    have mark : isDecimalDigit 'T' = false := by decide
    cases extended with
    | false => simp [markIn, mark]
    | true => simp [markIn]
  | weekday extended years weeks weekdays =>
    obtain ⟨a, b, c, d, rfl⟩ := four years
    obtain ⟨e, f, rfl, -, -⟩ := two weeks
    have mark : isDecimalDigit 'T' = false := by decide
    obtain ⟨g, others, rfl, digit⟩ := weekdays.exists_cons
    obtain rfl : others = [] := List.length_eq_zero_iff.mp (Nat.succ.inj weekdays.length)
    cases extended with
    | false => simp [markIn, mark, digit]
    | true => simp [markIn, mark]

end SearchBar
