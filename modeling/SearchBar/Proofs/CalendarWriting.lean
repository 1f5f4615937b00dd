import SearchBar.Proofs.CalendarSpelling
import SearchBar.Proofs.LeadingZeros

/-!
# Calendar values written and read

A date text may have a calendar value, spelled in one of many ways. Every value
that exists is spelled by some date text, so that the values of date texts are
just those that exist. A value without a fraction of a second is written in one of
its spellings, from date characters only, and so it is read back as the same
value; a fraction is written behind a point, which is no date character.

Main statements: `DateText.exists_moment?_iff`, `DateText.moment?_stable`.
-/

namespace SearchBar

open Text

/-- A padded numeral is the shortest one with zeros in front. -/
theorem paddedNumeral_eq (width n : Nat) :
    paddedNumeral width n = withZeros (width - (naturalNumeral n).length) (naturalNumeral n) := by
  rw [paddedNumeral, withZeros, String.length_toList, String.ofList_append, String.ofList_toList]

/-- A padded numeral of a number that is small enough consists of digits that stand for it. -/
theorem digits_paddedNumeral {width n : Nat} (present : 0 < width) (small : n < 10 ^ width) :
    Digits width (paddedNumeral width n).toList n := by
  have fits : (naturalNumeral n).length ≤ width := (Nat.length_repr_le_iff present).mpr small
  have run : IsDigitRun (naturalNumeral n) :=
    ⟨Nat.repr_ne_empty, fun c => isDecimalDigit_of_mem_naturalNumeral⟩
  rw [paddedNumeral_eq]
  constructor
  · rw [String.length_toList, length_withZeros]
    omega
  · exact (isDigitRun_withZeros run _).2
  · rw [decimalValue_withZeros, decimalValue_naturalNumeral]

/-- A number that is small enough takes two digits. -/
theorem digits_two {n : Nat} (small : n < 100) : Digits 2 (paddedNumeral 2 n).toList n :=
  digits_paddedNumeral (by decide) small

/-- The months are no longer than 31 days. -/
theorem CalendarDate.daysInMonth_le (year month : Nat) : daysInMonth year month ≤ 31 := by
  have short : ∀ length ∈ monthLengths year, length ≤ 31 := by
    cases long : isLeapYear year <;> simp [monthLengths, long]
  unfold daysInMonth
  split
  · exact Nat.zero_le 31
  · by_cases inside : month - 1 < (monthLengths year).length
    · rw [List.getD_eq_getElem?_getD, List.getElem?_eq_getElem inside, Option.getD_some]
      exact short _ (List.getElem_mem inside)
    · rw [List.getD_eq_getElem?_getD, List.getElem?_eq_none (Nat.not_lt.mp inside)]
      exact Nat.zero_le 31

/-- A day is written in the extended form, by its month. -/
theorem CalendarDate.spelling_text {date : CalendarDate} (real : date.Exists) :
    DaySpelling date.text.toList date := by
  obtain ⟨-, lastYear, -, lastMonth, -, lastDay⟩ := real
  have longest := daysInMonth_le date.year date.month
  have years : calendarYears.2 = 9999 := rfl
  have year : Digits 4 (paddedNumeral 4 date.year).toList date.year :=
    digits_paddedNumeral (by decide) (by omega)
  have written : date.text.toList = (paddedNumeral 4 date.year).toList ++ (markIn true '-' ++
      ((paddedNumeral 2 date.month).toList ++ (markIn true '-' ++
        (paddedNumeral 2 date.day).toList))) := by
    have hyphen : "-".toList = markIn true '-' := rfl
    simp only [text, String.toList_append, hyphen, List.append_assoc]
  rw [written]
  exact .month true year (digits_two (by omega)) (digits_two (by omega))

/-- A fraction of a second that is small enough is spelled by six digits. -/
theorem fractionDigits_padded {n : Nat} (small : n < microsecondsPerSecond) :
    FractionDigits (paddedNumeral 6 n).toList n := by
  have digits : Digits 6 (paddedNumeral 6 n).toList n := digits_paddedNumeral (by decide) small
  refine ⟨digits.all, ?_⟩
  rw [List.take_of_length_le (Nat.le_of_eq digits.length), digits.value, digits.length,
    Nat.sub_self, Nat.pow_zero, Nat.mul_one]

/-- A time that a clock shows has a spelling, for the digits of its fraction may stand behind a
colon. -/
theorem ClockTime.exists_spelling {time : ClockTime} (shown : time.Exists) :
    ∃ text, ClockSpelling text time := by
  obtain ⟨hours, minutes, seconds, fraction⟩ := shown
  have digits := fractionDigits_padded fraction
  have size : (paddedNumeral 6 time.microsecond).toList.length = 6 :=
    (digits_paddedNumeral (by decide) fraction).length
  have several : 2 ≤ (markIn true ':' ++ (paddedNumeral 6 time.microsecond).toList).length := by
    rw [List.length_append, size]
    omega
  exact ⟨_, .fraction true (digits_two (by omega)) (digits_two (by omega)) (digits_two (by omega))
    digits several⟩

/-- A time without a fraction is written in the extended form, with its seconds. -/
theorem ClockTime.spelling_text {time : ClockTime} (shown : time.Exists)
    (whole : time.microsecond = 0) : ClockSpelling time.text.toList time := by
  obtain ⟨hour, minute, second, microsecond⟩ := time
  obtain ⟨hours, minutes, seconds, -⟩ : hour < 24 ∧ minute < 60 ∧ second < 60 ∧ _ := shown
  obtain rfl : microsecond = 0 := whole
  have written : (ClockTime.mk hour minute second 0).text.toList =
      (paddedNumeral 2 hour).toList ++ (markIn true ':' ++ ((paddedNumeral 2 minute).toList ++
        (markIn true ':' ++ (paddedNumeral 2 second).toList))) := by
    have colon : ":".toList = markIn true ':' := rfl
    simp only [text, fractionText, if_true, String.append_empty, String.toList_append, colon,
      List.append_assoc]
  rw [written]
  exact .second true (digits_two (by omega)) (digits_two (by omega)) (digits_two (by omega))

/-- The time that stands for a distance from universal time. -/
def ClockTime.ofDistance (size : Nat) : ClockTime :=
  ⟨size / microsecondsPerSecond / 3600, size / microsecondsPerSecond / 60 % 60,
    size / microsecondsPerSecond % 60, size % microsecondsPerSecond⟩

/-- A distance shorter than a day has fewer seconds than a day. -/
theorem seconds_lt_of_short {size : Nat} (short : size < microsecondsPerDay) :
    size / microsecondsPerSecond < 86400 := by
  rw [microsecondsPerDay, Nat.mul_comm] at short
  exact Nat.div_lt_of_lt_mul short

/-- A distance shorter than a day is that of a time on a clock. -/
theorem ClockTime.ofDistance_exists {size : Nat} (short : size < microsecondsPerDay) :
    (ofDistance size).Exists := by
  have day := seconds_lt_of_short short
  have fraction : size % microsecondsPerSecond < microsecondsPerSecond :=
    Nat.mod_lt _ (by decide)
  refine ⟨?_, ?_, ?_, fraction⟩ <;> simp only [ofDistance] <;> omega

/-- The time that stands for a distance has that distance, unless it is below a second. -/
theorem ClockTime.distance_ofDistance {size : Nat}
    (known : size < microsecondsPerSecond → size = 0) : (ofDistance size).distance = size := by
  have whole : (ofDistance size).seconds = size / microsecondsPerSecond := by
    simp only [ofDistance, seconds]
    omega
  rw [distance, whole]
  by_cases small : size < microsecondsPerSecond
  · rw [if_pos (Nat.div_eq_of_lt small), known small]
  · have present : size / microsecondsPerSecond ≠ 0 :=
      Nat.ne_of_gt (Nat.div_pos (Nat.not_lt.mp small) (by decide))
    rw [if_neg present]
    exact Nat.div_add_mod size microsecondsPerSecond

/-- A sign in front of a time spells the distance that the time stands for. -/
theorem OffsetSpelling.signed {text : List Char} {distance : Int}
    (known : distance.natAbs < microsecondsPerSecond → distance = 0)
    (spelled : ClockSpelling text (ClockTime.ofDistance distance.natAbs)) :
    OffsetSpelling ((if distance < 0 then "-" else "+").toList ++ text) (some distance) := by
  have size : (ClockTime.ofDistance distance.natAbs).distance = distance.natAbs :=
    ClockTime.distance_ofDistance fun small => Int.natAbs_eq_zero.mpr (known small)
  by_cases west : distance < 0
  · have same : distance = -((ClockTime.ofDistance distance.natAbs).distance : Int) := by omega
    have written := OffsetSpelling.west spelled
    rw [← same] at written
    rw [if_pos west]
    exact written
  · have same : distance = ((ClockTime.ofDistance distance.natAbs).distance : Int) := by omega
    have written := OffsetSpelling.east spelled
    rw [← same] at written
    rw [if_neg west]
    exact written

/-- A distance in whole seconds is written with its sign, and with its seconds if there are any. -/
theorem offsetText_spelling {offset : Int} (short : offset.natAbs < microsecondsPerDay)
    (known : offset.natAbs < microsecondsPerSecond → offset = 0)
    (whole : offset.natAbs % microsecondsPerSecond = 0) :
    OffsetSpelling (offsetText offset).toList (some offset) := by
  have colon : ":".toList = markIn true ':' := rfl
  have day := seconds_lt_of_short short
  generalize seconds : offset.natAbs / microsecondsPerSecond = size at day
  have hour : Digits 2 (paddedNumeral 2 (size / 3600)).toList (size / 3600) :=
    digits_two (by omega)
  have minute : Digits 2 (paddedNumeral 2 (size / 60 % 60)).toList (size / 60 % 60) :=
    digits_two (by omega)
  have second : Digits 2 (paddedNumeral 2 (size % 60)).toList (size % 60) :=
    digits_two (by omega)
  by_cases even : size % 60 = 0
  · have spelled := ClockSpelling.minute true hour minute
    have time : ClockTime.ofDistance offset.natAbs = ⟨size / 3600, size / 60 % 60, 0, 0⟩ := by
      rw [ClockTime.ofDistance, seconds, even, whole]
    rw [← time] at spelled
    have written := OffsetSpelling.signed known spelled
    simpa only [offsetText, seconds, even, whole, and_self, if_true, String.append_empty,
      String.toList_append, colon, List.append_assoc] using written
  · have spelled := ClockSpelling.second true hour minute second
    have time : ClockTime.ofDistance offset.natAbs =
        ⟨size / 3600, size / 60 % 60, size % 60, 0⟩ := by
      rw [ClockTime.ofDistance, seconds, whole]
    rw [← time] at spelled
    have written := OffsetSpelling.signed known spelled
    simpa only [offsetText, seconds, even, whole, false_and, if_false, fractionText, if_true,
      String.append_empty, String.toList_append, colon, List.append_assoc] using written

/-- Neither the time nor the distance from universal time has a fraction of a second. -/
def Moment.IsWhole : Moment → Prop
  | day _ => True
  | dateTime _ time offset =>
    time.microsecond = 0 ∧ ∀ distance ∈ offset, distance.natAbs % microsecondsPerSecond = 0

/-- A value that exists has a spelling. -/
theorem Moment.exists_spelling {moment : Moment} (real : moment.Exists) :
    ∃ text, Moment.Spelling text moment := by
  cases moment with
  | day date => exact ⟨_, .day (CalendarDate.spelling_text real)⟩
  | dateTime date time offset =>
    obtain ⟨realDay, shown, known⟩ := real
    have days := CalendarDate.spelling_text realDay
    obtain ⟨clock, times⟩ := ClockTime.exists_spelling shown
    cases offset with
    | none => exact ⟨_, .dateTime days times .unknown⟩
    | some distance =>
      obtain ⟨short, present⟩ := known distance rfl
      obtain ⟨zone, spelled⟩ := ClockTime.exists_spelling (ClockTime.ofDistance_exists short)
      exact ⟨_, .dateTime days times (.signed present spelled)⟩

/-- A value that exists and has no fraction of a second is spelled by its text. -/
theorem Moment.spelling_text {moment : Moment} (real : moment.Exists) (whole : moment.IsWhole) :
    Moment.Spelling moment.text.toList moment := by
  cases moment with
  | day date => exact .day (CalendarDate.spelling_text real)
  | dateTime date time offset =>
    obtain ⟨realDay, shown, known⟩ := real
    obtain ⟨wholeTime, wholeDistance⟩ := whole
    have written : (Moment.dateTime date time offset).text.toList = date.text.toList ++ 'T' ::
        (time.text.toList ++ ((offset.map offsetText).getD "").toList) := by
      have mark : "T".toList = ['T'] := rfl
      simp only [text, String.toList_append, mark, List.append_assoc, List.cons_append,
        List.nil_append]
    have offsets : OffsetSpelling ((offset.map offsetText).getD "").toList offset := by
      cases offset with
      | none => exact .unknown
      | some distance =>
        obtain ⟨short, present⟩ := known distance rfl
        exact offsetText_spelling short present (wholeDistance distance rfl)
    rw [written]
    exact .dateTime (CalendarDate.spelling_text realDay) (ClockTime.spelling_text shown wholeTime)
      offsets

/-- A fraction of a second is written behind a point. -/
theorem point_mem_fractionText {n : Nat} (present : n ≠ 0) : '.' ∈ (fractionText n).toList := by
  have point : ".".toList = ['.'] := rfl
  rw [fractionText, if_neg present, String.toList_append, point]
  exact List.mem_cons_self

/-- The text of a value with a fraction of a second holds a point. -/
theorem Moment.point_mem_text {moment : Moment} (broken : ¬ moment.IsWhole) :
    '.' ∈ moment.text.toList := by
  cases moment with
  | day date => exact absurd trivial broken
  | dateTime date time offset =>
    simp only [text, String.toList_append, List.mem_append]
    by_cases wholeTime : time.microsecond = 0
    · have brokenDistance : ∃ distance ∈ offset, distance.natAbs % microsecondsPerSecond ≠ 0 := by
        by_contra none
        exact broken ⟨wholeTime, fun distance known => by_contra fun part =>
          none ⟨distance, known, part⟩⟩
      obtain ⟨distance, rfl, part⟩ := brokenDistance
      have written := point_mem_fractionText part
      refine Or.inr ?_
      simp only [Option.map_some, Option.getD_some, offsetText, part, and_false, if_false,
        String.toList_append, List.mem_append]
      exact Or.inr (Or.inr written)
    · have written := point_mem_fractionText wholeTime
      refine Or.inl (Or.inr ?_)
      simp only [ClockTime.text, String.toList_append, List.mem_append]
      exact Or.inr written

/-- A digit is a date character. -/
theorem isDateCharacter_of_isDecimalDigit {c : Char} (digit : isDecimalDigit c = true) :
    isDateCharacter c = true := by
  rw [isDecimalDigit] at digit
  simp [isDateCharacter, digit]

/-- A value is spelled by date characters. -/
theorem Moment.Spelling.isDateText {text : List Char} {moment : Moment}
    (spelled : Moment.Spelling text moment) : SearchBar.isDateText text = true := by
  have days : ∀ {front : List Char} {date : CalendarDate}, DaySpelling front date →
      ∀ c ∈ front, isDateCharacter c = true := by
    intro front date spelled c member
    rcases spelled.characters c member with digit | rfl | rfl
    · exact isDateCharacter_of_isDecimalDigit digit
    · decide
    · decide
  have times : ∀ {clock : List Char} {time : ClockTime}, ClockSpelling clock time →
      ∀ c ∈ clock, isDateCharacter c = true := by
    intro clock time spelled c member
    rcases spelled.characters c member with digit | rfl
    · exact isDateCharacter_of_isDecimalDigit digit
    · decide
  have signed : ∀ {sign : Char} {clock : List Char} {time : ClockTime},
      isDateCharacter sign = true → ClockSpelling clock time →
        ∀ c ∈ sign :: clock, isDateCharacter c = true :=
    fun sign spelled => List.forall_mem_cons.mpr ⟨sign, times spelled⟩
  rw [SearchBar.isDateText, Bool.and_eq_true, Bool.not_eq_true', List.isEmpty_eq_false_iff,
    List.all_eq_true]
  cases spelled with
  | day spelled =>
    refine ⟨?_, days spelled⟩
    rintro rfl
    exact absurd spelled.length (by decide)
  | dateTime spelled clock zone =>
    refine ⟨List.append_ne_nil_of_right_ne_nil _ (List.cons_ne_nil _ _), ?_⟩
    intro c member
    rw [List.mem_append, List.mem_cons, List.mem_append] at member
    rcases member with inDay | rfl | inTime | inZone
    · exact days spelled c inDay
    · decide
    · exact times clock c inTime
    · cases zone with
      | unknown => cases inZone
      | universal => exact (List.mem_singleton.mp inZone) ▸ by decide
      | east clock => exact signed (by decide) clock c inZone
      | west clock => exact signed (by decide) clock c inZone

/-- A value that exists is the calendar value of a date text. -/
theorem DateText.exists_moment?_iff {moment : Moment} :
    (∃ date : DateText, date.moment? = some moment) ↔ moment.Exists := by
  constructor
  · rintro ⟨date, read⟩
    exact (Moment.spelling_of_read read).1
  · intro real
    obtain ⟨text, spelled⟩ := Moment.exists_spelling real
    have lexical : isDateText (String.ofList text).toList = true := by
      rw [String.toList_ofList]
      exact spelled.isDateText
    refine ⟨⟨String.ofList text, lexical⟩, ?_⟩
    rw [moment?, String.toList_ofList]
    exact Moment.read_of_spelling real spelled

/-- A text with a point is no date text. -/
theorem DateText.ofString?_eq_none {text : String} (point : '.' ∈ text.toList) :
    DateText.ofString? text = none := by
  cases made : DateText.ofString? text with
  | none => rfl
  | some date =>
    obtain rfl := DateText.ofString?_eq_some_iff.mp made
    exact absurd (date.characters '.' point) (by decide)

/-- A date text alone is a filter for the time of creation. -/
theorem parseFilter_created (date : DateText) :
    parseFilter ("created:" ++ date.text) = .ok (.created (.exactly date)) := by
  have keyword : Keyword.created.written = "created:" := by decide
  rw [parseFilter_eq_ok_iff, ← keyword]
  exact .created (.exactly ⟨date.lexical, rfl⟩)

/-- The calendar value of a date text exists, is a time exactly if the text holds the mark of a time,
is spelled by the text in the loose way, and is the value of every date text that spells it. Without
a fraction of a second it is written as one of these, which can be typed behind the keyword for the
time of creation and has the same calendar value, the distance from universal time included. With a
fraction it is written with a point, and its text is no date text. -/
theorem DateText.moment?_stable {date : DateText} {moment : Moment}
    (read : date.moment? = some moment) :
    moment.Exists ∧ (moment.hasTime = true ↔ 'T' ∈ date.text.toList) ∧
      Moment.LooseSpelling date.text.toList moment ∧
      (∀ other : DateText, Moment.Spelling other.text.toList moment →
        other.moment? = some moment) ∧
      (moment.IsWhole → ∃ again : DateText, DateText.ofString? moment.text = some again ∧
        parseFilter ("created:" ++ moment.text) = .ok (.created (.exactly again)) ∧
        parseQuery ("created:" ++ moment.text) = .ok ⟨[.created (.exactly again)]⟩ ∧
        again.moment? = some moment) ∧
      (¬ moment.IsWhole → '.' ∈ moment.text.toList ∧ DateText.ofString? moment.text = none) := by
  obtain ⟨real, timed, spelled⟩ := Moment.spelling_of_read read
  refine ⟨real, timed, spelled, fun other again => Moment.read_of_spelling real again, ?_, ?_⟩
  · intro whole
    have written := Moment.spelling_text real whole
    have typed := parseFilter_created ⟨moment.text, written.isDateText⟩
    exact ⟨⟨moment.text, written.isDateText⟩, DateText.ofString?_eq_some_iff.mpr rfl, typed,
      parseQuery_of_parseFilter typed, Moment.read_of_spelling real written⟩
  · intro broken
    have point := Moment.point_mem_text broken
    exact ⟨point, DateText.ofString?_eq_none point⟩

/-- The last Sunday of a year with 53 weeks lies in the next year. Its time and the distance from
universal time are typed in the basic form, and written in the extended one. -/
theorem DateText.moment?_stable_week :
    ∃ date again : DateText, date.text = "2020-W53-7T101112-010203" ∧
      again.text = "2021-01-03T10:11:12-01:02:03" ∧
      date.moment? = some (.dateTime ⟨2021, 1, 3⟩ ⟨10, 11, 12, 0⟩ (some (-3723000000))) ∧
      parseFilter "created:2021-01-03T10:11:12-01:02:03" = .ok (.created (.exactly again)) ∧
      again.moment? = date.moment? := by
  let date : DateText := ⟨"2020-W53-7T101112-010203", by decide⟩
  have read : date.moment? =
      some (.dateTime ⟨2021, 1, 3⟩ ⟨10, 11, 12, 0⟩ (some (-3723000000))) := by
    decide +kernel
  have whole : Moment.IsWhole
      (.dateTime ⟨2021, 1, 3⟩ ⟨10, 11, 12, 0⟩ (some (-3723000000))) := by
    refine ⟨rfl, ?_⟩
    rintro distance ⟨⟩
    rfl
  obtain ⟨-, -, -, -, stable, -⟩ := DateText.moment?_stable read
  obtain ⟨again, made, typed, -, same⟩ := stable whole
  have written :
      (Moment.dateTime ⟨2021, 1, 3⟩ ⟨10, 11, 12, 0⟩ (some (-3723000000))).text =
        "2021-01-03T10:11:12-01:02:03" := by decide +kernel
  rw [written] at made typed
  exact ⟨date, again, rfl, DateText.ofString?_eq_some_iff.mp made, read, typed,
    same.trans read.symm⟩

/-- Digits behind the seconds are a fraction although no point stands between them, so that the value
of a date text is not always written as a date text. -/
theorem DateText.moment?_fraction :
    ∃ date : DateText, date.text = "2021-03-04T11223345" ∧
      date.moment? = some (.dateTime ⟨2021, 3, 4⟩ ⟨11, 22, 33, 450000⟩ none) ∧
      (Moment.dateTime ⟨2021, 3, 4⟩ ⟨11, 22, 33, 450000⟩ none).text =
        "2021-03-04T11:22:33.450000" ∧
      DateText.ofString? "2021-03-04T11:22:33.450000" = none :=
  ⟨⟨"2021-03-04T11223345", by decide⟩, rfl, by decide +kernel, by decide +kernel, by decide⟩

end SearchBar
