import SearchBar.Proofs.Boundary
import SearchBar.Proofs.DaySpelling

/-!
# The spelling of times

A time is spelled by up to three numbers and the digits of a fraction, with
colons between them or without, and the distance from universal time by a letter
or by a sign and a time. A distance is as long as the time behind its sign.

Every spelling of a time that a clock shows, with a distance shorter than a day,
is read as that time and that distance. Whatever is read is spelled at the front,
and ends in front of the distance; only if there is one may text stand unread
between the two.

Main statements: `readTime_of_spelling`, `spelling_of_readTime`.
-/

namespace SearchBar

open Text

/-- The digits of a fraction of a second stand for so many microseconds. Digits beyond the sixth do
not count. -/
structure FractionDigits (digits : List Char) (n : Nat) : Prop where
  /-- There is nothing but digits. -/
  all : ∀ c ∈ digits, isDecimalDigit c = true
  /-- The first six stand for the microseconds, as if zeros stood behind them. -/
  value : decimalValue (digits.take 6) * 10 ^ (6 - digits.length) = n

/-- The spelling of times. Numbers that are missing are zero. A fraction has one digit behind its
colon, or two without a colon. -/
inductive ClockSpelling : List Char → ClockTime → Prop
  | hour {hour : List Char} {h : Nat} (hours : Digits 2 hour h) : ClockSpelling hour ⟨h, 0, 0, 0⟩
  | minute (extended : Bool) {hour minute : List Char} {h m : Nat} (hours : Digits 2 hour h)
    (minutes : Digits 2 minute m) :
    ClockSpelling (hour ++ (markIn extended ':' ++ minute)) ⟨h, m, 0, 0⟩
  | second (extended : Bool) {hour minute second : List Char} {h m s : Nat}
    (hours : Digits 2 hour h) (minutes : Digits 2 minute m) (seconds : Digits 2 second s) :
    ClockSpelling (hour ++ (markIn extended ':' ++ (minute ++ (markIn extended ':' ++ second))))
      ⟨h, m, s, 0⟩
  | fraction (extended : Bool) {hour minute second digits : List Char} {h m s n : Nat}
    (hours : Digits 2 hour h) (minutes : Digits 2 minute m) (seconds : Digits 2 second s)
    (fraction : FractionDigits digits n)
    (several : 2 ≤ (markIn extended ':' ++ digits).length) :
    ClockSpelling (hour ++ (markIn extended ':' ++ (minute ++ (markIn extended ':' ++
      (second ++ (markIn extended ':' ++ digits)))))) ⟨h, m, s, n⟩

/-- The spelling of distances from universal time, which may be missing. -/
inductive OffsetSpelling : List Char → Option Int → Prop
  | unknown : OffsetSpelling [] none
  | universal : OffsetSpelling ['Z'] (some 0)
  | east {text : List Char} {time : ClockTime} (spelled : ClockSpelling text time) :
    OffsetSpelling ('+' :: text) (some time.distance)
  | west {text : List Char} {time : ClockTime} (spelled : ClockSpelling text time) :
    OffsetSpelling ('-' :: text) (some (-time.distance))

/-- A time is spelled by digits and colons. -/
theorem ClockSpelling.characters {text : List Char} {time : ClockTime}
    (spelled : ClockSpelling text time) : ∀ c ∈ text, isDecimalDigit c = true ∨ c = ':' := by
  intro c member
  have colon : ∀ {extended : Bool}, c ∈ markIn extended ':' → isDecimalDigit c = true ∨ c = ':' :=
    fun inside => Or.inr (eq_of_mem_markIn inside)
  cases spelled with
  | hour hours => exact Or.inl (hours.all c member)
  | minute extended hours minutes =>
    simp only [List.mem_append] at member
    rcases member with inside | inside | inside
    · exact Or.inl (hours.all c inside)
    · exact colon inside
    · exact Or.inl (minutes.all c inside)
  | second extended hours minutes seconds =>
    simp only [List.mem_append] at member
    rcases member with inside | inside | inside | inside | inside
    · exact Or.inl (hours.all c inside)
    · exact colon inside
    · exact Or.inl (minutes.all c inside)
    · exact colon inside
    · exact Or.inl (seconds.all c inside)
  | fraction extended hours minutes seconds fraction =>
    simp only [List.mem_append] at member
    rcases member with inside | inside | inside | inside | inside | inside | inside
    · exact Or.inl (hours.all c inside)
    · exact colon inside
    · exact Or.inl (minutes.all c inside)
    · exact colon inside
    · exact Or.inl (seconds.all c inside)
    · exact colon inside
    · exact Or.inl (fraction.all c inside)

/-- A time is spelled by at least one character. -/
theorem ClockSpelling.ne_nil {text : List Char} {time : ClockTime}
    (spelled : ClockSpelling text time) : text ≠ [] := by
  have present : ∀ {hour : List Char} {h : Nat}, Digits 2 hour h → hour ≠ [] := by
    intro hour h hours
    obtain ⟨c, rest, rfl, -⟩ := hours.exists_cons
    exact List.cons_ne_nil c rest
  cases spelled with
  | hour hours => exact present hours
  | minute extended hours => exact List.append_ne_nil_of_left_ne_nil (present hours) _
  | second extended hours => exact List.append_ne_nil_of_left_ne_nil (present hours) _
  | fraction extended hours => exact List.append_ne_nil_of_left_ne_nil (present hours) _

/-- A fraction that is read stands at the front of the text, with six digits at least unless it is
the whole text. -/
theorem FractionDigits.of_read {text rest : List Char} {n : Nat}
    (read : readFraction text = some (n, rest)) :
    ∃ digits, text = digits ++ rest ∧ min 6 text.length ≤ digits.length ∧
      FractionDigits digits n := by
  obtain ⟨counted, value, left, same, run, made⟩ := readDigits_bind_eq_some read
  cases made
  have whole := List.takeWhile_append_dropWhile (p := isDecimalDigit) (l := left)
  refine ⟨counted ++ left.takeWhile isDecimalDigit, ?_, ?_, ?_, ?_⟩
  · rw [List.append_assoc, whole, same]
  · rw [List.length_append, run.length]
    exact Nat.le_add_right _ _
  · intro c member
    rcases List.mem_append.mp member with inside | inside
    · exact run.all c inside
    · exact List.all_eq_true.mp List.all_takeWhile c inside
  · have size : text.length = counted.length + left.length := by rw [same, List.length_append]
    have length := run.length
    by_cases long : counted.length = 6
    · -- there may be more digits than six, and none is missing
      have none_missing : 6 - text.length = 0 := by omega
      have none_missing' : 6 - (counted ++ left.takeWhile isDecimalDigit).length = 0 := by
        rw [List.length_append]
        omega
      rw [List.take_left' long, run.value, none_missing, none_missing']
      rfl
    · -- there are no more digits than are counted
      obtain rfl : left = [] := List.length_eq_zero_iff.mp (by omega)
      rw [List.takeWhile_nil, List.append_nil, List.take_of_length_le (by omega), run.value, same,
        List.append_nil]
      rfl

/-- A fraction is read from its digits. -/
theorem FractionDigits.read {digits : List Char} {n : Nat} (fraction : FractionDigits digits n) :
    readFraction digits = some (n, []) := by
  have run : Digits (min 6 digits.length) (digits.take 6) (decimalValue (digits.take 6)) :=
    ⟨List.length_take, fun c member => fraction.all c (List.mem_of_mem_take member), rfl⟩
  have found := run.read (digits.drop 6)
  rw [List.take_append_drop] at found
  have behind : (digits.drop 6).dropWhile isDecimalDigit = [] :=
    List.dropWhile_eq_nil_iff.mpr fun c member => fraction.all c (List.mem_of_mem_drop member)
  have scaled : decimalValue (digits.take 6) * Nat.pow 10 (6 - digits.length) = n := fraction.value
  simp only [readFraction, found, Option.bind_eq_bind, Option.bind_some, behind, scaled]

/-- A time that is read is spelled at the front of the text. -/
theorem ClockSpelling.of_read {text rest : List Char} {time : ClockTime}
    (read : readClock text = some (time, rest)) :
    ∃ clock, text = clock ++ rest ∧ ClockSpelling clock time := by
  obtain ⟨hour, h, afterHour, rfl, hours, made⟩ := readDigits_bind_eq_some read
  simp only at made
  split at made
  · cases made
    exact ⟨hour, rfl, .hour hours⟩
  · generalize (afterHour.head? == some ':') = extended at made
    obtain ⟨minute, m, afterMinute, rfl, minutes, made⟩ := behindMark_bind_eq_some made
    simp only at made
    split at made
    · cases made
      exact ⟨_, by simp only [List.append_assoc], .minute extended hours minutes⟩
    · obtain ⟨second, s, afterSecond, rfl, seconds, made⟩ := behindMark_bind_eq_some made
      simp only at made
      split at made
      · cases made
        exact ⟨_, by simp only [List.append_assoc], .second extended hours minutes seconds⟩
      · rename_i several
        obtain ⟨left, marked, made⟩ := Option.bind_eq_some_iff.mp made
        obtain ⟨⟨n, behind⟩, fractionRead, made⟩ := Option.bind_eq_some_iff.mp made
        cases made
        obtain ⟨digits, rfl, counted, fraction⟩ := FractionDigits.of_read fractionRead
        obtain rfl := behindMark_eq_some_iff.mp marked
        refine ⟨_, by simp only [List.append_assoc],
          .fraction extended hours minutes seconds fraction ?_⟩
        simp only [List.length_append] at several counted ⊢
        omega

/-- A time is read from its spelling, and nothing is left unread. -/
theorem ClockSpelling.read {text : List Char} {time : ClockTime}
    (spelled : ClockSpelling text time) : readClock text = some (time, []) := by
  -- the form is seen from the character behind the hour
  have form : ∀ (extended : Bool) {minute behind : List Char} {m : Nat}, Digits 2 minute m →
      ((markIn extended ':' ++ (minute ++ behind)).head? == some ':') = extended := by
    intro extended minute behind m minutes
    obtain ⟨c, others, rfl, digit⟩ := minutes.exists_cons
    have notColon : c ≠ ':' := ne_of_isDecimalDigit digit (by decide)
    cases extended with
    | false => simpa [markIn] using notColon
    | true => rfl
  have long : ∀ (extended : Bool) {number behind : List Char} {n : Nat}, Digits 2 number n →
      ¬ (markIn extended ':' ++ (number ++ behind)).length ≤ 1 := by
    intro extended number behind n run
    rw [List.length_append, List.length_append, run.length]
    omega
  cases spelled with
  | hour hours => simp [readClock, hours.read_last]
  | @minute extended hour minute h m hours minutes =>
    have found : ((markIn extended ':' ++ (minute ++ [])).head? == some ':') = extended :=
      form extended minutes
    have more : ¬ (markIn extended ':' ++ (minute ++ [])).length ≤ 1 := long extended minutes
    rw [List.append_nil] at found more
    simp only [readClock, hours.read, Option.bind_eq_bind, Option.bind_some, if_neg more, found,
      behindMark_markIn, minutes.read_last, List.length_nil, Nat.zero_le, if_true]
  | @second extended hour minute second h m s hours minutes seconds =>
    have more : ¬ (markIn extended ':' ++ (second ++ [])).length ≤ 1 := long extended seconds
    rw [List.append_nil] at more
    simp only [readClock, hours.read, Option.bind_eq_bind, Option.bind_some,
      if_neg (long extended minutes), form extended minutes, behindMark_markIn, minutes.read,
      if_neg more, seconds.read_last, List.length_nil, Nat.zero_le, if_true]
  | @fraction extended hour minute second digits h m s n hours minutes seconds fraction several =>
    have more : ¬ (markIn extended ':' ++ digits).length ≤ 1 := by omega
    simp only [readClock, hours.read, Option.bind_eq_bind, Option.bind_some,
      if_neg (long extended minutes), form extended minutes, behindMark_markIn, minutes.read,
      if_neg (long extended seconds), seconds.read, if_neg more, fraction.read]

/-- A text is read to its end as a time exactly if it spells the time. -/
theorem readClock_eq_some_nil_iff {text : List Char} {time : ClockTime} :
    readClock text = some (time, []) ↔ ClockSpelling text time := by
  constructor
  · intro read
    obtain ⟨clock, same, spelled⟩ := ClockSpelling.of_read read
    rw [same, List.append_nil]
    exact spelled
  · exact ClockSpelling.read

/-- A distance from universal time is read exactly from its spellings, if it is shorter than a
day. -/
theorem readOffset_eq_some_iff {text : List Char} (opens : StopsAt (fun c => !opensOffset c) text)
    {distance : Int} :
    readOffset text = some distance ↔
      distance.natAbs < microsecondsPerDay ∧ OffsetSpelling text (some distance) := by
  constructor
  · intro read
    unfold readOffset at read
    split at read
    · cases read
    · split at read
      · rename_i ends
        cases read
        rw [List.isEmpty_iff.mp ends]
        exact ⟨by decide, .universal⟩
      · cases read
    · rename_i sign text notLetter
      obtain ⟨⟨time, unread⟩, found, made⟩ := Option.bind_eq_some_iff.mp read
      simp only at made
      split at made
      · rename_i measured
        obtain ⟨ends, short⟩ := measured
        cases made
        rw [List.isEmpty_iff.mp ends] at found
        have spelled := readClock_eq_some_nil_iff.mp found
        by_cases west : sign = '-'
        · rw [if_pos west, west, Int.natAbs_neg]
          exact ⟨short, .west spelled⟩
        · have opened : opensOffset sign = true := by simpa using stopsAt_cons.mp opens
          have letter : sign ≠ 'Z' := notLetter
          have east : sign = '+' := by simpa [opensOffset, west, letter] using opened
          rw [if_neg west, east]
          exact ⟨short, .east spelled⟩
      · cases made
  · rintro ⟨short, spelled⟩
    cases spelled with
    | universal => rfl
    | east spelled =>
      rw [Int.natAbs_natCast] at short
      simp [readOffset, spelled.read, short]
    | west spelled =>
      rw [Int.natAbs_neg, Int.natAbs_natCast] at short
      simp [readOffset, spelled.read, short]

/-- A time stands for no distance below a second. -/
theorem ClockTime.distance_eq_zero {time : ClockTime}
    (small : time.distance < microsecondsPerSecond) : time.distance = 0 := by
  unfold distance at small ⊢
  split
  · rfl
  · rename_i present
    rw [if_neg present] at small
    have size : microsecondsPerSecond ≤ microsecondsPerSecond * time.seconds :=
      Nat.le_mul_of_pos_right _ (Nat.pos_of_ne_zero present)
    omega

/-- A distance below a second is spelled only if it is none. -/
theorem OffsetSpelling.eq_zero {text : List Char} {distance : Int}
    (spelled : OffsetSpelling text (some distance))
    (small : distance.natAbs < microsecondsPerSecond) : distance = 0 := by
  cases spelled with
  | universal => rfl
  | east spelled =>
    rw [Int.natAbs_natCast] at small
    rw [ClockTime.distance_eq_zero small, Nat.cast_zero]
  | west spelled =>
    rw [Int.natAbs_neg, Int.natAbs_natCast] at small
    rw [ClockTime.distance_eq_zero small, Nat.cast_zero, Int.neg_zero]

/-- No character of a time opens the distance behind it. -/
theorem ClockSpelling.not_opensOffset {text : List Char} {time : ClockTime}
    (spelled : ClockSpelling text time) : ∀ c ∈ text, (!opensOffset c) = true := by
  intro c member
  rcases spelled.characters c member with digit | rfl
  · have apart : ∀ d : Char, isDecimalDigit d = false → c ≠ d :=
      fun d => ne_of_isDecimalDigit digit
    simp [opensOffset, apart '+' (by decide), apart '-' (by decide), apart 'Z' (by decide)]
  · decide

/-- A distance from universal time begins with a character that opens it, or is missing. -/
theorem OffsetSpelling.opens {text : List Char} {offset : Option Int}
    (spelled : OffsetSpelling text offset) : StopsAt (fun c => !opensOffset c) text := by
  cases spelled with
  | unknown => exact StopsAt.nil _
  | universal => exact stopsAt_cons.mpr (by decide)
  | east spelled => exact stopsAt_cons.mpr (by decide)
  | west spelled => exact stopsAt_cons.mpr (by decide)

/-- A time that a clock shows, and a distance shorter than a day, are read from their spellings. -/
theorem readTime_of_spelling {clock zone : List Char} {time : ClockTime} {offset : Option Int}
    (shown : time.Exists) (short : ∀ distance ∈ offset, distance.natAbs < microsecondsPerDay)
    (times : ClockSpelling clock time) (offsets : OffsetSpelling zone offset) :
    readTime (clock ++ zone) = some (time, offset) := by
  have front := takeWhile_run times.not_opensOffset offsets.opens
  have behind := dropWhile_run times.not_opensOffset offsets.opens
  unfold readTime
  rw [front, behind, times.read]
  simp only [Option.bind_eq_bind, Option.bind_some, if_pos shown]
  cases offset with
  | none =>
    cases offsets
    rfl
  | some distance =>
    have measured := (readOffset_eq_some_iff offsets.opens).mpr ⟨short distance rfl, offsets⟩
    split
    · cases measured
    · rw [measured, Option.bind_some]

/-- A time that is read is shown by a clock, a distance that is read is shorter than a day, and
their spellings make up the text but for what is left unread in front of the distance. -/
theorem spelling_of_readTime {text : List Char} {time : ClockTime} {offset : Option Int}
    (read : readTime text = some (time, offset)) :
    time.Exists ∧ (∀ distance ∈ offset, distance.natAbs < microsecondsPerDay) ∧
      ∃ clock unread zone, text = clock ++ (unread ++ zone) ∧ (offset = none → unread = []) ∧
        ClockSpelling clock time ∧ OffsetSpelling zone offset := by
  obtain ⟨⟨found, unread⟩, clockRead, made⟩ := Option.bind_eq_some_iff.mp read
  obtain ⟨clock, front, times⟩ := ClockSpelling.of_read clockRead
  have whole := List.takeWhile_append_dropWhile (p := fun c => !opensOffset c) (l := text)
  rw [front, List.append_assoc] at whole
  have opens : StopsAt (fun c => !opensOffset c) (text.dropWhile fun c => !opensOffset c) := by
    intro c first
    have stops := List.head?_dropWhile_not (fun c => !opensOffset c) text
    rw [first] at stops
    simpa using stops
  simp only at made
  split at made
  · rename_i shown
    split at made
    · rename_i ends
      split at made
      · rename_i allRead
        cases made
        rw [ends, List.isEmpty_iff.mp allRead] at whole
        exact ⟨shown, nofun, clock, [], [], whole.symm, fun _ => rfl, times, .unknown⟩
      · cases made
    · obtain ⟨distance, measured, made⟩ := Option.bind_eq_some_iff.mp made
      cases made
      obtain ⟨short, spelled⟩ := (readOffset_eq_some_iff opens).mp measured
      refine ⟨shown, fun other same => ?_, clock, unread, _, whole.symm, nofun, times, spelled⟩
      cases same
      exact short
  · cases made

end SearchBar
