import SearchBar.Proofs.ClockSpelling

/-!
# The spelling of calendar values

A calendar value is spelled as a day, or as a day and a time with the mark of a
time between them. Every spelling of a value that exists is read as that value.
Whatever is read exists, and is spelled in a looser way, in which any character
separates a day from a time, and anything may stand behind the numbers of a day
and in front of the distance from universal time.

Main statements: `Moment.read_of_spelling`, `Moment.spelling_of_read`.
-/

namespace SearchBar

open Text

/-- The spelling of calendar values: a day, or a day and a time with the mark of a time between
them. -/
inductive Moment.Spelling : List Char → Moment → Prop
  | day {text : List Char} {date : CalendarDate} (days : DaySpelling text date) :
    Spelling text (.day date)
  | dateTime {front clock zone : List Char} {date : CalendarDate} {time : ClockTime}
    {offset : Option Int} (days : DaySpelling front date) (times : ClockSpelling clock time)
    (offsets : OffsetSpelling zone offset) :
    Spelling (front ++ 'T' :: (clock ++ zone)) (.dateTime date time offset)

/-- The loose spelling of calendar values. Any character separates a day from a time, any text may
stand behind the numbers of the day, and any text behind the time if a distance follows. -/
inductive Moment.LooseSpelling : List Char → Moment → Prop
  | day {front behind : List Char} {date : CalendarDate} (days : DaySpelling front date) :
    LooseSpelling (front ++ behind) (.day date)
  | dateTime {front behind clock unread zone : List Char} {separator : Char} {date : CalendarDate}
    {time : ClockTime} {offset : Option Int} (days : DaySpelling front date)
    (times : ClockSpelling clock time) (ends : offset = none → unread = [])
    (offsets : OffsetSpelling zone offset) :
    LooseSpelling (front ++ behind ++ separator :: (clock ++ (unread ++ zone)))
      (.dateTime date time offset)

/-- The value exists: its day is in the calendar, its time on a clock, and its distance from
universal time is shorter than a day. A fraction of a second alone is no distance. -/
def Moment.Exists : Moment → Prop
  | day date => date.Exists
  | dateTime date time offset =>
    date.Exists ∧ time.Exists ∧ ∀ distance ∈ offset, distance.natAbs < microsecondsPerDay ∧
      (distance.natAbs < microsecondsPerSecond → distance = 0)

/-- The value is a time of a day. -/
def Moment.hasTime : Moment → Bool
  | day _ => false
  | dateTime _ _ _ => true

/-- Every spelling of a value that exists is read as that value. -/
theorem Moment.read_of_spelling {text : List Char} {moment : Moment} (real : moment.Exists)
    (spelled : Moment.Spelling text moment) : Moment.read text = some moment := by
  cases spelled with
  | day days =>
    have unmarked : ¬ text.contains 'T' = true := by
      intro marked
      rcases days.characters 'T' (List.contains_iff_mem.mp marked) with digit | hyphen | week
      · exact absurd digit (by decide)
      · exact absurd hyphen (by decide)
      · exact absurd week (by decide)
    rw [Moment.read, if_neg unmarked, readDate, if_pos days.length, days.read real]
    rfl
  | @dateTime front clock zone date time offset days times offsets =>
    obtain ⟨realDay, shown, short⟩ := real
    have marked : (front ++ 'T' :: (clock ++ zone)).contains 'T' = true :=
      List.contains_iff_mem.mpr (List.mem_append_right _ List.mem_cons_self)
    have size := days.length
    have long : ¬ (front ++ 'T' :: (clock ++ zone)).length < 7 := by
      rw [List.length_append]
      omega
    have timeRead : readTime (clock ++ zone) = some (time, offset) :=
      readTime_of_spelling shown (fun distance known => (short distance known).1) times offsets
    have behind : (front ++ 'T' :: (clock ++ zone)).drop (front.length + 1) = clock ++ zone := by
      rw [← List.drop_drop, List.drop_left, List.drop_succ_cons, List.drop_zero]
    rw [Moment.read, if_pos marked, readDateTime, if_neg long, days.separatorPlace_eq]
    simp only [List.take_left, behind, days.read realDay, timeRead, Option.bind_eq_bind,
      Option.bind_some]

/-- A value that is read exists, is a time exactly if the text holds the mark of a time, and is
spelled by the text in the loose way. -/
theorem Moment.spelling_of_read {text : List Char} {moment : Moment}
    (read : Moment.read text = some moment) :
    moment.Exists ∧ (moment.hasTime = true ↔ 'T' ∈ text) ∧ Moment.LooseSpelling text moment := by
  unfold Moment.read at read
  by_cases marked : text.contains 'T' = true
  · rw [if_pos marked] at read
    unfold readDateTime at read
    split at read
    · cases read
    · obtain ⟨date, dayRead, made⟩ := Option.bind_eq_some_iff.mp read
      obtain ⟨⟨time, offset⟩, timeRead, made⟩ := Option.bind_eq_some_iff.mp made
      cases made
      obtain ⟨real, front, behind, cut, days⟩ := DaySpelling.of_read dayRead
      obtain ⟨shown, short, clock, unread, zone, rest, ends, times, offsets⟩ :=
        spelling_of_readTime timeRead
      have distances : ∀ distance ∈ offset, distance.natAbs < microsecondsPerDay ∧
          (distance.natAbs < microsecondsPerSecond → distance = 0) := by
        rintro distance rfl
        exact ⟨short distance rfl, offsets.eq_zero⟩
      -- the time is not empty, so that a character separates it from the day
      obtain ⟨separator, within⟩ : ∃ separator,
          text.drop (separatorPlace text) = separator :: (clock ++ (unread ++ zone)) := by
        cases left : text.drop (separatorPlace text) with
        | nil =>
          rw [← List.drop_drop, left, List.drop_nil] at rest
          exact absurd (List.append_eq_nil_iff.mp rest.symm).1 times.ne_nil
        | cons separator others =>
          rw [← List.drop_drop, left, List.drop_succ_cons, List.drop_zero] at rest
          exact ⟨separator, by rw [rest]⟩
      have whole : text = front ++ behind ++ separator :: (clock ++ (unread ++ zone)) := by
        rw [← cut, ← within, List.take_append_drop]
      refine ⟨⟨real, shown, distances⟩, ⟨fun _ => List.contains_iff_mem.mp marked, fun _ => rfl⟩, ?_⟩
      rw [whole]
      exact .dateTime days times ends offsets
  · rw [if_neg marked] at read
    unfold readDate at read
    split at read
    · obtain ⟨date, dayRead, rfl⟩ := Option.map_eq_some_iff.mp read
      obtain ⟨real, front, behind, rfl, days⟩ := DaySpelling.of_read dayRead
      exact ⟨real, ⟨nofun, fun inside => absurd (List.contains_iff_mem.mpr inside) marked⟩,
        .day days⟩
    · cases read

end SearchBar
