import SearchBar.Proofs.Counting
import SearchBar.Proofs.TypedFilter

/-!
# Sequences of filters, piece by piece

Reading a sequence is described by four equations, one for each way a step can
end. From them follow two laws of whole runs: a text further behind is read the
same way further behind, and a text in front of a seam is read first and what is
behind the seam after it.

Main statements: the law of places (`readFilters_shift`) and the law of seams
(`readFilters_append`).
-/

namespace SearchBar

open Text

variable {α : Type} {offset : Nat} {text tail : List Char} {filter : Filter Numeral}

/-- Blank characters in front of a text are dropped from it. -/
theorem dropBlank_length_le (text : List Char) : (dropBlank text).length ≤ text.length :=
  (List.dropWhile_suffix isBlank).length_le

/-- A blank text holds no filters. -/
theorem readFilters_of_blank (blank : dropBlank text = []) : readFilters offset text = .ok [] := by
  rw [readFilters, blank]
  rfl

/-- A filter is read from something. -/
theorem dropBlank_ne_nil_of_read {reading : Reading (Filter Numeral)}
    (read : readFilter (dropBlank text) = .ok reading) : dropBlank text ≠ [] := by
  intro blank
  rw [blank] at read
  cases read

/-- A filter that cannot be read ends the sequence. -/
theorem readFilters_of_error {failure : Failure} (present : dropBlank text ≠ [])
    (read : readFilter (dropBlank text) = .error failure) :
    readFilters offset text =
      .error (failure.shift (offset + (text.length - (dropBlank text).length))) := by
  rw [readFilters, if_neg (by rwa [List.isEmpty_iff])]
  split
  · rename_i other found
    rw [read] at found
    cases found
    rfl
  · rename_i reading found
    rw [read] at found
    cases found

/-- A filter in front of a seam is the first of the sequence. -/
theorem readFilters_of_seam {reading : Reading (Filter Numeral)}
    (read : readFilter (dropBlank text) = .ok reading) (seam : StopsAt isSolid reading.rest) :
    readFilters offset text =
      (readFilters (offset + (text.length - reading.rest.length)) reading.rest).map
        (reading.value.map
          (Numeral.shift (offset + (text.length - (dropBlank text).length))) :: ·) := by
  have present := dropBlank_ne_nil_of_read read
  rw [readFilters, if_neg (by rwa [List.isEmpty_iff])]
  split
  · rename_i failure found
    rw [read] at found
    cases found
  · rename_i other found
    rw [read] at found
    cases found
    split
    · rename_i rest
      rw [rest, readFilters_of_blank rfl]
      rfl
    · rename_i c behind rest
      rw [rest, stopsAt_cons, isSolid_eq_false_iff] at seam
      rw [dif_pos seam, rest]

/-- A filter with a solid character behind it ends the sequence. -/
theorem readFilters_of_solid {reading : Reading (Filter Numeral)}
    (read : readFilter (dropBlank text) = .ok reading) (solid : ¬ StopsAt isSolid reading.rest) :
    readFilters offset text =
      unexpected (offset + (text.length - reading.rest.length))
        (reading.extensions ++ [.blank]) := by
  have present := dropBlank_ne_nil_of_read read
  rw [readFilters, if_neg (by rwa [List.isEmpty_iff])]
  split
  · rename_i failure found
    rw [read] at found
    cases found
  · rename_i other found
    rw [read] at found
    cases found
    split
    · rename_i rest
      rw [rest] at solid
      exact absurd (StopsAt.nil isSolid) solid
    · rename_i c behind rest
      rw [rest, stopsAt_cons, isSolid_eq_false_iff] at solid
      rw [dif_neg solid]

/-- What is left behind a filter in front of a seam is shorter than the text. -/
theorem rest_length_lt_of_seam {reading : Reading (Filter Numeral)}
    (read : readFilter (dropBlank text) = .ok reading) (seam : StopsAt isSolid reading.rest) :
    reading.rest.length < text.length := by
  cases rest : reading.rest with
  | nil =>
    cases text with
    | nil => cases read
    | cons c behind => exact Nat.zero_lt_succ _
  | cons c behind =>
    rw [rest, stopsAt_cons, isSolid_eq_false_iff] at seam
    rw [← rest]
    exact rest_length_lt read rest seam

/-- What holds of every end of a sequence, and of a text if it holds behind the first filter, holds
of every text. -/
@[elab_as_elim]
theorem readFilters_induction {motive : Nat → List Char → Prop}
    (blank : ∀ offset text, dropBlank text = [] → motive offset text)
    (error : ∀ offset text failure, dropBlank text ≠ [] →
      readFilter (dropBlank text) = .error failure → motive offset text)
    (solid : ∀ offset text reading, readFilter (dropBlank text) = .ok reading →
      ¬ StopsAt isSolid reading.rest → motive offset text)
    (seam : ∀ offset text reading, readFilter (dropBlank text) = .ok reading →
      StopsAt isSolid reading.rest →
      motive (offset + (text.length - reading.rest.length)) reading.rest → motive offset text)
    (offset : Nat) (text : List Char) : motive offset text := by
  -- what is left behind a filter is shorter, wherever it is
  induction size : text.length using Nat.strongRecOn generalizing offset text with
  | ind length shorter =>
    by_cases present : dropBlank text = []
    · exact blank offset text present
    · cases read : readFilter (dropBlank text) with
      | error failure => exact error offset text failure present read
      | ok reading =>
        by_cases stops : StopsAt isSolid reading.rest
        · have left := rest_length_lt_of_seam read stops
          rw [size] at left
          exact seam offset text reading read stops (shorter _ left _ _ rfl)
        · exact solid offset text reading read stops

/-- The same sequence in a text with so many more characters in front. -/
def sequenceShiftedBy (offset : Nat) (outcome : Except Failure (List (Filter Numeral))) :
    Except Failure (List (Filter Numeral)) :=
  shiftedBy offset (outcome.map (List.map (Filter.map (Numeral.shift offset))))

/-- A place may be moved at once or by parts. -/
theorem Failure.shift_shift (first second : Nat) (failure : Failure) :
    (failure.shift second).shift first = failure.shift (first + second) := by
  simp only [Failure.shift, Nat.add_assoc]

/-- A filter may be moved at once or by parts. -/
theorem Filter.map_shift_shift (first second : Nat) (filter : Filter Numeral) :
    (filter.map (Numeral.shift second)).map (Numeral.shift first) =
      filter.map (Numeral.shift (first + second)) := by
  have ranges : ∀ range : Range Numeral,
      (range.map (Numeral.shift second)).map (Numeral.shift first) =
        range.map (Numeral.shift (first + second)) := by
    intro range
    cases range with
    | exactly value => simp only [Range.map, Numeral.shift, Nat.add_assoc]
    | compared comparison bound => simp only [Range.map, Numeral.shift, Nat.add_assoc]
    | between lower upper => simp only [Range.map, Numeral.shift, Nat.add_assoc]
  cases filter with
  | images range => simp only [Filter.map, ranges]
  | propertyCount propertyKind range => simp only [Filter.map, ranges]
  | word text => rfl
  | quoted text => rfl
  | draft state => rfl
  | kind text => rfl
  | category text => rfl
  | creator author => rfl
  | created range => rfl
  | property propertyKind id value => rfl

/-- A text further behind is read in the same way further behind. -/
theorem readFilters_shift (offset further : Nat) (text : List Char) :
    readFilters (further + offset) text = sequenceShiftedBy further (readFilters offset text) := by
  induction offset, text using readFilters_induction with
  | blank offset text blank =>
    rw [readFilters_of_blank blank, readFilters_of_blank blank]
    rfl
  | error offset text failure present read =>
    rw [readFilters_of_error present read, readFilters_of_error present read, Nat.add_assoc,
      ← Failure.shift_shift]
    rfl
  | solid offset text reading read solid =>
    rw [readFilters_of_solid read solid, readFilters_of_solid read solid, Nat.add_assoc]
    rfl
  | seam offset text reading read seam later =>
    rw [readFilters_of_seam read seam, readFilters_of_seam read seam,
      Nat.add_assoc further offset (text.length - reading.rest.length), later, Nat.add_assoc,
      ← Filter.map_shift_shift]
    cases readFilters (offset + (text.length - reading.rest.length)) reading.rest with
    | error failure => rfl
    | ok filters => rfl

/-- Blank characters in front of a text are in front of its filters. -/
theorem readFilters_blank_append (blank : ∀ c ∈ text, isBlank c = true) (offset : Nat)
    (tail : List Char) :
    readFilters offset (text ++ tail) = readFilters (offset + text.length) tail := by
  have front : dropBlank (text ++ tail) = dropBlank tail := List.dropWhile_append_of_pos blank
  have fewer := dropBlank_length_le tail
  by_cases present : dropBlank tail = []
  · rw [readFilters_of_blank present, readFilters_of_blank (front.trans present)]
  · have longPresent : dropBlank (text ++ tail) ≠ [] := by rwa [front]
    cases read : readFilter (dropBlank tail) with
    | error failure =>
      have longRead : readFilter (dropBlank (text ++ tail)) = .error failure := by rw [front, read]
      have place : offset + ((text ++ tail).length - (dropBlank tail).length) =
          offset + text.length + (tail.length - (dropBlank tail).length) := by
        rw [List.length_append]
        omega
      rw [readFilters_of_error present read, readFilters_of_error longPresent longRead, front,
        place]
    | ok reading =>
      have longRead : readFilter (dropBlank (text ++ tail)) = .ok reading := by rw [front, read]
      have left : reading.rest.length ≤ (dropBlank tail).length := by
        rw [readFilter_eq read, List.length_append]
        omega
      have start : offset + ((text ++ tail).length - (dropBlank tail).length) =
          offset + text.length + (tail.length - (dropBlank tail).length) := by
        rw [List.length_append]
        omega
      have stop : offset + ((text ++ tail).length - reading.rest.length) =
          offset + text.length + (tail.length - reading.rest.length) := by
        rw [List.length_append]
        omega
      by_cases seam : StopsAt isSolid reading.rest
      · rw [readFilters_of_seam read seam, readFilters_of_seam longRead seam, front, start, stop]
      · rw [readFilters_of_solid read seam, readFilters_of_solid longRead seam, stop]

/-- The filters in front of a seam are read first and those behind it after them, unless a phrase
is open at the seam. -/
theorem readFilters_append (seam : StopsAt isSolid tail) (offset : Nat) (text : List Char)
    (closed : ∀ position, readFilters offset text ≠ .error ⟨position, .unterminatedQuote⟩) :
    readFilters offset (text ++ tail) = (do
      let first ← readFilters offset text
      let second ← readFilters (offset + text.length) tail
      return first ++ second) := by
  -- a seam behind text that is not blank is a seam behind what is left of the text
  have front : ∀ {text : List Char}, dropBlank text ≠ [] →
      dropBlank (text ++ tail) = dropBlank text ++ tail := by
    intro text present
    have kept : (text.dropWhile isBlank).isEmpty ≠ true := by
      rwa [ne_eq, List.isEmpty_iff]
    rw [dropBlank, List.dropWhile_append, if_neg kept]
    rfl
  induction offset, text using readFilters_induction with
  | blank offset text present =>
    have blank : ∀ c ∈ text, isBlank c = true := List.dropWhile_eq_nil_iff.mp present
    rw [readFilters_blank_append blank, readFilters_of_blank present]
    cases readFilters (offset + text.length) tail with
    | error failure => rfl
    | ok filters => rfl
  | error offset text failure present read =>
    have closedFront : readFilter (dropBlank text) ≠ .error ⟨0, .unterminatedQuote⟩ := by
      intro unclosed
      exact closed _ (readFilters_of_error present unclosed)
    have longRead := readFilter_append seam closedFront
    rw [← front present, read, extended_error] at longRead
    have longPresent : dropBlank (text ++ tail) ≠ [] := by
      rw [front present]
      exact List.append_ne_nil_of_left_ne_nil present tail
    rw [readFilters_of_error present read, readFilters_of_error longPresent longRead,
      front present, length_sub_append]
    rfl
  | solid offset text reading read solid =>
    have longRead := readFilter_ok_append seam read
    have longSolid : ¬ StopsAt isSolid (reading.rest ++ tail) := by
      cases rest : reading.rest with
      | nil =>
        rw [rest] at solid
        exact absurd (StopsAt.nil isSolid) solid
      | cons c behind =>
        rw [rest, stopsAt_cons] at solid
        rwa [List.cons_append, stopsAt_cons]
    rw [← front (dropBlank_ne_nil_of_read read)] at longRead
    rw [readFilters_of_solid read solid, readFilters_of_solid longRead longSolid]
    simp only [Reading.extend, length_sub_append]
    rfl
  | seam offset text reading read stops later =>
    have longRead := readFilter_ok_append seam read
    have present := dropBlank_ne_nil_of_read read
    have closedRest : ∀ position,
        readFilters (offset + (text.length - reading.rest.length)) reading.rest ≠
          .error ⟨position, .unterminatedQuote⟩ := by
      intro position unclosed
      apply closed position
      rw [readFilters_of_seam read stops, unclosed]
      rfl
    have shorter := rest_length_lt_of_seam read stops
    have place : offset + (text.length - reading.rest.length) + reading.rest.length =
        offset + text.length := by omega
    rw [← front present] at longRead
    rw [readFilters_of_seam read stops, readFilters_of_seam longRead (stops.append seam),
      front present]
    simp only [Reading.extend, length_sub_append]
    rw [later closedRest, place]
    cases readFilters (offset + (text.length - reading.rest.length)) reading.rest with
    | error failure => rfl
    | ok first =>
      cases readFilters (offset + text.length) tail with
      | error failure => rfl
      | ok second => rfl

/-- A text without a blank at its front keeps all of it. -/
theorem dropBlank_of_solid (solid : ¬ StopsAt isSolid text) : dropBlank text = text := by
  cases text with
  | nil => rfl
  | cons c rest =>
    rw [stopsAt_cons, isSolid_eq_false_iff] at solid
    rw [dropBlank, List.dropWhile_cons_of_neg solid]

/-- A filter that can be typed begins solid, whatever stands behind it. -/
theorem typed_solid (wellFormed : filter.WellFormed Numeral.WellFormed) (tail : List Char) :
    ¬ StopsAt isSolid (filter.typed.toList ++ tail) := by
  have read := readFilter_typed wellFormed
  cases front : filter.typed.toList with
  | nil =>
    rw [front] at read
    cases read
  | cons c rest =>
    intro seam
    rw [front] at read
    rw [List.cons_append] at seam
    rw [readFilter_seam (stopsAt_cons.mpr (stopsAt_cons.mp seam))] at read
    cases read

/-- A filter that can be typed is read from its text in front of a seam, and the rest after it. -/
theorem readFilters_typed (wellFormed : filter.WellFormed Numeral.WellFormed)
    (seam : StopsAt isSolid tail) (offset : Nat) :
    readFilters offset (filter.typed.toList ++ tail) =
      (readFilters (offset + filter.typed.length) tail).map
        (filter.placed.map (Numeral.shift offset) :: ·) := by
  have kept := dropBlank_of_solid (typed_solid wellFormed tail)
  have read := readFilter_ok_append seam (readFilter_typed wellFormed)
  rw [← kept] at read
  have rest : (Reading.extend tail ⟨filter.placed, filter.extensions, []⟩ :
      Reading (Filter Numeral)).rest = tail := rfl
  have stop : (filter.typed.toList ++ tail).length - tail.length = filter.typed.length := by
    rw [List.length_append, String.length_toList]
    omega
  rw [readFilters_of_seam read (by rwa [rest]), kept, Nat.sub_self, rest, stop]
  rfl

end SearchBar
