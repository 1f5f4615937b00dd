import SearchBar.Proofs.Continuation
import SearchBar.Proofs.Expectations

/-!
# Where sequences stop

A sequence of filters that cannot be read has a front that is read, whatever
stands behind it, and behind the front begins a text that cannot be read as a
filter alone. The failure of the sequence is the failure of that filter, further
behind. Blank text behind a sequence changes nothing, so no failure is reported
behind the last solid character of a text. Every numeral stands where it says.

Main statements: a sequence fails as one of its filters does
(`readFilters_error`), blank text behind it is not looked at
(`readFilters_append_blank`), and numerals are in their places
(`standsIn_of_readFilters`).
-/

namespace SearchBar

open Text

variable {offset : Nat} {text tail : List Char} {failure : Failure}
  {reading : Reading (Filter Numeral)} {filter : Filter Numeral}

/-- A filter that cannot be read cannot be read alone. -/
theorem readSingleFilter_of_error (read : readFilter text = .error failure) :
    readSingleFilter text = .error failure := by
  rw [readSingleFilter, read]
  rfl

/-- A blank behind a filter alone is an error for which nothing is expected. -/
theorem readSingleFilter_of_blank (read : readFilter text = .ok reading)
    (present : reading.rest ≠ []) (seam : StopsAt isSolid reading.rest) :
    readSingleFilter text = unexpected (text.length - reading.rest.length) [] := by
  cases rest : reading.rest with
  | nil => exact absurd rest present
  | cons c behind =>
    rw [rest, stopsAt_cons, isSolid_eq_false_iff] at seam
    simp only [readSingleFilter, read, bind, Except.bind, rest]
    rw [if_pos seam]

/-- A solid character behind a filter alone is an error. -/
theorem readSingleFilter_of_solid (read : readFilter text = .ok reading)
    (solid : ¬ StopsAt isSolid reading.rest) :
    readSingleFilter text =
      unexpected (text.length - reading.rest.length) (reading.extensions ++ [.blank]) := by
  cases rest : reading.rest with
  | nil =>
    rw [rest] at solid
    exact absurd (StopsAt.nil isSolid) solid
  | cons c behind =>
    rw [rest, stopsAt_cons, isSolid_eq_false_iff] at solid
    simp only [readSingleFilter, read, bind, Except.bind, rest]
    rw [if_neg solid]

/-- A filter alone fails because it cannot be read, or because something stands behind it. -/
theorem readSingleFilter_error (failed : readSingleFilter text = .error failure) :
    readFilter text = .error failure ∨
      ∃ reading, readFilter text = .ok reading ∧
        ((reading.rest ≠ [] ∧ StopsAt isSolid reading.rest ∧
            failure = ⟨text.length - reading.rest.length, .unexpected []⟩) ∨
          (¬ StopsAt isSolid reading.rest ∧
            failure = ⟨text.length - reading.rest.length,
              .unexpected (reading.extensions ++ [.blank])⟩)) := by
  cases front : readFilter text with
  | error other =>
    rw [readSingleFilter_of_error front] at failed
    cases failed
    exact Or.inl rfl
  | ok reading =>
    refine Or.inr ⟨reading, rfl, ?_⟩
    by_cases present : reading.rest = []
    · simp only [readSingleFilter, front, bind, Except.bind, present] at failed
      cases failed
    · by_cases seam : StopsAt isSolid reading.rest
      · rw [readSingleFilter_of_blank front present seam] at failed
        cases failed
        exact Or.inl ⟨present, seam, rfl⟩
      · rw [readSingleFilter_of_solid front seam] at failed
        cases failed
        exact Or.inr ⟨seam, rfl⟩

/-- What is left behind the blanks at the front of a text begins solid, if anything is left. -/
theorem solid_of_dropBlank (present : dropBlank text ≠ []) :
    ¬ StopsAt isSolid (dropBlank text) := by
  have head := List.head?_dropWhile_not isBlank text
  cases front : dropBlank text with
  | nil => exact absurd front present
  | cons c rest =>
    rw [dropBlank] at front
    rw [stopsAt_cons, isSolid_eq_false_iff]
    simpa [front] using head

/-- Filters that are read from the front of a text whatever stands behind it. -/
def ReadsFront (offset : Nat) (front : List Char) (reads : List (Filter Numeral)) : Prop :=
  ∀ tail, readFilters offset (front ++ tail) =
    (readFilters (offset + front.length) tail).map (reads ++ ·)

/-- No filters are read from blank text. -/
theorem ReadsFront.blank (blank : ∀ c ∈ text, isBlank c = true) : ReadsFront offset text [] := by
  intro tail
  rw [readFilters_blank_append blank]
  cases readFilters (offset + text.length) tail with
  | error failure => rfl
  | ok filters => rfl

/-- A filter in front of filters behind a blank is read with them. -/
theorem ReadsFront.cons {lead front : List Char} {reads : List (Filter Numeral)}
    (blank : ∀ c ∈ lead, isBlank c = true) (wellFormed : filter.WellFormed Numeral.WellFormed)
    (present : front ≠ []) (seam : StopsAt isSolid front)
    (behind : ReadsFront (offset + (lead.length + filter.typed.length)) front reads) :
    ReadsFront offset (lead ++ (filter.typed.toList ++ front))
      (filter.placed.map (Numeral.shift (offset + lead.length)) :: reads) := by
  intro tail
  have stops := (stopsAt_append present tail).mpr seam
  have size : offset + (lead ++ (filter.typed.toList ++ front)).length =
      offset + (lead.length + filter.typed.length) + front.length := by
    simp only [List.length_append, String.length_toList]
    omega
  rw [List.append_assoc, List.append_assoc, readFilters_blank_append blank,
    readFilters_typed wellFormed stops, Nat.add_assoc, behind, size]
  cases readFilters (offset + (lead.length + filter.typed.length) + front.length) tail with
  | error failure => rfl
  | ok filters => rfl

/-- Filters that are read from a front are read from it alone. -/
theorem ReadsFront.alone {front : List Char} {reads : List (Filter Numeral)}
    (read : ReadsFront offset front reads) : readFilters offset front = .ok reads := by
  have alone := read []
  have none : readFilters (offset + front.length) [] = .ok [] := readFilters_of_blank rfl
  rw [List.append_nil, none] at alone
  rw [alone]
  simp [Except.map]

/-- A text at whose end a sequence of filters may go on: it ends in a blank, or there is none of
it. -/
def EndsBlank (text : List Char) : Prop := ∀ c ∈ text.getLast?, isBlank c = true

/-- Blank text ends in a blank. -/
theorem EndsBlank.of_blank (blank : ∀ c ∈ text, isBlank c = true) : EndsBlank text :=
  fun c found => blank c (List.mem_of_getLast? found)

/-- What stands in front of a text that is not empty does not count. -/
theorem EndsBlank.append {front : List Char} (ends : EndsBlank text) (present : text ≠ []) :
    EndsBlank (front ++ text) := by
  intro c found
  rw [List.getLast?_append_of_ne_nil front present] at found
  exact ends c found

/-- A sequence that cannot be read fails as one of its filters alone does. What is in front of that
filter is read whatever stands behind it, and ends in a blank. -/
theorem readFilters_error (failed : readFilters offset text = .error failure) :
    ∃ front current reads inner, text = front ++ current ∧ ReadsFront offset front reads ∧
      EndsBlank front ∧ ¬ StopsAt isSolid current ∧ readSingleFilter current = .error inner ∧
      inner.cause.expected ≠ [] ∧ failure = inner.shift (offset + front.length) := by
  have whole : ∀ text : List Char, text = text.takeWhile isBlank ++ dropBlank text :=
    fun text => List.takeWhile_append_dropWhile.symm
  have leadBlank : ∀ text : List Char, ∀ c ∈ text.takeWhile isBlank, isBlank c = true :=
    fun text c member => List.mem_takeWhile_imp member
  have leadSize : ∀ text : List Char,
      text.length - (dropBlank text).length = (text.takeWhile isBlank).length := by
    intro text
    have sizes := congrArg List.length (whole text)
    rw [List.length_append] at sizes
    omega
  induction offset, text using readFilters_induction generalizing failure with
  | blank offset text blank =>
    rw [readFilters_of_blank blank] at failed
    cases failed
  | error offset text inner present read =>
    rw [readFilters_of_error present read, leadSize] at failed
    cases failed
    exact ⟨text.takeWhile isBlank, dropBlank text, [], inner, whole text, .blank (leadBlank text),
      .of_blank (leadBlank text), solid_of_dropBlank present, readSingleFilter_of_error read,
      readFilter_expects _ _ read, rfl⟩
  | solid offset text reading read solid =>
    rw [readFilters_of_solid read solid, unexpected] at failed
    cases failed
    have stop : offset + (text.length - reading.rest.length) =
        offset + (text.takeWhile isBlank).length +
          ((dropBlank text).length - reading.rest.length) := by
      have sizes := congrArg List.length (whole text)
      have taken := congrArg List.length (readFilter_eq read)
      rw [List.length_append] at sizes taken
      omega
    refine ⟨text.takeWhile isBlank, dropBlank text, [],
      ⟨(dropBlank text).length - reading.rest.length,
        .unexpected (reading.extensions ++ [Terminal.blank])⟩,
      whole text, .blank (leadBlank text), .of_blank (leadBlank text),
      solid_of_dropBlank (dropBlank_ne_nil_of_read read), readSingleFilter_of_solid read solid,
      ?_, ?_⟩
    · exact descriptions_ne_nil (List.append_ne_nil_of_right_ne_nil _ (List.cons_ne_nil _ _))
    · rw [stop]
      rfl
  | seam offset text reading read seam later =>
    rw [readFilters_of_seam read seam] at failed
    obtain ⟨front, current, reads, inner, rest, behind, ends, solid, single, expects, rfl⟩ :=
      later (map_eq_error_iff.mp failed)
    obtain ⟨wellFormed, placed, -⟩ := readFilter_settled read
    have typed := readFilter_eq read
    have stop : text.length - reading.rest.length =
        (text.takeWhile isBlank).length + reading.value.typed.length := by
      have sizes := congrArg List.length (whole text)
      have taken := congrArg List.length typed
      rw [List.length_append] at sizes taken
      rw [String.length_toList] at taken
      omega
    -- what is left behind the filter begins with a blank, and the failure is behind that
    have present : front ≠ [] := by
      rintro rfl
      rw [rest] at seam
      exact solid seam
    rw [rest] at seam
    have frontSeam := (stopsAt_append present current).mp seam
    rw [stop] at behind
    refine ⟨text.takeWhile isBlank ++ (reading.value.typed.toList ++ front), current, _, inner, ?_,
      .cons (leadBlank text) wellFormed present frontSeam behind, ?_, solid, single, expects, ?_⟩
    · rw [List.append_assoc, List.append_assoc, ← rest, ← typed]
      exact whole text
    · exact (ends.append present).append (List.append_ne_nil_of_right_ne_nil _ present)
    · rw [stop]
      simp only [Failure.shift, List.length_append, String.length_toList, Nat.add_assoc]

/-- A phrase that is not closed cannot be read. -/
theorem readFilter_unclosed (unclosed : quotationMark ∉ text) :
    readFilter (quotationMark :: text) = .error ⟨0, .unterminatedQuote⟩ := by
  have none : text.dropWhile (· != quotationMark) = [] := by
    rw [List.dropWhile_eq_nil_iff]
    intro c member
    rw [bne_iff_ne]
    rintro rfl
    exact unclosed member
  rw [readFilter_mark, readPhrase, none]

/-- A phrase that is not closed is reported where it opens. -/
theorem readFilters_unclosed (unclosed : quotationMark ∉ text) (offset : Nat) :
    readFilters offset (quotationMark :: text) = .error ⟨offset, .unterminatedQuote⟩ := by
  have solid : ¬ StopsAt isSolid (quotationMark :: text) := by
    rw [stopsAt_cons, isSolid_eq_false_iff]
    decide
  have kept := dropBlank_of_solid solid
  have read := readFilter_unclosed unclosed
  rw [← kept] at read
  have present : dropBlank (quotationMark :: text) ≠ [] := by
    rw [kept]
    exact List.cons_ne_nil _ _
  rw [readFilters_of_error present read, kept, Nat.sub_self]
  rfl

/-- A filter alone that is an open phrase begins with the only quotation mark of the text. -/
theorem readSingleFilter_unclosed {place : Nat}
    (failed : readSingleFilter text = .error ⟨place, .unterminatedQuote⟩) :
    ∃ behind, text = quotationMark :: behind ∧ quotationMark ∉ behind := by
  rcases readSingleFilter_error failed with front | ⟨reading, -, ⟨-, -, same⟩ | ⟨-, same⟩⟩
  · rcases readFilter_error front with ⟨-, phrase⟩ | interrupted
    · exact phrase
    · obtain ⟨_, _, _, -, same, -⟩ := interrupted
      cases same
  · cases same
  · cases same

/-- Blank text behind a sequence is not looked at. -/
theorem readFilters_append_blank (blank : ∀ c ∈ tail, isBlank c = true) (offset : Nat)
    (text : List Char) : readFilters offset (text ++ tail) = readFilters offset text := by
  by_cases closed : ∀ position, readFilters offset text ≠ .error ⟨position, .unterminatedQuote⟩
  · have seam := stopsAt_of_blank blank
    have none : readFilters (offset + text.length) tail = .ok [] :=
      readFilters_of_blank (List.dropWhile_eq_nil_iff.mpr blank)
    rw [readFilters_append seam offset text closed, none]
    cases readFilters offset text with
    | error failure => rfl
    | ok filters => exact congrArg Except.ok (List.append_nil filters)
  · -- what is blank does not close a phrase either
    simp only [ne_eq, not_forall, not_not] at closed
    obtain ⟨position, failed⟩ := closed
    obtain ⟨front, current, reads, inner, rfl, read, -, -, single, -, same⟩ :=
      readFilters_error failed
    obtain ⟨place, cause⟩ := inner
    obtain rfl : Cause.unterminatedQuote = cause := congrArg Failure.cause same
    obtain ⟨behind, rfl, unclosed⟩ := readSingleFilter_unclosed single
    have longUnclosed : quotationMark ∉ behind ++ tail := by
      rw [List.mem_append, not_or]
      refine ⟨unclosed, ?_⟩
      intro member
      have wrong := blank quotationMark member
      cases wrong
    rw [List.append_assoc, read, List.cons_append, readFilters_unclosed longUnclosed, read,
      readFilters_unclosed unclosed]

/-- The digits of the numeral stand in the text, behind as many characters as it says. -/
def Numeral.StandsIn (text : List Char) (numeral : Numeral) : Prop :=
  ∃ front behind, text = front ++ (numeral.digits.toList ++ behind) ∧
    front.length = numeral.offset

/-- A numeral stands further behind in a text with more in front. -/
theorem Numeral.StandsIn.within {numeral : Numeral} (stands : numeral.StandsIn text)
    (front behind : List Char) :
    (numeral.shift front.length).StandsIn (front ++ (text ++ behind)) := by
  obtain ⟨before, after, rfl, place⟩ := stands
  refine ⟨front ++ before, after ++ behind, ?_, ?_⟩
  · simp only [Numeral.shift, List.append_assoc]
  · rw [List.length_append, place]
    rfl

/-- The numerals of a range stand in the text that is typed. -/
theorem Range.standsIn_placed (range : Range Numeral) (front : List Char) :
    ∀ numeral ∈ (range.placed Numeral.digits Numeral.placed front.length).bounds,
      numeral.StandsIn (front ++ (range.written Numeral.digits).toList) := by
  intro numeral member
  cases range with
  | exactly value =>
    obtain rfl := List.mem_singleton.mp member
    exact ⟨front, [], by simp [Range.written, Numeral.placed], rfl⟩
  | compared comparison bound =>
    obtain rfl := List.mem_singleton.mp member
    refine ⟨front ++ comparison.symbol.toList, [], ?_, ?_⟩
    · simp [Range.written, Numeral.placed]
    · rw [List.length_append, String.length_toList]
      rfl
  | between lower upper =>
    rcases List.mem_pair.mp member with rfl | rfl
    · exact ⟨front, "..".toList ++ upper.digits.toList, by simp [Range.written, Numeral.placed], rfl⟩
    · refine ⟨front ++ (lower.digits.toList ++ "..".toList), [], ?_, ?_⟩
      · simp [Range.written, Numeral.placed]
      · have size : "..".toList.length = 2 := rfl
        simp only [Numeral.placed, List.length_append, size, String.length_toList]
        omega

/-- The numerals of a filter stand in the text that is typed. -/
theorem Filter.standsIn_placed (filter : Filter Numeral) :
    ∀ numeral ∈ filter.placed.counts, numeral.StandsIn filter.typed.toList := by
  intro numeral member
  cases filter with
  | images range =>
    rw [Filter.typed, Filter.writtenWith, String.toList_append]
    exact range.standsIn_placed Keyword.images.characters numeral member
  | propertyCount propertyKind range =>
    have text : (Filter.propertyCount propertyKind range).typed.toList =
        (Keyword.properties.characters ++ (propertyKind.toList ++ ":".toList)) ++
          (range.written Numeral.digits).toList := by
      simp [Filter.typed, Filter.writtenWith, Keyword.characters]
    have size : (Keyword.properties.characters ++ (propertyKind.toList ++ ":".toList)).length =
        Keyword.properties.characters.length + propertyKind.length + 1 := by
      have colon : ":".toList.length = 1 := rfl
      simp only [List.length_append, colon, String.length_toList]
      omega
    rw [text]
    apply range.standsIn_placed
    rw [size]
    exact member
  | _ => cases member

/-- Mapping the counts of a filter maps the list of counts. -/
theorem Filter.counts_map {α β : Type} (f : α → β) (filter : Filter α) :
    (filter.map f).counts = filter.counts.map f := by
  cases filter with
  | images range => exact range.bounds_map f
  | propertyCount propertyKind range => exact range.bounds_map f
  | _ => rfl

/-- The counts of a filter that can be typed can be typed. -/
theorem Filter.WellFormed.counts {α : Type} {count : α → Prop} {filter : Filter α}
    (wellFormed : filter.WellFormed count) : ∀ value ∈ filter.counts, count value := by
  intro value member
  cases filter with
  | images range => exact wellFormed value member
  | propertyCount propertyKind range => exact wellFormed.2 value member
  | _ => cases member

/-- The numerals that are read from a text stand in it. -/
theorem standsIn_of_readFilters {reads : List (Filter Numeral)}
    (read : readFilters offset text = .ok reads) :
    ∀ filter ∈ reads, ∀ numeral ∈ filter.counts,
      numeral.WellFormed ∧
        ∃ inner : Numeral, inner.StandsIn text ∧ numeral = inner.shift offset := by
  induction offset, text using readFilters_induction generalizing reads with
  | blank offset text blank =>
    rw [readFilters_of_blank blank] at read
    cases read
    intro filter member
    cases member
  | error offset text failure present failed =>
    rw [readFilters_of_error present failed] at read
    cases read
  | solid offset text reading front solid =>
    rw [readFilters_of_solid front solid] at read
    cases read
  | seam offset text reading front seam later =>
    rw [readFilters_of_seam front seam] at read
    obtain ⟨others, behind, rfl⟩ := map_eq_ok_iff.mp read
    obtain ⟨wellFormed, placed, -⟩ := readFilter_settled front
    have whole : text.takeWhile isBlank ++ (reading.value.typed.toList ++ reading.rest) = text := by
      rw [← readFilter_eq front]
      exact List.takeWhile_append_dropWhile
    have sizes := congrArg List.length whole
    rw [List.length_append, List.length_append] at sizes
    intro filter listed numeral member
    rcases List.mem_cons.mp listed with rfl | listed
    · rw [Filter.counts_map, List.mem_map] at member
      obtain ⟨inner, found, rfl⟩ := member
      have start : text.length - (dropBlank text).length = (text.takeWhile isBlank).length := by
        have taken := congrArg List.length (readFilter_eq front)
        rw [List.length_append] at taken
        omega
      refine ⟨wellFormed.counts inner found, inner.shift (text.takeWhile isBlank).length, ?_, ?_⟩
      · rw [← placed] at found
        have stands := (reading.value.standsIn_placed inner found).within
          (text.takeWhile isBlank) reading.rest
        rwa [whole] at stands
      · rw [start]
        simp only [Numeral.shift, Nat.add_assoc]
    · obtain ⟨valid, inner, stands, rfl⟩ := later behind filter listed numeral member
      refine ⟨valid, inner.shift (text.length - reading.rest.length), ?_, ?_⟩
      · have moved := stands.within (text.takeWhile isBlank ++ reading.value.typed.toList) []
        have size : (text.takeWhile isBlank ++ reading.value.typed.toList).length =
            text.length - reading.rest.length := by
          rw [List.length_append]
          omega
        rwa [List.append_nil, List.append_assoc, whole, size] at moved
      · simp only [Numeral.shift, Nat.add_assoc]

end SearchBar
