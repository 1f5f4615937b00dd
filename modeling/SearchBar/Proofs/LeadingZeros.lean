import SearchBar.Proofs.Miscounts
import SearchBar.Proofs.RoundTrip

/-!
# Zeros in front of counts

Zeros in front do not change what a run of digits is worth. So wherever a filter
has a count, the run with zeros in front is accepted if the shortest numeral of
its value is, and as the same filter. But the zeros are counted where the length
of the run is: a run that is too long to be a number is refused, whatever it is
worth.

Main statement: `parseFilter_leading_zeros`.
-/

namespace SearchBar

open Text

/-- A range over counts that leaves one of them open. The other bound of an interval may be any
count in any spelling. -/
inductive OpenRange
  | exactly
  | compared (comparison : Comparison)
  | lowerBound (text : String) (upper : Int) (spelled : CountSpelling text upper)
  | upperBound (text : String) (lower : Int) (spelled : CountSpelling text lower)

/-- A filter with a range over counts that leaves one of them open. -/
inductive OpenFilter
  | images (range : OpenRange)
  | propertyCount (propertyKind : String) (named : IsIdentifier propertyKind) (range : OpenRange)

/-- The range with the count that was left open, and the other bound made from its spelling and
what it spells. -/
def OpenRange.fill {Count : Type} (other : String → Int → Count) (count : Count) :
    OpenRange → Range Count
  | exactly => .exactly count
  | compared comparison => .compared comparison count
  | lowerBound text upper _ => .between count (other text upper)
  | upperBound text lower _ => .between (other text lower) count

namespace OpenFilter

/-- The filter with the count that was left open, and the other bound made from its spelling and
what it spells. -/
def fill {Count : Type} (other : String → Int → Count) (count : Count) : OpenFilter → Filter Count
  | images range => .images (range.fill other count)
  | propertyCount propertyKind _ range => .propertyCount propertyKind (range.fill other count)

/-- The text of the filter with these digits in the open place. -/
def text (slot : OpenFilter) (digits : String) : String :=
  (slot.fill (fun spelling _ => spelling) digits).writtenWith id

/-- The filter with this count in the open place. -/
def filter (slot : OpenFilter) (count : Int) : Filter Int := slot.fill (fun _ other => other) count

end OpenFilter

/-- The digits with so many zeros in front. -/
def withZeros (zeros : Nat) (digits : String) : String :=
  String.ofList (List.replicate zeros '0') ++ digits

/-- The zeros count for the length. -/
@[simp] theorem length_withZeros (zeros : Nat) (digits : String) :
    (withZeros zeros digits).length = zeros + digits.length := by
  simp [withZeros]

/-- Digits with zeros in front are digits. -/
theorem isDigitRun_withZeros {digits : String} (run : IsDigitRun digits) (zeros : Nat) :
    IsDigitRun (withZeros zeros digits) := by
  constructor
  · rw [withZeros, ne_eq, ← String.toList_eq_nil_iff, String.toList_append]
    exact List.append_ne_nil_of_right_ne_nil _ (mt String.toList_eq_nil_iff.mp run.1)
  · intro c member
    rw [withZeros, String.toList_append, String.toList_ofList] at member
    rcases List.mem_append.mp member with zero | digit
    · rw [List.eq_of_mem_replicate zero]
      decide
    · exact run.2 c digit

/-- Digits are worth the same with zeros in front. -/
theorem decimalValue_withZeros (zeros : Nat) (digits : String) :
    decimalValue (withZeros zeros digits).toList = decimalValue digits.toList := by
  rw [withZeros, String.toList_append, String.toList_ofList]
  induction zeros with
  | zero => rfl
  | succ zeros ih =>
    rw [← ih, List.replicate_succ, List.cons_append, decimalValue, Nat.ofDigitChars_cons]
    rfl

/-- The numeral of a count is a run of digits. -/
theorem CountSpelling.isDigitRun {text : String} {count : Int}
    (spelled : CountSpelling text count) : IsDigitRun text := ⟨spelled.nonempty, spelled.digits⟩

/-- The range with digits in its open place, the places of both numerals given. -/
def OpenRange.numerals (here there : Nat) (digits : String) (range : OpenRange) : Range Numeral :=
  range.fill (fun spelling _ => ⟨there, spelling⟩) ⟨here, digits⟩

/-- The filter with digits in its open place, the places of both numerals given. -/
def OpenFilter.numerals (here there : Nat) (digits : String) (slot : OpenFilter) : Filter Numeral :=
  slot.fill (fun spelling _ => ⟨there, spelling⟩) ⟨here, digits⟩

section

variable (here there : Nat) (digits : String)

/-- A range becomes one over counts if the numeral in its open place becomes a count. -/
theorem OpenRange.mapM_numerals (range : OpenRange) :
    (range.numerals here there digits).mapM Numeral.count =
      (range.fill fun _ other => other) <$> (⟨here, digits⟩ : Numeral).count := by
  have counted : ∀ {text count}, CountSpelling text count →
      (⟨there, text⟩ : Numeral).count = .ok count :=
    fun spelled => ((countSpelling_iff ⟨there, _⟩).mp spelled).2
  cases range with
  | exactly => rfl
  | compared comparison => rfl
  | lowerBound text upper spelled =>
    simp only [numerals, fill, Range.mapM, counted spelled]
    cases Numeral.count ⟨here, digits⟩ <;> rfl
  | upperBound text lower spelled =>
    simp only [numerals, fill, Range.mapM, counted spelled]
    cases Numeral.count ⟨here, digits⟩ <;> rfl

/-- A filter becomes one over counts if the numeral in its open place becomes a count. -/
theorem OpenFilter.count_numerals (slot : OpenFilter) :
    (slot.numerals here there digits).count =
      slot.filter <$> (⟨here, digits⟩ : Numeral).count := by
  cases slot with
  | images range =>
    have counted := range.mapM_numerals here there digits
    rw [OpenRange.numerals] at counted
    simp only [numerals, fill, Filter.count, Filter.mapM, counted]
    cases Numeral.count ⟨here, digits⟩ <;> rfl
  | propertyCount propertyKind named range =>
    have counted := range.mapM_numerals here there digits
    rw [OpenRange.numerals] at counted
    simp only [numerals, fill, Filter.count, Filter.mapM, counted]
    cases Numeral.count ⟨here, digits⟩ <;> rfl

/-- The numeral in the open place is one of the counts of the range. -/
theorem OpenRange.mem_bounds_numerals (range : OpenRange) :
    ⟨here, digits⟩ ∈ (range.numerals here there digits).bounds := by
  cases range with
  | exactly => exact List.mem_singleton_self _
  | compared comparison => exact List.mem_singleton_self _
  | lowerBound text upper spelled => exact List.mem_cons_self
  | upperBound text lower spelled => exact List.mem_cons_of_mem _ List.mem_cons_self

/-- The numeral in the open place is one of the counts of the filter. -/
theorem OpenFilter.mem_counts_numerals (slot : OpenFilter) :
    ⟨here, digits⟩ ∈ (slot.numerals here there digits).counts := by
  cases slot with
  | images range => exact range.mem_bounds_numerals here there digits
  | propertyCount propertyKind named range => exact range.mem_bounds_numerals here there digits

/-- The text of a filter with digits in its open place. -/
theorem OpenFilter.typed_numerals (slot : OpenFilter) :
    (slot.numerals here there digits).typed = slot.text digits := by
  cases slot with
  | images range => cases range <;> rfl
  | propertyCount propertyKind named range => cases range <;> rfl

/-- In place a range has the same digits in its open place. -/
theorem OpenRange.placed_numerals (offset : Nat) (range : OpenRange) :
    ∃ here' there', (range.numerals here there digits).placed Numeral.digits Numeral.placed offset =
      range.numerals here' there' digits := by
  cases range with
  | exactly => exact ⟨offset, 0, rfl⟩
  | compared comparison => exact ⟨offset + comparison.symbol.length, 0, rfl⟩
  | lowerBound text upper spelled => exact ⟨offset, offset + digits.length + 2, rfl⟩
  | upperBound text lower spelled => exact ⟨offset + text.length + 2, offset, rfl⟩

/-- In place a filter has the same digits in its open place. -/
theorem OpenFilter.placed_numerals (slot : OpenFilter) :
    ∃ here' there', (slot.numerals here there digits).placed =
      slot.numerals here' there' digits := by
  cases slot with
  | images range =>
    obtain ⟨here', there', placed⟩ := range.placed_numerals here there digits
      Keyword.images.characters.length
    exact ⟨here', there', congrArg Filter.images placed⟩
  | propertyCount propertyKind named range =>
    obtain ⟨here', there', placed⟩ := range.placed_numerals here there digits
      (Keyword.properties.characters.length + propertyKind.length + 1)
    exact ⟨here', there', congrArg (Filter.propertyCount propertyKind) placed⟩

variable {digits}

/-- A range with digits in its open place can be typed. -/
theorem OpenRange.wellFormed_numerals (run : IsDigitRun digits) (range : OpenRange) :
    ∀ bound ∈ (range.numerals here there digits).bounds, bound.WellFormed := by
  cases range with
  | exactly => exact List.forall_mem_singleton.mpr run
  | compared comparison => exact List.forall_mem_singleton.mpr run
  | lowerBound text upper spelled =>
    exact List.forall_mem_cons.mpr ⟨run, List.forall_mem_singleton.mpr spelled.isDigitRun⟩
  | upperBound text lower spelled =>
    exact List.forall_mem_cons.mpr ⟨spelled.isDigitRun, List.forall_mem_singleton.mpr run⟩

/-- A filter with digits in its open place can be typed. -/
theorem OpenFilter.wellFormed_numerals (run : IsDigitRun digits) (slot : OpenFilter) :
    (slot.numerals here there digits).WellFormed Numeral.WellFormed := by
  cases slot with
  | images range => exact range.wellFormed_numerals here there run
  | propertyCount propertyKind named range =>
    exact ⟨named, range.wellFormed_numerals here there run⟩

end

/-- The text of a filter with digits in its open place is read as the filter with what the digits
count there, or refused for them. -/
theorem parseFilter_open (slot : OpenFilter) {digits : String} (run : IsDigitRun digits) :
    ∃ numeral : Numeral, numeral.digits = digits ∧ numeral.StandsIn (slot.text digits).toList ∧
      parseFilter (slot.text digits) =
        reported (slot.text digits) (slot.filter <$> numeral.count) := by
  -- the places that the numerals are given do not matter, for the reader puts them in place
  obtain ⟨here, there, placed⟩ := slot.placed_numerals 0 0 digits
  have stands := (slot.numerals 0 0 digits).standsIn_placed
  have read := readSingleFilter_typed (slot.wellFormed_numerals 0 0 run)
  rw [placed, slot.typed_numerals] at stands read
  refine ⟨⟨here, digits⟩, rfl, stands _ (slot.mem_counts_numerals here there digits), ?_⟩
  rw [← slot.count_numerals here there digits, parseFilter_of_read read]

/-- Digits in the open place of a filter are accepted exactly if they spell a count. -/
theorem parseFilter_open_eq_ok_iff (slot : OpenFilter) {digits : String} (run : IsDigitRun digits)
    {filter : Filter Int} :
    parseFilter (slot.text digits) = .ok filter ↔
      ∃ count, CountSpelling digits count ∧ slot.filter count = filter := by
  obtain ⟨numeral, rfl, -, outcome⟩ := parseFilter_open slot run
  rw [outcome, reported_eq_ok_iff, map_eq_ok_iff]
  constructor
  · rintro ⟨count, counted, same⟩
    exact ⟨count, (countSpelling_iff numeral).mpr ⟨run, counted⟩, same⟩
  · rintro ⟨count, spelled, same⟩
    exact ⟨count, ((countSpelling_iff numeral).mp spelled).2, same⟩

/-- Digits in the open place of a filter that are refused are reported where they stand. -/
theorem parseFilter_open_error (slot : OpenFilter) {digits : String} (run : IsDigitRun digits)
    {error : ParseError} (failed : parseFilter (slot.text digits) = .error error) :
    ∃ numeral : Numeral, numeral.digits = digits ∧ numeral.StandsIn (slot.text digits).toList ∧
      error = ⟨slot.text digits, numeral.offset, [], numeral.complaint⟩ := by
  obtain ⟨numeral, same, stands, outcome⟩ := parseFilter_open slot run
  rw [outcome] at failed
  obtain ⟨failure, uncounted, rfl⟩ := reported_error failed
  exact ⟨numeral, same, stands, Numeral.toError_of_count (map_eq_error_iff.mp uncounted) _⟩

/-- Digits with zeros in front spell a count exactly if they are worth one and not too many. -/
theorem countSpelling_withZeros_iff {zeros : Nat} {digits : String} (run : IsDigitRun digits)
    {count : Int} :
    CountSpelling (withZeros zeros digits) count ↔
      zeros + digits.length ≤ maximalDigits ∧ decimalValue digits.toList ≤ maximalCount ∧
        count = decimalValue digits.toList := by
  obtain ⟨present, digital⟩ := isDigitRun_withZeros run zeros
  constructor
  · rintro ⟨-, -, short, small, value⟩
    rw [decimalValue_withZeros] at small value
    rw [length_withZeros] at short
    exact ⟨short, small, value⟩
  · rintro ⟨short, small, value⟩
    rw [← length_withZeros] at short
    rw [← decimalValue_withZeros zeros] at small value
    exact ⟨present, digital, short, small, value⟩

/-- Zeros in front of a count change nothing, as long as there are not too many digits for a number.
With up to 4300 digits a numeral is accepted exactly if it is worth 255 at most, and it means the
same as the shortest numeral of its value. What is refused is refused where the numeral stands: as
out of range, or for the number of its digits if these are more than 4300. -/
theorem parseFilter_leading_zeros (slot : OpenFilter) (zeros : Nat) {digits : String}
    (run : IsDigitRun digits) :
    ((∃ filter, parseFilter (slot.text (withZeros zeros digits)) = .ok filter) ↔
        zeros + digits.length ≤ 4300 ∧ decimalValue digits.toList ≤ 255) ∧
      (∀ filter, parseFilter (slot.text (withZeros zeros digits)) = .ok filter →
        filter = slot.filter (decimalValue digits.toList) ∧
          parseFilter (slot.text (naturalNumeral (decimalValue digits.toList))) = .ok filter) ∧
      ∀ error, parseFilter (slot.text (withZeros zeros digits)) = .error error →
        ∃ numeral : Numeral, numeral.digits = withZeros zeros digits ∧
          numeral.StandsIn (slot.text (withZeros zeros digits)).toList ∧
          error = ⟨slot.text (withZeros zeros digits), numeral.offset, [], numeral.complaint⟩ := by
  have padded := isDigitRun_withZeros run zeros
  refine ⟨?_, ?_, fun error failed => parseFilter_open_error slot padded failed⟩
  · constructor
    · rintro ⟨filter, accepted⟩
      obtain ⟨count, spelled, -⟩ := (parseFilter_open_eq_ok_iff slot padded).mp accepted
      obtain ⟨short, small, -⟩ := (countSpelling_withZeros_iff run).mp spelled
      exact ⟨short, small⟩
    · rintro ⟨short, small⟩
      have spelled := (countSpelling_withZeros_iff run).mpr ⟨short, small, rfl⟩
      exact ⟨_, (parseFilter_open_eq_ok_iff slot padded).mpr ⟨_, spelled, rfl⟩⟩
  · intro filter accepted
    obtain ⟨count, spelled, rfl⟩ := (parseFilter_open_eq_ok_iff slot padded).mp accepted
    obtain ⟨-, small, rfl⟩ := (countSpelling_withZeros_iff run).mp spelled
    have valid : IsCount (decimalValue digits.toList) :=
      ⟨Int.natCast_nonneg _, Int.ofNat_le.mpr small⟩
    have shortest := valid.spelled
    exact ⟨rfl, (parseFilter_open_eq_ok_iff slot shortest.isDigitRun).mpr ⟨_, shortest, rfl⟩⟩

/-- A hundred zeros in front of an upper bound change nothing. -/
theorem parseFilter_leading_zeros_hundred :
    IsDigitRun "12" ∧
      parseFilter ("properties:a:07.." ++ withZeros 100 "12") =
        .ok (.propertyCount "a" (.between 7 12)) ∧
      parseFilter "properties:a:07..12" = .ok (.propertyCount "a" (.between 7 12)) := by
  have run : IsDigitRun "12" := ⟨by decide, List.all_eq_true.mp (by decide)⟩
  have lower : CountSpelling "07" 7 :=
    ⟨by decide, List.all_eq_true.mp (by decide), by decide, by decide, by decide⟩
  let slot : OpenFilter :=
    .propertyCount "a" isIdentifier_letter (.upperBound "07" 7 lower)
  obtain ⟨accepted, meaning, -⟩ := parseFilter_leading_zeros slot 100 run
  obtain ⟨filter, found⟩ := accepted.mpr ⟨by decide, by decide⟩
  obtain ⟨rfl, shortest⟩ := meaning filter found
  have front : ∀ digits, slot.text digits = "properties:a:07.." ++ digits := by
    intro digits
    have lead : Keyword.properties.written ++ "a" ++ ":" ++ ("07" ++ "..") =
        "properties:a:07.." := by decide
    rw [← lead, String.append_assoc]
    rfl
  have whole : "properties:a:07.." ++ naturalNumeral (decimalValue "12".toList) =
      "properties:a:07..12" := by decide +kernel
  rw [front] at found
  rw [front, whole] at shortest
  exact ⟨run, found, shortest⟩

/-- A seven behind 4300 zeros is refused, a seven alone is not, and both are worth seven. -/
theorem parseFilter_refuses_zeros :
    (∃ error, parseFilter ("images:" ++ withZeros 4300 "7") = .error error ∧
      error.detail = "Exceeds the limit (4300 digits) for integer string conversion: " ++
        "value has 4301 digits; use sys.set_int_max_str_digits() to increase the limit") ∧
      parseFilter "images:7" = .ok (.images (.exactly 7)) ∧
      decimalValue (withZeros 4300 "7").toList = 7 := by
  have run : IsDigitRun "7" := ⟨by decide, List.all_eq_true.mp (by decide)⟩
  have padded := isDigitRun_withZeros run 4300
  refine ⟨?_, by decide +kernel, (decimalValue_withZeros 4300 "7").trans (by decide)⟩
  cases outcome : parseFilter ("images:" ++ withZeros 4300 "7") with
  | ok filter =>
    obtain ⟨count, spelled, -⟩ :=
      (parseFilter_open_eq_ok_iff (.images .exactly) padded).mp outcome
    exact absurd ((countSpelling_withZeros_iff run).mp spelled).1 (by decide)
  | error error =>
    obtain ⟨numeral, same, -, rfl⟩ :=
      parseFilter_open_error (.images .exactly) padded outcome
    have size : numeral.digits.length = 4301 := by
      rw [same, length_withZeros]
      rfl
    have complaint : numeral.complaint =
        "Exceeds the limit (4300 digits) for integer string conversion: value has " ++
          naturalNumeral 4301 ++
          " digits; use sys.set_int_max_str_digits() to increase the limit" := by
      rw [Numeral.complaint, size, if_pos (by decide)]
    exact ⟨_, rfl, complaint.trans (by decide +kernel)⟩

end SearchBar
