import SearchBar.Proofs.Counting
import SearchBar.Proofs.TypedFilter

/-!
# The grammar of filters

The grammar says which text spells which filter, in ten forms and without a word
on reading. Reading and grammar agree: a text is read as a filter exactly if it
spells it, and every other text is refused.

Main statements: the grammar is what the reader of one filter accepts
(`spelling_iff`), also for texts and their reports (`parseFilter_exact`).
-/

namespace SearchBar

open Text

variable {α β ε Count : Type}

/-- A run of digits spells the count that is its value. -/
structure CountSpelling (text : String) (count : Int) : Prop where
  /-- There is a digit. -/
  nonempty : text ≠ ""
  /-- There is nothing but digits. -/
  digits : ∀ c ∈ text.toList, isDecimalDigit c = true
  /-- They are few enough to be read as a number. -/
  short : text.length ≤ maximalDigits
  /-- The number is a count. -/
  small : decimalValue text.toList ≤ maximalCount
  /-- It is the count spelled. -/
  value : count = decimalValue text.toList

/-- A run of date characters spells the date with these characters. -/
def DateSpelling (text : String) (date : DateText) : Prop :=
  isDateText text.toList = true ∧ date.text = text

/-- The spelling of ranges over bounds with a spelling of their own. -/
inductive RangeSpelling (bound : String → α → Prop) : String → Range α → Prop
  | exactly {text : String} {value : α} (spelled : bound text value) :
    RangeSpelling bound text (.exactly value)
  | compared (comparison : Comparison) {text : String} {value : α} (spelled : bound text value) :
    RangeSpelling bound (comparison.symbol ++ text) (.compared comparison value)
  | between {lowerText upperText : String} {lower upper : α} (low : bound lowerText lower)
    (high : bound upperText upper) :
    RangeSpelling bound (lowerText ++ ".." ++ upperText) (.between lower upper)

/-- The spelling of filters. -/
inductive Spelling : String → Filter Int → Prop
  | word {text : String} (valid : IsWord text) : Spelling text (.word text)
  | quoted {text : String} (valid : IsPhrase text) :
    Spelling ("\"" ++ text ++ "\"") (.quoted text)
  | draft (state : Tristate) : Spelling (Keyword.draft.written ++ state.written) (.draft state)
  | kind {name : String} (valid : IsIdentifier name) :
    Spelling (Keyword.kind.written ++ name) (.kind name)
  | category {name : String} (valid : IsIdentifier name) :
    Spelling (Keyword.category.written ++ name) (.category name)
  | username {name : String} (valid : IsUsername name) :
    Spelling (Keyword.creator.written ++ ("@" ++ name)) (.creator (.username name))
  | userId {value : String} (valid : IsUserId value) :
    Spelling (Keyword.creator.written ++ value) (.creator (.userId value))
  | created {text : String} {range : Range DateText}
    (spelled : RangeSpelling DateSpelling text range) :
    Spelling (Keyword.created.written ++ text) (.created range)
  | images {text : String} {range : Range Int} (spelled : RangeSpelling CountSpelling text range) :
    Spelling (Keyword.images.written ++ text) (.images range)
  | propertyCount {propertyKind text : String} {range : Range Int}
    (valid : IsIdentifier propertyKind) (spelled : RangeSpelling CountSpelling text range) :
    Spelling (Keyword.properties.written ++ propertyKind ++ ":" ++ text)
      (.propertyCount propertyKind range)
  | property {propertyKind id : String} (valid : IsIdentifier propertyKind)
    (validId : IsIdentifier id) (value : Bool) :
    Spelling (Keyword.properties.written ++ propertyKind ++ "/" ++ id ++ ":" ++ boolText value)
      (.property propertyKind id value)

/-- A numeral that can be typed spells what it becomes. -/
theorem countSpelling_iff (numeral : Numeral) {count : Int} :
    CountSpelling numeral.digits count ↔
      numeral.WellFormed ∧ numeral.count = .ok count := by
  rw [Numeral.count_eq_ok_iff]
  constructor
  · intro spelled
    exact ⟨⟨spelled.nonempty, spelled.digits⟩, spelled.short, spelled.small, spelled.value⟩
  · intro counted
    obtain ⟨⟨nonempty, digits⟩, short, small, value⟩ := counted
    exact ⟨nonempty, digits, short, small, value⟩

/-- A range spells what it becomes if its bounds do. -/
theorem rangeSpelling_of_mapM {bound : String → β → Prop} {write : α → String}
    {become : α → Except ε β} {range : Range α} {result : Range β}
    (bounds : ∀ value ∈ range.bounds, ∀ other, become value = .ok other →
      bound (write value) other)
    (mapped : range.mapM become = .ok result) :
    RangeSpelling bound (range.written write) result := by
  cases Range.mapM_eq_ok_iff.mp mapped with
  | exactly value => exact .exactly (bounds _ List.mem_cons_self _ value)
  | compared comparison value =>
    exact .compared comparison (bounds _ List.mem_cons_self _ value)
  | between lower upper =>
    have low := bounds _ List.mem_cons_self _ lower
    have high := bounds _ (List.mem_cons_of_mem _ List.mem_cons_self) _ upper
    exact .between low high

/-- A text that spells a range over counts is typed by numerals in their places. -/
theorem related_of_rangeSpelling_count {text : String} {counted : Range Int}
    (spelled : RangeSpelling CountSpelling text counted) (offset : Nat) :
    ∃ range : Range Numeral, range.written Numeral.digits = text ∧
      (∀ bound ∈ range.bounds, bound.WellFormed) ∧
      range.placed Numeral.digits Numeral.placed offset = range ∧
      range.mapM Numeral.count = .ok counted := by
  cases spelled with
  | @exactly _ value spelled =>
    obtain ⟨wellFormed, counted⟩ :=
      (countSpelling_iff ⟨offset, text⟩).mp spelled
    refine ⟨.exactly ⟨offset, text⟩, rfl, ?_, rfl, Range.mapM_eq_ok_iff.mpr (.exactly counted)⟩
    simpa [Range.bounds] using wellFormed
  | @compared comparison digits value spelled =>
    obtain ⟨wellFormed, counted⟩ :=
      (countSpelling_iff ⟨offset + comparison.symbol.length, digits⟩).mp spelled
    refine ⟨.compared comparison ⟨offset + comparison.symbol.length, digits⟩, rfl, ?_, rfl,
      Range.mapM_eq_ok_iff.mpr (.compared comparison counted)⟩
    simpa [Range.bounds] using wellFormed
  | @between lowerDigits upperDigits lower upper low high =>
    obtain ⟨lowWellFormed, lowCounted⟩ :=
      (countSpelling_iff ⟨offset, lowerDigits⟩).mp low
    obtain ⟨highWellFormed, highCounted⟩ :=
      (countSpelling_iff ⟨offset + lowerDigits.length + 2, upperDigits⟩).mp high
    refine ⟨.between ⟨offset, lowerDigits⟩ ⟨offset + lowerDigits.length + 2, upperDigits⟩, rfl, ?_,
      rfl, Range.mapM_eq_ok_iff.mpr (.between lowCounted highCounted)⟩
    simp [Range.bounds, lowWellFormed, highWellFormed]

/-- A range over dates is spelled by its text alone. -/
theorem rangeSpelling_date_iff {text : String} {range : Range DateText} :
    RangeSpelling DateSpelling text range ↔ range.written DateText.text = text := by
  have own : ∀ date : DateText, DateSpelling date.text date := fun date => ⟨date.lexical, rfl⟩
  constructor
  · intro spelled
    cases spelled with
    | exactly value =>
      obtain ⟨-, rfl⟩ := value
      rfl
    | compared comparison bound =>
      obtain ⟨-, rfl⟩ := bound
      rfl
    | between lower upper =>
      obtain ⟨-, rfl⟩ := lower
      obtain ⟨-, rfl⟩ := upper
      rfl
  · rintro rfl
    have kept : range.mapM (Except.ok : DateText → Except Empty DateText) = .ok range := by
      cases range <;> rfl
    apply rangeSpelling_of_mapM _ kept
    intro date _ other same
    cases same
    exact own date

/-- A filter spells what it becomes if its counts do. -/
theorem spelling_of_mapM {write : Count → String} {become : Count → Except ε Int}
    {filter : Filter Count} {result : Filter Int}
    (wellFormed : filter.WellFormed fun value =>
      ∀ count, become value = .ok count → CountSpelling (write value) count)
    (mapped : filter.mapM become = .ok result) : Spelling (filter.writtenWith write) result := by
  cases filter with
  | word text =>
    cases mapped
    exact .word wellFormed
  | quoted text =>
    cases mapped
    exact .quoted wellFormed
  | draft state =>
    cases mapped
    exact .draft state
  | kind text =>
    cases mapped
    exact .kind wellFormed
  | category text =>
    cases mapped
    exact .category wellFormed
  | creator author =>
    cases mapped
    cases author with
    | username name => exact .username wellFormed
    | userId value => exact .userId wellFormed
  | created range =>
    cases mapped
    exact .created (rangeSpelling_date_iff.mpr rfl)
  | images range =>
    obtain ⟨result, bounds, rfl⟩ := map_eq_ok_iff.mp mapped
    exact .images (rangeSpelling_of_mapM wellFormed bounds)
  | propertyCount propertyKind range =>
    obtain ⟨result, bounds, rfl⟩ := map_eq_ok_iff.mp mapped
    exact .propertyCount wellFormed.1 (rangeSpelling_of_mapM wellFormed.2 bounds)
  | property propertyKind id value =>
    cases mapped
    exact .property wellFormed.1 wellFormed.2 value

/-- A filter that can be typed spells what it becomes. -/
theorem spelling_of_count {filter : Filter Numeral} {counted : Filter Int}
    (wellFormed : filter.WellFormed Numeral.WellFormed) (count : filter.count = .ok counted) :
    Spelling filter.typed counted := by
  apply spelling_of_mapM _ count
  apply wellFormed.mono
  intro numeral digits value found
  exact (countSpelling_iff numeral).mpr ⟨digits, found⟩

/-- A text that spells a filter is typed by a filter over numerals in their places. -/
theorem typed_of_spelling {text : String} {counted : Filter Int}
    (spelled : Spelling text counted) :
    ∃ filter : Filter Numeral, filter.typed = text ∧ filter.WellFormed Numeral.WellFormed ∧
      filter.placed = filter ∧ filter.count = .ok counted := by
  cases spelled with
  | word valid => exact ⟨.word text, rfl, valid, rfl, rfl⟩
  | quoted valid => exact ⟨.quoted _, rfl, valid, rfl, rfl⟩
  | draft state => exact ⟨.draft state, rfl, trivial, rfl, rfl⟩
  | kind valid => exact ⟨.kind _, rfl, valid, rfl, rfl⟩
  | category valid => exact ⟨.category _, rfl, valid, rfl, rfl⟩
  | @username name valid => exact ⟨.creator (.username name), rfl, valid, rfl, rfl⟩
  | @userId value valid => exact ⟨.creator (.userId value), rfl, valid, rfl, rfl⟩
  | @created _ range spelled =>
    obtain rfl := rangeSpelling_date_iff.mp spelled
    exact ⟨.created range, rfl, trivial, rfl, rfl⟩
  | images spelled =>
    obtain ⟨range, rfl, bounds, placed, mapped⟩ :=
      related_of_rangeSpelling_count spelled Keyword.images.characters.length
    refine ⟨.images range, rfl, bounds, ?_, map_eq_ok_iff.mpr ⟨_, mapped, rfl⟩⟩
    rw [Filter.placed, placed]
  | @propertyCount propertyKind _ _ valid spelled =>
    obtain ⟨range, rfl, bounds, placed, mapped⟩ := related_of_rangeSpelling_count spelled
      (Keyword.properties.characters.length + propertyKind.length + 1)
    refine ⟨.propertyCount propertyKind range, rfl, ⟨valid, bounds⟩, ?_,
      map_eq_ok_iff.mpr ⟨_, mapped, rfl⟩⟩
    rw [Filter.placed, placed]
  | property valid validId value => exact ⟨.property _ _ value, rfl, ⟨valid, validId⟩, rfl, rfl⟩

/-- A text spells a filter exactly if it is read as one whose numerals become its counts. -/
theorem spelling_iff {text : String} {counted : Filter Int} :
    Spelling text counted ↔
      ∃ filter, readSingleFilter text.toList = .ok filter ∧ filter.count = .ok counted := by
  constructor
  · intro spelled
    obtain ⟨filter, rfl, wellFormed, placed, count⟩ := typed_of_spelling spelled
    exact ⟨filter, readSingleFilter_eq_ok_iff_typed.mpr ⟨wellFormed, placed, rfl⟩, count⟩
  · intro found
    obtain ⟨filter, read, count⟩ := found
    obtain ⟨wellFormed, -, typed⟩ := readSingleFilter_eq_ok_iff_typed.mp read
    obtain rfl := String.toList_inj.mp typed
    exact spelling_of_count wellFormed count

/-- A reported outcome is a success exactly if the outcome is one. -/
theorem reported_eq_ok_iff {text : String} {outcome : Except Failure α} {value : α} :
    reported text outcome = .ok value ↔ outcome = .ok value := by
  cases outcome with
  | error failure => simp [reported, Except.mapError]
  | ok result => simp [reported, Except.mapError]

/-- A filter that is read is counted, and what fails then is reported. -/
theorem parseFilter_of_read {text : String} {filter : Filter Numeral}
    (read : readSingleFilter text.toList = .ok filter) :
    parseFilter text = reported text filter.count := by
  rw [parseFilter, read]
  rfl

/-- A failure that is reported has happened. -/
theorem reported_error {text : String} {outcome : Except Failure α} {error : ParseError}
    (failed : reported text outcome = .error error) :
    ∃ failure, outcome = .error failure ∧ error = failure.toError text := by
  cases outcome with
  | ok value => cases failed
  | error failure =>
    cases failed
    exact ⟨failure, rfl, rfl⟩

/-- The filter that a text means is the one that it spells. -/
theorem parseFilter_eq_ok_iff {text : String} {filter : Filter Int} :
    parseFilter text = .ok filter ↔ Spelling text filter := by
  rw [parseFilter, reported_eq_ok_iff, spelling_iff]
  cases readSingleFilter text.toList with
  | error failure => simp [bind, Except.bind]
  | ok read => simp [bind, Except.bind]

/-- A text means a filter exactly if it spells it. Every other text is refused, and a text that
begins with a keyword is never taken for a word. -/
theorem parseFilter_exact (text : String) :
    (∀ filter, parseFilter text = .ok filter ↔ Spelling text filter) ∧
      ((∃ error, parseFilter text = .error error) ↔ ∀ filter, ¬ Spelling text filter) ∧
      ∀ keyword : Keyword, keyword.characters <+: text.toList →
        ∀ word, parseFilter text ≠ .ok (.word word) := by
  refine ⟨fun filter => parseFilter_eq_ok_iff, ?_, ?_⟩
  · constructor
    · intro failed filter spelled
      obtain ⟨error, refused⟩ := failed
      rw [parseFilter_eq_ok_iff.mpr spelled] at refused
      cases refused
    · intro unspelled
      cases outcome : parseFilter text with
      | error error => exact ⟨error, rfl⟩
      | ok filter => exact absurd (parseFilter_eq_ok_iff.mp outcome) (unspelled filter)
  · intro keyword start word accepted
    have spelled := parseFilter_eq_ok_iff.mp accepted
    cases spelled with
    | word valid => exact valid.unqualified keyword start

end SearchBar
