import SearchBar.Filter.Written
import SearchBar.Query.Reading

/-!
# Readings lose nothing

What is read from the front of a text is written exactly as it was typed, and
the rest follows it. The bounds of ranges, the literals and the identifiers are
treated first, then every qualifier.

Main statement: a text from which a filter is read consists of the filter as it
was typed and the rest (`readFilter_eq`).
-/

namespace SearchBar

open Text

/-- The text of a filter as it was typed. -/
def Filter.typed (filter : Filter Numeral) : String := filter.writtenWith Numeral.digits

/-- A run that is read is the front of the text. -/
theorem readRun_eq {first following : Char → Bool} {text run rest : List Char}
    (read : readRun first following text = some (run, rest)) : text = run ++ rest := by
  cases text with
  | nil => simp [readRun] at read
  | cons c tail =>
    simp only [readRun] at read
    split at read
    · cases read
      simp [List.takeWhile_append_dropWhile]
    · cases read

/-- A form of bounds that loses nothing: the bound as written and the rest make up the text. -/
def BoundForm.Faithful {α : Type} (form : BoundForm α) (written : α → String) : Prop :=
  ∀ offset text bound rest, form.read offset text = some (bound, rest) →
    text = (written bound).toList ++ rest

/-- Counts keep their digits. -/
theorem countForm_faithful : countForm.Faithful Numeral.digits := by
  intro offset text bound rest read
  simp only [countForm, Option.map_eq_some_iff] at read
  obtain ⟨⟨run, tail⟩, found, same⟩ := read
  cases same
  simpa using readRun_eq found

/-- Bounds of text ranges keep their characters. -/
theorem textForm_faithful : textForm.Faithful id := by
  intro offset text bound rest read
  simp only [textForm, Option.map_eq_some_iff] at read
  obtain ⟨⟨run, tail⟩, found, same⟩ := read
  cases same
  simpa using readRun_eq found

/-- Dates keep their characters. -/
theorem dateForm_faithful : dateForm.Faithful DateText.text := by
  intro offset text bound rest read
  simp only [dateForm, DateText.read] at read
  split at read
  · cases read
    simp [List.takeWhile_append_dropWhile]
  · cases read

/-- A comparison that is read is the front of the text. -/
theorem Comparison.read_eq {text rest : List Char} {comparison : Comparison}
    (read : Comparison.read text = some (comparison, rest)) :
    text = comparison.symbol.toList ++ rest := by
  unfold Comparison.read at read
  split at read <;> cases read <;> rfl

/-- A range that is read is the front of the text, if its bounds are. -/
theorem readRange_eq {α : Type} {form : BoundForm α} {written : α → String}
    (faithful : form.Faithful written) {offset : Nat} {text : List Char}
    {reading : Reading (Range α)} (read : readRange form offset text = .ok reading) :
    text = (reading.value.written written).toList ++ reading.rest := by
  simp only [readRange, unexpected] at read
  split at read
  · rename_i comparison rest symbol
    split at read
    · rename_i bound tail found
      cases read
      rw [Comparison.read_eq symbol, faithful _ _ _ _ found]
      simp [Range.written]
    · cases read
  · split at read
    · rename_i lower rest found
      split at read
      · rename_i upper tail found'
        cases read
        rw [faithful _ _ _ _ found, faithful _ _ _ _ found']
        simp [Range.written]
      · cases read
    · rename_i value rest _ found
      cases read
      rw [faithful _ _ _ _ found]
      simp [Range.written]
    · cases read

/-- A literal that is read is one of the choices and the front of the text. -/
theorem readLiteral_eq {α : Type} {choices : List (String × α)} {text rest : List Char} {value : α}
    (read : readLiteral choices text = some (value, rest)) :
    ∃ literal, (literal, value) ∈ choices ∧ text = literal.toList ++ rest := by
  simp only [readLiteral, Option.map_eq_some_iff] at read
  obtain ⟨⟨literal, chosen⟩, found, same⟩ := read
  cases same
  refine ⟨literal, List.mem_of_find?_eq_some found, ?_⟩
  have start := List.find?_some found
  simp only [List.isPrefixOf_iff_prefix] at start
  obtain ⟨tail, rfl⟩ := start
  simp [← String.length_toList]

/-- An identifier that is read is the front of the text. -/
theorem readIdentifier_eq (text : List Char) :
    text = (readIdentifier text).value.toList ++ (readIdentifier text).rest := by
  simp [readIdentifier, List.takeWhile_append_dropWhile]

/-- Every state of drafts is chosen by its written form. -/
theorem tristateChoices_written {literal : String} {state : Tristate}
    (choice : (literal, state) ∈ tristateChoices) : literal = state.written := by
  simp only [tristateChoices, List.mem_cons, Prod.mk.injEq, List.not_mem_nil, or_false] at choice
  rcases choice with ⟨rfl, rfl⟩ | ⟨rfl, rfl⟩ | ⟨rfl, rfl⟩ <;> rfl

/-- Every truth value is chosen by its written form. -/
theorem boolChoices_written {literal : String} {value : Bool}
    (choice : (literal, value) ∈ boolChoices) : literal = boolText value := by
  simp only [boolChoices, List.mem_cons, Prod.mk.injEq, List.not_mem_nil, or_false] at choice
  rcases choice with ⟨rfl, rfl⟩ | ⟨rfl, rfl⟩ <;> rfl

/-- A mapped reading comes from a reading. -/
theorem Reading.map_ok {α β : Type} {f : α → β} {outcome : Except Failure (Reading α)}
    {reading : Reading β} (mapped : outcome.map (·.map f) = .ok reading) :
    ∃ source, outcome = .ok source ∧ reading = source.map f := by
  cases outcome with
  | error failure => cases mapped
  | ok source => cases mapped; exact ⟨source, rfl, rfl⟩

/-- A filter on properties is written as it was read. -/
theorem readProperties_eq {offset : Nat} {text : List Char} {reading : Reading (Filter Numeral)}
    (read : readProperties offset text = .ok reading) :
    Keyword.properties.characters ++ text = reading.value.typed.toList ++ reading.rest := by
  have start := readIdentifier_eq text
  simp only [readProperties, unexpected] at read
  generalize readIdentifier text = kind at start read
  split at read
  · rename_i rest colon
    obtain ⟨range, found, rfl⟩ := Reading.map_ok read
    rw [start, colon, readRange_eq countForm_faithful found]
    simp [Filter.typed, Filter.writtenWith, Reading.map, Keyword.characters]
  · rename_i rest slash
    have following := readIdentifier_eq rest
    generalize readIdentifier rest = id at following read
    split at read
    · rename_i value colon
      simp only [readPropertyValue, unexpected] at read
      split at read
      · rename_i truth tail found
        cases read
        obtain ⟨literal, choice, same⟩ := readLiteral_eq found
        rw [start, slash, following, colon, same, boolChoices_written choice]
        simp [Filter.typed, Filter.writtenWith, Keyword.characters]
      · cases read
    · cases read
  · cases read

/-- A qualifier is written as it was read. -/
theorem readQualifier_eq {keyword : Keyword} {offset : Nat} {text : List Char}
    {reading : Reading (Filter Numeral)}
    (read : readQualifier keyword offset text = .ok reading) :
    keyword.characters ++ text = reading.value.typed.toList ++ reading.rest := by
  cases keyword with
  | draft =>
    simp only [readQualifier, readDraft, unexpected] at read
    split at read
    · rename_i state rest found
      cases read
      obtain ⟨literal, choice, same⟩ := readLiteral_eq found
      rw [same, tristateChoices_written choice]
      simp [Filter.typed, Filter.writtenWith, Keyword.characters]
    · cases read
  | kind =>
    cases read
    simp only [Reading.map, Filter.typed, Filter.writtenWith, Keyword.characters,
      String.toList_append, List.append_assoc]
    rw [← readIdentifier_eq text]
  | category =>
    cases read
    simp only [Reading.map, Filter.typed, Filter.writtenWith, Keyword.characters,
      String.toList_append, List.append_assoc]
    rw [← readIdentifier_eq text]
  | creator =>
    simp only [readQualifier, readCreator, unexpected] at read
    split at read
    · split at read
      · rename_i name rest found
        cases read
        rw [readRun_eq found]
        simp [Filter.typed, Filter.writtenWith, Keyword.characters, Author.written]
      · cases read
    · split at read
      · cases read
        simp [Filter.typed, Filter.writtenWith, Keyword.characters, Author.written,
          List.take_append_drop]
      · cases read
  | created =>
    obtain ⟨range, found, rfl⟩ := Reading.map_ok read
    rw [readRange_eq dateForm_faithful found]
    simp [Filter.typed, Filter.writtenWith, Keyword.characters, Reading.map]
  | images =>
    obtain ⟨range, found, rfl⟩ := Reading.map_ok read
    rw [readRange_eq countForm_faithful found]
    simp [Filter.typed, Filter.writtenWith, Keyword.characters, Reading.map]
  | properties => exact readProperties_eq read

/-- A keyword that is found is the front of the text. -/
theorem Keyword.at?_eq {text : List Char} {keyword : Keyword}
    (found : Keyword.at? text = some keyword) :
    text = keyword.characters ++ text.drop keyword.characters.length := by
  have start := List.find?_some found
  simp only [List.isPrefixOf_iff_prefix] at start
  obtain ⟨tail, rfl⟩ := start
  simp

/-- A phrase is written as it was read. -/
theorem readPhrase_eq {text : List Char} {reading : Reading (Filter Numeral)}
    (read : readPhrase text = .ok reading) :
    quotationMark :: text = reading.value.typed.toList ++ reading.rest := by
  have whole := List.takeWhile_append_dropWhile (p := (· != quotationMark)) (l := text)
  simp only [readPhrase] at read
  split at read
  · cases read
  · rename_i mark rest closing
    cases read
    have ends : mark = quotationMark := by
      have head := List.head?_dropWhile_not (· != quotationMark) text
      simpa [closing] using head
    rw [closing, ends] at whole
    simpa [Filter.typed, Filter.writtenWith, quotationMark] using whole.symm

/-- A filter that is read is the front of the text, letter by letter. -/
theorem readFilter_eq {text : List Char} {reading : Reading (Filter Numeral)}
    (read : readFilter text = .ok reading) :
    text = reading.value.typed.toList ++ reading.rest := by
  simp only [readFilter, unexpected] at read
  split at read
  · rename_i keyword found
    rw [← readQualifier_eq read, ← Keyword.at?_eq found]
  · split at read
    · cases read
    · rename_i c rest
      split at read
      · rename_i mark
        simp only [beq_iff_eq] at mark
        rw [mark]
        exact readPhrase_eq read
      · split at read
        · cases read
        · cases read
          simp [Filter.typed, Filter.writtenWith, List.takeWhile_append_dropWhile]

end SearchBar
