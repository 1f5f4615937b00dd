import SearchBar.Proofs.CutShort
import SearchBar.Proofs.Reports

/-!
# What may follow a filter that fails

A report about one filter lists what was expected in the place of the failure. Any
part of a filter that is listed can stand there. But the reader of one filter looks
behind a whole filter for what may follow it in a query, so that it expects
whitespace there, which it then refuses, and never the end of the text, which it
accepts. The report is right otherwise, and it lists whitespace only in that case.

Main statement: `parseFilter_expected`.
-/

namespace SearchBar

open Text

/-- Some text that begins with a lexeme of the terminal can stand in the place of the report, so
that the text in front of it becomes a filter, but for its counts. -/
def ParseError.CanFollow (text : String) (error : ParseError) (terminal : Terminal) : Prop :=
  ∃ lexeme more : String, terminal.Lexeme lexeme ∧
    AcceptedUpTo error.position
      (parseFilter (textBefore error.position.toNat text ++ (lexeme ++ more)))

/-- What the report expects is what makes the text in front of its place a filter: the end of the
text if it is one already, and otherwise what can follow. -/
structure ParseError.Foretells (text : String) (error : ParseError) : Prop where
  /-- Whatever is expected makes it a filter, but for its counts. -/
  follows : ∀ description ∈ error.expected,
    if description = "end of input" then
      AcceptedUpTo error.position (parseFilter (textBefore error.position.toNat text))
    else ∃ terminal : Terminal, terminal.description = description ∧ error.CanFollow text terminal
  /-- If it is one already, the end of the text is expected. -/
  ends : ∀ filter, parseFilter (textBefore error.position.toNat text) = .ok filter →
    "end of input" ∈ error.expected

/-- Only blanks are described as whitespace. -/
theorem Terminal.eq_blank_of_description {terminal : Terminal}
    (described : terminal.description = "whitespace") : terminal = .blank := by
  revert described
  cases terminal <;> decide

/-- No terminal is described as the end of the input. -/
theorem Terminal.description_ne_end (terminal : Terminal) :
    terminal.description ≠ "end of input" := by
  cases terminal <;> decide

/-- Whitespace is expected exactly if a blank is. -/
theorem whitespace_mem_descriptions {terminals : List Terminal} :
    "whitespace" ∈ descriptions terminals ↔ Terminal.blank ∈ terminals := by
  rw [mem_descriptions]
  constructor
  · rintro ⟨terminal, listed, described⟩
    rwa [← Terminal.eq_blank_of_description described.symm]
  · exact fun listed => ⟨.blank, listed, rfl⟩

/-- The terminal stands for a part of a filter, not for what is between filters or behind them. -/
def Terminal.IsPart (terminal : Terminal) : Prop := terminal ≠ .blank ∧ terminal ≠ .endOfText

/-- Whether a terminal stands for a part of a filter can be decided. -/
instance : DecidablePred Terminal.IsPart := fun _ => inferInstanceAs (Decidable (_ ∧ _))

/-- A range goes on with its parts. -/
theorem Range.Continues.isPart {α : Type} {form : BoundForm α} {written : α → String}
    {valid : α → Prop} {sample : α} {front : List Char} {terminal : Terminal} {range : Range α}
    (bound : form.terminal.IsPart)
    (continues : range.Continues form written valid sample front terminal) : terminal.IsPart := by
  cases continues with
  | comparator => decide
  | first => exact bound
  | compared comparison => exact bound
  | separator read => decide
  | second read => exact bound

/-- A filter goes on with its parts. -/
theorem Filter.Continues.isPart {front : List Char} {terminal : Terminal}
    {filter : Filter Numeral} (continues : filter.Continues front terminal) : terminal.IsPart := by
  cases continues with
  | created continues => exact continues.isPart (by decide)
  | images continues => exact continues.isPart (by decide)
  | propertyCount named continues => exact continues.isPart (by decide)
  | _ => decide

/-- A part with which a filter goes on can follow. -/
theorem canFollow_of_continues {text : String} {error : ParseError} {front behind : List Char}
    {terminal : Terminal} {filter : Filter Numeral} (whole : text.toList = front ++ behind)
    (place : error.position = front.length) (continues : filter.Continues front terminal) :
    error.CanFollow text terminal := by
  obtain ⟨lexeme, more, fits, typed⟩ := continues.text
  have before : textBefore error.position.toNat text ++ (lexeme ++ more) = filter.typed := by
    rw [← String.toList_inj, typed, place, Int.toNat_natCast, textBefore, whole, List.take_left]
    simp only [String.toList_append, String.toList_ofList]
  refine ⟨lexeme, more, fits, ?_⟩
  rw [before, place]
  exact acceptedUpTo_of_early continues.wellFormed continues.counts

/-- A report about its own place does not accept the text up to there. -/
theorem not_acceptedUpTo_of_position {α : Type} {error : ParseError} {place : Int}
    (same : error.position = place) :
    ¬ AcceptedUpTo place (.error error : Except ParseError α) := by
  rintro (⟨value, accepted⟩ | ⟨other, failed, -, -, inFront⟩)
  · cases accepted
  · cases failed
    omega

section

variable {text : String} {place : Nat} {terminals : List Terminal}

/-- What a filter expects that cannot be read can follow, and nothing in front of the place is a
filter. -/
theorem expected_of_unfinished
    (failed : readFilter text.toList = .error ⟨place, .unexpected terminals⟩) :
    (∀ terminal ∈ terminals, terminal ≠ .blank ∧
      (Failure.toError text ⟨place, .unexpected terminals⟩).CanFollow text terminal) ∧
      ¬ AcceptedUpTo place (parseFilter (textBefore place text)) := by
  constructor
  · rcases readFilter_error failed with ⟨unclosed, -⟩ | interrupted
    · cases unclosed
    · obtain ⟨front, behind, _, whole, same, continues⟩ := interrupted
      cases same
      intro terminal listed
      obtain ⟨filter, found⟩ := continues terminal listed
      exact ⟨found.isPart.1, canFollow_of_continues whole rfl found⟩
  · obtain ⟨front, behind, whole, size, again⟩ := readFilter_cutShort failed (by simp)
    have before : (textBefore place text).toList = front := by
      simp only [Nat.zero_add] at size
      rw [textBefore, String.toList_ofList, whole, size, List.take_left]
    have refused : parseFilter (textBefore place text) =
        .error (Failure.toError (textBefore place text) ⟨place, .unexpected terminals⟩) := by
      rw [parseFilter, before, readSingleFilter_of_error again]
      rfl
    rw [refused]
    exact not_acceptedUpTo_of_position rfl

variable (terminals) in
/-- Behind a whole filter, whatever else is expected besides whitespace can follow. -/
theorem expected_of_finished {reading : Reading (Filter Numeral)}
    (read : readFilter text.toList = .ok reading)
    (size : place = text.toList.length - reading.rest.length) :
    (∀ terminal ∈ reading.extensions, terminal ≠ .blank ∧
      (Failure.toError text ⟨place, .unexpected terminals⟩).CanFollow text terminal) ∧
      AcceptedUpTo place (parseFilter (textBefore place text)) ∧
      ∀ behind : String, behind ≠ "" → StopsAt isSolid behind.toList →
        parseFilter (textBefore place text ++ behind) =
          .error ⟨textBefore place text ++ behind, place, [], "unexpected input"⟩ := by
  obtain ⟨wellFormed, placed, extensions⟩ := readFilter_settled read
  have whole := readFilter_eq read
  have length : place = reading.value.typed.toList.length := by
    rw [size, whole, List.length_append]
    omega
  have before : textBefore place text = reading.value.typed := by
    rw [textBefore, whole, length, List.take_left, String.ofList_toList]
  refine ⟨?_, ?_, ?_⟩
  · intro terminal listed
    rw [extensions] at listed
    obtain ⟨longer, found⟩ := Filter.continues_of_extension wellFormed listed
    rw [length]
    exact ⟨found.isPart.1, canFollow_of_continues whole rfl found⟩
  · rw [before, length, String.length_toList]
    exact acceptedUpTo_parseFilter wellFormed placed
  · intro behind present seam
    have typed := readFilter_ok_append seam (readFilter_typed wellFormed)
    have refused := readSingleFilter_of_blank typed (mt String.toList_eq_nil_iff.mp present) seam
    have stop : (reading.value.typed.toList ++ behind.toList).length - behind.toList.length =
        place := by
      rw [length, List.length_append]
      omega
    rw [before, parseFilter, String.toList_append, refused]
    simp only [Reading.extend, List.nil_append, stop]
    rfl

end

/-- What is known of the parts that a report lists: any but whitespace can follow, and whitespace is
listed where the text in front of the place is a filter, but for its counts, and nowhere else. There
no text with whitespace in front can follow. -/
structure ParseError.Listed (text : String) (error : ParseError) : Prop where
  /-- Whatever else is listed can follow. -/
  follows : ∀ description ∈ error.expected, description ≠ "whitespace" →
    ∃ terminal : Terminal, terminal.description = description ∧ error.CanFollow text terminal
  /-- Whitespace is listed behind filters. -/
  whitespace : "whitespace" ∈ error.expected ↔
    AcceptedUpTo error.position (parseFilter (textBefore error.position.toNat text))
  /-- Whitespace that is listed is refused, and the report of that lists nothing. -/
  refused : "whitespace" ∈ error.expected →
    ∀ lexeme more : String, Terminal.blank.Lexeme lexeme →
      parseFilter (textBefore error.position.toNat text ++ (lexeme ++ more)) =
        .error ⟨textBefore error.position.toNat text ++ (lexeme ++ more), error.position, [],
          "unexpected input"⟩
  /-- The end of the text is never listed. -/
  endless : "end of input" ∉ error.expected

/-- The end of the input is in no list of descriptions. -/
theorem end_notMem_descriptions (terminals : List Terminal) :
    "end of input" ∉ descriptions terminals := by
  intro member
  obtain ⟨terminal, -, described⟩ := mem_descriptions.mp member
  exact terminal.description_ne_end described.symm

/-- A text that is blank and not empty begins with a blank, whatever stands behind it. -/
theorem stopsAt_of_lexeme {lexeme : String} (blank : Terminal.blank.Lexeme lexeme) (more : String) :
    lexeme ++ more ≠ "" ∧ StopsAt isSolid (lexeme ++ more).toList := by
  have present : lexeme.toList ≠ [] := mt String.toList_eq_nil_iff.mp blank.1
  rw [ne_eq, ← String.toList_eq_nil_iff, String.toList_append]
  exact ⟨List.append_ne_nil_of_left_ne_nil present _,
    (stopsAt_append present more.toList).mpr (stopsAt_of_blank blank.2)⟩

/-- What a filter alone expects in the place where it fails is listed as it should be, but for
whitespace. -/
theorem listed_of_unread {text : String} {place : Nat} {terminals : List Terminal}
    (failed : readSingleFilter text.toList = .error ⟨place, .unexpected terminals⟩)
    (present : terminals ≠ []) :
    (Failure.toError text ⟨place, .unexpected terminals⟩).Listed text := by
  have described : ∀ description ∈ descriptions terminals, description ≠ "whitespace" →
      ∃ terminal ∈ terminals, terminal ≠ .blank ∧ terminal.description = description := by
    intro description member apart
    obtain ⟨terminal, listed, rfl⟩ := mem_descriptions.mp member
    refine ⟨terminal, listed, ?_, rfl⟩
    rintro rfl
    exact apart rfl
  -- in the middle of a filter no whitespace is expected, and behind one it always is
  rcases readSingleFilter_error failed with unread | ⟨reading, read, stopped⟩
  · obtain ⟨follows, unfinished⟩ := expected_of_unfinished unread
    have unlisted : "whitespace" ∉ descriptions terminals := by
      rw [whitespace_mem_descriptions]
      exact fun listed => (follows .blank listed).1 rfl
    refine ⟨?_, iff_of_false unlisted unfinished, fun listed => absurd listed unlisted,
      end_notMem_descriptions terminals⟩
    intro description member apart
    obtain ⟨terminal, listed, -, same⟩ := described description member apart
    exact ⟨terminal, same, (follows terminal listed).2⟩
  · rcases stopped with ⟨-, -, same⟩ | ⟨-, same⟩
    · cases same
      exact absurd rfl present
    · obtain ⟨rfl, cause⟩ := Failure.mk.inj same
      obtain rfl := Cause.unexpected.inj cause
      obtain ⟨follows, finished, refused⟩ :=
        expected_of_finished (reading.extensions ++ [.blank]) read rfl
      have listed : "whitespace" ∈ descriptions (reading.extensions ++ [.blank]) :=
        whitespace_mem_descriptions.mpr (List.mem_append_right _ List.mem_cons_self)
      refine ⟨?_, iff_of_true listed finished, ?_, end_notMem_descriptions _⟩
      · intro description member apart
        obtain ⟨terminal, member, other, same⟩ := described description member apart
        rcases List.mem_append.mp member with extension | blank
        · exact ⟨terminal, same, (follows terminal extension).2⟩
        · exact absurd (List.mem_singleton.mp blank) other
      · intro _ lexeme more blank
        obtain ⟨some, seam⟩ := stopsAt_of_lexeme blank more
        exact refused _ some seam

/-- A report that is listed so is right exactly if it does not list whitespace. -/
theorem ParseError.Listed.foretells_iff {text : String} {error : ParseError}
    (listed : error.Listed text) : error.Foretells text ↔ "whitespace" ∉ error.expected := by
  constructor
  · intro foretells member
    have follows := foretells.follows "whitespace" member
    rw [if_neg (by decide)] at follows
    obtain ⟨terminal, described, lexeme, more, fits, accepted⟩ := follows
    obtain rfl := Terminal.eq_blank_of_description described
    rw [listed.refused member lexeme more fits] at accepted
    exact not_acceptedUpTo_of_position rfl accepted
  · intro absent
    constructor
    · intro description member
      rw [if_neg]
      · apply listed.follows description member
        rintro rfl
        exact absent member
      · rintro rfl
        exact listed.endless member
    · intro filter accepted
      exact absurd (listed.whitespace.mpr (Or.inl ⟨filter, accepted⟩)) absent

/-- What the report of a text that is no filter expects in some place can stand there, so that the
text in front of the place becomes a filter, but for its counts. The exception is whitespace: it is
expected behind every filter, where it is refused and the end of the text would be accepted. So a
report is right exactly if it does not expect whitespace. -/
theorem parseFilter_expected {text : String} {error : ParseError}
    (failed : parseFilter text = .error error) (expects : error.expected ≠ [])
    (opened : error.expected ≠ Cause.unterminatedQuote.expected) :
    error.Listed text ∧ (error.Foretells text ↔ "whitespace" ∉ error.expected) := by
  have listed : error.Listed text := by
    obtain ⟨failure, unread, rfl⟩ := reported_error failed
    rcases readSingleFilter_count_error unread with single | ⟨_, -, numeral, -, uncounted⟩
    · obtain ⟨place, cause⟩ := failure
      cases cause with
      | unexpected terminals =>
        apply listed_of_unread single
        rintro rfl
        exact expects rfl
      | unterminatedQuote => exact absurd rfl opened
      | outOfRange digits => exact absurd rfl expects
      | tooManyDigits number => exact absurd rfl expects
    · exact absurd (numeral.count_expects_nothing uncounted) expects
  exact ⟨listed, listed.foretells_iff⟩

/-- Behind a single count that is none, a second one may follow, but no whitespace. -/
theorem parseFilter_expected_separator :
    let report : ParseError :=
      ⟨"images:300x", 10, ["'..'", "whitespace"], "expected '..' or whitespace"⟩
    parseFilter "images:300x" = .error report ∧ report.Listed "images:300x" ∧
      ¬ report.Foretells "images:300x" := by
  intro report
  have failed : parseFilter "images:300x" = .error report := by decide +kernel
  obtain ⟨listed, foretells⟩ := parseFilter_expected failed (by decide) (by decide)
  exact ⟨failed, listed, fun right => foretells.mp right (by decide)⟩

/-- Behind a phrase the report expects whitespace, with which no filter begins so, and not the end
of the text, where the filter ends. -/
theorem parseFilter_expected_phrase :
    let report : ParseError := ⟨"\"a\"b", 3, ["whitespace"], "expected whitespace"⟩
    parseFilter "\"a\"b" = .error report ∧ parseFilter "\"a\"" = .ok (.quoted "a") ∧
      ¬ report.Foretells "\"a\"b" := by
  intro report
  have accepted : parseFilter "\"a\"" = .ok (.quoted "a") := by decide +kernel
  refine ⟨by decide +kernel, accepted, ?_⟩
  intro foretells
  have ends := foretells.ends (.quoted "a") accepted
  revert ends
  decide

end SearchBar
