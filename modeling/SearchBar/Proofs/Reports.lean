import SearchBar.Proofs.Composition
import SearchBar.Proofs.Interruption

/-!
# Reports of failures

What is reported of a text that means no query is true of the text. The place is
not outside of what is left of the text without the blanks around it, and every
part that was expected there can stand there: some text that begins with it makes
the text in front of the place a query, except that counts in front of the place
may be none. A text that is read as one filter fails as it does when it is read
as a query, unless a blank stands behind a filter.

Main statements: reports of failures are honest (`parseQuery_error_honest`), and
one filter is reported as a query is (`parseFilter_error_shared`).
-/

namespace SearchBar

open Text

variable {α : Type}

/-- The text in front of a place. -/
def textBefore (place : Nat) (text : String) : String := String.ofList (text.toList.take place)

/-- The number of blank characters in front of a text. -/
def leadingBlanks (text : String) : Nat := (text.toList.takeWhile isBlank).length

/-- The report says of a numeral that it is no count. -/
def ParseError.OfCount (error : ParseError) : Prop :=
  ∃ (numeral : Numeral) (failure : Failure), numeral.count = .error failure ∧
    error = failure.toError error.query

/-- The outcome is a success, or fails only for a count that begins in front of the place. -/
def AcceptedUpTo (place : Int) (outcome : Except ParseError α) : Prop :=
  (∃ value, outcome = .ok value) ∨
    ∃ error, outcome = .error error ∧ error.OfCount ∧ error.expected = [] ∧ error.position < place

/-- A numeral that is no count is reported in its place. -/
theorem Numeral.count_error_position {numeral : Numeral} {failure : Failure}
    (failed : numeral.count = .error failure) : failure.position = numeral.offset := by
  unfold Numeral.count at failed
  split at failed
  · cases failed
    rfl
  · split at failed
    · cases failed
      rfl
    · cases failed

/-- A numeral with the digit zero is a count. -/
theorem Numeral.count_of_sample {numeral : Numeral} (zero : numeral.digits = sample.digits) :
    numeral.count = .ok 0 := by
  rw [count_eq_ok_iff, value, zero]
  decide

/-- A failure to count a numeral in front of a place is accepted up to the place. -/
theorem acceptedUpTo_of_uncounted {numeral : Numeral} {failure : Failure} {place : Nat}
    (failed : numeral.count = .error failure) (inside : numeral.offset < place) (text : String) :
    AcceptedUpTo place (.error (failure.toError text) : Except ParseError α) := by
  refine Or.inr ⟨failure.toError text, rfl, ⟨numeral, failure, failed, rfl⟩,
    numeral.count_expects_nothing failed, ?_⟩
  rw [← numeral.count_error_position failed] at inside
  exact Int.ofNat_lt.mpr inside

/-- A report holds the text that it is about. -/
theorem query_of_reported {outcome : Except Failure α} {text : String} {error : ParseError}
    (failed : reported text outcome = .error error) : error.query = text := by
  obtain ⟨failure, -, rfl⟩ := reported_error failed
  rfl

/-- A numeral of some filters fails if the filters are not counted. -/
theorem numeral_of_uncounted {reads : List (Filter Numeral)} {failure : Failure}
    (uncounted : reads.mapM Filter.count = .error failure) :
    ∃ filter ∈ reads, ∃ numeral ∈ filter.counts, numeral.count = .error failure := by
  obtain ⟨filter, listed, failed⟩ := mapM_error uncounted
  obtain ⟨numeral, member, failed⟩ := Filter.mapM_error failed
  exact ⟨filter, listed, numeral, member, failed⟩

/-- A text that is no query cannot be read, or one of its numerals is no count. -/
theorem readQuery_error {text : List Char} {failure : Failure}
    (failed : readQuery text = .error failure) :
    readFilters 0 text = .error failure ∨
      ∃ reads, readFilters 0 text = .ok reads ∧
        ∃ filter ∈ reads, ∃ numeral ∈ filter.counts, numeral.count = .error failure := by
  rcases bind_eq_error_iff.mp failed with unread | ⟨reads, read, failed⟩
  · exact Or.inl unread
  · rcases bind_eq_error_iff.mp failed with uncounted | ⟨filters, -, stopped⟩
    · exact Or.inr ⟨reads, read, numeral_of_uncounted uncounted⟩
    · cases stopped

/-- A text that is no filter cannot be read, or one of its numerals is no count. -/
theorem readSingleFilter_count_error {text : List Char} {failure : Failure}
    (failed : readSingleFilter text >>= Filter.count = .error failure) :
    readSingleFilter text = .error failure ∨
      ∃ filter, readSingleFilter text = .ok filter ∧
        ∃ numeral ∈ filter.counts, numeral.count = .error failure := by
  rcases bind_eq_error_iff.mp failed with unread | ⟨filter, read, uncounted⟩
  · exact Or.inl unread
  · exact Or.inr ⟨filter, read, Filter.mapM_error uncounted⟩

section

variable {offset : Nat} {text : List Char} {failure : Failure}

/-- The blanks in front of a text end where something solid begins. -/
theorem length_takeWhile_le_of_solid {front rest : List Char} (whole : text = front ++ rest)
    (solid : ¬ StopsAt isSolid rest) : (text.takeWhile isBlank).length ≤ front.length := by
  have stops : StopsAt isBlank rest := by
    cases rest with
    | nil => exact StopsAt.nil isBlank
    | cons c behind =>
      rw [stopsAt_cons, Bool.not_eq_false, isSolid_eq_true_iff] at solid
      exact stopsAt_cons.mpr solid
  rw [whole, takeWhile_append_boundary stops]
  exact (List.takeWhile_prefix isBlank).length_le

/-- A text is what is left of it without the blanks around it, and these blanks. -/
theorem exists_gap_behind_trim (text : List Char) :
    ∃ gap, (∀ c ∈ gap, isBlank c = true) ∧
      text = text.takeWhile isBlank ++ trim text ++ gap := by
  refine ⟨((dropBlank text).reverse.takeWhile isBlank).reverse, ?_, ?_⟩
  · intro c member
    exact List.mem_takeWhile_imp (List.mem_reverse.mp member)
  · have behind := List.takeWhile_append_dropWhile (p := isBlank) (l := (dropBlank text).reverse)
    have whole := congrArg List.reverse behind
    rw [List.reverse_append, List.reverse_reverse] at whole
    rw [trim, List.append_assoc, dropBlank, whole]
    exact List.takeWhile_append_dropWhile.symm

/-- A filter alone fails within its text. -/
theorem readSingleFilter_position_le (failed : readSingleFilter text = .error failure) :
    failure.position ≤ text.length := by
  rcases readSingleFilter_error failed with front | ⟨reading, -, ⟨-, -, same⟩ | ⟨-, same⟩⟩
  · rcases readFilter_error front with ⟨same, -⟩ | interrupted
    · rw [same]
      exact Nat.zero_le _
    · obtain ⟨front, behind, _, whole, same, -⟩ := interrupted
      rw [same, whole, List.length_append]
      exact Nat.le_add_right _ _
  · rw [same]
    exact Nat.sub_le _ _
  · rw [same]
    exact Nat.sub_le _ _

/-- A sequence fails within its text. -/
theorem readFilters_position_le (failed : readFilters offset text = .error failure) :
    failure.position ≤ offset + text.length := by
  obtain ⟨front, current, reads, inner, rfl, -, -, -, single, -, rfl⟩ := readFilters_error failed
  have inside := readSingleFilter_position_le single
  rw [List.length_append]
  simp only [Failure.shift]
  omega

/-- A sequence does not fail in the blanks in front of its text. -/
theorem le_readFilters_position (failed : readFilters offset text = .error failure) :
    offset + (text.takeWhile isBlank).length ≤ failure.position := by
  obtain ⟨front, current, reads, inner, whole, -, -, solid, -, -, rfl⟩ := readFilters_error failed
  have inside := length_takeWhile_le_of_solid whole solid
  simp only [Failure.shift]
  omega

/-- The first digit of a numeral is no blank in front of its text, nor behind it. -/
theorem Numeral.StandsIn.bounds {numeral : Numeral} (stands : numeral.StandsIn text)
    (wellFormed : numeral.WellFormed) :
    (text.takeWhile isBlank).length ≤ numeral.offset ∧ numeral.offset < text.length := by
  obtain ⟨front, behind, whole, place⟩ := stands
  have present := mt String.toList_eq_nil_iff.mp wellFormed.1
  have solid : ¬ StopsAt isSolid (numeral.digits.toList ++ behind) := by
    cases digits : numeral.digits.toList with
    | nil => exact absurd digits present
    | cons c rest =>
      have digit := wellFormed.2 c (by rw [digits]; exact List.mem_cons_self)
      rw [List.cons_append, stopsAt_cons, isSolid_of_isDecimalDigit digit]
      decide
  constructor
  · rw [← place]
    exact length_takeWhile_le_of_solid whole solid
  · have some := List.length_pos_iff.mpr present
    rw [whole, List.length_append, List.length_append, ← place]
    omega

end

/-- What is reported of a text concerns a place in what is left of it without the blanks around it,
or the end of that. -/
theorem parseQuery_error_position {text : String} {error : ParseError}
    (failed : parseQuery text = .error error) :
    (leadingBlanks text : Int) ≤ error.position ∧
      error.position ≤ leadingBlanks text + (trim text.toList).length := by
  obtain ⟨gap, blank, whole⟩ := exists_gap_behind_trim text.toList
  have trimmed := readFilters_append_blank blank 0
    (text.toList.takeWhile isBlank ++ trim text.toList)
  rw [← whole] at trimmed
  have size : (text.toList.takeWhile isBlank ++ trim text.toList).length =
      leadingBlanks text + (trim text.toList).length := List.length_append
  cases read : readFilters 0 text.toList with
  | error failure =>
    rw [parseQuery_of_unread read] at failed
    cases failed
    have low := le_readFilters_position read
    rw [read] at trimmed
    have high := readFilters_position_le trimmed.symm
    rw [size] at high
    simp only [Failure.toError, leadingBlanks] at *
    omega
  | ok reads =>
    cases counted : reads.mapM Filter.count with
    | ok filters =>
      rw [parseQuery_of_counted read counted] at failed
      cases failed
    | error failure =>
      rw [parseQuery_of_uncounted read counted] at failed
      cases failed
      obtain ⟨filter, listed, numeral, member, uncounted⟩ := numeral_of_uncounted counted
      have place := numeral.count_error_position uncounted
      obtain ⟨wellFormed, inner, stands, rfl⟩ :=
        standsIn_of_readFilters read filter listed numeral member
      rw [read] at trimmed
      obtain ⟨-, other, standsTrimmed, same⟩ :=
        standsIn_of_readFilters trimmed.symm filter listed _ member
      have offsets := congrArg Numeral.offset same
      have low := (stands.bounds wellFormed).1
      have digits : other.digits = inner.digits := (congrArg Numeral.digits same).symm
      have otherWellFormed : other.WellFormed := by
        rw [Numeral.WellFormed, digits]
        exact wellFormed
      have high := (standsTrimmed.bounds otherWellFormed).2
      rw [size] at high
      simp only [Numeral.shift, Failure.toError, leadingBlanks] at *
      omega

/-- A text put into a list is in it, and nothing is lost. -/
theorem mem_insertAscending {text other : String} {texts : List String} :
    other ∈ insertAscending text texts ↔ other = text ∨ other ∈ texts := by
  induction texts with
  | nil => simp [insertAscending]
  | cons first rest ih =>
    unfold insertAscending
    split
    · exact List.mem_cons
    · split
      · rename_i same
        rw [← same, List.mem_cons]
        constructor
        · exact Or.inr
        · rintro (found | found)
          · exact Or.inl found
          · exact found
      · rw [List.mem_cons, ih, List.mem_cons]
        exact or_left_comm

/-- A description belongs to one of the terminals. -/
theorem mem_descriptions {terminals : List Terminal} {description : String} :
    description ∈ descriptions terminals ↔
      ∃ terminal ∈ terminals, description = terminal.description := by
  induction terminals with
  | nil => simp [descriptions]
  | cons terminal rest ih =>
    have step : descriptions (terminal :: rest) =
        insertAscending terminal.description (descriptions rest) := rfl
    rw [step, mem_insertAscending, ih, List.exists_mem_cons_iff]

/-- Some text that begins with a lexeme of the terminal makes the front a filter that can be typed,
with blank text behind it if the terminal is blank. The numerals of the filter begin in the front,
or are zero. -/
def GoesOn (front : List Char) (terminal : Terminal) : Prop :=
  ∃ (filter : Filter Numeral) (gap : List Char) (lexeme more : String),
    terminal.Lexeme lexeme ∧ filter.WellFormed Numeral.WellFormed ∧
      (∀ c ∈ gap, isBlank c = true) ∧
      front ++ (lexeme.toList ++ more.toList) = filter.typed.toList ++ gap ∧
      ∀ numeral ∈ filter.placed.counts,
        numeral.offset < front.length ∨ numeral.digits = Numeral.sample.digits

/-- Where a filter goes on with a part, the part makes the front a filter. -/
theorem Filter.Continues.goesOn {front : List Char} {terminal : Terminal}
    {filter : Filter Numeral} (continues : filter.Continues front terminal) :
    GoesOn front terminal := by
  obtain ⟨lexeme, more, fits, typed⟩ := continues.text
  refine ⟨filter, [], lexeme, more, fits, continues.wellFormed, by simp, ?_, continues.counts⟩
  rw [List.append_nil, typed]

/-- Behind a whole filter a blank may stand. -/
theorem goesOn_blank {filter : Filter Numeral} (wellFormed : filter.WellFormed Numeral.WellFormed)
    (placed : filter.placed = filter) : GoesOn filter.typed.toList .blank := by
  have space : ∀ c ∈ " ".toList, isBlank c = true := List.all_eq_true.mp (by decide)
  refine ⟨filter, " ".toList, " ", "", ⟨by decide, space⟩, wellFormed, space, rfl, ?_⟩
  intro numeral member
  have stands := filter.standsIn_placed numeral member
  rw [placed] at member
  exact Or.inl (stands.bounds (wellFormed.counts numeral member)).2

/-- What a filter alone expects where it fails makes the text in front of the place a filter. -/
theorem readSingleFilter_goesOn {text : List Char} {place : Nat} {terminals : List Terminal}
    (failed : readSingleFilter text = .error ⟨place, .unexpected terminals⟩) :
    ∃ front behind, text = front ++ behind ∧ place = front.length ∧
      ∀ terminal ∈ terminals, GoesOn front terminal := by
  rcases readSingleFilter_error failed with read | ⟨reading, read, stopped⟩
  · rcases readFilter_error read with ⟨same, -⟩ | interrupted
    · cases same
    · obtain ⟨front, behind, _, whole, same, continues⟩ := interrupted
      cases same
      refine ⟨front, behind, whole, rfl, ?_⟩
      intro terminal listed
      obtain ⟨filter, found⟩ := continues terminal listed
      exact found.goesOn
  · obtain ⟨wellFormed, placed, extensions⟩ := readFilter_settled read
    have whole := readFilter_eq read
    have size : text.length - reading.rest.length = reading.value.typed.toList.length := by
      rw [whole, List.length_append]
      omega
    refine ⟨reading.value.typed.toList, reading.rest, whole, ?_⟩
    rcases stopped with ⟨-, -, same⟩ | ⟨-, same⟩
    · cases same
      refine ⟨size, ?_⟩
      intro terminal listed
      cases listed
    · cases same
      refine ⟨size, ?_⟩
      intro terminal listed
      rcases List.mem_append.mp listed with extension | blank
      · rw [extensions] at extension
        obtain ⟨longer, found⟩ := Filter.continues_of_extension wellFormed extension
        exact found.goesOn
      · obtain rfl := List.mem_singleton.mp blank
        exact goesOn_blank wellFormed placed

/-- What makes the end of a front a filter makes the front a sequence. -/
theorem readFilters_of_goesOn {front current : List Char} {reads : List (Filter Numeral)}
    {terminal : Terminal} (read : ReadsFront 0 front reads) (goesOn : GoesOn current terminal) :
    ∃ (lexeme more : String) (longer : List (Filter Numeral)), terminal.Lexeme lexeme ∧
      readFilters 0 (front ++ current ++ (lexeme.toList ++ more.toList)) = .ok longer ∧
      ∀ filter ∈ longer, ∀ numeral ∈ filter.counts,
        numeral.offset < (front ++ current).length ∨ numeral.digits = Numeral.sample.digits := by
  obtain ⟨filter, gap, lexeme, more, fits, wellFormed, blank, typed, early⟩ := goesOn
  have seam := stopsAt_of_blank blank
  have last : readFilters (0 + front.length) (filter.typed.toList ++ gap) =
      .ok [filter.placed.map (Numeral.shift front.length)] := by
    rw [readFilters_typed wellFormed seam,
      readFilters_of_blank (List.dropWhile_eq_nil_iff.mpr blank), Nat.zero_add]
    rfl
  refine ⟨lexeme, more, reads ++ [filter.placed.map (Numeral.shift front.length)], fits, ?_, ?_⟩
  · rw [List.append_assoc, typed, read, last]
    rfl
  · intro other member numeral inside
    rw [List.length_append]
    rcases List.mem_append.mp member with inFront | atEnd
    · obtain ⟨valid, inner, stands, rfl⟩ :=
        standsIn_of_readFilters read.alone other inFront numeral inside
      left
      have bound := (stands.bounds valid).2
      simp only [Numeral.shift]
      omega
    · obtain rfl := List.mem_singleton.mp atEnd
      rw [Filter.counts_map, List.mem_map] at inside
      obtain ⟨inner, found, rfl⟩ := inside
      rcases early inner found with before | zero
      · left
        simp only [Numeral.shift]
        omega
      · exact Or.inr zero

/-- A text whose numerals begin in front of a place, or are zero, is accepted up to the place. -/
theorem acceptedUpTo_parseQuery {text : String} {reads : List (Filter Numeral)} {place : Nat}
    (read : readFilters 0 text.toList = .ok reads)
    (early : ∀ filter ∈ reads, ∀ numeral ∈ filter.counts,
      numeral.offset < place ∨ numeral.digits = Numeral.sample.digits) :
    AcceptedUpTo place (parseQuery text) := by
  cases counted : reads.mapM Filter.count with
  | ok filters => exact Or.inl ⟨⟨filters⟩, parseQuery_of_counted read counted⟩
  | error failure =>
    obtain ⟨filter, listed, numeral, member, failed⟩ := numeral_of_uncounted counted
    rw [parseQuery_of_uncounted read counted]
    rcases early filter listed numeral member with inside | zero
    · exact acceptedUpTo_of_uncounted failed inside text
    · rw [numeral.count_of_sample zero] at failed
      cases failed

/-- Whatever a text is expected to hold where it fails, some text that begins with it makes the text
in front of that place a query, but for counts in front of the place. -/
theorem parseQuery_continues {text : String} {place : Nat} {terminals : List Terminal}
    (unread : readFilters 0 text.toList = .error ⟨place, .unexpected terminals⟩)
    {terminal : Terminal} (listed : terminal ∈ terminals) :
    ∃ lexeme more : String, terminal.Lexeme lexeme ∧
      AcceptedUpTo place (parseQuery (textBefore place text ++ (lexeme ++ more))) := by
  obtain ⟨front, current, reads, ⟨position, cause⟩, whole, read, -, -, single, -, same⟩ :=
    readFilters_error unread
  cases same
  obtain ⟨start, behind, rfl, rfl, goesOn⟩ := readSingleFilter_goesOn single
  obtain ⟨lexeme, more, longer, fits, again, early⟩ :=
    readFilters_of_goesOn read (goesOn terminal listed)
  have size : 0 + front.length + start.length = (front ++ start).length := by
    rw [List.length_append, Nat.zero_add]
  have before : textBefore (0 + front.length + start.length) text =
      String.ofList (front ++ start) := by
    rw [textBefore, whole, size, ← List.append_assoc, List.take_left]
  have reread : readFilters 0 (String.ofList (front ++ start) ++ (lexeme ++ more)).toList =
      .ok longer := by
    rw [String.toList_append, String.toList_append, String.toList_ofList]
    exact again
  refine ⟨lexeme, more, fits, ?_⟩
  rw [before, size]
  exact acceptedUpTo_parseQuery reread early

/-- What is reported of a text that means no query is true of the text: the place is in what is left
of it without the blanks around it, and whatever was expected there can stand there. -/
theorem parseQuery_error_honest {text : String} {error : ParseError}
    (failed : parseQuery text = .error error) :
    error.query = text ∧
      (leadingBlanks text : Int) ≤ error.position ∧
      error.position ≤ leadingBlanks text + (trim text.toList).length ∧
      (error.expected ≠ [] → error.expected ≠ Cause.unterminatedQuote.expected →
        ∀ description ∈ error.expected, ∃ (terminal : Terminal) (lexeme more : String),
          terminal.description = description ∧ terminal.Lexeme lexeme ∧
            AcceptedUpTo error.position
              (parseQuery (textBefore error.position.toNat text ++ (lexeme ++ more)))) := by
  obtain ⟨low, high⟩ := parseQuery_error_position failed
  cases read : readFilters 0 text.toList with
  | error failure =>
    rw [parseQuery_of_unread read] at failed
    cases failed
    refine ⟨rfl, low, high, ?_⟩
    intro expects opened description member
    obtain ⟨place, cause⟩ := failure
    cases cause with
    | unexpected terminals =>
      obtain ⟨terminal, listed, rfl⟩ := mem_descriptions.mp member
      obtain ⟨lexeme, more, fits, accepted⟩ := parseQuery_continues read listed
      exact ⟨terminal, lexeme, more, rfl, fits, accepted⟩
    | unterminatedQuote => exact absurd rfl opened
    | outOfRange digits => exact absurd rfl expects
    | tooManyDigits number => exact absurd rfl expects
  | ok reads =>
    have unsyntactic := isSyntax_of_read read error failed
    have nothing : error.expected = [] := by simpa [ParseError.isSyntax] using unsyntactic
    exact ⟨query_of_reported failed, low, high, fun expects => absurd nothing expects⟩

/-- Inside an interval whose first count is none, a second count is expected. -/
theorem parseQuery_error_honest_interval :
    let report : ParseError :=
      ⟨" images:300..x ", 13, ["a number from 0 to 255"], "expected a number from 0 to 255"⟩
    parseQuery " images:300..x " = .error report ∧
      ∀ description ∈ report.expected, ∃ (terminal : Terminal) (lexeme more : String),
        terminal.description = description ∧ terminal.Lexeme lexeme ∧
          AcceptedUpTo report.position
            (parseQuery (textBefore report.position.toNat " images:300..x " ++
              (lexeme ++ more))) := by
  intro report
  have failed : parseQuery " images:300..x " = .error report := by decide +kernel
  obtain ⟨-, -, -, goesOn⟩ := parseQuery_error_honest failed
  exact ⟨failed, goesOn (by decide) (by decide)⟩

/-- A text that begins solid and cannot be read as one filter cannot be read as a query, and for the
same reason, unless a blank stands behind its first filter. -/
theorem readSingleFilter_error_shared {text : List Char} {failure : Failure}
    (solid : ¬ StopsAt isSolid text) (failed : readSingleFilter text = .error failure) :
    readFilters 0 text = .error failure ∨
      ∃ (filter : Filter Numeral) (rest : List Char), filter.WellFormed Numeral.WellFormed ∧
        filter.placed = filter ∧ text = filter.typed.toList ++ rest ∧ rest ≠ [] ∧
        StopsAt isSolid rest ∧ failure = ⟨filter.typed.length, .unexpected []⟩ := by
  have kept := dropBlank_of_solid solid
  have present : dropBlank text ≠ [] := by
    rw [kept]
    rintro rfl
    exact solid (StopsAt.nil isSolid)
  rcases readSingleFilter_error failed with read | ⟨reading, read, stopped⟩
  · rw [← kept] at read
    rw [readFilters_of_error present read, kept, Nat.sub_self]
    left
    simp [Failure.shift]
  · rcases stopped with ⟨some, seam, same⟩ | ⟨behindSolid, same⟩
    · obtain ⟨wellFormed, placed, -⟩ := readFilter_settled read
      have whole := readFilter_eq read
      have size : text.length - reading.rest.length = reading.value.typed.length := by
        rw [whole, List.length_append, String.length_toList]
        omega
      rw [size] at same
      exact Or.inr ⟨reading.value, reading.rest, wellFormed, placed, whole, some, seam, same⟩
    · rw [← kept] at read
      rw [readFilters_of_solid read behindSolid, same, Nat.zero_add]
      exact Or.inl rfl

/-- A filter whose numerals begin in front of a place, or are zero, is accepted up to the place. -/
theorem acceptedUpTo_of_early {filter : Filter Numeral} {place : Nat}
    (wellFormed : filter.WellFormed Numeral.WellFormed)
    (early : ∀ numeral ∈ filter.placed.counts,
      numeral.offset < place ∨ numeral.digits = Numeral.sample.digits) :
    AcceptedUpTo place (parseFilter filter.typed) := by
  rw [parseFilter_of_read (readSingleFilter_typed wellFormed)]
  cases counted : filter.placed.count with
  | ok result => exact Or.inl ⟨result, rfl⟩
  | error failure =>
    obtain ⟨numeral, member, failed⟩ := Filter.mapM_error counted
    rcases early numeral member with inside | zero
    · exact acceptedUpTo_of_uncounted failed inside filter.typed
    · rw [numeral.count_of_sample zero] at failed
      cases failed

/-- A filter that can be typed is accepted alone up to its end. -/
theorem acceptedUpTo_parseFilter {filter : Filter Numeral}
    (wellFormed : filter.WellFormed Numeral.WellFormed) (placed : filter.placed = filter) :
    AcceptedUpTo filter.typed.length (parseFilter filter.typed) := by
  apply acceptedUpTo_of_early wellFormed
  intro numeral member
  have stands := filter.standsIn_placed numeral member
  rw [placed] at member
  have inside := (stands.bounds (wellFormed.counts numeral member)).2
  rw [String.length_toList] at inside
  exact Or.inl inside

/-- A text without a blank at its front that is refused as one filter is refused as a query with the
same report, unless the place is a blank behind a filter. Then nothing is expected there, and the
text in front of it is accepted as one filter, but for its counts. Blanks behind the text make no
difference. -/
theorem parseFilter_error_shared {text : String} {error : ParseError} (present : text ≠ "")
    (flush : dropBlank text.toList = text.toList) (failed : parseFilter text = .error error) :
    (∃ (place : Nat) (c : Char), error.position = place ∧ text.toList[place]? = some c ∧
        isBlank c = true ∧ error.expected = [] ∧ error.detail = "unexpected input" ∧
        AcceptedUpTo place (parseFilter (textBefore place text))) ∨
      parseQuery text = .error error := by
  have solid : ¬ StopsAt isSolid text.toList := by
    rw [← flush]
    apply solid_of_dropBlank
    rw [flush]
    exact mt String.toList_eq_nil_iff.mp present
  cases read : readSingleFilter text.toList with
  | error failure =>
    rw [parseFilter, read] at failed
    cases failed
    rcases readSingleFilter_error_shared solid read with unread | found
    · exact Or.inr (parseQuery_of_unread unread)
    · obtain ⟨filter, rest, wellFormed, placed, whole, some, seam, rfl⟩ := found
      left
      have before : textBefore filter.typed.length text = filter.typed := by
        rw [textBefore, whole, ← String.length_toList, List.take_left, String.ofList_toList]
      cases rest with
      | nil => exact absurd rfl some
      | cons c behind =>
        refine ⟨filter.typed.length, c, rfl, ?_, isSolid_eq_false_iff.mp (stopsAt_cons.mp seam),
          rfl, rfl, ?_⟩
        · rw [whole, ← String.length_toList, List.getElem?_append_right (Nat.le_refl _),
            Nat.sub_self]
          rfl
        · rw [before]
          exact acceptedUpTo_parseFilter wellFormed placed
  | ok filter =>
    have sequence := readFilters_single read 0
    have outcome : parseFilter text = reported text filter.count := by
      rw [parseFilter, read]
      rfl
    cases counted : filter.count with
    | ok result =>
      rw [outcome, counted] at failed
      cases failed
    | error failure =>
      rw [outcome, counted] at failed
      cases failed
      right
      apply parseQuery_of_uncounted sequence
      rw [List.mapM_cons, Filter.count_shift, counted]
      simp [shiftedBy, Except.mapError, Failure.shift, bind, Except.bind]

/-- The blank behind a filter is reported before the filter's own count. -/
theorem parseFilter_error_shared_blank :
    let report : ParseError := ⟨"images:300 x", 10, [], "unexpected input"⟩
    parseFilter "images:300 x" = .error report ∧
      ((∃ (place : Nat) (c : Char), report.position = place ∧
          "images:300 x".toList[place]? = some c ∧ isBlank c = true ∧
          report.expected = [] ∧ report.detail = "unexpected input" ∧
          AcceptedUpTo place (parseFilter (textBefore place "images:300 x"))) ∨
        parseQuery "images:300 x" = .error report) := by
  intro report
  have failed : parseFilter "images:300 x" = .error report := by decide +kernel
  exact ⟨failed, parseFilter_error_shared (by decide) (by decide) failed⟩

end SearchBar
