import SearchBar.Proofs.Expectations
import SearchBar.Proofs.Layout

/-!
# Queries one behind the other

What two texts with a blank between them mean follows from what each of them
means. All of the text is read before any of it is counted. So a failure to read
either text goes before a failure to count, and within one kind the text in
front goes first. A failure in the text behind is reported further behind.

Main statement: the law of composition (`parseQuery_append`).
-/

namespace SearchBar

open Text

namespace ParseError

/-- Whether the text could not be read. Otherwise it was read, and one of its counts is none. -/
def isSyntax (error : ParseError) : Bool := !error.expected.isEmpty

/-- The same report about a longer text, in which so many characters are in front. -/
def within (text : String) (offset : Nat) (error : ParseError) : ParseError :=
  { error with query := text, position := offset + error.position }

end ParseError

/-- What a text means that consists of two, given what they mean and where the second begins: the
filters of both, or the failure that comes first. -/
def joined (text : String) (start : Nat) :
    Except ParseError Query → Except ParseError Query → Except ParseError Query
  | .ok front, .ok behind => .ok ⟨front.filters ++ behind.filters⟩
  | .error front, .ok _ => .error (front.within text 0)
  | .ok _, .error behind => .error (behind.within text start)
  | .error front, .error behind =>
    if front.isSyntax || !behind.isSyntax then .error (front.within text 0)
    else .error (behind.within text start)

/-- A failure to read the text in front goes before whatever the text behind means. -/
theorem joined_of_front {text : String} {start : Nat} {error : ParseError}
    (unread : error.isSyntax = true) (outcome : Except ParseError Query) :
    joined text start (.error error) outcome = .error (error.within text 0) := by
  cases outcome with
  | ok query => rfl
  | error other => rw [joined, unread, Bool.true_or, if_pos rfl]

/-- A failure to read the text behind goes before whatever the text in front means that was
read. -/
theorem joined_of_behind {text : String} {start : Nat} {error : ParseError}
    {outcome : Except ParseError Query} (unread : error.isSyntax = true)
    (read : ∀ other, outcome = .error other → other.isSyntax = false) :
    joined text start outcome (.error error) = .error (error.within text start) := by
  cases outcome with
  | ok query => rfl
  | error other =>
    rw [joined, read other rfl, unread, if_neg (by decide)]

section

variable {text : String} {reads : List (Filter Numeral)} {failure : Failure}

/-- A text that cannot be read is reported. -/
theorem parseQuery_of_unread (unread : readFilters 0 text.toList = .error failure) :
    parseQuery text = .error (failure.toError text) := by
  rw [parseQuery, readQuery, unread]
  rfl

/-- A text that is read but not counted is reported. -/
theorem parseQuery_of_uncounted (read : readFilters 0 text.toList = .ok reads)
    (uncounted : reads.mapM Filter.count = .error failure) :
    parseQuery text = .error (failure.toError text) := by
  rw [parseQuery, readQuery, read]
  simp only [bind, Except.bind, uncounted]
  rfl

/-- A text that is read and counted means its filters. -/
theorem parseQuery_of_counted {filters : List (Filter Int)}
    (read : readFilters 0 text.toList = .ok reads)
    (counted : reads.mapM Filter.count = .ok filters) : parseQuery text = .ok ⟨filters⟩ := by
  rw [parseQuery, readQuery, read]
  simp only [bind, Except.bind, counted]
  rfl

/-- A failure to read is reported as one. -/
theorem isSyntax_of_unread (unread : readFilters 0 text.toList = .error failure) :
    (failure.toError text).isSyntax = true := by
  have expected := readFilters_expects 0 text.toList failure unread
  rw [ParseError.isSyntax, Bool.not_eq_true', List.isEmpty_eq_false_iff]
  exact expected

/-- A failure to count is not reported as one to read. -/
theorem isSyntax_of_uncounted (uncounted : reads.mapM Filter.count = .error failure) :
    (failure.toError text).isSyntax = false := by
  have expected := mapM_count_expects_nothing uncounted
  rw [ParseError.isSyntax, Bool.not_eq_false', List.isEmpty_iff]
  exact expected

/-- Whatever is reported of a text that is read, it is not that it cannot be read. -/
theorem isSyntax_of_read (read : readFilters 0 text.toList = .ok reads) :
    ∀ error, parseQuery text = .error error → error.isSyntax = false := by
  intro error failed
  cases counts : reads.mapM Filter.count with
  | error failure =>
    rw [parseQuery_of_uncounted read counts] at failed
    cases failed
    exact isSyntax_of_uncounted counts
  | ok filters =>
    rw [parseQuery_of_counted read counts] at failed
    cases failed

/-- A failure in a part of a text is reported in its place in the whole. -/
theorem toError_shift (whole : String) (offset : Nat) :
    (failure.shift offset).toError whole = (failure.toError text).within whole offset := rfl

/-- A failure at the front of a text is reported in the same place. -/
theorem toError_front (whole : String) :
    failure.toError whole = (failure.toError text).within whole 0 := by
  simp [ParseError.within, Failure.toError]

end

/-- The filters in front of blank text are read first, and those behind it further behind. -/
theorem readFilters_gap {front gap : List Char} (gapBlank : ∀ c ∈ gap, isBlank c = true)
    (apart : gap ≠ [])
    (closed : ∀ position, readFilters 0 front ≠ .error ⟨position, .unterminatedQuote⟩)
    (behind : List Char) :
    readFilters 0 (front ++ (gap ++ behind)) = (do
      let first ← readFilters 0 front
      let second ← sequenceShiftedBy (front.length + gap.length) (readFilters 0 behind)
      return first ++ second) := by
  have seam : StopsAt isSolid (gap ++ behind) := by
    cases gap with
    | nil => exact absurd rfl apart
    | cons c rest =>
      rw [List.cons_append, stopsAt_cons, isSolid_eq_false_iff]
      exact gapBlank c List.mem_cons_self
  rw [readFilters_append seam 0 front closed, readFilters_blank_append gapBlank, Nat.zero_add,
    ← readFilters_shift, Nat.add_zero]

/-- The numerals in front are counted first, and those behind further behind. -/
theorem mapM_count_append (start : Nat) (first second : List (Filter Numeral)) :
    (first ++ second.map (Filter.map (Numeral.shift start))).mapM Filter.count = (do
      let front ← first.mapM Filter.count
      let behind ← shiftedBy start (second.mapM Filter.count)
      return front ++ behind) := by
  rw [List.mapM_append, mapM_count_shift]

/-- If both texts are read, so is the text that consists of them, and it is counted from the front
on. -/
theorem parseQuery_append_of_read {front behind whole : String} {start : Nat}
    {first second : List (Filter Numeral)} (readFront : readFilters 0 front.toList = .ok first)
    (readBehind : readFilters 0 behind.toList = .ok second)
    (readWhole : readFilters 0 whole.toList =
      .ok (first ++ second.map (Filter.map (Numeral.shift start)))) :
    parseQuery whole = joined whole start (parseQuery front) (parseQuery behind) := by
  have counting := mapM_count_append start first second
  cases countFront : first.mapM Filter.count with
  | error failure =>
    rw [countFront] at counting
    rw [parseQuery_of_uncounted readWhole counting, parseQuery_of_uncounted readFront countFront,
      toError_front]
    cases countBehind : second.mapM Filter.count with
    | error other =>
      rw [parseQuery_of_uncounted readBehind countBehind, joined,
        isSyntax_of_uncounted countBehind, Bool.not_false, Bool.or_true, if_pos rfl]
    | ok filters =>
      rw [parseQuery_of_counted readBehind countBehind, joined]
  | ok filters =>
    rw [parseQuery_of_counted readFront countFront]
    cases countBehind : second.mapM Filter.count with
    | error failure =>
      rw [countFront, countBehind] at counting
      rw [parseQuery_of_uncounted readWhole counting,
        parseQuery_of_uncounted readBehind countBehind, joined, ← toError_shift]
    | ok others =>
      rw [countFront, countBehind] at counting
      rw [parseQuery_of_counted readWhole counting, parseQuery_of_counted readBehind countBehind,
        joined]

/-- What two texts with blank text between them mean is determined by what each of them means,
unless a phrase is open at the end of the first. -/
theorem parseQuery_append (front gap behind : String) (gapBlank : IsBlankText gap)
    (apart : gap ≠ "")
    (closed : ∀ error, parseQuery front = .error error →
      error.detail ≠ "unterminated quoted string") :
    parseQuery (front ++ gap ++ behind) =
      joined (front ++ gap ++ behind) (front.length + gap.length) (parseQuery front)
        (parseQuery behind) := by
  have closedFront : ∀ position,
      readFilters 0 front.toList ≠ .error ⟨position, .unterminatedQuote⟩ := by
    intro position unclosed
    exact closed _ (parseQuery_of_unread unclosed) rfl
  have gapPresent : gap.toList ≠ [] := mt String.toList_eq_nil_iff.mp apart
  have reading := readFilters_gap gapBlank gapPresent closedFront behind.toList
  rw [← List.append_assoc, ← String.toList_append, ← String.toList_append, String.length_toList,
    String.length_toList] at reading
  -- only how the whole is read matters from here on
  generalize front ++ gap ++ behind = whole at reading ⊢
  generalize front.length + gap.length = start at reading ⊢
  cases readFront : readFilters 0 front.toList with
  | error failure =>
    rw [readFront] at reading
    rw [parseQuery_of_unread reading, parseQuery_of_unread readFront,
      joined_of_front (isSyntax_of_unread readFront), toError_front]
  | ok first =>
    rw [readFront] at reading
    cases readBehind : readFilters 0 behind.toList with
    | error failure =>
      rw [readBehind] at reading
      rw [parseQuery_of_unread reading, parseQuery_of_unread readBehind,
        joined_of_behind (isSyntax_of_unread readBehind) (isSyntax_of_read readFront),
        toError_shift]
    | ok second =>
      rw [readBehind] at reading
      exact parseQuery_append_of_read readFront readBehind reading

/-- A draft that cannot be read goes before a count in front of it that is none. -/
theorem parseQuery_append_draft :
    IsBlankText "\n " ∧ "\n " ≠ "" ∧
      (∀ error, parseQuery "images:300" = .error error →
        error.detail ≠ "unterminated quoted string") ∧
      parseQuery ("images:300" ++ "\n " ++ "draft:maybe") =
        .error ⟨"images:300\n draft:maybe", 18, ["'only'", "'true' or 'false'"],
          "expected 'only' or 'true' or 'false'"⟩ := by
  have front : parseQuery "images:300" =
      .error ⟨"images:300", 7, [], "300 is out of range (0-255)"⟩ := by decide +kernel
  have behind : parseQuery "draft:maybe" =
      .error ⟨"draft:maybe", 6, ["'only'", "'true' or 'false'"],
        "expected 'only' or 'true' or 'false'"⟩ := by decide +kernel
  have blank : IsBlankText "\n " := by decide
  have apart : "\n " ≠ "" := by decide
  have closed : ∀ error, parseQuery "images:300" = .error error →
      error.detail ≠ "unterminated quoted string" := by
    intro error failed
    rw [front] at failed
    cases failed
    decide
  have law := parseQuery_append "images:300" "\n " "draft:maybe" blank apart closed
  refine ⟨blank, apart, closed, ?_⟩
  rw [law, front, behind]
  decide

end SearchBar
