import SearchBar.Proofs.Reports

/-!
# Phrases that are not closed

A quotation mark opens a phrase where a filter may begin: at the front of a text,
or behind a blank if what is in front can be read. Anywhere else it closes a
phrase or belongs to a word. So a phrase is open at the end of a text exactly if
its last quotation mark stands in such a place, and one more mark closes it.

Main statements: what is read in front of a place where a filter may begin is
read whatever stands behind (`readsFront_of_endsBlank`), and open phrases are
reported exactly where they open (`parseQuery_unterminated`).
-/

namespace SearchBar

open Text

variable {offset : Nat} {text : List Char}

/-- Filters that are read from a text that ends in a blank are read whatever stands behind it. -/
theorem readsFront_of_endsBlank (ends : EndsBlank text) {reads : List (Filter Numeral)}
    (read : readFilters offset text = .ok reads) : ReadsFront offset text reads := by
  rcases List.eq_nil_or_concat' text with rfl | ⟨body, c, rfl⟩
  · rw [readFilters_of_blank rfl] at read
    cases read
    exact .blank (fun _ => nofun)
  · have blank : ∀ d ∈ [c], isBlank d = true :=
      List.forall_mem_singleton.mpr (ends c List.getLast?_concat)
    have bodyRead := readFilters_append_blank blank offset body
    rw [read] at bodyRead
    have closed : ∀ position,
        readFilters offset body ≠ .error ⟨position, .unterminatedQuote⟩ := by
      intro position unclosed
      rw [unclosed] at bodyRead
      cases bodyRead
    intro tail
    have seam : StopsAt isSolid ([c] ++ tail) :=
      (stopsAt_append (List.cons_ne_nil c []) tail).mpr (stopsAt_of_blank blank)
    rw [List.append_assoc, readFilters_append seam offset body closed, ← bodyRead,
      readFilters_blank_append blank, List.length_append, Nat.add_assoc]
    rfl

/-- A phrase is open at the end of a text exactly if its last quotation mark stands where a filter
may begin. -/
theorem readFilters_unterminated_iff {position : Nat} :
    readFilters offset text = .error ⟨position, .unterminatedQuote⟩ ↔
      ∃ front behind reads, text = front ++ quotationMark :: behind ∧ quotationMark ∉ behind ∧
        EndsBlank front ∧ readFilters offset front = .ok reads ∧
        position = offset + front.length := by
  constructor
  · intro failed
    obtain ⟨front, current, reads, ⟨place, cause⟩, whole, read, ends, -, single, -, same⟩ :=
      readFilters_error failed
    obtain rfl : Cause.unterminatedQuote = cause := congrArg Failure.cause same
    obtain ⟨behind, rfl, unclosed⟩ := readSingleFilter_unclosed single
    rw [readSingleFilter_of_error (readFilter_unclosed unclosed)] at single
    cases single
    exact ⟨front, behind, reads, whole, unclosed, ends, read.alone, congrArg Failure.position same⟩
  · rintro ⟨front, behind, reads, rfl, unclosed, ends, read, rfl⟩
    rw [readsFront_of_endsBlank ends read, readFilters_unclosed unclosed]
    rfl

/-- The text can be read: it means a query, or it fails for a count. -/
def IsReadable (text : String) : Prop :=
  ∀ error, parseQuery text = .error error → error.OfCount

/-- A text can be read exactly if filters over numerals are read from it. -/
theorem isReadable_iff {text : String} :
    IsReadable text ↔ ∃ reads, readFilters 0 text.toList = .ok reads := by
  constructor
  · intro readable
    cases read : readFilters 0 text.toList with
    | ok reads => exact ⟨reads, rfl⟩
    | error failure =>
      obtain ⟨numeral, other, failed, same⟩ := readable _ (parseQuery_of_unread read)
      have nothing : failure.cause.expected = [] :=
        (congrArg ParseError.expected same).trans (numeral.count_expects_nothing failed)
      exact absurd nothing (readFilters_expects 0 text.toList failure read)
  · rintro ⟨reads, read⟩ error failed
    cases counted : reads.mapM Filter.count with
    | ok filters =>
      rw [parseQuery_of_counted read counted] at failed
      cases failed
    | error failure =>
      rw [parseQuery_of_uncounted read counted] at failed
      cases failed
      obtain ⟨-, -, numeral, -, count⟩ := numeral_of_uncounted counted
      exact ⟨numeral, failure, count, rfl⟩

/-- A filter may begin behind blank text, and behind a text that can be read and ends in a blank. -/
theorem endsBlank_and_readable_iff {front : String} :
    EndsBlank front.toList ∧ IsReadable front ↔
      IsBlankText front ∨
        (∃ c, front.toList.getLast? = some c ∧ isBlank c = true) ∧ IsReadable front := by
  constructor
  · rintro ⟨ends, readable⟩
    cases last : front.toList.getLast? with
    | none =>
      left
      intro c member
      rw [List.getLast?_eq_none_iff.mp last] at member
      cases member
    | some c => exact Or.inr ⟨⟨c, rfl, ends c last⟩, readable⟩
  · rintro (blank | ⟨⟨c, last, blank⟩, readable⟩)
    · have read : readFilters 0 front.toList = .ok [] :=
        readFilters_of_blank (List.dropWhile_eq_nil_iff.mpr blank)
      exact ⟨.of_blank blank, isReadable_iff.mpr ⟨[], read⟩⟩
    · refine ⟨?_, readable⟩
      intro d found
      rw [last] at found
      cases found
      exact blank

/-- A text is what stands in front of a mark in it, the mark, and what stands behind. -/
theorem take_mark_drop {place : Nat} (mark : text[place]? = some quotationMark) :
    text.take place ++ quotationMark :: text.drop (place + 1) = text := by
  obtain ⟨inside, found⟩ := List.getElem?_eq_some_iff.mp mark
  rw [← found, ← List.drop_eq_getElem_cons inside, List.take_append_drop]

/-- A phrase is open from a place on exactly if the last quotation mark of the text stands there and
a filter may begin there. -/
theorem readFilters_unterminated_at_iff {text : String} {place : Nat} :
    readFilters 0 text.toList = .error ⟨place, .unterminatedQuote⟩ ↔
      text.toList[place]? = some quotationMark ∧ quotationMark ∉ text.toList.drop (place + 1) ∧
        EndsBlank (textBefore place text).toList ∧ IsReadable (textBefore place text) := by
  rw [readFilters_unterminated_iff, textBefore, isReadable_iff, String.toList_ofList]
  constructor
  · rintro ⟨front, behind, reads, whole, unclosed, ends, read, same⟩
    obtain rfl : place = front.length := by rw [same, Nat.zero_add]
    rw [whole, List.take_left, List.getElem?_append_right (Nat.le_refl _), Nat.sub_self]
    have rest : (front ++ quotationMark :: behind).drop (front.length + 1) = behind := by
      rw [← List.drop_drop, List.drop_left]
      rfl
    rw [rest]
    exact ⟨rfl, unclosed, ends, reads, read⟩
  · rintro ⟨mark, unclosed, ends, reads, read⟩
    obtain ⟨inside, -⟩ := List.getElem?_eq_some_iff.mp mark
    refine ⟨_, _, reads, (take_mark_drop mark).symm, unclosed, ends, read, ?_⟩
    rw [List.length_take, Nat.zero_add, Nat.min_eq_left (Nat.le_of_lt inside)]

/-- Texts that begin with different characters are different, whatever follows. -/
theorem append_ne_of_head? {front behind text : String} (present : front.toList ≠ [])
    (other : front.toList.head? ≠ text.toList.head?) : front ++ behind ≠ text := by
  rintro rfl
  rw [String.toList_append, List.head?_append_of_ne_nil _ present] at other
  exact other rfl

/-- Texts that end with different characters are different, whatever stands in front. -/
theorem append_ne_of_getLast? {front behind text : String} (present : behind.toList ≠ [])
    (other : behind.toList.getLast? ≠ text.toList.getLast?) : front ++ behind ≠ text := by
  rintro rfl
  rw [String.toList_append, List.getLast?_append_of_ne_nil _ present] at other
  exact other rfl

/-- Only of an open phrase is it said that it is not terminated. -/
theorem Cause.detail_eq_unterminated_iff {cause : Cause} :
    cause.detail = "unterminated quoted string" ↔ cause = .unterminatedQuote := by
  constructor
  · intro same
    cases cause with
    | unexpected terminals =>
      change expectationDetail (descriptions terminals) = _ at same
      unfold expectationDetail at same
      split at same
      · exact absurd same (by decide)
      · exact absurd same (append_ne_of_head? (by decide) (by decide))
    | unterminatedQuote => rfl
    | outOfRange digits =>
      change _ ++ ")" = _ at same
      exact absurd same (append_ne_of_getLast? (by decide) (by decide))
    | tooManyDigits number =>
      change _ ++ " digits; use sys.set_int_max_str_digits() to increase the limit" = _ at same
      exact absurd same (append_ne_of_getLast? (by decide) (by decide))
  · rintro rfl
    rfl

/-- A text is reported for an open phrase exactly where its reading stops at one. -/
theorem parseQuery_unterminated_iff {text : String} {place : Nat} :
    (∃ error, parseQuery text = .error error ∧ error.position = place ∧
        error.detail = "unterminated quoted string") ↔
      readFilters 0 text.toList = .error ⟨place, .unterminatedQuote⟩ := by
  constructor
  · rintro ⟨error, failed, position, detail⟩
    cases read : readFilters 0 text.toList with
    | error failure =>
      rw [parseQuery_of_unread read] at failed
      cases failed
      obtain ⟨stop, cause⟩ := failure
      obtain rfl : cause = .unterminatedQuote := Cause.detail_eq_unterminated_iff.mp detail
      obtain rfl : stop = place := Int.ofNat_inj.mp position
      rfl
    | ok reads =>
      obtain ⟨numeral, failure, count, same⟩ := isReadable_iff.mpr ⟨reads, read⟩ error failed
      have wording : failure.cause.detail = "unterminated quoted string" :=
        (congrArg ParseError.detail same).symm.trans detail
      have nothing := numeral.count_expects_nothing count
      rw [Cause.detail_eq_unterminated_iff.mp wording] at nothing
      cases nothing
  · intro unread
    exact ⟨_, parseQuery_of_unread unread, rfl, rfl⟩

/-- A phrase that is closed is read from any place on. -/
theorem readFilters_phrase {phrase : String} (valid : IsPhrase phrase) (offset : Nat) :
    readFilters offset ("\"" ++ phrase ++ "\"").toList = .ok [.quoted phrase] := by
  have nothing : readFilters (offset + (Filter.quoted phrase : Filter Numeral).typed.length) [] =
      .ok [] := readFilters_of_blank rfl
  have wellFormed : (Filter.quoted phrase : Filter Numeral).WellFormed Numeral.WellFormed := valid
  have read := readFilters_typed wellFormed (StopsAt.nil isSolid) offset
  rw [List.append_nil, nothing] at read
  exact read

/-- Behind a text that can be read and ends in a blank, a closed phrase is one more filter. -/
theorem parseQuery_append_phrase {front phrase : String} (ends : EndsBlank front.toList)
    (readable : IsReadable front) (valid : IsPhrase phrase) (whole : String)
    (split : whole = front ++ ("\"" ++ phrase ++ "\"")) :
    (∃ query, parseQuery front = .ok query ∧
        parseQuery whole = .ok ⟨query.filters ++ [.quoted phrase]⟩) ∨
      ∃ error, parseQuery front = .error error ∧ error.OfCount ∧
        parseQuery whole = .error (error.within whole 0) := by
  obtain ⟨reads, read⟩ := isReadable_iff.mp readable
  have phraseRead := readFilters_phrase valid 0
  have phraseMeant : parseQuery ("\"" ++ phrase ++ "\"") = .ok ⟨[.quoted phrase]⟩ :=
    parseQuery_of_counted phraseRead rfl
  have wholeRead : readFilters 0 whole.toList =
      .ok (reads ++ [Filter.quoted phrase].map (Filter.map (Numeral.shift 0))) := by
    rw [split, String.toList_append, readsFront_of_endsBlank ends read, readFilters_phrase valid]
    rfl
  have together := parseQuery_append_of_read read phraseRead wholeRead
  rw [phraseMeant] at together
  cases meant : parseQuery front with
  | ok query =>
    rw [meant] at together
    exact Or.inl ⟨query, rfl, together⟩
  | error error =>
    rw [meant] at together
    exact Or.inr ⟨error, rfl, readable error meant, together⟩

/-- A text is reported for an open phrase exactly in the place of its last quotation mark, if the
text in front of that is blank, or ends in a blank and can be read. One more mark at the end of the
text closes the phrase: the text then means what is meant in front of the phrase, and the phrase, or
fails for the count that is none in front of the phrase. -/
theorem parseQuery_unterminated (text : String) (place : Nat) :
    ((∃ error, parseQuery text = .error error ∧ error.position = place ∧
        error.detail = "unterminated quoted string") ↔
      text.toList[place]? = some quotationMark ∧
        quotationMark ∉ text.toList.drop (place + 1) ∧
        (IsBlankText (textBefore place text) ∨
          (∃ c, (textBefore place text).toList.getLast? = some c ∧ isBlank c = true) ∧
            IsReadable (textBefore place text))) ∧
      ∀ error, parseQuery text = .error error → error.position = place →
        error.detail = "unterminated quoted string" →
          (∃ query, parseQuery (textBefore place text) = .ok query ∧
            parseQuery (text ++ "\"") =
              .ok ⟨query.filters ++ [.quoted (String.ofList (text.toList.drop (place + 1)))]⟩) ∨
          ∃ count, parseQuery (textBefore place text) = .error count ∧ count.OfCount ∧
            parseQuery (text ++ "\"") = .error (count.within (text ++ "\"") 0) := by
  constructor
  · rw [parseQuery_unterminated_iff, readFilters_unterminated_at_iff, endsBlank_and_readable_iff]
  · intro error failed position detail
    have unread := parseQuery_unterminated_iff.mp ⟨error, failed, position, detail⟩
    obtain ⟨mark, unclosed, ends, readable⟩ := readFilters_unterminated_at_iff.mp unread
    have valid : IsPhrase (String.ofList (text.toList.drop (place + 1))) := by
      rwa [IsPhrase, String.toList_ofList]
    apply parseQuery_append_phrase ends readable valid
    have opening : "\"".toList = [quotationMark] := rfl
    rw [← String.toList_inj]
    simp only [textBefore, String.toList_append, String.toList_ofList, opening]
    rw [List.singleton_append, ← List.append_assoc, take_mark_drop mark]

example :
    parseQuery "images:300 \"a" =
        .error ⟨"images:300 \"a", 11, ["a closing '\"'"], "unterminated quoted string"⟩ ∧
      parseQuery "images:300 \"a\"" =
        .error ⟨"images:300 \"a\"", 7, [], "300 is out of range (0-255)"⟩ := by
  decide +kernel

end SearchBar
