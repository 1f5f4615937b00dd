import SearchBar.CommandLine.Answer
import SearchBar.Proofs.LiteralMarkup
import SearchBar.Proofs.Reports

/-!
# The wording of failures

Whatever text cannot be read, the failure is put into words of plain characters,
with one colon in a word at most. Of the text itself only digits get into them. So
the line about a failure means the same whether or not markup and codes are looked
for in it, and it is one line.

Main statements: the details of a failure are worded (`parseQuery_worded`,
`parseFilter_worded`), and the line about it is shown as it is
(`shownMarkup_failureLine`).
-/

namespace SearchBar

open Text

/-- A character of the wording of failures: a space or a visible character of ASCII that has no part
in markup. -/
def isWording (c : Char) : Bool :=
  decide (32 ≤ c.toNat) && decide (c.toNat < 127) && Console.isOrdinary c

/-- A text that failures are worded with. -/
def IsWorded (text : String) : Prop := ∀ c ∈ text.toList, isWording c = true

/-- Two such texts make one. -/
theorem IsWorded.append {front behind : String} (first : IsWorded front) (second : IsWorded behind) :
    IsWorded (front ++ behind) := by
  intro c member
  rw [String.toList_append] at member
  rcases List.mem_append.mp member with inFront | inBehind
  · exact first c inFront
  · exact second c inBehind

/-- A text is checked character by character. -/
theorem isWorded_of_all {text : String} (checked : text.toList.all isWording = true) :
    IsWorded text :=
  List.all_eq_true.mp checked

/-- Worded texts with worded text between them are worded. -/
theorem isWorded_intercalate {between : String} {texts : List String} (seam : IsWorded between)
    (worded : ∀ text ∈ texts, IsWorded text) : IsWorded (between.intercalate texts) := by
  induction texts with
  | nil =>
    rw [String.intercalate_nil]
    exact isWorded_of_all (by decide)
  | cons text texts ih =>
    have first := worded text List.mem_cons_self
    cases texts with
    | nil =>
      rw [String.intercalate_singleton]
      exact first
    | cons next texts =>
      rw [String.intercalate_cons_cons]
      exact (first.append seam).append
        (ih fun other member => worded other (List.mem_cons_of_mem text member))

/-- Digits are worded. -/
theorem isWorded_of_digits {digits : String} (run : ∀ c ∈ digits.toList, isDecimalDigit c = true) :
    IsWorded digits := by
  intro c member
  obtain ⟨low, high⟩ := isDecimalDigit_iff.mp (run c member)
  have ordinary : Console.isOrdinary c = true :=
    Console.isOrdinary_of_class (by decide) (by decide) (by decide) (run c member)
  simp only [isWording, Bool.and_eq_true, decide_eq_true_eq]
  exact ⟨⟨by omega, by omega⟩, ordinary⟩

/-- Texts of which no word holds two colons make one, with a seam between them that begins with a
blank and holds no colon. -/
theorem isSparse_intercalate {between : List Char} (absent : ':' ∉ between) {texts : List String}
    (sparse : ∀ text ∈ texts, Console.isSparse text.toList = true) :
    Console.isSparse ((String.ofList (' ' :: between)).intercalate texts).toList = true := by
  induction texts with
  | nil =>
    rw [String.intercalate_nil]
    rfl
  | cons text texts ih =>
    have first := sparse text List.mem_cons_self
    cases texts with
    | nil =>
      rw [String.intercalate_singleton]
      exact first
    | cons next texts =>
      have others := ih fun other member => sparse other (List.mem_cons_of_mem text member)
      rw [String.intercalate_cons_cons, String.toList_append, String.toList_append,
        String.toList_ofList, List.append_assoc, List.cons_append]
      exact Console.isSparse_append_blank (by decide) first (Console.isSparse_append absent others)

/-- A colon is no digit. -/
theorem colon_not_mem_digits {digits : String}
    (run : ∀ c ∈ digits.toList, isDecimalDigit c = true) : ':' ∉ digits.toList := by
  intro member
  exact absurd (run ':' member) (by decide)

/-- A number holds no colon. -/
theorem colon_not_mem_naturalNumeral (number : Nat) : ':' ∉ (naturalNumeral number).toList :=
  colon_not_mem_digits fun _ => isDecimalDigit_of_mem_naturalNumeral

/-- Numbers are worded. -/
theorem isWorded_naturalNumeral (number : Nat) : IsWorded (naturalNumeral number) :=
  isWorded_of_digits fun _ => isDecimalDigit_of_mem_naturalNumeral

/-- The digits that a cause repeats, if any, are decimal digits. -/
def Cause.HasDigits : Cause → Prop
  | outOfRange digits => ∀ c ∈ digits.toList, isDecimalDigit c = true
  | _ => True

/-- What was expected is worded. -/
theorem Terminal.description_worded (terminal : Terminal) : IsWorded terminal.description := by
  apply isWorded_of_all
  cases terminal <;> decide

/-- What was expected has one colon at most. -/
theorem Terminal.description_sparse (terminal : Terminal) :
    Console.isSparse terminal.description.toList = true := by
  cases terminal <;> decide +kernel

/-- A cause is worded if what it repeats are digits. -/
theorem Cause.HasDigits.detail_worded {cause : Cause} (digits : cause.HasDigits) :
    IsWorded cause.detail := by
  cases cause with
  | unexpected terminals =>
    have listed : ∀ text ∈ descriptions terminals, IsWorded text := by
      intro text member
      obtain ⟨terminal, -, rfl⟩ := mem_descriptions.mp member
      exact terminal.description_worded
    show IsWorded (expectationDetail (descriptions terminals))
    unfold expectationDetail
    split
    · exact isWorded_of_all (by decide)
    · exact (isWorded_of_all (by decide)).append
        (isWorded_intercalate (isWorded_of_all (by decide)) listed)
  | unterminatedQuote => exact isWorded_of_all (by decide)
  | outOfRange found =>
    have opening : IsWorded " is out of range (0-" := isWorded_of_all (by decide)
    exact (((isWorded_of_digits digits).append opening).append
      (isWorded_naturalNumeral _)).append (isWorded_of_all (by decide))
  | tooManyDigits number =>
    have opening : IsWorded "Exceeds the limit (" := isWorded_of_all (by decide)
    have middle : IsWorded " digits) for integer string conversion: value has " :=
      isWorded_of_all (by decide)
    have closing : IsWorded
        " digits; use sys.set_int_max_str_digits() to increase the limit" :=
      isWorded_of_all (by decide)
    exact (((opening.append (isWorded_naturalNumeral _)).append middle).append
      (isWorded_naturalNumeral _)).append closing

/-- No word of a cause holds two colons if what it repeats are digits. -/
theorem Cause.HasDigits.detail_sparse {cause : Cause} (digits : cause.HasDigits) :
    Console.isSparse cause.detail.toList = true := by
  cases cause with
  | unexpected terminals =>
    have listed : ∀ text ∈ descriptions terminals, Console.isSparse text.toList = true := by
      intro text member
      obtain ⟨terminal, -, rfl⟩ := mem_descriptions.mp member
      exact terminal.description_sparse
    have seam : " or " = String.ofList (' ' :: "or ".toList) := by decide
    show Console.isSparse (expectationDetail (descriptions terminals)).toList = true
    unfold expectationDetail
    split
    · decide
    · rw [String.toList_append, seam]
      exact Console.isSparse_append (by decide) (isSparse_intercalate (by decide) listed)
  | unterminatedQuote => decide
  | outOfRange found =>
    apply Console.isSparse_of_no_colon
    show ':' ∉ (found ++ " is out of range (0-" ++ naturalNumeral maximalCount ++ ")").toList
    simp only [String.toList_append, List.mem_append, not_or]
    exact ⟨⟨⟨colon_not_mem_digits digits, by decide⟩, colon_not_mem_naturalNumeral _⟩, by decide⟩
  | tooManyDigits number =>
    -- the only colon stands in the middle, behind the first number
    have opening : ':' ∉ "Exceeds the limit (".toList ++ (naturalNumeral maximalDigits).toList := by
      rw [List.mem_append, not_or]
      exact ⟨by decide, colon_not_mem_naturalNumeral _⟩
    have middle : Console.isSparse
        " digits) for integer string conversion: value has ".toList = true := by decide +kernel
    show Console.isSparse ("Exceeds the limit (" ++ naturalNumeral maximalDigits ++
      " digits) for integer string conversion: value has " ++ naturalNumeral number ++
        " digits; use sys.set_int_max_str_digits() to increase the limit").toList = true
    simp only [String.toList_append]
    exact Console.isSparse_append_plain (by decide)
      (Console.isSparse_append_plain (colon_not_mem_naturalNumeral _)
        (Console.isSparse_append opening middle))

/-- A cause that names what was expected repeats nothing. -/
theorem Cause.hasDigits_of_expected {cause : Cause} (expects : cause.expected ≠ []) :
    cause.HasDigits := by
  cases cause with
  | outOfRange digits => exact absurd rfl expects
  | unexpected terminals => trivial
  | unterminatedQuote => trivial
  | tooManyDigits number => trivial

/-- A numeral that is no count is repeated with its digits. -/
theorem Numeral.count_error_hasDigits {numeral : Numeral} (wellFormed : numeral.WellFormed)
    {failure : Failure} (failed : numeral.count = .error failure) : failure.cause.HasDigits := by
  unfold Numeral.count at failed
  split at failed
  · cases failed
    trivial
  · split at failed
    · cases failed
      exact wellFormed.2
    · cases failed

/-- A text that is no query fails with digits at most. -/
theorem readQuery_error_hasDigits {text : List Char} {failure : Failure}
    (failed : readQuery text = .error failure) : failure.cause.HasDigits := by
  rcases readQuery_error failed with unread | ⟨reads, read, filter, listed, numeral, member, count⟩
  · exact Cause.hasDigits_of_expected (readFilters_expects 0 text failure unread)
  · have wellFormed := (standsIn_of_readFilters read filter listed numeral member).1
    exact Numeral.count_error_hasDigits wellFormed count

/-- A text that is no filter fails with digits at most. -/
theorem readSingleFilter_error_hasDigits {text : List Char} {failure : Failure}
    (failed : readSingleFilter text >>= Filter.count = .error failure) :
    failure.cause.HasDigits := by
  rcases readSingleFilter_count_error failed with single | ⟨filter, single, numeral, member, count⟩
  · rcases readSingleFilter_error single with unread | ⟨reading, -, ⟨-, -, rfl⟩ | ⟨-, rfl⟩⟩
    · exact Cause.hasDigits_of_expected (readFilter_expects text failure unread)
    · trivial
    · trivial
  · have wellFormed := (readSingleFilter_eq_ok_iff_typed.mp single).1.counts numeral member
    exact Numeral.count_error_hasDigits wellFormed count

/-- What is reported of a text that cannot be read: its details are worded, with one colon in a word
at most, and its place is counted from zero. -/
structure ParseError.Worded (error : ParseError) : Prop where
  /-- The details are worded. -/
  detail : IsWorded error.detail
  /-- No word of the details holds two colons. -/
  sparse : Console.isSparse error.detail.toList = true
  /-- The place is a number of characters. -/
  position : 0 ≤ error.position

/-- A failure with digits at most is reported in words. -/
theorem worded_of_reported {α : Type} {outcome : Except Failure α} {text : String}
    {error : ParseError}
    (digits : ∀ failure, outcome = .error failure → failure.cause.HasDigits)
    (failed : reported text outcome = .error error) : error.Worded := by
  cases outcome with
  | ok value => cases failed
  | error failure =>
    cases failed
    exact ⟨(digits failure rfl).detail_worded, (digits failure rfl).detail_sparse,
      Int.natCast_nonneg failure.position⟩

/-- What is reported of a text that is no query is worded. -/
theorem parseQuery_worded {text : String} {error : ParseError}
    (failed : parseQuery text = .error error) : error.Worded :=
  worded_of_reported (fun _ => readQuery_error_hasDigits) failed

/-- What is reported of a text that is no filter is worded. -/
theorem parseFilter_worded {text : String} {error : ParseError}
    (failed : parseFilter text = .error error) : error.Worded :=
  worded_of_reported (fun _ => readSingleFilter_error_hasDigits) failed

end SearchBar

namespace SearchBar.CommandLine

open Text

/-- The line about a failure. -/
def failureLine (error : ParseError) : String :=
  "Error: Invalid search query: " ++ error.detail ++ " (position " ++
    integerNumeral error.position ++ ")"

/-- The line about a failure in words is worded. -/
theorem failureLine_worded {error : ParseError} (worded : error.Worded) :
    IsWorded (failureLine error) := by
  have number : IsWorded (integerNumeral error.position) := by
    obtain ⟨place, same⟩ := Int.eq_ofNat_of_zero_le worded.position
    rw [same]
    exact isWorded_naturalNumeral place
  have opening : IsWorded "Error: Invalid search query: " := isWorded_of_all (by decide)
  have middle : IsWorded " (position " := isWorded_of_all (by decide)
  exact (((opening.append worded.detail).append middle).append number).append
    (isWorded_of_all (by decide))

/-- No word of the line about a failure holds two colons. -/
theorem failureLine_sparse {error : ParseError} (worded : error.Worded) :
    Console.isSparse (failureLine error).toList = true := by
  have number : ':' ∉ (integerNumeral error.position).toList := by
    obtain ⟨place, same⟩ := Int.eq_ofNat_of_zero_le worded.position
    rw [same]
    exact colon_not_mem_naturalNumeral place
  have label : "Error: Invalid search query: ".toList =
      "Error: Invalid search query:".toList ++ [' '] := by decide
  unfold failureLine
  simp only [String.toList_append]
  apply Console.isSparse_append_plain (by decide)
  apply Console.isSparse_append_plain number
  apply Console.isSparse_append_plain (by decide)
  rw [label, List.append_assoc, List.singleton_append]
  exact Console.isSparse_append_blank (by decide) (by decide +kernel) worded.sparse

/-- Words have no part in markup. -/
theorem isOrdinary_of_isWorded {text : String} (worded : IsWorded text) :
    ∀ c ∈ text.toList, Console.isOrdinary c = true := by
  intro c member
  have found := worded c member
  rw [isWording, Bool.and_eq_true] at found
  exact found.2

/-- Words are shown in their place. -/
theorem isStill_of_isWorded {text : String} (worded : IsWorded text) :
    ∀ c ∈ text.toList, Console.isStill c = true := by
  intro c member
  have found := worded c member
  simp only [isWording, Bool.and_eq_true, decide_eq_true_eq] at found
  exact Console.isStill_of_space_le found.1.1

/-- Words with one colon at most are shown as they are, even if markup and codes are looked for in
them. -/
theorem shownMarkup_worded {text : String} (worded : IsWorded text)
    (sparse : Console.isSparse text.toList = true) :
    Console.shownMarkup text = .ok (text ++ "\n") := by
  have literal := Console.isLiteral_of_ordinary (isOrdinary_of_isWorded worded)
  have codeless : Console.replaceCodes text.toList = text.toList :=
    Console.isCodeless_of_sparse sparse
  rw [Console.shownMarkup_literal literal, codeless,
    Console.shownText_still (isStill_of_isWorded worded), String.ofList_toList]

/-- The line about a failure of reading is shown as it is, even if markup and codes are looked for
in it. -/
theorem shownMarkup_failureLine {error : ParseError} (worded : error.Worded) :
    Console.shownMarkup (failureLine error) = .ok (failureLine error ++ "\n") :=
  shownMarkup_worded (failureLine_worded worded) (failureLine_sparse worded)

end SearchBar.CommandLine
