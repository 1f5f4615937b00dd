import SearchBar.Proofs.FilterReports
import SearchBar.Proofs.TextRange

/-!
# What reports expect, in words

A report lists what was expected in ascending order, each description once, and
its wording joins the descriptions. In the reports of queries and filters all of
them are plain words. Behind a comparison or an interval a range over texts ends,
and that has no description of its own: the report of what stands there instead
lists its internal name. Every other report of a range is plain.

Main statement: `reports_explained`.
-/

namespace SearchBar

open Text

/-- The descriptions that say in plain words what was expected. -/
def plainDescriptions : List String :=
  ["a quoted string", "a word", "a qualifier keyword", "an identifier", "'true' or 'false'",
    "'only'", "an @username", "a 36-character user id", "a comparison operator",
    "a number from 0 to 255", "a date", "a value", "whitespace", "':'", "'/'", "'..'",
    "end of input", "a closing '\"'"]

/-- Whatever the report expects is said in plain words. -/
def ParseError.IsPlain (error : ParseError) : Prop :=
  ∀ description ∈ error.expected, description ∈ plainDescriptions

/-- The report lists what it expects in ascending order, and its wording follows from the list. -/
structure ParseError.Explained (error : ParseError) : Prop where
  /-- The descriptions ascend, so none is listed twice. -/
  ascending : error.expected.Pairwise (· < ·)
  /-- The wording joins the descriptions. -/
  joined : error.expected ≠ [] → error.expected ≠ Cause.unterminatedQuote.expected →
    error.detail = "expected " ++ " or ".intercalate error.expected
  /-- For a phrase that is not closed there is another wording. -/
  unclosed : error.expected = Cause.unterminatedQuote.expected →
    error.detail = "unterminated quoted string"
  /-- Where nothing is listed, the input is called unexpected, or a numeral is no count. -/
  unlisted : error.expected = [] → error.detail = "unexpected input" ∨ error.OfCount

/-- The text in front of the place of the report is a comparison or an interval. -/
def ParseError.BehindRange (text : String) (error : ParseError) : Prop :=
  ∃ range, parseRange (textBefore error.position.toNat text) = .ok range ∧
    ∀ value, range ≠ .exactly value

/-- A list stays ascending when a text is put into it. -/
theorem insertAscending_pairwise (text : String) {texts : List String}
    (ascending : texts.Pairwise (· < ·)) : (insertAscending text texts).Pairwise (· < ·) := by
  induction texts with
  | nil => exact List.pairwise_singleton _ text
  | cons first rest ih =>
    obtain ⟨least, others⟩ := List.pairwise_cons.mp ascending
    unfold insertAscending
    split
    · rename_i before
      refine List.pairwise_cons.mpr ⟨?_, ascending⟩
      intro other member
      rcases List.mem_cons.mp member with rfl | member
      · exact before
      · exact String.lt_trans before (least other member)
    · rename_i notBefore
      split
      · exact ascending
      · rename_i apart
        have behind : first < text :=
          String.not_le.mp fun le => apart (String.le_antisymm le (String.not_lt.mp notBefore))
        refine List.pairwise_cons.mpr ⟨?_, ih others⟩
        intro other member
        rcases mem_insertAscending.mp member with rfl | member
        · exact behind
        · exact least other member

/-- Descriptions are listed in ascending order. -/
theorem descriptions_pairwise (terminals : List Terminal) :
    (descriptions terminals).Pairwise (· < ·) := by
  induction terminals with
  | nil => exact List.Pairwise.nil
  | cons terminal rest ih => exact insertAscending_pairwise terminal.description ih

/-- Every terminal but the end of a range is described in plain words. -/
theorem Terminal.description_mem_plain {terminal : Terminal} (described : terminal ≠ .endOfText) :
    terminal.description ∈ plainDescriptions := by
  cases terminal with
  | endOfText => exact absurd rfl described
  | _ => decide

/-- No terminal is described as a closing quotation mark. -/
theorem descriptions_ne_closing (terminals : List Terminal) :
    descriptions terminals ≠ Cause.unterminatedQuote.expected := by
  intro same
  have listed : "a closing '\"'" ∈ descriptions terminals := by
    rw [same]
    exact List.mem_singleton_self _
  obtain ⟨terminal, -, described⟩ := mem_descriptions.mp listed
  revert described
  cases terminal <;> decide

/-- The failures that queries and filters have. -/
inductive Failure.Plain : Failure → Prop
  | missing (place : Nat) {terminals : List Terminal} (described : .endOfText ∉ terminals) :
    Plain ⟨place, .unexpected terminals⟩
  | unclosed (place : Nat) : Plain ⟨place, .unterminatedQuote⟩
  | uncounted {numeral : Numeral} {failure : Failure} (failed : numeral.count = .error failure) :
    Plain failure

/-- What was expected and is missing is explained. -/
theorem explained_of_missing (text : String) (place : Nat) (terminals : List Terminal) :
    (Failure.toError text ⟨place, .unexpected terminals⟩).Explained where
  ascending := descriptions_pairwise terminals
  joined present _ := if_neg (mt List.isEmpty_iff.mp present)
  unclosed closing := absurd closing (descriptions_ne_closing terminals)
  unlisted empty := Or.inl (if_pos (List.isEmpty_iff.mpr empty))

/-- The failures that queries and filters have are explained in plain words. -/
theorem Failure.Plain.explained {failure : Failure} (plain : failure.Plain) (text : String) :
    (failure.toError text).Explained ∧ (failure.toError text).IsPlain := by
  cases plain with
  | missing place described =>
    refine ⟨explained_of_missing text place _, ?_⟩
    intro description member
    obtain ⟨terminal, listed, rfl⟩ := mem_descriptions.mp member
    apply Terminal.description_mem_plain
    rintro rfl
    exact described listed
  | unclosed place =>
    refine ⟨⟨List.pairwise_singleton _ _, fun _ other => absurd rfl other, fun _ => rfl, ?_⟩, ?_⟩
    · intro empty
      cases empty
    · intro description member
      obtain rfl := List.mem_singleton.mp member
      decide
  | uncounted failed =>
    have nothing : (failure.toError text).expected = [] := Numeral.count_expects_nothing failed
    refine ⟨⟨?_, fun present => absurd nothing present, ?_, ?_⟩, ?_⟩
    · rw [nothing]
      exact List.Pairwise.nil
    · rw [nothing]
      intro closing
      cases closing
    · exact fun _ => Or.inr ⟨_, failure, failed, rfl⟩
    · rw [ParseError.IsPlain, nothing]
      exact fun description member => absurd member List.not_mem_nil

/-- A failure where filters go on with what was expected is plain. -/
theorem Interrupted.plain {text : List Char} {failure : Failure}
    (interrupted : Interrupted text failure) : failure.Plain := by
  obtain ⟨front, behind, terminals, -, rfl, continues⟩ := interrupted
  apply Failure.Plain.missing
  intro listed
  obtain ⟨filter, found⟩ := continues _ listed
  exact found.isPart.2 rfl

/-- A filter that cannot be read has failed plainly. -/
theorem readSingleFilter_plain {text : List Char} {failure : Failure}
    (failed : readSingleFilter text = .error failure) : failure.Plain := by
  rcases readSingleFilter_error failed with unread | ⟨reading, read, ⟨-, -, rfl⟩ | ⟨-, rfl⟩⟩
  · rcases readFilter_error unread with ⟨rfl, -⟩ | interrupted
    · exact .unclosed 0
    · exact interrupted.plain
  · exact .missing _ List.not_mem_nil
  · obtain ⟨wellFormed, -, extensions⟩ := readFilter_settled read
    apply Failure.Plain.missing
    intro listed
    rcases List.mem_append.mp listed with extension | blank
    · rw [extensions] at extension
      obtain ⟨longer, found⟩ := Filter.continues_of_extension wellFormed extension
      exact found.isPart.2 rfl
    · cases List.mem_singleton.mp blank

/-- Filters that cannot be read have failed plainly. -/
theorem readFilters_plain {offset : Nat} {text : List Char} {failure : Failure}
    (failed : readFilters offset text = .error failure) : failure.Plain := by
  obtain ⟨_, current, _, inner, -, -, -, -, single, present, rfl⟩ := readFilters_error failed
  cases readSingleFilter_plain single with
  | missing place described => exact .missing _ described
  | unclosed place => exact .unclosed _
  | uncounted uncounted => exact absurd (Numeral.count_expects_nothing uncounted) present

/-- A text that is no query has failed plainly. -/
theorem readQuery_plain {text : List Char} {failure : Failure}
    (failed : readQuery text = .error failure) : failure.Plain := by
  rcases readQuery_error failed with unread | ⟨_, -, _, -, _, -, uncounted⟩
  · exact readFilters_plain unread
  · exact .uncounted uncounted

/-- A text that is no filter has failed plainly. -/
theorem readSingleFilter_count_plain {text : List Char} {failure : Failure}
    (failed : readSingleFilter text >>= Filter.count = .error failure) : failure.Plain := by
  rcases readSingleFilter_count_error failed with unread | ⟨_, -, _, -, uncounted⟩
  · exact readSingleFilter_plain unread
  · exact .uncounted uncounted

/-- A single bound is the only range that could have been made longer. -/
theorem Range.extensions_eq_nil_iff {α : Type} {range : Range α} :
    range.extensions = [] ↔ ∀ value, range ≠ .exactly value := by
  cases range <;> simp [Range.extensions]

/-- A range over texts has failed plainly, or where a comparison or an interval ends. -/
theorem readTextRange_error {text : List Char} {failure : Failure}
    (failed : readTextRange text = .error failure) :
    (failure.Plain ∧
        ∀ range, readTextRange (text.take failure.position) = .ok range → range.extensions ≠ []) ∨
      (failure.cause = .unexpected [.endOfText] ∧
        ∃ range, readTextRange (text.take failure.position) = .ok range ∧
          range.extensions = []) := by
  cases read : readRange textForm 0 text with
  | error other =>
    left
    have same : other = failure := by
      simpa only [readTextRange, read, bind, Except.bind, Except.error.injEq] using failed
    subst same
    obtain ⟨front, behind, whole, place, again⟩ :=
      readRange_cutShort textForm_exact textForm_nothing read
    obtain ⟨_, _, terminals, -, rfl, continues⟩ := readRange_error textForm_exact "" read
    constructor
    · apply Failure.Plain.missing
      intro listed
      obtain ⟨range, found⟩ := continues _ listed
      exact (found.isPart (by decide)).2 rfl
    · intro range accepted
      rw [whole, place, Nat.zero_add, List.take_left, readTextRange_eq_ok_iff, again] at accepted
      obtain ⟨extensions, accepted⟩ := accepted
      cases accepted
  | ok reading =>
    obtain ⟨range, extensions, rest⟩ := reading
    have settled : extensions = range.extensions := (readRange_sound textForm_exact read).2.2
    have whole : text = (range.written id).toList ++ rest := readRange_eq textForm_faithful read
    have front : text.take (text.length - rest.length) = (range.written id).toList := by
      rw [whole, List.length_append, Nat.add_sub_cancel, List.take_left]
    have accepted := readTextRange_eq_ok_iff.mpr
      ⟨_, readRange_of_wellFormed (Range.wellFormed_of_read read)⟩
    rw [← front] at accepted
    -- a range was read, and what is left of the text is refused
    simp only [readTextRange, read, bind, Except.bind, unexpected] at failed
    split at failed
    · cases failed
    · cases failed
      exact Or.inr ⟨rfl, range, accepted, settled.symm⟩
    · rename_i longer
      cases failed
      refine Or.inl ⟨.missing _ ?_, ?_⟩
      · intro listed
        rw [settled] at listed
        have any : ∀ bound ∈ range.bounds, True := fun _ _ => trivial
        obtain ⟨_, found⟩ := range.continues_of_extension textForm id "" any listed
        exact (found.isPart (by decide)).2 rfl
      · intro other again
        cases accepted.symm.trans again
        exact fun none => longer (settled.trans none)

/-- A comparison or an interval stands in front of a failure if one is read there. -/
theorem behindRange_iff {text : String} {failure : Failure} :
    (failure.toError text).BehindRange text ↔
      ∃ range, readTextRange (text.toList.take failure.position) = .ok range ∧
        range.extensions = [] := by
  simp only [ParseError.BehindRange, Failure.toError, Int.toNat_natCast, textBefore, parseRange,
    String.toList_ofList, reported_eq_ok_iff, Range.extensions_eq_nil_iff]

/-- The report of a text that is no range over texts is explained, and in plain words unless a
comparison or an interval stands in front of its place. -/
theorem parseRange_explained {text : String} {error : ParseError}
    (failed : parseRange text = .error error) :
    error.Explained ∧ (error.IsPlain ↔ ¬ error.BehindRange text) ∧
      (error.BehindRange text → error.expected = ["<END-OF-FILE>"]) := by
  obtain ⟨⟨place, cause⟩, unread, rfl⟩ := reported_error failed
  rw [behindRange_iff]
  rcases readTextRange_error unread with ⟨plain, unended⟩ | ⟨rfl, finished⟩
  · obtain ⟨explained, readable⟩ := plain.explained text
    have apart : ¬ ∃ range, readTextRange (text.toList.take place) = .ok range ∧
        range.extensions = [] := fun ⟨range, accepted, ended⟩ => unended range accepted ended
    exact ⟨explained, iff_of_true readable apart, fun behind => absurd behind apart⟩
  · have unreadable :
        ¬ (Failure.toError text ⟨place, .unexpected [.endOfText]⟩).IsPlain := by
      intro plain
      have listed := plain "<END-OF-FILE>" (List.mem_singleton_self _)
      revert listed
      decide
    exact ⟨explained_of_missing text place _,
      iff_of_false unreadable fun apart => apart finished, fun _ => rfl⟩

/-- The reports of queries, filters and ranges over texts list what was expected in ascending order
and join it in their wording. For queries and filters every description is in plain words. For
ranges it is, unless a comparison or an interval stands in front of the place of the report: there
the only thing that is listed is the internal name of the end of the text. -/
theorem reports_explained (text : String) :
    (∀ error, parseQuery text = .error error → error.Explained ∧ error.IsPlain) ∧
      (∀ error, parseFilter text = .error error → error.Explained ∧ error.IsPlain) ∧
      ∀ error, parseRange text = .error error →
        error.Explained ∧ (error.IsPlain ↔ ¬ error.BehindRange text) ∧
          (error.BehindRange text → error.expected = ["<END-OF-FILE>"]) := by
  refine ⟨?_, ?_, fun error failed => parseRange_explained failed⟩
  · intro error failed
    obtain ⟨failure, unread, rfl⟩ := reported_error failed
    exact (readQuery_plain unread).explained text
  · intro error failed
    obtain ⟨failure, unread, rfl⟩ := reported_error failed
    exact (readSingleFilter_count_plain unread).explained text

/-- One text can be refused by all three readers, each in another place. -/
theorem reports_explained_three :
    let text := ">a images:x"
    let query : ParseError := ⟨text, 10, ["a comparison operator", "a number from 0 to 255"],
      "expected a comparison operator or a number from 0 to 255"⟩
    let filter : ParseError := ⟨text, 2, [], "unexpected input"⟩
    let range : ParseError := ⟨text, 2, ["<END-OF-FILE>"], "expected <END-OF-FILE>"⟩
    parseQuery text = .error query ∧ parseFilter text = .error filter ∧
      parseRange text = .error range ∧ (query.Explained ∧ query.IsPlain) ∧
      (filter.Explained ∧ filter.IsPlain) ∧ range.Explained ∧ ¬ range.IsPlain := by
  intro text query filter range
  have noQuery : parseQuery text = .error query := by decide +kernel
  have noFilter : parseFilter text = .error filter := by decide +kernel
  have noRange : parseRange text = .error range := by decide +kernel
  obtain ⟨queries, filters, ranges⟩ := reports_explained text
  obtain ⟨explained, plain, -⟩ := ranges range noRange
  have comparison : parseRange (textBefore range.position.toNat text) =
      .ok (.compared .greater "a") := by decide +kernel
  refine ⟨noQuery, noFilter, noRange, queries query noQuery, filters filter noFilter, explained, ?_⟩
  exact fun right => plain.mp right ⟨.compared .greater "a", comparison, fun value => by simp⟩

/-- The report of what stands behind an interval lists no description. -/
theorem parseRange_expects_internal_name :
    parseRange "a..b.c" =
        .error ⟨"a..b.c", 4, ["<END-OF-FILE>"], "expected <END-OF-FILE>"⟩ ∧
      "<END-OF-FILE>" ∉ plainDescriptions := by
  constructor
  · decide +kernel
  · decide

end SearchBar
