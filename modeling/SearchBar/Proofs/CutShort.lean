import SearchBar.Proofs.Continuation

/-!
# Texts cut off where they fail

What was expected does not depend on what stands there instead. A text that cannot
be read because a part was missing, cut off in the place of the failure, fails
there once more and expects the same parts. So the text in front of such a place
is never a filter, however much of one it holds, and never a range.

Only an open phrase fails elsewhere: at its opening mark, for what is missing at
the end.

Main statements: `readFilter_cutShort` for filters and `readRange_cutShort` for
ranges.
-/

namespace SearchBar

open Text

variable {α β : Type} {offset : Nat} {text : List Char} {failure : Failure}

/-- Cut off in the place of the failure, the text fails there once more. The reader counts places
from so many characters in front. -/
def FailsCutShort (read : List Char → Except Failure α) (offset : Nat) (text : List Char)
    (failure : Failure) : Prop :=
  ∃ front behind, text = front ++ behind ∧ failure.position = offset + front.length ∧
    read front = .error failure

/-- A failure at the front of a text does not depend on the text, if it is that of the empty one. -/
theorem FailsCutShort.of_nil {read : List Char → Except Failure α} {cause : Cause}
    (failed : read [] = .error ⟨offset, cause⟩) (text : List Char) :
    FailsCutShort read offset text ⟨offset, cause⟩ :=
  ⟨[], text, rfl, rfl, failed⟩

/-- Behind a lead a text fails as it does alone, if its reader does. -/
theorem FailsCutShort.append {inner : List Char → Except Failure α}
    {outer : List Char → Except Failure β} {further : Nat}
    (cut : FailsCutShort inner further text failure) {lead : List Char}
    (size : further = offset + lead.length)
    (same : ∀ front, inner front = .error failure → outer (lead ++ front) = .error failure) :
    FailsCutShort outer offset (lead ++ text) failure := by
  obtain ⟨front, behind, rfl, place, failed⟩ := cut
  refine ⟨lead ++ front, behind, (List.append_assoc lead front behind).symm, ?_, same front failed⟩
  rw [place, size, List.length_append, Nat.add_assoc]

/-- A text at whose front no comparison is read begins with no sign of one. -/
theorem Comparison.stopsAt_of_read (absent : Comparison.read text = none) :
    StopsAt opensComparison text := by
  cases text with
  | nil => exact StopsAt.nil _
  | cons c rest =>
    rw [stopsAt_cons, opensComparison, Bool.or_eq_false_iff, beq_eq_false_iff_ne,
      beq_eq_false_iff_ne]
    unfold Comparison.read at absent
    constructor
    · rintro rfl
      split at absent <;> simp_all
    · rintro rfl
      split at absent <;> simp_all

/-- A comparison is read from its symbol alone. -/
theorem Comparison.read_symbol_alone (comparison : Comparison) :
    Comparison.read comparison.symbol.toList = some (comparison, []) := by
  cases comparison <;> rfl

/-- A range that cannot be read fails in the same place if nothing stands there. -/
theorem readRange_cutShort {form : BoundForm α} {written : α → String} {place : Nat → α → α}
    {valid : α → Prop} (exact : form.Exact written place valid)
    (nothing : ∀ offset, form.read offset [] = none)
    (failed : readRange form offset text = .error failure) :
    FailsCutShort (readRange form offset) offset text failure := by
  simp only [readRange, unexpected] at failed
  split at failed
  · rename_i comparison rest symbol
    split at failed
    · cases failed
    · cases failed
      refine ⟨comparison.symbol.toList, rest, Comparison.read_eq symbol, ?_, ?_⟩
      · rw [String.length_toList]
      · simp only [readRange, comparison.read_symbol_alone, nothing]
        rfl
  · rename_i plain
    split at failed
    · rename_i lower rest found
      split at failed
      · cases failed
      · cases failed
        have whole := exact.faithful _ _ _ _ found
        obtain ⟨fine, placed⟩ := exact.sound found
        have front : text = ((written lower).toList ++ ['.', '.']) ++ rest := by
          rw [whole, List.append_assoc]
          rfl
        have unsigned : Comparison.read ((written lower).toList ++ ['.', '.']) = none := by
          apply Comparison.read_eq_none
          have stops := Comparison.stopsAt_of_read plain
          rw [front] at stops
          exact (stopsAt_append (List.append_ne_nil_of_right_ne_nil _ (List.cons_ne_nil _ _))
            rest).mp stops
        -- the lower bound is read again, for the full stop behind it is still there
        have again := exact.complete fine (stopsAt_cons.mpr (by decide) :
          StopsAt (· != '.') ['.', '.']) offset
        rw [placed] at again
        have size : text.length - rest.length = ((written lower).toList ++ ['.', '.']).length := by
          rw [front, List.length_append]
          omega
        refine ⟨_, rest, front, ?_, ?_⟩
        · simp only [size]
        · simp only [readRange, unsigned, again, nothing, unexpected, size, List.length_nil,
            Nat.sub_zero]
    · cases failed
    · cases failed
      apply FailsCutShort.of_nil
      simp only [readRange, nothing, Comparison.read, unexpected]

/-- There is no count in an empty text. -/
theorem countForm_nothing (offset : Nat) : countForm.read offset [] = none := rfl

/-- There is no date in an empty text. -/
theorem dateForm_nothing (offset : Nat) : dateForm.read offset [] = none := rfl

/-- There is no bound of a text range in an empty text. -/
theorem textForm_nothing (offset : Nat) : textForm.read offset [] = none := rfl

/-- The value of a draft qualifier that cannot be read is missing from the start. -/
theorem readDraft_cutShort (failed : readDraft offset text = .error failure) :
    FailsCutShort (readDraft offset) offset text failure := by
  simp only [readDraft, unexpected] at failed
  split at failed
  · cases failed
  · cases failed
    exact .of_nil rfl text

/-- An author that cannot be read is missing from the start. -/
theorem readCreator_cutShort (failed : readCreator offset text = .error failure) :
    FailsCutShort (readCreator offset) offset text failure := by
  have missing : FailsCutShort (readCreator offset) offset text
      ⟨offset, .unexpected [.username, .userId]⟩ := .of_nil rfl text
  simp only [readCreator, unexpected] at failed
  split at failed
  · split at failed
    · cases failed
    · cases failed
      exact missing
  · split at failed
    · cases failed
    · cases failed
      exact missing

/-- The truth value of a property that cannot be read is missing from the start. -/
theorem readPropertyValue_cutShort {propertyKind id : String}
    (failed : readPropertyValue propertyKind id offset text = .error failure) :
    FailsCutShort (readPropertyValue propertyKind id offset) offset text failure := by
  simp only [readPropertyValue, unexpected] at failed
  split at failed
  · cases failed
  · cases failed
    exact .of_nil rfl text

/-- An identifier is read from itself. -/
theorem readIdentifier_alone {name : String} (valid : IsIdentifier name) :
    readIdentifier name.toList = ⟨name, if name = "" then [.identifier] else [], []⟩ := by
  have read := readIdentifier_complete valid (StopsAt.nil isIdentifierCharacter)
  rwa [List.append_nil] at read

/-- A properties qualifier that cannot be read fails in the same place if nothing stands there. -/
theorem readProperties_cutShort (failed : readProperties offset text = .error failure) :
    FailsCutShort (readProperties offset) offset text failure := by
  have whole := readIdentifier_eq text
  obtain ⟨named, nameless⟩ := readIdentifier_sound text
  simp only [readProperties, unexpected] at failed
  generalize readIdentifier text = kind at whole named nameless failed
  split at failed
  · rename_i rest colon
    have cut := readRange_cutShort countForm_exact countForm_nothing (Reading.map_error failed)
    have lead : text = (kind.value.toList ++ [':']) ++ rest := by
      rw [whole, colon, List.append_assoc]
      rfl
    rw [lead]
    apply cut.append
    · rw [List.length_append, String.length_toList, List.length_singleton, Nat.add_assoc]
    · intro front again
      have stops : StopsAt isIdentifierCharacter (':' :: front) := stopsAt_cons.mpr (by decide)
      rw [List.append_assoc, List.singleton_append]
      simp only [readProperties, readIdentifier_complete named stops, again]
      rfl
  · rename_i rest slash
    have following := readIdentifier_eq rest
    obtain ⟨identified, idless⟩ := readIdentifier_sound rest
    generalize readIdentifier rest = id at following identified idless failed
    have stopsSlash : ∀ front, StopsAt isIdentifierCharacter ('/' :: front) :=
      fun front => stopsAt_cons.mpr (by decide)
    split at failed
    · rename_i value colon
      have cut := readPropertyValue_cutShort failed
      have lead : text = (kind.value.toList ++ '/' :: (id.value.toList ++ [':'])) ++ value := by
        rw [whole, slash, following, colon]
        simp
      rw [lead]
      apply cut.append
      · simp only [List.length_append, List.length_cons, List.length_nil, String.length_toList]
        omega
      · intro front again
        have stopsColon : StopsAt isIdentifierCharacter (':' :: front) :=
          stopsAt_cons.mpr (by decide)
        rw [List.append_assoc, List.cons_append, List.append_assoc, List.singleton_append]
        simp only [readProperties, readIdentifier_complete named (stopsSlash _),
          readIdentifier_complete identified stopsColon, again]
    · cases failed
      refine ⟨kind.value.toList ++ '/' :: id.value.toList, id.rest, ?_, ?_, ?_⟩
      · rw [whole, slash, following]
        simp
      · simp only [List.length_append, List.length_cons, String.length_toList]
        omega
      · simp only [readProperties, readIdentifier_complete named (stopsSlash _),
          readIdentifier_alone identified, idless, unexpected]
  · cases failed
    refine ⟨kind.value.toList, kind.rest, whole, ?_, ?_⟩
    · rw [String.length_toList]
    · simp only [readProperties, readIdentifier_alone named, nameless, unexpected]

/-- A qualifier that cannot be read fails in the same place if nothing stands there. -/
theorem readQualifier_cutShort {keyword : Keyword}
    (failed : readQualifier keyword offset text = .error failure) :
    FailsCutShort (readQualifier keyword offset) offset text failure := by
  cases keyword with
  | draft => exact readDraft_cutShort failed
  | kind => cases failed
  | category => cases failed
  | creator => exact readCreator_cutShort failed
  | created =>
    obtain ⟨front, behind, whole, place, again⟩ :=
      readRange_cutShort dateForm_exact dateForm_nothing (Reading.map_error failed)
    exact ⟨front, behind, whole, place, by rw [readQualifier, again]; rfl⟩
  | images =>
    obtain ⟨front, behind, whole, place, again⟩ :=
      readRange_cutShort countForm_exact countForm_nothing (Reading.map_error failed)
    exact ⟨front, behind, whole, place, by rw [readQualifier, again]; rfl⟩
  | properties => exact readProperties_cutShort failed

/-- A filter that cannot be read because a part was missing fails in the same place if nothing
stands there. -/
theorem readFilter_cutShort (failed : readFilter text = .error failure)
    (closed : failure.cause ≠ .unterminatedQuote) : FailsCutShort readFilter 0 text failure := by
  cases front : Keyword.at? text with
  | some keyword =>
    rw [readFilter_keyword front] at failed
    have cut := readQualifier_cutShort failed
    rw [Keyword.at?_eq front]
    apply cut.append (Nat.zero_add _).symm
    intro front again
    rw [readFilter_keyword (keyword.at?_characters front), List.drop_left]
    exact again
  | none =>
    by_cases seam : StopsAt isSolid text
    · rw [readFilter_seam seam] at failed
      cases failed
      exact .of_nil rfl text
    · cases text with
      | nil => exact absurd (StopsAt.nil isSolid) seam
      | cons c rest =>
        by_cases mark : c = quotationMark
        · subst mark
          rw [readFilter_mark] at failed
          obtain ⟨rfl, -⟩ := readPhrase_error failed
          exact absurd rfl closed
        · rw [stopsAt_cons, Bool.not_eq_false] at seam
          rw [readFilter_word front mark seam] at failed
          cases failed

end SearchBar
