import SearchBar.Proofs.Sequence

/-!
# What failures expect

A failure to read says what was expected in its place, and never nothing. A
failure to count expects nothing, for the text could be read. So the two kinds
of failure differ in what is reported of them.

Main statements: failures to read expect something (`readFilters_expects`) and
failures to count nothing (`mapM_count_expects_nothing`).
-/

namespace SearchBar

open Text

variable {α β : Type}

/-- Whatever failure the outcome is, it expects something. -/
def Expects (outcome : Except Failure α) : Prop :=
  ∀ failure, outcome = .error failure → failure.cause.expected ≠ []

/-- A list into which a text was put holds something. -/
theorem insertAscending_ne_nil (text : String) (texts : List String) :
    insertAscending text texts ≠ [] := by
  cases texts with
  | nil => exact List.cons_ne_nil _ _
  | cons first rest =>
    unfold insertAscending
    split
    · exact List.cons_ne_nil _ _
    · split
      · exact List.cons_ne_nil _ _
      · exact List.cons_ne_nil _ _

/-- Terminals have descriptions. -/
theorem descriptions_ne_nil {terminals : List Terminal} (present : terminals ≠ []) :
    descriptions terminals ≠ [] := by
  cases terminals with
  | nil => exact absurd rfl present
  | cons terminal rest => exact insertAscending_ne_nil _ _

namespace Expects

/-- A success is no failure. -/
theorem ok (value : α) : Expects (.ok value) := by
  intro failure failed
  cases failed

/-- An unmet expectation expects something. -/
theorem unexpected (offset : Nat) {terminals : List Terminal} (present : terminals ≠ []) :
    Expects (unexpected offset terminals : Except Failure α) := by
  intro failure failed
  cases failed
  exact descriptions_ne_nil present

/-- Mapping a success leaves failures alone. -/
theorem map {outcome : Except Failure α} (expects : Expects outcome) (f : α → β) :
    Expects (outcome.map f) := by
  cases outcome with
  | error failure =>
    intro other failed
    cases failed
    exact expects failure rfl
  | ok value => exact ok (f value)

end Expects

/-- A range that cannot be read expects something. -/
theorem readRange_expects (form : BoundForm α) (offset : Nat) (text : List Char) :
    Expects (readRange form offset text) := by
  unfold readRange
  split
  · simp only
    split
    · exact .ok _
    · exact .unexpected _ (List.cons_ne_nil _ _)
  · split
    · simp only
      split
      · exact .ok _
      · exact .unexpected _ (List.cons_ne_nil _ _)
    · exact .ok _
    · exact .unexpected _ (List.cons_ne_nil _ _)

/-- The value of a draft qualifier that cannot be read expects something. -/
theorem readDraft_expects (offset : Nat) (text : List Char) : Expects (readDraft offset text) := by
  unfold readDraft
  split
  · exact .ok _
  · exact .unexpected _ (List.cons_ne_nil _ _)

/-- An author that cannot be read expects something. -/
theorem readCreator_expects (offset : Nat) (text : List Char) :
    Expects (readCreator offset text) := by
  unfold readCreator
  split
  · split
    · exact .ok _
    · exact .unexpected _ (List.cons_ne_nil _ _)
  · simp only
    split
    · exact .ok _
    · exact .unexpected _ (List.cons_ne_nil _ _)

/-- The truth value of a property that cannot be read expects something. -/
theorem readPropertyValue_expects (propertyKind id : String) (offset : Nat) (text : List Char) :
    Expects (readPropertyValue propertyKind id offset text) := by
  unfold readPropertyValue
  split
  · exact .ok _
  · exact .unexpected _ (List.cons_ne_nil _ _)

/-- A property that cannot be read expects something. -/
theorem readProperties_expects (offset : Nat) (text : List Char) :
    Expects (readProperties offset text) := by
  unfold readProperties
  simp only
  split
  · exact (readRange_expects _ _ _).map _
  · split
    · exact readPropertyValue_expects _ _ _ _
    · exact .unexpected _ (List.append_ne_nil_of_right_ne_nil _ (List.cons_ne_nil _ _))
  · exact .unexpected _ (List.append_ne_nil_of_right_ne_nil _ (List.cons_ne_nil _ _))

/-- A qualifier that cannot be read expects something. -/
theorem readQualifier_expects (keyword : Keyword) (offset : Nat) (text : List Char) :
    Expects (readQualifier keyword offset text) := by
  cases keyword with
  | draft => exact readDraft_expects offset text
  | kind => exact .ok _
  | category => exact .ok _
  | creator => exact readCreator_expects offset text
  | created => exact (readRange_expects dateForm offset text).map _
  | images => exact (readRange_expects countForm offset text).map _
  | properties => exact readProperties_expects offset text

/-- A phrase that cannot be read expects to be closed. -/
theorem readPhrase_expects (text : List Char) : Expects (readPhrase text) := by
  unfold readPhrase
  split
  · intro failure failed
    cases failed
    exact List.cons_ne_nil _ _
  · exact .ok _

/-- A filter that cannot be read expects something. -/
theorem readFilter_expects (text : List Char) : Expects (readFilter text) := by
  unfold readFilter
  split
  · exact readQualifier_expects _ _ _
  · split
    · exact .unexpected _ (List.cons_ne_nil _ _)
    · split
      · exact readPhrase_expects _
      · split
        · exact .unexpected _ (List.cons_ne_nil _ _)
        · exact .ok _

/-- Filters that cannot be read expect something. -/
theorem readFilters_expects (offset : Nat) (text : List Char) :
    Expects (readFilters offset text) := by
  induction offset, text using readFilters_induction with
  | blank offset text blank =>
    rw [readFilters_of_blank blank]
    exact .ok _
  | error offset text failure present read =>
    rw [readFilters_of_error present read]
    intro moved failed
    cases failed
    exact readFilter_expects _ failure read
  | solid offset text reading read solid =>
    rw [readFilters_of_solid read solid]
    exact .unexpected _ (List.append_ne_nil_of_right_ne_nil _ (List.cons_ne_nil _ _))
  | seam offset text reading read seam later =>
    rw [readFilters_of_seam read seam]
    exact later.map _

/-- A numeral that is no count expects nothing. -/
theorem Numeral.count_expects_nothing {numeral : Numeral} {failure : Failure}
    (failed : numeral.count = .error failure) : failure.cause.expected = [] := by
  unfold Numeral.count at failed
  split at failed
  · cases failed
    rfl
  · split at failed
    · cases failed
      rfl
    · cases failed

/-- Filters whose numerals are no counts expect nothing. -/
theorem mapM_count_expects_nothing {filters : List (Filter Numeral)} {failure : Failure}
    (failed : filters.mapM Filter.count = .error failure) : failure.cause.expected = [] := by
  obtain ⟨filter, -, failed⟩ := mapM_error failed
  obtain ⟨numeral, -, failed⟩ := Filter.mapM_error failed
  exact Numeral.count_expects_nothing failed

end SearchBar
