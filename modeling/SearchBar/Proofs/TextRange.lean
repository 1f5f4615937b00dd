import SearchBar.Proofs.Grammar

/-!
# Text ranges read and written

A range over texts is read from the whole of a text. Bounds are any texts, so
most ranges have a written form that means another range or none: a bound may
hold a blank or a full stop, or begin with a sign, and an equals sign behind a
short operator makes it a longer one. What is left are the ranges that can be
typed, and on these reading and writing are inverse to each other.

Main statement: `parseRange_inverse`.
-/

namespace SearchBar

open Text

/-- A text that can be typed as a bound of a text range. -/
structure IsTextBound (text : String) : Prop where
  /-- There is something to type. -/
  nonempty : text ≠ ""
  /-- No blank and no full stop ends it. -/
  inside : ∀ c ∈ text.toList, isBlank c = false ∧ c ≠ '.'
  /-- It does not begin like an operator. -/
  opening : ∀ c ∈ text.toList.head?, c ≠ '<' ∧ c ≠ '>'

/-- A range over texts that can be typed. -/
structure Range.WellFormed (range : Range String) : Prop where
  /-- Its bounds can be typed. -/
  bounds : ∀ bound ∈ range.bounds, IsTextBound bound
  /-- The bound does not make a longer operator of a short one. -/
  apart : ∀ comparison bound, range = .compared comparison bound →
    comparison = .less ∨ comparison = .greater → bound.toList.head? ≠ some '='

/-- The characters of a bound behind the first are those that are no blank and no full stop. -/
theorem continuesTextBound_iff {c : Char} :
    continuesTextBound c = true ↔ isBlank c = false ∧ c ≠ '.' := by
  simp [continuesTextBound, isSolid]

/-- The first character of a bound is no sign, either. -/
theorem opensTextBound_iff {c : Char} :
    opensTextBound c = true ↔ (isBlank c = false ∧ c ≠ '.') ∧ c ≠ '<' ∧ c ≠ '>' := by
  simp [opensTextBound, isSolid, and_assoc]

/-- Bounds are read from the texts that can be typed as such. -/
theorem textForm_exact : textForm.Exact id (fun _ bound => bound) IsTextBound where
  faithful := textForm_faithful
  sound := by
    intro offset text bound rest read
    simp only [textForm, Option.map_eq_some_iff] at read
    obtain ⟨⟨run, tail⟩, found, same⟩ := read
    cases same
    cases text with
    | nil => cases found
    | cons c text =>
      simp only [readRun] at found
      split at found
      · rename_i opens
        cases found
        obtain ⟨first, sign⟩ := opensTextBound_iff.mp opens
        refine ⟨⟨?_, ?_, ?_⟩, rfl⟩
        · rw [ne_eq, String.ofList_eq_empty_iff]
          exact List.cons_ne_nil _ _
        · intro d member
          rw [String.toList_ofList] at member
          rcases List.mem_cons.mp member with rfl | member
          · exact first
          · exact continuesTextBound_iff.mp (List.mem_takeWhile_imp member)
        · rw [String.toList_ofList]
          rintro d ⟨⟩
          exact sign
      · cases found
  complete := by
    intro bound rest valid stops offset
    have ends : StopsAt continuesTextBound rest := stopsAt_of_fullStop (by decide) stops
    cases front : bound.toList with
    | nil => exact absurd (String.toList_eq_nil_iff.mp front) valid.nonempty
    | cons c others =>
      have inside := valid.inside
      have opening := valid.opening
      rw [front] at inside opening
      have opens : opensTextBound c = true :=
        opensTextBound_iff.mpr ⟨inside c List.mem_cons_self, opening c rfl⟩
      have continues : ∀ d ∈ others, continuesTextBound d = true :=
        fun d member => continuesTextBound_iff.mpr (inside d (List.mem_cons_of_mem c member))
      simp only [textForm, id_eq, front, List.cons_append, readRun, if_pos opens,
        takeWhile_run continues ends, dropWhile_run continues ends, Option.map_some]
      rw [← front, String.ofList_toList]

/-- Texts have no places. -/
theorem Range.placed_texts (range : Range String) (offset : Nat) :
    range.placed id (fun _ bound => bound) offset = range := by
  cases range with
  | exactly value => rfl
  | compared comparison bound => rfl
  | between lower upper => rfl

/-- No bound of a range that can be typed is taken for a part of an operator. -/
theorem Range.WellFormed.clear {range : Range String} (wellFormed : range.WellFormed) :
    range.Clear id := by
  have plain : ∀ bound ∈ range.bounds, StopsAt opensComparison bound.toList := by
    intro bound listed c found
    obtain ⟨less, greater⟩ := (wellFormed.bounds bound listed).opening c found
    simp [opensComparison, less, greater]
  have short : ∀ {comparison bound}, range = .compared comparison bound →
      comparison = .less ∨ comparison = .greater → StopsAt (· == '=') bound.toList := by
    intro comparison bound same kind c found
    rw [beq_eq_false_iff_ne]
    rintro rfl
    exact wellFormed.apart comparison bound same kind found
  -- behind a long operator the bound may begin as it likes; the lower bound of an interval decides
  cases range with
  | exactly value => exact plain value List.mem_cons_self
  | compared comparison bound =>
    cases comparison with
    | less => exact short rfl (Or.inl rfl)
    | greater => exact short rfl (Or.inr rfl)
    | atMost => trivial
    | atLeast => trivial
  | between lower upper => exact plain lower List.mem_cons_self

/-- A range that can be typed is read from its written form. -/
theorem readRange_of_wellFormed {range : Range String} (wellFormed : range.WellFormed) :
    readRange textForm 0 (range.written id).toList = .ok ⟨range, range.extensions, []⟩ := by
  have read := readRange_written textForm_exact wellFormed.bounds wellFormed.clear 0
  rwa [Range.placed_texts] at read

/-- A comparison with a bound is read where its operator is. -/
theorem readRange_operator {text : List Char} {comparison : Comparison} {bound : String}
    {extensions : List Terminal} {rest : List Char}
    (read : readRange textForm 0 text = .ok ⟨.compared comparison bound, extensions, rest⟩) :
    ∃ behind, Comparison.read text = some (comparison, behind) := by
  simp only [readRange, unexpected] at read
  split at read
  · rename_i operator behind symbol
    split at read
    · cases read
      exact ⟨behind, symbol⟩
    · cases read
  · split at read
    · split at read <;> cases read
    · cases read
    · cases read

/-- Behind a short operator an equals sign is read as a part of a longer one. -/
theorem Comparison.read_short {comparison : Comparison}
    (short : comparison = .less ∨ comparison = .greater) (rest behind : List Char) :
    Comparison.read (comparison.symbol.toList ++ '=' :: rest) ≠ some (comparison, behind) := by
  rcases short with rfl | rfl
  · have longer : Comparison.read (Comparison.less.symbol.toList ++ '=' :: rest) =
        some (.atMost, rest) := rfl
    rw [longer]
    simp
  · have longer : Comparison.read (Comparison.greater.symbol.toList ++ '=' :: rest) =
        some (.atLeast, rest) := rfl
    rw [longer]
    simp

/-- A range that is read can be typed. -/
theorem Range.wellFormed_of_read {text : List Char} {range : Range String}
    {extensions : List Terminal} {rest : List Char}
    (read : readRange textForm 0 text = .ok ⟨range, extensions, rest⟩) : range.WellFormed := by
  have whole := readRange_eq textForm_faithful read
  refine ⟨(readRange_sound textForm_exact read).1, ?_⟩
  rintro comparison bound rfl short equals
  obtain ⟨behind, operator⟩ := readRange_operator read
  obtain ⟨others, shape⟩ := List.head?_eq_some_iff.mp equals
  rw [whole, Range.written, id_eq, String.toList_append, shape, List.append_assoc] at operator
  exact Comparison.read_short short (others ++ rest) behind operator

/-- A text is a range exactly if the range is read from it and nothing is left. -/
theorem readTextRange_eq_ok_iff {text : List Char} {range : Range String} :
    readTextRange text = .ok range ↔
      ∃ extensions, readRange textForm 0 text = .ok ⟨range, extensions, []⟩ := by
  cases front : readRange textForm 0 text with
  | error failure => simp [readTextRange, front, bind, Except.bind]
  | ok reading =>
    obtain ⟨value, extensions, rest⟩ := reading
    cases rest with
    | nil => simp [readTextRange, front, bind, Except.bind, pure, Except.pure]
    | cons c rest =>
      cases extensions with
      | nil => simp [readTextRange, front, bind, Except.bind, unexpected]
      | cons terminal others => simp [readTextRange, front, bind, Except.bind, unexpected]

/-- The ranges over texts that can be typed are exactly those that are read back from their written
form; for every other range the written form means nothing, or another range. A text that means a
range is the written form of that range. -/
theorem parseRange_inverse :
    (∀ range : Range String, parseRange (range.written id) = .ok range ↔ range.WellFormed) ∧
      ∀ text range, parseRange text = .ok range → range.written id = text := by
  constructor
  · intro range
    rw [parseRange, reported_eq_ok_iff, readTextRange_eq_ok_iff]
    constructor
    · rintro ⟨extensions, read⟩
      exact Range.wellFormed_of_read read
    · exact fun wellFormed => ⟨range.extensions, readRange_of_wellFormed wellFormed⟩
  · intro text range meant
    rw [parseRange, reported_eq_ok_iff, readTextRange_eq_ok_iff] at meant
    obtain ⟨extensions, read⟩ := meant
    have whole := readRange_eq textForm_faithful read
    rw [List.append_nil] at whole
    exact String.toList_inj.mp whole.symm

/-- The operator goes on into the bound, or does not. -/
example :
    parseRange ((Range.compared .less "=x").written id) = .ok (.compared .atMost "x") ∧
      parseRange ((Range.compared .atMost "=x").written id) = .ok (.compared .atMost "=x") := by
  decide +kernel

end SearchBar
