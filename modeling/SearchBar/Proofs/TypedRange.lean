import SearchBar.Proofs.Seam
import SearchBar.Proofs.WellFormed

/-!
# Ranges as they are typed

Reading and typing a range are inverse to each other if they are for its bounds
and no bound is taken for a part of an operator. A range determines the places
of its bounds in the text that was typed, and what could have made it longer.
Counts and dates hold no sign of an operator.

Main statements: a range with valid bounds is read from its text
(`readRange_written`), and every range that is read has valid bounds in place
(`readRange_sound`).
-/

namespace SearchBar

open Text

variable {α : Type}

/-- What could make a range longer: a single bound may become an interval. -/
def Range.extensions : Range α → List Terminal
  | exactly _ => [.rangeSeparator]
  | compared _ _ => []
  | between _ _ => []

/-- The range with its bounds in place, given how many characters are in front. -/
def Range.placed (written : α → String) (place : Nat → α → α) (offset : Nat) : Range α → Range α
  | exactly value => exactly (place offset value)
  | compared comparison bound =>
    compared comparison (place (offset + comparison.symbol.length) bound)
  | between lower upper =>
    between (place offset lower) (place (offset + (written lower).length + 2) upper)

/-- No bound of the range is taken for a part of an operator. -/
def Range.Clear (written : α → String) : Range α → Prop
  | exactly value => StopsAt opensComparison (written value).toList
  | compared .less bound => StopsAt (· == '=') (written bound).toList
  | compared .greater bound => StopsAt (· == '=') (written bound).toList
  | compared .atMost _ => True
  | compared .atLeast _ => True
  | between lower _ => StopsAt opensComparison (written lower).toList

/-- A form that reads the valid bounds from their texts, and no others. -/
structure BoundForm.Exact (form : BoundForm α) (written : α → String) (place : Nat → α → α)
    (valid : α → Prop) : Prop where
  /-- What is read makes up the text. -/
  faithful : form.Faithful written
  /-- What is read is valid and in place. -/
  sound : ∀ {offset text bound rest}, form.read offset text = some (bound, rest) →
    valid bound ∧ place offset bound = bound
  /-- What is valid is read, up to a full stop or the end. -/
  complete : ∀ {bound rest}, valid bound → StopsAt (· != '.') rest → ∀ offset,
    form.read offset ((written bound).toList ++ rest) = some (place offset bound, rest)

/-- A comparison is read from its symbol, unless a longer symbol stands there. -/
theorem Comparison.read_symbol {written : α → String} {comparison : Comparison} {bound : α}
    (clear : (Range.compared comparison bound).Clear written) :
    Comparison.read (comparison.symbol.toList ++ (written bound).toList) =
      some (comparison, (written bound).toList) := by
  cases comparison with
  | less => exact read_cons '<' clear
  | greater => exact read_cons '>' clear
  | atMost => rfl
  | atLeast => rfl

/-- A range whose bounds are valid is read from its text. -/
theorem readRange_written {form : BoundForm α} {written : α → String} {place : Nat → α → α}
    {valid : α → Prop} (exact : form.Exact written place valid) {range : Range α}
    (bounds : ∀ bound ∈ range.bounds, valid bound) (clear : range.Clear written) (offset : Nat) :
    readRange form offset (range.written written).toList =
      .ok ⟨range.placed written place offset, range.extensions, []⟩ := by
  have alone : ∀ bound ∈ range.bounds, ∀ offset,
      form.read offset (written bound).toList = some (place offset bound, []) := by
    intro bound member offset
    have found := exact.complete (bounds bound member) (StopsAt.nil _) offset
    rwa [List.append_nil] at found
  cases range with
  | exactly value =>
    have plain := Comparison.read_eq_none clear
    have found := alone value List.mem_cons_self offset
    exact readRange_single plain found (by simp)
  | compared comparison bound =>
    have symbol := Comparison.read_symbol clear
    have found := alone bound List.mem_cons_self (offset + comparison.symbol.length)
    simp only [Range.written, String.toList_append, readRange, symbol, found]
    rfl
  | between lower upper =>
    have text : ((Range.between lower upper).written written).toList =
        (written lower).toList ++ '.' :: '.' :: (written upper).toList := by
      simp [Range.written]
    -- a lower bound may be empty here, and then the text begins with a full stop
    have plain : Comparison.read ((written lower).toList ++ '.' :: '.' :: (written upper).toList) =
        none := by
      apply Comparison.read_eq_none
      cases front : (written lower).toList with
      | nil => exact stopsAt_cons.mpr (by decide)
      | cons c rest =>
        have first : StopsAt opensComparison (written lower).toList := clear
        rw [front] at first
        exact stopsAt_cons.mpr (stopsAt_cons.mp first)
    have lowerFound := exact.complete (bounds lower List.mem_cons_self)
      (show StopsAt (· != '.') ('.' :: '.' :: (written upper).toList) from
        stopsAt_cons.mpr (by decide))
      offset
    have place : offset + (((written lower).toList ++ '.' :: '.' :: (written upper).toList).length -
        (written upper).toList.length) = offset + (written lower).length + 2 := by
      simp only [List.length_append, List.length_cons, String.length_toList]
      omega
    have upperFound := alone upper (List.mem_cons_of_mem _ List.mem_cons_self)
      (offset + (written lower).length + 2)
    rw [text]
    simp only [readRange, plain, lowerFound, place, upperFound]
    rfl

/-- A range that is read has valid bounds in place. -/
theorem readRange_sound {form : BoundForm α} {written : α → String} {place : Nat → α → α}
    {valid : α → Prop} (exact : form.Exact written place valid) {offset : Nat} {text : List Char}
    {reading : Reading (Range α)} (read : readRange form offset text = .ok reading) :
    (∀ bound ∈ reading.value.bounds, valid bound) ∧
      reading.value.placed written place offset = reading.value ∧
      reading.extensions = reading.value.extensions := by
  simp only [readRange, unexpected] at read
  split at read
  · split at read
    · rename_i bound tail found
      cases read
      obtain ⟨fine, placed⟩ := exact.sound found
      refine ⟨?_, ?_, rfl⟩
      · simpa [Range.bounds] using fine
      · simp [Range.placed, placed]
    · cases read
  · split at read
    · rename_i lower rest found
      split at read
      · rename_i upper tail found'
        cases read
        obtain ⟨lowerFine, lowerPlaced⟩ := exact.sound found
        obtain ⟨upperFine, upperPlaced⟩ := exact.sound found'
        have size : offset + (text.length - rest.length) = offset + (written lower).length + 2 := by
          rw [exact.faithful _ _ _ _ found]
          simp only [List.length_append, List.length_cons, String.length_toList]
          omega
        rw [size] at upperPlaced
        refine ⟨?_, ?_, rfl⟩
        · simp [Range.bounds, lowerFine, upperFine]
        · simp [Range.placed, lowerPlaced, upperPlaced]
      · cases read
    · rename_i value rest _ found
      cases read
      obtain ⟨fine, placed⟩ := exact.sound found
      refine ⟨?_, ?_, rfl⟩
      · simpa [Range.bounds] using fine
      · simp [Range.placed, placed]
    · cases read

/-- The same digits behind so many characters. -/
def Numeral.placed (offset : Nat) (numeral : Numeral) : Numeral := ⟨offset, numeral.digits⟩

/-- A run that is read holds a character of its class and no others. -/
theorem readRun_sound {member : Char → Bool} {text run rest : List Char}
    (read : readRun member member text = some (run, rest)) :
    run ≠ [] ∧ ∀ c ∈ run, member c = true := by
  cases text with
  | nil => cases read
  | cons c text =>
    simp only [readRun] at read
    split at read
    · rename_i first
      cases read
      refine ⟨List.cons_ne_nil _ _, ?_⟩
      intro d inside
      rcases List.mem_cons.mp inside with rfl | inside
      · exact first
      · exact List.mem_takeWhile_imp inside
    · cases read

/-- A run up to a boundary is read as a whole. -/
theorem readRun_complete {member : Char → Bool} {run rest : List Char} (nonempty : run ≠ [])
    (inside : ∀ c ∈ run, member c = true) (stops : StopsAt member rest) :
    readRun member member (run ++ rest) = some (run, rest) := by
  cases run with
  | nil => exact absurd rfl nonempty
  | cons c run =>
    have first := inside c List.mem_cons_self
    have others : ∀ d ∈ run, member d = true :=
      fun d listed => inside d (List.mem_cons_of_mem c listed)
    rw [List.cons_append, readRun, if_pos first, takeWhile_run others stops,
      dropWhile_run others stops]

/-- What ends at a full stop at the latest ends there if its class has none. -/
theorem stopsAt_of_fullStop {member : Char → Bool} (apart : member '.' = false) {rest : List Char}
    (stops : StopsAt (· != '.') rest) : StopsAt member rest := by
  apply stops.mono
  intro c yes
  rw [bne_iff_ne]
  intro same
  rw [same, apart] at yes
  cases yes

/-- Counts are read from runs of digits. -/
theorem countForm_exact :
    countForm.Exact Numeral.digits Numeral.placed Numeral.WellFormed where
  faithful := countForm_faithful
  sound := by
    intro offset text bound rest read
    simp only [countForm, Option.map_eq_some_iff] at read
    obtain ⟨⟨run, tail⟩, found, same⟩ := read
    cases same
    obtain ⟨nonempty, inside⟩ := readRun_sound found
    refine ⟨⟨?_, ?_⟩, rfl⟩
    · rwa [ne_eq, String.ofList_eq_empty_iff]
    · rwa [String.toList_ofList]
  complete := by
    intro bound rest valid stops offset
    have stopsDigits : StopsAt isDecimalDigit rest := stopsAt_of_fullStop (by decide) stops
    have nonempty : bound.digits.toList ≠ [] := by
      rw [ne_eq, String.toList_eq_nil_iff]
      exact valid.1
    simp only [countForm, readRun_complete nonempty valid.2 stopsDigits, Option.map_some,
      String.ofList_toList]
    rfl

/-- Dates are read from date texts. -/
theorem dateForm_exact : dateForm.Exact DateText.text (fun _ date => date) (fun _ => True) where
  faithful := dateForm_faithful
  sound := fun _ => ⟨trivial, rfl⟩
  complete := by
    intro date rest _ stops offset
    have stopsDate : StopsAt isDateCharacter rest := stopsAt_of_fullStop (by decide) stops
    have taken := takeWhile_run date.characters stopsDate
    have dropped := dropWhile_run date.characters stopsDate
    simp only [dateForm, DateText.read, taken, dropped]
    rw [dif_pos date.lexical]
    congr
    exact String.ofList_toList

/-- A range is clear if its bounds are made of characters that no operator has. -/
theorem Range.clear_of_class {written : α → String} {member : Char → Bool}
    (apart : member '<' = false ∧ member '>' = false ∧ member '=' = false) {range : Range α}
    (inside : ∀ bound ∈ range.bounds, ∀ c ∈ (written bound).toList, member c = true) :
    range.Clear written := by
  have different : ∀ {c d : Char}, member c = true → member d = false → (c == d) = false := by
    intro c d yes no
    rw [beq_eq_false_iff_ne]
    intro same
    rw [same, no] at yes
    cases yes
  have front : ∀ bound ∈ range.bounds,
      StopsAt opensComparison (written bound).toList ∧
        StopsAt (· == '=') (written bound).toList := by
    intro bound listed
    have yes : ∀ c ∈ (written bound).toList.head?, member c = true :=
      fun c found => inside bound listed c (List.mem_of_head? found)
    constructor
    · intro c found
      rw [opensComparison, different (yes c found) apart.1, different (yes c found) apart.2.1]
      rfl
    · intro c found
      exact different (yes c found) apart.2.2
  cases range with
  | exactly value => exact (front value List.mem_cons_self).1
  | compared comparison bound =>
    have first := (front bound List.mem_cons_self).2
    cases comparison with
    | less => exact first
    | greater => exact first
    | atMost => trivial
    | atLeast => trivial
  | between lower upper => exact (front lower List.mem_cons_self).1

/-- No digit is a sign of a comparison. -/
theorem Range.clear_of_digits {range : Range Numeral}
    (digits : ∀ bound ∈ range.bounds, bound.WellFormed) : range.Clear Numeral.digits :=
  clear_of_class (by decide) fun bound listed => (digits bound listed).2

/-- No date character is a sign of a comparison. -/
theorem Range.clear_of_dates (range : Range DateText) : range.Clear DateText.text :=
  clear_of_class (by decide) fun bound _ => bound.characters

/-- Dates have no places. -/
theorem Range.placed_dates (range : Range DateText) (offset : Nat) :
    range.placed DateText.text (fun _ date => date) offset = range := by
  cases range with
  | exactly value => rfl
  | compared comparison bound => rfl
  | between lower upper => rfl

end SearchBar
