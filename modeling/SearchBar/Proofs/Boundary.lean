import Mathlib.Data.List.TakeWhile
import SearchBar.Query.Reading

/-!
# Boundaries of runs

Every reader takes the longest run of some class of characters, so what it takes
from a text depends on what follows only if the text behind begins with a
character of that class. The classes of the query language hold no blank
character. Hence a blank ends every run, and a text with a blank behind it is
read as it would be read alone.
-/

namespace SearchBar.Text

/-- No character of the class stands at the front of the text. -/
def StopsAt (member : Char → Bool) (text : List Char) : Prop :=
  ∀ c ∈ text.head?, member c = false

/-- Nothing stands at the front of the empty text. -/
theorem StopsAt.nil (member : Char → Bool) : StopsAt member [] := by
  intro c found
  cases found

/-- The first character decides. -/
theorem stopsAt_cons {member : Char → Bool} {c : Char} {rest : List Char} :
    StopsAt member (c :: rest) ↔ member c = false := by
  simp [StopsAt]

/-- A text that stops a class stops every smaller class. -/
theorem StopsAt.mono {larger smaller : Char → Bool} {text : List Char}
    (stops : StopsAt larger text) (inside : ∀ c, smaller c = true → larger c = true) :
    StopsAt smaller text := by
  intro c found
  have outside := stops c found
  by_cases member : smaller c = true
  · rw [inside c member] at outside
    contradiction
  · exact Bool.eq_false_iff.mpr member

/-- Two texts that both stop a class stop it together. -/
theorem StopsAt.append {member : Char → Bool} {text tail : List Char}
    (front : StopsAt member text) (behind : StopsAt member tail) :
    StopsAt member (text ++ tail) := by
  cases text with
  | nil => exact behind
  | cons c rest => exact stopsAt_cons.mpr (stopsAt_cons.mp front)

/-- What stands behind a text that is not empty does not count. -/
theorem stopsAt_append {member : Char → Bool} {text : List Char} (present : text ≠ [])
    (tail : List Char) : StopsAt member (text ++ tail) ↔ StopsAt member text := by
  cases text with
  | nil => exact absurd rfl present
  | cons c rest => rw [List.cons_append, stopsAt_cons, stopsAt_cons]

/-- A boundary ends the run in front of it. -/
theorem takeWhile_append_boundary {member : Char → Bool} {tail : List Char}
    (stops : StopsAt member tail) (text : List Char) :
    (text ++ tail).takeWhile member = text.takeWhile member := by
  induction text with
  | nil =>
    cases tail with
    | nil => rfl
    | cons c rest => simp [stopsAt_cons.mp stops]
  | cons c rest ih =>
    by_cases first : member c = true
    · simp [first, ih]
    · simp [first]

/-- What is left behind the run in front of a boundary goes on with the boundary. -/
theorem dropWhile_append_boundary {member : Char → Bool} {tail : List Char}
    (stops : StopsAt member tail) (text : List Char) :
    (text ++ tail).dropWhile member = text.dropWhile member ++ tail := by
  induction text with
  | nil =>
    cases tail with
    | nil => rfl
    | cons c rest => simp [stopsAt_cons.mp stops]
  | cons c rest ih =>
    by_cases first : member c = true
    · simp [first, ih]
    · simp [first]

/-- A run up to a boundary is taken as a whole. -/
theorem takeWhile_run {member : Char → Bool} {run rest : List Char}
    (inside : ∀ c ∈ run, member c = true) (stops : StopsAt member rest) :
    (run ++ rest).takeWhile member = run := by
  rw [takeWhile_append_boundary stops]
  exact List.takeWhile_eq_self_iff.mpr inside

/-- Nothing of a run up to a boundary is left. -/
theorem dropWhile_run {member : Char → Bool} {run rest : List Char}
    (inside : ∀ c ∈ run, member c = true) (stops : StopsAt member rest) :
    (run ++ rest).dropWhile member = rest := by
  rw [dropWhile_append_boundary stops, List.dropWhile_eq_nil_iff.mpr inside, List.nil_append]

/-! ## The classes of the query language -/

/-- Two classes whose ranges lie apart have no common character. -/
theorem Ranges.has_eq_false_of_apart {left right : Ranges}
    (apart : (left.all fun first => right.all fun second =>
      decide (first.2 < second.1) || decide (second.2 < first.1)) = true)
    {c : Char} (member : left.has c = true) : right.has c = false := by
  by_cases other : right.has c = true
  · obtain ⟨first, firstListed, firstLow, firstHigh⟩ := (left.has_iff c).mp member
    obtain ⟨second, secondListed, secondLow, secondHigh⟩ := (right.has_iff c).mp other
    have row := List.all_eq_true.mp apart first firstListed
    have cell := List.all_eq_true.mp row second secondListed
    simp only [Bool.or_eq_true, decide_eq_true_eq] at cell
    omega
  · exact Bool.eq_false_iff.mpr other

/-- A character is solid exactly if it is not blank. -/
theorem isSolid_eq_true_iff {c : Char} : isSolid c = true ↔ isBlank c = false := by
  simp [isSolid]

/-- A character is no solid one exactly if it is blank. -/
theorem isSolid_eq_false_iff {c : Char} : isSolid c = false ↔ isBlank c = true := by
  simp [isSolid]

/-- Blank text stops what is solid. -/
theorem stopsAt_of_blank {text : List Char} (blank : ∀ c ∈ text, isBlank c = true) :
    StopsAt isSolid text :=
  fun c found => isSolid_eq_false_iff.mpr (blank c (List.mem_of_head? found))

/-- The visible characters of ASCII are solid. -/
theorem isSolid_of_visible {c : Char} (low : 32 < c.toNat) (high : c.toNat < 133) :
    isSolid c = true := by
  rw [isSolid_eq_true_iff]
  by_cases blank : isBlank c = true
  · obtain ⟨range, listed, above, below⟩ := (blankRanges.has_iff c).mp blank
    simp only [blankRanges, List.mem_cons, List.not_mem_nil, or_false] at listed
    rcases listed with rfl | rfl | rfl | rfl | rfl | rfl | rfl | rfl | rfl | rfl <;>
      simp only at above below <;> omega
  · exact Bool.eq_false_iff.mpr blank

/-- A decimal digit lies between zero and nine. -/
theorem isDecimalDigit_iff {c : Char} :
    isDecimalDigit c = true ↔ 48 ≤ c.toNat ∧ c.toNat ≤ 57 := by
  simp [isDecimalDigit, Char.le_def, UInt32.le_iff_toNat_le]

/-- Decimal digits are solid. -/
theorem isSolid_of_isDecimalDigit {c : Char} (digit : isDecimalDigit c = true) :
    isSolid c = true := by
  have bounds := isDecimalDigit_iff.mp digit
  exact isSolid_of_visible (by omega) (by omega)

/-- Date characters are solid. -/
theorem isSolid_of_isDateCharacter {c : Char} (member : isDateCharacter c = true) :
    isSolid c = true := by
  simp only [isDateCharacter, Bool.or_eq_true, beq_iff_eq] at member
  rcases member with (((((digit | rfl) | rfl) | rfl) | rfl) | rfl) | rfl
  · exact isSolid_of_isDecimalDigit digit
  all_goals decide

/-- The characters of user identifiers are solid. -/
theorem isSolid_of_isUserIdCharacter {c : Char} (member : isUserIdCharacter c = true) :
    isSolid c = true := by
  simp only [isUserIdCharacter, isHexDigit, Bool.or_eq_true, Bool.and_eq_true, beq_iff_eq,
    decide_eq_true_eq, Char.le_def, UInt32.le_iff_toNat_le] at member
  rcases member with ((digit | letter) | letter) | rfl
  · exact isSolid_of_isDecimalDigit digit
  · have low : 97 ≤ c.toNat := letter.1
    have high : c.toNat ≤ 102 := letter.2
    exact isSolid_of_visible (by omega) (by omega)
  · have low : 65 ≤ c.toNat := letter.1
    have high : c.toNat ≤ 70 := letter.2
    exact isSolid_of_visible (by omega) (by omega)
  · decide

/-- Letters and numerals of every script are solid. -/
theorem isSolid_of_isLetterOrNumeral {c : Char} (member : isLetterOrNumeral c = true) :
    isSolid c = true := by
  unfold isLetterOrNumeral at member
  split at member
  · delta Char.isAlphanum Char.isAlpha Char.isUpper Char.isLower Char.isDigit at member
    simp only [Bool.or_eq_true, Bool.and_eq_true, decide_eq_true_eq,
      UInt32.le_iff_toNat_le] at member
    have low : 32 < c.toNat := by
      change 32 < c.val.toNat
      rcases member with (upper | lower) | digit
      · exact Nat.lt_of_lt_of_le (by decide) upper.1
      · exact Nat.lt_of_lt_of_le (by decide) lower.1
      · exact Nat.lt_of_lt_of_le (by decide) digit.1
    exact isSolid_of_visible low (by omega)
  · rw [isSolid_eq_true_iff]
    exact Ranges.has_eq_false_of_apart (by decide +kernel) member

/-- Identifier characters are solid. -/
theorem isSolid_of_isIdentifierCharacter {c : Char} (member : isIdentifierCharacter c = true) :
    isSolid c = true := by
  simp only [isIdentifierCharacter, isWordCharacter, Bool.or_eq_true, beq_iff_eq] at member
  rcases member with ((letter | rfl) | rfl) | rfl
  · exact isSolid_of_isLetterOrNumeral letter
  all_goals decide

end SearchBar.Text
