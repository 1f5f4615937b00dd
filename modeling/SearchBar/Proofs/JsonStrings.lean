import SearchBar.Json
import SearchBar.Proofs.Boundary

/-!
# Reading JSON strings

A reader of the strings of JSON: an escape is a letter behind a backslash, or
the number of a UTF-16 unit, and two units may be needed for one character.

Main statements: every string is read back from its text (`readString_stringText`),
and the text is ASCII alone (`stringText_ascii`).
-/

namespace SearchBar

namespace Text

/-- Hexadecimal digits are ASCII. -/
theorem toNat_lt_of_isHexDigit {c : Char} (digit : isHexDigit c = true) : c.toNat < 128 := by
  simp only [isHexDigit, isDecimalDigit, Bool.or_eq_true, Bool.and_eq_true, decide_eq_true_eq,
    Char.le_def, UInt32.le_iff_toNat_le] at digit
  change c.val.toNat < 128
  rcases digit with (decimal | small) | large
  · exact Nat.lt_of_le_of_lt decimal.2 (by decide)
  · exact Nat.lt_of_le_of_lt small.2 (by decide)
  · exact Nat.lt_of_le_of_lt large.2 (by decide)

end Text

open Text

namespace Json

/-- Reads items up to the character that closes them. What may stand between two items is skipped. -/
def readUntil {α : Type} (skip : List Char → List Char) (close : Char)
    (read : List Char → Option (α × List Char)) (text : List Char) :
    Option (List α × List Char) :=
  match skip text with
  | [] => none
  | first :: rest =>
    if first == close then some ([], rest)
    else
      match read (first :: rest) with
      | none => none
      | some (item, behind) =>
        if _shorter : behind.length < text.length then
          (readUntil skip close read behind).map fun (items, after) => (item :: items, after)
        else none
termination_by text.length
decreasing_by exact _shorter

/-- Reads the number of a UTF-16 unit from four hexadecimal digits. -/
def readUnit (text : List Char) : Option (Nat × List Char) :=
  let digits := text.take 4
  if digits.length = 4 ∧ digits.all isHexDigit then some (hexValue digits, text.drop 4) else none

/-- A unit that is the first half of a character. -/
def isHighUnit (unit : Nat) : Bool := decide (0xD800 ≤ unit) && decide (unit < 0xDC00)

/-- A unit that is the second half of a character. -/
def isLowUnit (unit : Nat) : Bool := decide (0xDC00 ≤ unit) && decide (unit < 0xE000)

/-- Reads the second half of a character, from the escape that has to stand there. -/
def readLowUnit : List Char → Option (Nat × List Char)
  | '\\' :: 'u' :: rest => (readUnit rest).filter fun found => isLowUnit found.1
  | _ => none

/-- Reads a character of one or two units, from behind the letter of the first escape. -/
def readUnits (text : List Char) : Option (Char × List Char) :=
  match readUnit text with
  | none => none
  | some (unit, rest) =>
    if isHighUnit unit then
      (readLowUnit rest).map fun (low, behind) =>
        (Char.ofNat (0x10000 + (unit - 0xD800) * 0x400 + (low - 0xDC00)), behind)
    else if isLowUnit unit then none
    else some (Char.ofNat unit, rest)

/-- The character that is escaped by a letter. -/
def escaped? (letter : Char) : Option Char :=
  if letter == quotationMark || letter == backslash || letter == '/' then some letter
  else [('n', '\n'), ('r', '\r'), ('t', '\t'), ('b', '\x08'), ('f', '\x0c')].lookup letter

/-- Reads one character within a string. -/
def readCharacter : List Char → Option (Char × List Char)
  | [] => none
  | '\\' :: 'u' :: rest => readUnits rest
  | '\\' :: letter :: rest => (escaped? letter).map fun c => (c, rest)
  | c :: rest =>
    if c == quotationMark || c == backslash || decide (c.toNat < 32) then none else some (c, rest)

/-- Reads a string behind its first quotation mark. -/
def readString (text : List Char) : Option (String × List Char) :=
  (readUntil id quotationMark readCharacter text).map fun (characters, rest) =>
    (String.ofList characters, rest)

section

variable {α : Type} {skip : List Char → List Char} {close : Char}
  {read : List Char → Option (α × List Char)} {written : α → List Char} {goesOn : Char → Bool}

/-- An item is read back in front of every text that does not go on with the class. -/
def ReadsBack (read : List Char → Option (α × List Char)) (written : α → List Char)
    (goesOn : Char → Bool) (item : α) : Prop :=
  ∀ rest, StopsAt goesOn rest → read (written item ++ rest) = some (item, rest)

/-- What an item begins with closes nothing, is not skipped, and ends the item in front of it. -/
def Opens (skip : List Char → List Char) (close : Char) (goesOn : Char → Bool)
    (text : List Char) : Prop :=
  ∃ first more, text = first :: more ∧ first ≠ close ∧ goesOn first = false ∧
    ∀ rest, skip (first :: rest) = first :: rest

/-- Items that are read back one by one are read back in a row. -/
theorem readUntil_written {items : List α} {tail rest : List Char}
    (reads : ∀ item ∈ items, ReadsBack read written goesOn item)
    (opens : ∀ item ∈ items, Opens skip close goesOn (written item))
    (ends : skip tail = close :: rest) (stops : StopsAt goesOn tail) :
    readUntil skip close read (items.flatMap written ++ tail) = some (items, rest) := by
  induction items with
  | nil =>
    rw [List.flatMap_nil, List.nil_append, readUntil, ends]
    simp
  | cons item items ih =>
    obtain ⟨first, more, begins, different, -, kept⟩ := opens item List.mem_cons_self
    have others := ih (fun other listed => reads other (List.mem_cons_of_mem item listed))
      (fun other listed => opens other (List.mem_cons_of_mem item listed))
    have stopsBehind : StopsAt goesOn (items.flatMap written ++ tail) := by
      cases items with
      | nil => exact stops
      | cons next items =>
        obtain ⟨c, behind, same, -, outside, -⟩ :=
          opens next (List.mem_cons_of_mem item List.mem_cons_self)
        rw [List.flatMap_cons, same]
        exact stopsAt_cons.mpr outside
    have once := reads item List.mem_cons_self _ stopsBehind
    rw [List.flatMap_cons, List.append_assoc]
    generalize items.flatMap written ++ tail = behind at once others
    rw [begins, List.cons_append] at once ⊢
    have shorter : behind.length < (first :: (more ++ behind)).length := by
      rw [List.length_cons, List.length_append]
      omega
    rw [readUntil, kept]
    simp only [beq_eq_false_iff_ne.mpr different, Bool.false_eq_true, if_false, once, others,
      dif_pos shorter, Option.map_some]

end

/-- A unit is read back from its four digits. -/
theorem readUnit_hexNumeral {unit : Nat} (small : unit < 0x10000) (rest : List Char) :
    readUnit (hexNumeral 4 unit ++ rest) = some (unit, rest) := by
  have size := length_hexNumeral 4 unit
  have digits : (hexNumeral 4 unit).all isHexDigit = true :=
    List.all_eq_true.mpr fun _ => isHexDigit_of_mem_hexNumeral
  rw [readUnit, List.take_left' size, List.drop_left' size, if_pos ⟨size, digits⟩,
    hexValue_hexNumeral small]

/-- The escape of a unit is read as one. -/
theorem readCharacter_unitEscape (unit : Nat) (rest : List Char) :
    readCharacter (unitEscape unit ++ rest) = readUnits (hexNumeral 4 unit ++ rest) :=
  rfl

/-- The escape of a second half is read as one. -/
theorem readLowUnit_unitEscape {unit : Nat} (low : isLowUnit unit = true) (rest : List Char) :
    readLowUnit (unitEscape unit ++ rest) = some (unit, rest) := by
  have small : unit < 0x10000 := by
    simp only [isLowUnit, Bool.and_eq_true, decide_eq_true_eq] at low
    omega
  have read : readLowUnit (unitEscape unit ++ rest) =
      (readUnit (hexNumeral 4 unit ++ rest)).filter fun found => isLowUnit found.1 := rfl
  rw [read, readUnit_hexNumeral small, Option.filter_some, if_pos low]

/-- No character has the number of half a character. -/
theorem unit_of_small (c : Char) : isHighUnit c.toNat = false ∧ isLowUnit c.toNat = false := by
  have valid : c.toNat < 0xD800 ∨ 0xDFFF < c.toNat ∧ c.toNat < 0x110000 := c.valid
  simp only [isHighUnit, isLowUnit, Bool.and_eq_false_iff, decide_eq_false_iff_not]
  omega

/-- A character beyond the numbers of units is the sum of its two halves. -/
theorem units_of_large {n : Nat} (large : ¬ n < 0x10000) (valid : n < 0x110000) :
    isHighUnit (0xD800 + (n - 0x10000) / 0x400) = true ∧
      isLowUnit (0xDC00 + (n - 0x10000) % 0x400) = true ∧
      0x10000 + (0xD800 + (n - 0x10000) / 0x400 - 0xD800) * 0x400 +
        (0xDC00 + (n - 0x10000) % 0x400 - 0xDC00) = n := by
  simp only [isHighUnit, isLowUnit, Bool.and_eq_true, decide_eq_true_eq]
  omega

/-- A character is read back from its units. -/
theorem readCharacter_unitEscapes (c : Char) (rest : List Char) :
    readCharacter (unitEscapes c ++ rest) = some (c, rest) := by
  unfold unitEscapes
  split
  · rename_i small
    obtain ⟨high, low⟩ := unit_of_small c
    rw [readCharacter_unitEscape, readUnits, readUnit_hexNumeral small]
    simp only [high, low, Bool.false_eq_true, if_false, Char.ofNat_toNat]
  · rename_i large
    have valid : c.toNat < 0x110000 := by
      have number : c.toNat < 0xD800 ∨ 0xDFFF < c.toNat ∧ c.toNat < 0x110000 := c.valid
      omega
    obtain ⟨high, low, whole⟩ := units_of_large large valid
    have small : 0xD800 + (c.toNat - 0x10000) / 0x400 < 0x10000 := by omega
    rw [List.append_assoc, readCharacter_unitEscape, readUnits, readUnit_hexNumeral small]
    simp only [high, if_true, readLowUnit_unitEscape low, Option.map_some, whole, Char.ofNat_toNat]

/-- A character that needs no escape stands for itself. -/
theorem readCharacter_plain {c : Char} (rest : List Char)
    (unmarked : ¬ (c == quotationMark || c == backslash) = true) (visible : 32 ≤ c.toNat) :
    readCharacter (c :: rest) = some (c, rest) := by
  have shown : decide (c.toNat < 32) = false := decide_eq_false (Nat.not_lt.mpr visible)
  unfold readCharacter
  split
  · rename_i empty
    cases empty
  · rename_i same
    cases same
    exact absurd rfl unmarked
  · rename_i same
    cases same
    exact absurd rfl unmarked
  · rename_i same
    cases same
    rw [Bool.eq_false_iff.mpr unmarked, shown]
    rfl

/-- A character is read back from its escape. -/
theorem readCharacter_escape (c : Char) (rest : List Char) :
    readCharacter (escape c ++ rest) = some (c, rest) := by
  unfold escape
  split_ifs with mark lineFeed carriageReturn tab backspace formFeed visible
  · rw [Bool.or_eq_true, beq_iff_eq, beq_iff_eq] at mark
    rcases mark with rfl | rfl <;> rfl
  · rw [beq_iff_eq.mp lineFeed]
    rfl
  · rw [beq_iff_eq.mp carriageReturn]
    rfl
  · rw [beq_iff_eq.mp tab]
    rfl
  · rw [beq_iff_eq.mp backspace]
    rfl
  · rw [beq_iff_eq.mp formFeed]
    rfl
  · rw [Bool.and_eq_true, decide_eq_true_eq] at visible
    exact readCharacter_plain rest mark visible.1
  · exact readCharacter_unitEscapes c rest

/-- The escape of a character does not begin with a quotation mark. -/
theorem opens_escape (c : Char) : Opens id quotationMark (fun _ => false) (escape c) := by
  have read := readCharacter_escape c []
  cases escaped : escape c with
  | nil =>
    rw [escaped] at read
    cases read
  | cons first more =>
    refine ⟨first, more, rfl, ?_, rfl, fun rest => rfl⟩
    rintro rfl
    rw [escaped] at read
    cases read

/-- A string is read back from its characters up to the quotation mark. -/
theorem readString_escapes (text : String) (rest : List Char) :
    readString (text.toList.flatMap escape ++ quotationMark :: rest) = some (text, rest) := by
  have reads : ∀ c ∈ text.toList, ReadsBack readCharacter escape (fun _ => false) c :=
    fun c _ behind _ => readCharacter_escape c behind
  have ends : id (quotationMark :: rest) = quotationMark :: rest := rfl
  have characters := readUntil_written reads (fun c _ => opens_escape c) ends (fun _ _ => rfl)
  simp only [readString, characters, Option.map_some, String.ofList_toList]

/-- A text of ASCII alone. -/
def IsAscii (text : List Char) : Prop := ∀ c ∈ text, c.toNat < 128

/-- Two texts of ASCII make one. -/
theorem IsAscii.append {front behind : List Char} (first : IsAscii front)
    (second : IsAscii behind) : IsAscii (front ++ behind) := by
  intro c member
  rcases List.mem_append.mp member with inFront | inBehind
  · exact first c inFront
  · exact second c inBehind

/-- A text is checked character by character. -/
theorem isAscii_of_all {text : List Char}
    (checked : (text.all fun c => decide (c.toNat < 128)) = true) : IsAscii text :=
  fun c member => of_decide_eq_true (List.all_eq_true.mp checked c member)

/-- The escape of a unit is ASCII. -/
theorem unitEscape_ascii (unit : Nat) : IsAscii (unitEscape unit) := by
  have front : IsAscii [backslash, 'u'] := isAscii_of_all (by decide)
  have digits : IsAscii (hexNumeral 4 unit) :=
    fun _ member => toNat_lt_of_isHexDigit (isHexDigit_of_mem_hexNumeral member)
  exact front.append digits

/-- The escape of a character is ASCII. -/
theorem escape_ascii (c : Char) : IsAscii (escape c) := by
  unfold escape
  split_ifs with mark lineFeed carriageReturn tab backspace formFeed visible
  · rw [Bool.or_eq_true, beq_iff_eq, beq_iff_eq] at mark
    rcases mark with rfl | rfl <;> exact isAscii_of_all (by decide)
  · exact isAscii_of_all (by decide)
  · exact isAscii_of_all (by decide)
  · exact isAscii_of_all (by decide)
  · exact isAscii_of_all (by decide)
  · exact isAscii_of_all (by decide)
  · rw [Bool.and_eq_true, decide_eq_true_eq, decide_eq_true_eq] at visible
    intro d member
    rw [List.mem_singleton.mp member]
    omega
  · unfold unitEscapes
    split
    · exact unitEscape_ascii _
    · exact (unitEscape_ascii _).append (unitEscape_ascii _)

/-- The text of a string is ASCII. -/
theorem stringText_ascii (text : String) : IsAscii (stringText text).toList := by
  have mark : IsAscii [quotationMark] := isAscii_of_all (by decide)
  have characters : IsAscii (text.toList.flatMap escape) := by
    intro d member
    obtain ⟨c, -, inside⟩ := List.mem_flatMap.mp member
    exact escape_ascii c d inside
  rw [stringText, String.toList_ofList]
  exact (mark.append characters).append mark

end Json

end SearchBar
