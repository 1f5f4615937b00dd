import SearchBar.Console.Lines

/-!
# Fitting text into columns

A column has a width in cells. A line that is too wide for it is broken in front
of words, and a word that is wider than the column is cut and marked with an
ellipsis. Every line is filled with spaces to the width of its column.
-/

namespace SearchBar.Console

open Text

/-- The characters at which a text is divided to find out how wide it is. -/
def dividesWidth (c : Char) : Bool :=
  c == '\n' || c == '\x1c' || c == '\x1d' || c == '\x1e' || c == '\u0085' || c == '\u2028' ||
    c == '\u2029'

/-- The width that a text asks for. A tab asks for none. -/
def widthOf (text : List Char) : Nat :=
  ((text.splitOnP dividesWidth).map cells).foldl max 0

/-- The text without the blank characters at its end. -/
def trimEnd (text : List Char) : List Char := (text.reverse.dropWhile isBlank).reverse

/-- The number of blank characters at the end of a text. -/
def blankEnd (text : List Char) : Nat := (text.reverse.takeWhile isBlank).length

/-- The first word of a line together with the blank characters around it, and the rest of the
line; nothing if the line is blank. -/
def firstWord? (line : List Char) : Option (List Char × List Char) :=
  let lead := line.takeWhile isBlank
  match line.dropWhile isBlank with
  | [] => none
  | c :: rest =>
    let behind := rest.dropWhile isSolid
    some (lead ++ c :: rest.takeWhile isSolid ++ behind.takeWhile isBlank,
      behind.dropWhile isBlank)

/-- A word and the rest make up the line. -/
theorem append_of_firstWord? {line word rest : List Char}
    (found : firstWord? line = some (word, rest)) : word ++ rest = line := by
  unfold firstWord? at found
  split at found
  · cases found
  · rename_i c behind opening
    cases found
    conv => rhs; rw [← List.takeWhile_append_dropWhile (p := isBlank) (l := line), opening]
    simp [List.takeWhile_append_dropWhile]

/-- The rest behind a word is shorter than the line. -/
theorem firstWord?_rest_lt {line word rest : List Char}
    (found : firstWord? line = some (word, rest)) : rest.length < line.length := by
  unfold firstWord? at found
  split at found
  · cases found
  · rename_i c behind opening
    cases found
    have outer := (List.dropWhile_suffix (p := isBlank) (l := line)).length_le
    have middle := (List.dropWhile_suffix (p := isSolid) (l := behind)).length_le
    have inner := (List.dropWhile_suffix (p := isBlank) (l := behind.dropWhile isSolid)).length_le
    rw [opening] at outer
    simp only [List.length_cons] at outer
    omega

/-- The words of a line, each with the blank characters behind it. -/
def wordsIn (line : List Char) : List (List Char) :=
  match _found : firstWord? line with
  | none => []
  | some (word, rest) => word :: wordsIn rest
termination_by line.length
decreasing_by exact firstWord?_rest_lt _found

/-- A line without words is blank. -/
theorem isBlank_of_firstWord?_eq_none {line : List Char} (none : firstWord? line = none) :
    line.dropWhile isBlank = [] := by
  unfold firstWord? at none
  split at none
  · assumption
  · cases none

/-- What is left behind blank characters does not begin with one. -/
theorem dropWhile_isBlank_twice (line : List Char) :
    (line.dropWhile isBlank).dropWhile isBlank = line.dropWhile isBlank := by
  induction line with
  | nil => rfl
  | cons c rest ih =>
    simp only [List.dropWhile_cons]
    split
    · exact ih
    · rename_i solid
      simp [solid]

/-- The words of a line that holds one make up the line. -/
theorem flatten_wordsIn {line : List Char} (solid : line.dropWhile isBlank ≠ []) :
    (wordsIn line).flatten = line := by
  fun_induction wordsIn line with
  | case1 line none => exact absurd (isBlank_of_firstWord?_eq_none none) solid
  | case2 line word rest found ih =>
    have whole := append_of_firstWord? found
    by_cases last : rest.dropWhile isBlank = []
    · have empty : rest = [] := by
        unfold firstWord? at found
        split at found
        · cases found
        · cases found
          rwa [dropWhile_isBlank_twice] at last
      subst empty
      simpa [wordsIn, firstWord?] using whole
    · simpa [ih last] using whole

/-- Puts words behind the line that has been begun, of which some cells are used. A word that does
not fit there begins a new line. -/
def fill (width : Nat) (line : List Char) (used : Nat) : List (List Char) → List (List Char)
  | [] => [line]
  | word :: words =>
    if used + cells (trimEnd word) ≤ width then fill width (line ++ word) (used + cells word) words
    else line :: fill width word (cells word) words

/-- No character is lost between the lines. -/
theorem flatten_fill (width : Nat) (line : List Char) (used : Nat) (words : List (List Char)) :
    (fill width line used words).flatten = line ++ words.flatten := by
  induction words generalizing line used with
  | nil => simp [fill]
  | cons word words ih =>
    unfold fill
    split <;> simp [ih]

/-- Breaks a line in front of the words that do not fit. -/
def breakLine (width : Nat) (line : List Char) : List (List Char) :=
  match wordsIn line with
  | [] => [line]
  | word :: words => fill width word (cells word) words

/-- The parts of a broken line make up the line. -/
theorem flatten_breakLine (width : Nat) (line : List Char) :
    (breakLine width line).flatten = line := by
  unfold breakLine
  split
  · simp
  · rename_i word words parts
    have solid : line.dropWhile isBlank ≠ [] := by
      intro blank
      have wordless : firstWord? line = none := by simp [firstWord?, blank]
      unfold wordsIn at parts
      split at parts
      · cases parts
      · rename_i found
        rw [wordless] at found
        cases found
    rw [flatten_fill, ← List.flatten_cons, ← parts, flatten_wordsIn solid]

/-- The line without the blank characters at its end that are too many. -/
def trimExcess (width : Nat) (line : List Char) : List Char :=
  line.take (line.length - min (blankEnd line) (line.length - width))

/-- So many spaces. -/
def spaces (count : Nat) : List Char := List.replicate count ' '

/-- Spaces take as many cells as there are of them. -/
theorem cells_spaces (count : Nat) : cells (spaces count) = count := by
  have single : cellWidth ' ' = 1 := cellWidth_of_ascii (by decide) (by decide)
  induction count with
  | zero => rfl
  | succ count ih =>
    rw [spaces, List.replicate_succ, cells_cons, single, ← spaces, ih, Nat.add_comm]

/-- The line filled with spaces to so many cells. -/
def padEnd (width : Nat) (line : List Char) : List Char := line ++ spaces (width - cells line)

/-- Whether the last character of a text takes two cells. -/
def endsWide (text : List Char) : Bool := text.getLast?.any fun c => cellWidth c == 2

/-- The front part of a line that takes so many cells, less than the line. The place of the cut is
looked for between two places by halving, which settles the case that characters without a cell
stand there. A character of two cells that is cut in the middle becomes a space. Spaces alone are
left if there is no such place, as in a line that is too short. -/
def cutBetween (width : Nat) (line : List Char) (low high : Nat) : List Char :=
  let middle := (low + high) / 2
  let front := line.take (middle + 1)
  if cells front = width + 1 ∧ endsWide front = true then front.dropLast ++ [' ']
  else if cells front = width then front
  else if high ≤ low + 1 then spaces width
  else if width < cells front then cutBetween width line low middle
  else cutBetween width line middle high
termination_by high - low

/-- The front part of a line that takes so many cells, less than the line. -/
def frontPart (width : Nat) (line : List Char) : List Char :=
  if width = 0 then [] else cutBetween width line 0 line.length

/-- A text that ends with a character of two cells has two cells more than the text before it. -/
theorem cells_dropLast_of_endsWide {text : List Char} (wide : endsWide text = true) :
    cells text = cells text.dropLast + 2 := by
  obtain ⟨last, isLast, width⟩ : ∃ c, text.getLast? = some c ∧ cellWidth c = 2 := by
    simpa [endsWide, Option.any_eq_true] using wide
  obtain ⟨front, rfl⟩ := List.getLast?_eq_some_iff.1 isLast
  simp [width]

/-- What is cut takes exactly as many cells as it should. -/
theorem cells_cutBetween (width : Nat) (line : List Char) (low high : Nat) :
    cells (cutBetween width line low high) = width := by
  fun_induction cutBetween width line low high with
  | case1 low high middle front found =>
    have split := cells_dropLast_of_endsWide found.2
    have single : cellWidth ' ' = 1 := cellWidth_of_ascii (by decide) (by decide)
    have total := found.1
    simp only [cells_append, cells_cons, cells_nil, single] at split total ⊢
    omega
  | case2 => assumption
  | case3 => exact cells_spaces width
  | case4 low high middle front _ _ _ _ ih => exact ih
  | case5 low high middle front _ _ _ _ ih => exact ih

/-- The front part takes exactly as many cells as it should. -/
theorem cells_frontPart (width : Nat) (line : List Char) :
    cells (frontPart width line) = width := by
  unfold frontPart
  split
  · rename_i none
    exact none.symm
  · exact cells_cutBetween width line 0 line.length

/-- The mark of a line that was cut. -/
def ellipsis : Char := '…'

/-- The line, or what fits of it and an ellipsis. -/
def shorten (width : Nat) (line : List Char) : List Char :=
  if cells line ≤ width then line else frontPart (width - 1) line ++ [ellipsis]

/-- A shortened line fits. -/
theorem cells_shorten_le {width : Nat} (room : 0 < width) (line : List Char) :
    cells (shorten width line) ≤ width := by
  unfold shorten
  split
  · assumption
  · have front := cells_frontPart (width - 1) line
    have single : cellWidth ellipsis = 1 := by decide +kernel
    simp only [cells_append, cells_cons, cells_nil, single] at front ⊢
    omega

/-- The side of a column at which its text stands. -/
inductive Alignment
  | left
  | right
  deriving DecidableEq, Repr

/-- The line without the space that would move it away from its side. -/
def Alignment.trimmed (line : List Char) : Alignment → List Char
  | left => line
  | right => trimEnd line

/-- The line filled with spaces at its other side. -/
def Alignment.pad (width : Nat) (line : List Char) : Alignment → List Char
  | left => padEnd width line
  | right => spaces (width - cells line) ++ line

/-- The parts of a line in a column, not yet filled. -/
def StyledText.partsIn (alignment : Alignment) (width : Nat) (line : StyledText) :
    List StyledText :=
  (line.divide 0 (breakLine width line.characters)).map fun part =>
    let kept := part.replace (trimExcess width part.characters)
    let placed := kept.replace (alignment.trimmed kept.characters)
    placed.replace (shorten width placed.characters)

/-- The lines that a text takes in a column, not yet filled. -/
def StyledText.linesIn (alignment : Alignment) (width : Nat) (text : StyledText) :
    List StyledText :=
  text.lines.flatMap (StyledText.partsIn alignment width)

/-- Every line that a text takes in a column fits. -/
theorem StyledText.cells_le_of_mem_linesIn {alignment : Alignment} {width : Nat}
    {text line : StyledText} (room : 0 < width) (inside : line ∈ text.linesIn alignment width) :
    cells line.characters ≤ width := by
  simp only [StyledText.linesIn, StyledText.partsIn, List.mem_flatMap, List.mem_map] at inside
  obtain ⟨_, _, _, _, rfl⟩ := inside
  exact cells_shorten_le room _

end SearchBar.Console
