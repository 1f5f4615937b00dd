import SearchBar.Console.Markup
import SearchBar.Text.Cells

/-!
# Lines on a terminal

A text that is shown loses the controls that would move the cursor. It keeps its
new lines, and every tab becomes the spaces up to the next tab stop of its line.
A text that is echoed is shown as it is, without the sequences that steer a
terminal.

The terminal is assumed to be as wide as the longest line, so that no line is
folded.
-/

namespace SearchBar.Console

open Text

/-- The lines of a text. -/
def linesOf (text : List Char) : List (List Char) := text.splitOn '\n'

/-- A text without new lines is one line. -/
theorem linesOf_eq_singleton {text : List Char} (h : '\n' ∉ text) : linesOf text = [text] := by
  refine List.splitOnP_eq_singleton fun c inside => ?_
  simpa using fun same : c = '\n' => h (same ▸ inside)

/-- The distance between tab stops. -/
def tabWidth : Nat := 8

/-- A line that begins at a column, its tabs as spaces. -/
def expandTabs (column : Nat) : List Char → List Char
  | [] => []
  | c :: rest =>
    if c == '\t' then
      let gap := tabWidth - column % tabWidth
      List.replicate gap ' ' ++ expandTabs (column + gap) rest
    else c :: expandTabs (column + cellWidth c) rest

/-- A line without tabs stays as it is. -/
theorem expandTabs_eq_self {column : Nat} {line : List Char} (h : '\t' ∉ line) :
    expandTabs column line = line := by
  induction line generalizing column with
  | nil => rfl
  | cons c rest ih =>
    have differs : (c == '\t') = false := by
      simpa using fun same : c = '\t' => h (same ▸ List.mem_cons_self)
    have inner (next : Nat) : expandTabs next rest = rest :=
      ih fun inside => h (List.mem_cons_of_mem _ inside)
    simp [expandTabs, differs, inner]

/-- A line with its tabs as spaces. A stretch that holds a tab holds its spaces. -/
def StyledText.withoutTabs (line : StyledText) : StyledText :=
  let place (column : Nat) := (expandTabs 0 (line.characters.take column)).length
  if line.characters.contains '\t' then
    { characters := expandTabs 0 line.characters
      unreadable := line.unreadable.filterMap fun span =>
        Span.within 0 (place span.stop) ⟨place span.start, place span.stop⟩ }
  else line

/-- The characters of a line with its tabs as spaces. -/
theorem StyledText.characters_withoutTabs (line : StyledText) :
    line.withoutTabs.characters = expandTabs 0 line.characters := by
  unfold StyledText.withoutTabs
  simp only
  split
  · rfl
  · rename_i tabless
    exact (expandTabs_eq_self (by simpa using tabless)).symm

/-- The lines that a text takes on a terminal. -/
def StyledText.lines (text : StyledText) : List StyledText :=
  (text.divide 1 (linesOf text.characters)).map StyledText.withoutTabs

/-- The characters of the lines that a text takes on a terminal. -/
theorem StyledText.characters_lines (text : StyledText) :
    text.lines.map StyledText.characters = (linesOf text.characters).map (expandTabs 0) := by
  conv => rhs; rw [← StyledText.characters_divide 1 text (linesOf text.characters)]
  simp [StyledText.lines, StyledText.characters_withoutTabs, Function.comp_def]

/-- Lines with a new line behind each of them. -/
def joinLines (lines : List (List Char)) : String :=
  String.ofList (lines.flatMap fun line => line ++ ['\n'])

/-- The text as a terminal shows it, with a new line behind every line. -/
def shownText (text : List Char) : String :=
  joinLines ((linesOf (settled text)).map (expandTabs 0))

/-- The text with markup in it as a terminal shows it. -/
def shownMarkup (markup : String) : Except MarkupFault String := do
  let lines := (← markedText markup).lines
  if lines.all StyledText.isReadable then return joinLines (lines.map StyledText.characters)
  else throw .unreadableNumber

/-- The character that begins a sequence which steers a terminal. -/
def escapeCharacter : Char := '\x1b'

/-- A parameter of a sequence. -/
def isParameter (c : Char) : Bool := isDecimalDigit c || c == ';' || c == '?'

/-- The text behind the sequence at its front, if there is one. -/
def behindSequence? : List Char → Option (List Char)
  | escape :: '[' :: rest =>
    if escape == escapeCharacter then
      match rest.dropWhile isParameter with
      | final :: after => if final.isAlpha then some after else none
      | [] => none
    else none
  | _ => none

/-- The text behind a sequence is shorter. -/
theorem behindSequence?_lt {text after : List Char} (found : behindSequence? text = some after) :
    after.length < text.length := by
  unfold behindSequence? at found
  split at found
  · rename_i rest
    split at found
    · split at found
      · rename_i behind
        split at found
        · cases found
          have bound := (List.dropWhile_suffix (p := isParameter) (l := rest)).length_le
          rw [behind] at bound
          simp only [List.length_cons] at bound ⊢
          omega
        · cases found
      · cases found
    · cases found
  · cases found

/-- The text without the sequences that steer a terminal. -/
def withoutSequences (text : List Char) : List Char :=
  match _found : behindSequence? text with
  | some after => withoutSequences after
  | none =>
    match text with
    | [] => []
    | c :: rest => c :: withoutSequences rest
termination_by text.length
decreasing_by
  · exact behindSequence?_lt _found
  · simp

/-- The text as it is echoed, with a new line behind it. -/
def echo (text : String) : String := String.ofList (withoutSequences text.toList) ++ "\n"

end SearchBar.Console
