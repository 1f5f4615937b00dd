/-!
# Text with styles

A text that a terminal is to show has characters, and stretches in which a style
holds. On a terminal without colours a style changes nothing, so that only the
stretches are kept whose style cannot be read: they make it impossible to show
the text, unless nothing is left of them. The main statement is that dividing a
text leaves its pieces as they are.
-/

namespace SearchBar.Console

/-- The bell, the backspace, and the controls that move the cursor to another place. -/
def movesCursor (c : Char) : Bool :=
  c == '\x07' || c == '\x08' || c == '\x0b' || c == '\x0c' || c == '\x0d'

/-- The text without the controls that move the cursor. -/
def settled (text : List Char) : List Char := text.filter fun c => !movesCursor c

/-- A stretch of a text: the places from its start up to its stop, none if they are the same. -/
structure Span where
  start : Nat
  stop : Nat
  deriving DecidableEq, Repr

/-- What a piece of the text holds of a stretch, counted from the start of the piece. -/
def Span.within (start stop : Nat) (span : Span) : Option Span :=
  let first := span.start - start
  let last := min span.stop stop - start
  if first < last then some ⟨first, last⟩ else none

/-- Characters, and the stretches whose style cannot be read. -/
structure StyledText where
  characters : List Char
  unreadable : List Span := []
  deriving DecidableEq, Repr

namespace StyledText

/-- Nothing is left of the stretches whose style cannot be read. -/
def isReadable (text : StyledText) : Bool := text.unreadable.isEmpty

/-- Pieces of a text that begin at a place, with so many characters between them, and what they
hold of the stretches. -/
def spread (gap start : Nat) (spans : List Span) : List (List Char) → List StyledText
  | [] => []
  | piece :: pieces =>
    ⟨piece, spans.filterMap (Span.within start (start + piece.length))⟩ ::
      spread gap (start + piece.length + gap) spans pieces

/-- Pieces that are spread keep their characters. -/
theorem characters_spread (gap start : Nat) (spans : List Span) (pieces : List (List Char)) :
    (spread gap start spans pieces).map characters = pieces := by
  induction pieces generalizing start with
  | nil => rfl
  | cons piece pieces ih => simp [spread, ih]

/-- The text divided into these pieces, with so many characters left out between them. A text that
is not divided keeps its empty stretches as well. -/
def divide (gap : Nat) (text : StyledText) (pieces : List (List Char)) : List StyledText :=
  if pieces = [text.characters] then [text] else spread gap 0 text.unreadable pieces

/-- A divided text is made of the pieces. -/
theorem characters_divide (gap : Nat) (text : StyledText) (pieces : List (List Char)) :
    (text.divide gap pieces).map characters = pieces := by
  unfold divide
  split
  · simp_all
  · exact characters_spread gap 0 text.unreadable pieces

/-- The text with other characters in the place of its own. If there are fewer of them, the
stretches behind the last one are gone. -/
def replace (text : StyledText) (characters : List Char) : StyledText :=
  { characters
    unreadable :=
      if characters.length < text.characters.length then
        text.unreadable.filter fun span => decide (span.start < characters.length)
      else text.unreadable }

end StyledText

end SearchBar.Console
