import SearchBar.Text.Ranges

/-!
# Blank characters

Blank characters separate filters and surround queries. The class is the
Unicode white space, to which the four information separators below the space
are added. The same class serves for separators and for surrounding space.
-/

namespace SearchBar.Text

/-- The code points of the blank characters. -/
def blankRanges : Ranges :=
  [(9, 13), (28, 32), (133, 133), (160, 160), (5760, 5760), (8192, 8202), (8232, 8233),
    (8239, 8239), (8287, 8287), (12288, 12288)]

/-- A character that separates filters. -/
def isBlank (c : Char) : Bool := blankRanges.has c

/-- A character that belongs to a filter. -/
def isSolid (c : Char) : Bool := !isBlank c

/-- The text without the blank characters in front of it. -/
def dropBlank (text : List Char) : List Char := text.dropWhile isBlank

/-- The text without the blank characters around it. -/
def trim (text : List Char) : List Char :=
  (dropBlank (dropBlank text).reverse).reverse

/-- Every character that the language's own class of white space holds is blank. -/
theorem isBlank_of_isWhitespace {c : Char} (h : c.isWhitespace = true) : isBlank c = true := by
  simp only [Char.isWhitespace, Bool.or_eq_true, decide_eq_true_eq] at h
  rcases h with ((rfl | rfl) | rfl) | rfl <;> decide

end SearchBar.Text
