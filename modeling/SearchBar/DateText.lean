/-!
# Date texts

A date stays as it was typed, so that it is written back exactly. Its form is
checked, its meaning is not: any non-empty text over the alphabet of calendar
dates, week dates and timestamps is a date text.
-/

namespace SearchBar

/-- A character of a date text. -/
def isDateCharacter (c : Char) : Bool :=
  (decide ('0' ≤ c) && decide (c ≤ '9')) || c == ':' || c == '+' || c == '-' || c == 'T' ||
    c == 'W' || c == 'Z'

/-- A non-empty run of date characters. -/
def isDateText (text : List Char) : Bool := !text.isEmpty && text.all isDateCharacter

/-- A date as it was typed. -/
structure DateText where
  /-- The characters typed. -/
  text : String
  /-- They are the characters of a date, at least one. -/
  lexical : isDateText text.toList = true
  deriving DecidableEq

namespace DateText

/-- The date text with these characters, if they form one. -/
def ofString? (text : String) : Option DateText :=
  if lexical : isDateText text.toList = true then some ⟨text, lexical⟩ else none

/-- Reads the longest date text at the front. -/
def read (text : List Char) : Option (DateText × List Char) :=
  if lexical : isDateText (text.takeWhile isDateCharacter) = true then
    some (⟨String.ofList (text.takeWhile isDateCharacter), by simpa using lexical⟩,
      text.dropWhile isDateCharacter)
  else none

/-- A date text holds date characters. -/
theorem characters (date : DateText) :
    ∀ c ∈ date.text.toList, isDateCharacter c = true := by
  have lexical := date.lexical
  simp only [isDateText, Bool.and_eq_true, List.all_eq_true] at lexical
  exact lexical.2

/-- Two date texts with the same characters are the same. -/
theorem eq_of_text_eq {left right : DateText} (same : left.text = right.text) : left = right := by
  cases left
  cases right
  simpa using same

/-- The date text made of a text has exactly that text. -/
theorem ofString?_eq_some_iff {text : String} {date : DateText} :
    ofString? text = some date ↔ date.text = text := by
  unfold ofString?
  constructor
  · intro made
    split at made
    · cases made
      rfl
    · cases made
  · rintro rfl
    simp [date.lexical]

end DateText

end SearchBar
