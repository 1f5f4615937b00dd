import SearchBar.Query.Counts
import SearchBar.Query.Reading

/-!
# Well-formed filters

Any text may be put into the fields of a filter, but only some can be typed: a
word must not look like a phrase or a qualifier, a phrase must not hold the mark
that closes it, and an identifier, a name or a number keeps to its characters.
The condition does not mention reading. That it is the right one is shown where
filters are read back.
-/

namespace SearchBar

open Text

/-- A text that can be typed as a word. -/
structure IsWord (text : String) : Prop where
  /-- There is something to type. -/
  nonempty : text ≠ ""
  /-- No blank divides it. -/
  solid : ∀ c ∈ text.toList, isSolid c = true
  /-- It does not look like a phrase. -/
  unquoted : text.toList.head? ≠ some quotationMark
  /-- It does not look like a qualifier. -/
  unqualified : ∀ keyword : Keyword, ¬ keyword.characters <+: text.toList

/-- A text that can be typed between quotation marks. -/
def IsPhrase (text : String) : Prop := quotationMark ∉ text.toList

/-- A text that can be typed as an identifier; it may be empty. -/
def IsIdentifier (text : String) : Prop := ∀ c ∈ text.toList, isIdentifierCharacter c = true

/-- A text that can be typed as the name of an author. -/
def IsUsername (text : String) : Prop := text ≠ "" ∧ ∀ c ∈ text.toList, isSolid c = true

/-- A text that can be typed as the identifier of an author. -/
def IsUserId (text : String) : Prop :=
  text.length = userIdLength ∧ ∀ c ∈ text.toList, isUserIdCharacter c = true

/-- A count that can be typed. -/
def IsCount (count : Int) : Prop := 0 ≤ count ∧ count ≤ maximalCount

/-- A run of digits that can be typed as a count, however large its value is. -/
def Numeral.WellFormed (numeral : Numeral) : Prop :=
  numeral.digits ≠ "" ∧ ∀ c ∈ numeral.digits.toList, isDecimalDigit c = true

/-- An author that can be typed. -/
def Author.WellFormed : Author → Prop
  | username name => IsUsername name
  | userId value => IsUserId value

namespace Filter

variable {Count : Type}

/-- A filter that can be typed, given which counts can be. -/
def WellFormed (count : Count → Prop) : Filter Count → Prop
  | word text => IsWord text
  | quoted text => IsPhrase text
  | draft _ => True
  | kind text => IsIdentifier text
  | category text => IsIdentifier text
  | creator author => author.WellFormed
  | created _ => True
  | images range => ∀ bound ∈ range.bounds, count bound
  | propertyCount propertyKind range =>
    IsIdentifier propertyKind ∧ ∀ bound ∈ range.bounds, count bound
  | property propertyKind id _ => IsIdentifier propertyKind ∧ IsIdentifier id

/-- More filters can be typed where more counts can be. -/
theorem WellFormed.mono {narrow wide : Count → Prop} {filter : Filter Count}
    (wellFormed : filter.WellFormed narrow) (wider : ∀ value, narrow value → wide value) :
    filter.WellFormed wide := by
  cases filter with
  | images range => exact fun bound member => wider bound (wellFormed bound member)
  | propertyCount propertyKind range =>
    exact ⟨wellFormed.1, fun bound member => wider bound (wellFormed.2 bound member)⟩
  | word text => exact wellFormed
  | quoted text => exact wellFormed
  | draft state => exact wellFormed
  | kind text => exact wellFormed
  | category text => exact wellFormed
  | creator author => exact wellFormed
  | created range => exact wellFormed
  | property propertyKind id value => exact wellFormed

end Filter

/-- A query all of whose filters can be typed. -/
def Query.WellFormed (query : Query) : Prop :=
  ∀ filter ∈ query.filters, filter.WellFormed IsCount

end SearchBar
