import SearchBar.Filter
import SearchBar.Text.Numerals

/-!
# The tagged form

A text for people who debug queries: every filter and every value carries its
tag. Filters that are written alike, a word and a qualifier for instance, have
different tagged forms.
-/

namespace SearchBar

/-- The date in the tagged form. -/
def DateText.tagged (date : DateText) : String := ".date(" ++ date.text ++ ")"

/-- The filter in the tagged form. -/
def Filter.tagged : Filter Int → String
  | word text => ".word(" ++ text ++ ")"
  | quoted text => ".quotedString(" ++ text ++ ")"
  | draft state => ".isDraft(" ++ state.tagged ++ ")"
  | kind text => ".kind(" ++ text ++ ")"
  | category text => ".category(" ++ text ++ ")"
  | creator author => ".creator(" ++ author.tagged ++ ")"
  | created range => ".creation(" ++ range.tagged DateText.tagged ++ ")"
  | images range => ".imagesCount(" ++ range.tagged Text.integerNumeral ++ ")"
  | propertyCount propertyKind range =>
    ".propertiesCount(" ++ propertyKind ++ "," ++ range.tagged Text.integerNumeral ++ ")"
  | property propertyKind id value =>
    ".hasProperty(" ++ propertyKind ++ "," ++ id ++ "," ++ boolText value ++ ")"

/-- The tagged filters, one space between any two. -/
def Query.tagged (query : Query) : String :=
  " ".intercalate (query.filters.map Filter.tagged)

end SearchBar
