import SearchBar.Filter
import SearchBar.Keyword
import SearchBar.Text.Numerals

/-!
# The written form

The canonical text of a filter and of a query. Reading the written form of a
query that some text can mean gives the query back.
-/

namespace SearchBar

/-- The filter as queries write it. -/
def Filter.writtenWith {Count : Type} (count : Count → String) : Filter Count → String
  | word text => text
  | quoted text => "\"" ++ text ++ "\""
  | draft state => Keyword.draft.written ++ state.written
  | kind text => Keyword.kind.written ++ text
  | category text => Keyword.category.written ++ text
  | creator author => Keyword.creator.written ++ author.written
  | created range => Keyword.created.written ++ range.written DateText.text
  | images range => Keyword.images.written ++ range.written count
  | propertyCount propertyKind range =>
    Keyword.properties.written ++ propertyKind ++ ":" ++ range.written count
  | property propertyKind id value =>
    Keyword.properties.written ++ propertyKind ++ "/" ++ id ++ ":" ++ boolText value

/-- The filter as queries write it, its counts in shortest form. -/
def Filter.written (filter : Filter Int) : String := filter.writtenWith Text.integerNumeral

/-- The filters, one space between any two. -/
def Query.written (query : Query) : String :=
  " ".intercalate (query.filters.map Filter.written)

end SearchBar
