import SearchBar.Filter
import SearchBar.Json

/-!
# Records

The structure that machines read: a query is an array of objects, one for each
filter, whose type tells which other fields there are.
-/

namespace SearchBar

/-- The range as an object. Only an interval has an upper bound. -/
def Range.record {α : Type} (bound : α → Json) : Range α → Json
  | exactly value => .object [("op", .string "eq"), ("value", bound value)]
  | compared comparison value =>
    .object [("op", .string comparison.tag), ("value", bound value)]
  | between lower upper =>
    .object [("op", .string "between"), ("value", bound lower), ("upper", bound upper)]

/-- The author as the field that names it. -/
def Author.field : Author → String × Json
  | username name => ("username", .string name)
  | userId value => ("user_id", .string value)

/-- The filter as an object. -/
def Filter.record : Filter Int → Json
  | word text => .object [("type", .string "word"), ("value", .string text)]
  | quoted text => .object [("type", .string "quoted_string"), ("value", .string text)]
  | draft state => .object [("type", .string "draft"), ("value", .string state.written)]
  | kind text => .object [("type", .string "kind"), ("value", .string text)]
  | category text => .object [("type", .string "category"), ("value", .string text)]
  | creator author => .object [("type", .string "creator"), author.field]
  | created range =>
    .object [("type", .string "created"), ("range", range.record fun date => .string date.text)]
  | images range => .object [("type", .string "images"), ("range", range.record .integer)]
  | propertyCount propertyKind range =>
    .object [("type", .string "properties_count"), ("kind", .string propertyKind),
      ("range", range.record .integer)]
  | property propertyKind id value =>
    .object [("type", .string "has_property"), ("kind", .string propertyKind),
      ("id", .string id), ("value", .bool value)]

/-- The query as an array of objects. -/
def Query.record (query : Query) : Json := .array (query.filters.map Filter.record)

end SearchBar
