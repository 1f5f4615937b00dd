import SearchBar.Value

/-!
# Values in diagnostics

The text by which a diagnostic names a value: plain data as literals, a token, a
filter or a query by its kind and its fields. The makers of dates, states and
ranges use it to say what they refuse.
-/

namespace SearchBar

open Text

namespace Value

/-- A state in diagnostics. -/
def shownState : Tristate → String
  | .yes => "<ExtendedBool.TRUE: 'true'>"
  | .no => "<ExtendedBool.FALSE: 'false'>"
  | .only => "<ExtendedBool.ONLY: 'only'>"

/-- An operator in diagnostics. -/
def shownOperator (operator : Operator) : String :=
  "<RangeOperator." ++ operator.name ++ ": " ++ Text.quoted operator.symbol ++ ">"

/-- A value of several fields in diagnostics. -/
def shownFields (typeName : String) (fields : List (String × String)) : String :=
  typeName ++ "(" ++ ", ".intercalate (fields.map fun field => field.1 ++ "=" ++ field.2) ++ ")"

mutual

/-- A value in diagnostics. -/
def shown : Value → String
  | null => "None"
  | bool value => if value then "True" else "False"
  | integer value => integerNumeral value
  | decimal value => value.text
  | text characters => Text.quoted characters
  | list items => "[" ++ ", ".intercalate (shownItems items) ++ "]"
  | record fields => "\x7b" ++ ", ".intercalate (shownEntries fields) ++ "\x7d"
  | state found => shownState found
  | date found => shownFields "DateToken" [("text", Text.quoted found.text)]
  | userId value => shownFields "UserId" [("value", shown value)]
  | username name => shownFields "Username" [("name", shown name)]
  | range operator value none =>
    shownFields "Range" [("operator", shownOperator operator), ("value", shown value),
      ("upper", "None")]
  | range operator value (some upper) =>
    shownFields "Range" [("operator", shownOperator operator), ("value", shown value),
      ("upper", shown upper)]
  | word content => shownFields "Word" [("text", shown content)]
  | quoted content => shownFields "QuotedString" [("text", shown content)]
  | draft value => shownFields "IsDraft" [("value", shown value)]
  | kind content => shownFields "Kind" [("text", shown content)]
  | category content => shownFields "Category" [("text", shown content)]
  | creator user => shownFields "Creator" [("user", shown user)]
  | created condition => shownFields "Creation" [("range", shown condition)]
  | images condition => shownFields "ImagesCount" [("range", shown condition)]
  | propertyCount propertyKind condition =>
    shownFields "PropertiesCount" [("kind", shown propertyKind), ("range", shown condition)]
  | property propertyKind id value =>
    shownFields "HasProperty" [("kind", shown propertyKind), ("id", shown id),
      ("value", shown value)]
  | query [] => "SearchQuery(filters=())"
  | query [filter] => "SearchQuery(filters=(" ++ shown filter ++ ",))"
  | query (first :: second :: filters) =>
    "SearchQuery(filters=(" ++
      ", ".intercalate (shown first :: shown second :: shownItems filters) ++ "))"

/-- The values of a list in diagnostics. -/
def shownItems : List Value → List String
  | [] => []
  | item :: items => shown item :: shownItems items

/-- The entries of a record in diagnostics. -/
def shownEntries : List (String × Value) → List String
  | [] => []
  | (name, value) :: fields => (Text.quoted name ++ ": " ++ shown value) :: shownEntries fields

end

/-- The date with this text. -/
def makeDate (value : Value) : Except Fault Value :=
  match value with
  | text characters =>
    match DateText.ofString? characters with
    | some found => .ok (date found)
    | none => .error (.invalidDate (shown value))
  | _ => .error (.noDateText value.typeName)

/-- The state that this value names. -/
def makeState (value : Value) : Except Fault Tristate :=
  match value with
  | text name =>
    match Tristate.ofString? name with
    | some found => .ok found
    | none => .error (.invalidState (shown value))
  | state found => .ok found
  | _ => .error (.invalidState (shown value))

/-- The range with these bounds. Exactly an interval has an upper bound. -/
def makeRange (operator : Operator) (value : Value) (upper : Option Value) : Except Fault Value :=
  if decide (operator = .between) == upper.isSome then .ok (range operator value upper)
  else .error (.invalidBounds operator ((upper.map shown).getD "None"))

/-- The query with these filters, which any sequence may give: a list, the filters of a query, the
characters of a text or the names of the fields of a record. -/
def makeQuery (filters : Value) : Except Fault Value :=
  match filters with
  | list items => .ok (query items)
  | query items => .ok (query items)
  | text characters => .ok (query (characters.toList.map fun c => text (String.singleton c)))
  | record fields => .ok (query (fields.map fun field => text field.1))
  | _ => .error (.noSequence filters.typeName)

end Value

end SearchBar
