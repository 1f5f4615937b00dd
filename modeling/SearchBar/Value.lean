import SearchBar.Decimal
import SearchBar.Filter
import SearchBar.Text.Quoted

/-!
# Loosely typed values

Programs that build queries by hand may put any value into any field. A loose
value is a plain value, a token, a range, a filter or a query, whose fields hold
loose values themselves. Every query is such a value; most such values are no
query. Only the text of a date, the text of a state, the bounds of a range and
the filters of a query are checked when the value is made.
-/

namespace SearchBar

/-- The operators of a loosely typed range. -/
inductive Operator
  | equal
  | compared (comparison : Comparison)
  | between
  deriving DecidableEq, Repr

namespace Operator

/-- The name of the operator in diagnostics. -/
def name : Operator → String
  | equal => "EQUAL_TO"
  | compared .less => "LESS_THAN"
  | compared .greater => "GREATER_THAN"
  | compared .atMost => "LESS_THAN_OR_EQUAL_TO"
  | compared .atLeast => "GREATER_THAN_OR_EQUAL_TO"
  | between => "BETWEEN"

/-- The operator as queries write it. -/
def symbol : Operator → String
  | equal => ""
  | compared comparison => comparison.symbol
  | between => ".."

/-- The tag of the operator. -/
def tag : Operator → String
  | equal => "eq"
  | compared comparison => comparison.tag
  | between => "between"

/-- Every operator. -/
def all : List Operator :=
  [equal, compared .less, compared .greater, compared .atMost, compared .atLeast, between]

/-- The operator of this name. -/
def ofName? (name : String) : Option Operator := all.find? (·.name == name)

end Operator

/-- A value whose fields hold values of any kind. -/
inductive Value
  | null
  | bool (value : Bool)
  | integer (value : Int)
  | decimal (value : Decimal)
  | text (text : String)
  | list (items : List Value)
  | record (fields : List (String × Value))
  | state (state : Tristate)
  | date (date : DateText)
  | userId (value : Value)
  | username (name : Value)
  | range (operator : Operator) (value : Value) (upper : Option Value)
  | word (content : Value)
  | quoted (content : Value)
  | draft (value : Value)
  | kind (content : Value)
  | category (content : Value)
  | creator (user : Value)
  | created (range : Value)
  | images (range : Value)
  | propertyCount (propertyKind range : Value)
  | property (propertyKind id value : Value)
  | query (filters : List Value)
  deriving Inhabited

/-- What goes wrong with a value of the wrong kind. -/
inductive Fault
  | cannotRender (typeName : String)
  | cannotConvert (typeName : String)
  | noSuchField
  | noText (typeName : String)
  | noPartOfText (place : Nat) (typeName : String)
  | noSequence (typeName : String)
  | noDateText (typeName : String)
  | invalidDate (shown : String)
  | invalidState (shown : String)
  | invalidBounds (operator : Operator) (upper : String)
  deriving DecidableEq, Repr

/-- The fault in words, if it has words. -/
def Fault.message? : Fault → Option String
  | cannotRender typeName => some ("Cannot render " ++ typeName)
  | cannotConvert typeName => some ("Cannot convert " ++ typeName)
  | noSuchField => none
  | noText typeName => some ("__str__ returned non-string (type " ++ typeName ++ ")")
  | noPartOfText place typeName =>
    some ("sequence item " ++ Text.naturalNumeral place ++ ": expected str instance, " ++
      typeName ++ " found")
  | noSequence typeName => some ("\x27" ++ typeName ++ "\x27 object is not iterable")
  | noDateText typeName =>
    some ("expected string or bytes-like object, got \x27" ++ typeName ++ "\x27")
  | invalidDate shown => some ("Invalid date literal: " ++ shown)
  | invalidState shown => some (shown ++ " is not a valid ExtendedBool")
  | invalidBounds operator upper => some (operator.name ++ " range with upper=" ++ upper)

namespace Value

/-- The name of the kind of a value in diagnostics. -/
def typeName : Value → String
  | null => "NoneType"
  | bool _ => "bool"
  | integer _ => "int"
  | decimal _ => "float"
  | text _ => "str"
  | list _ => "list"
  | record _ => "dict"
  | state _ => "ExtendedBool"
  | date _ => "DateToken"
  | userId _ => "UserId"
  | username _ => "Username"
  | range .. => "Range"
  | word _ => "Word"
  | quoted _ => "QuotedString"
  | draft _ => "IsDraft"
  | kind _ => "Kind"
  | category _ => "Category"
  | creator _ => "Creator"
  | created _ => "Creation"
  | images _ => "ImagesCount"
  | propertyCount .. => "PropertiesCount"
  | property .. => "HasProperty"
  | query _ => "SearchQuery"

/-- Whether the value is a token, a range, a filter or a query, and not plain data. -/
def isNode : Value → Bool
  | null | bool _ | integer _ | decimal _ | text _ | list _ | record _ => false
  | _ => true

/-- Whether the value counts as true where a truth value is asked for. -/
def isTruthy : Value → Bool
  | null => false
  | bool value => value
  | integer value => value != 0
  | decimal value => value.mantissa != 0
  | text characters => !characters.isEmpty
  | list items => !items.isEmpty
  | record fields => !fields.isEmpty
  | query filters => !filters.isEmpty
  | _ => true

/-- The number that a truth value or a number equals. -/
def number? : Value → Option Decimal
  | bool value => some ⟨if value then 1 else 0, 0⟩
  | integer value => some ⟨value, 0⟩
  | decimal value => some value
  | _ => none

end Value

/-- A range as a loose value. -/
def Range.toValue {α : Type} (bound : α → Value) : Range α → Value
  | exactly value => .range .equal (bound value) none
  | compared comparison value => .range (.compared comparison) (bound value) none
  | between lower upper => .range .between (bound lower) (some (bound upper))

/-- An author as a loose value. -/
def Author.toValue : Author → Value
  | username name => .username (.text name)
  | userId value => .userId (.text value)

/-- A filter as a loose value. -/
def Filter.toValue : Filter Int → Value
  | word text => .word (.text text)
  | quoted text => .quoted (.text text)
  | draft state => .draft (.state state)
  | kind text => .kind (.text text)
  | category text => .category (.text text)
  | creator author => .creator author.toValue
  | created range => .created (range.toValue .date)
  | images range => .images (range.toValue .integer)
  | propertyCount propertyKind range =>
    .propertyCount (.text propertyKind) (range.toValue .integer)
  | property propertyKind id value => .property (.text propertyKind) (.text id) (.bool value)

/-- A query as a loose value. -/
def Query.toValue (query : Query) : Value := .query (query.filters.map Filter.toValue)

end SearchBar
