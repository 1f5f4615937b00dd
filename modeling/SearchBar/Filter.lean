import SearchBar.DateText
import SearchBar.Range

/-!
# Filters and queries

A query is a list of filters in the order they were typed. A filter is a word, a
quoted phrase, or one of seven qualifiers with its value. The type of the counts
is a parameter: a filter fresh from a text holds its counts as they were typed,
a filter of a query holds integers.
-/

namespace SearchBar

/-- Whether drafts are wanted, unwanted, or all that is wanted. -/
inductive Tristate
  | yes
  | no
  | only
  deriving DecidableEq, Repr

namespace Tristate

/-- The state that a plain truth value stands for. -/
def ofBool : Bool → Tristate
  | true => yes
  | false => no

/-- The plain truth value, if the state is one. -/
def toBool? : Tristate → Option Bool
  | yes => some true
  | no => some false
  | only => none

/-- The state as queries write it. -/
def written : Tristate → String
  | yes => "true"
  | no => "false"
  | only => "only"

/-- The state in the tagged form. -/
def tagged : Tristate → String
  | only => ".only"
  | state => ".bool(" ++ state.written ++ ")"

/-- The state that queries write this way. -/
def ofString? (text : String) : Option Tristate :=
  [yes, no, only].find? (·.written == text)

end Tristate

/-- A truth value as queries write it. -/
def boolText : Bool → String
  | true => "true"
  | false => "false"

/-- The author of a site: a name, or an identifier of 36 characters. -/
inductive Author
  | username (name : String)
  | userId (value : String)
  deriving DecidableEq, Repr

namespace Author

/-- The author as queries write it. -/
def written : Author → String
  | username name => "@" ++ name
  | userId value => value

/-- The author in the tagged form. -/
def tagged : Author → String
  | username name => ".username(" ++ name ++ ")"
  | userId value => ".userId(" ++ value ++ ")"

end Author

/-- One condition of a query, over counts of the given type. -/
inductive Filter (Count : Type)
  | word (text : String)
  | quoted (text : String)
  | draft (state : Tristate)
  | kind (text : String)
  | category (text : String)
  | creator (author : Author)
  | created (range : Range DateText)
  | images (range : Range Count)
  | propertyCount (propertyKind : String) (range : Range Count)
  | property (propertyKind id : String) (value : Bool)
  deriving DecidableEq

namespace Filter

variable {Count Other : Type}

/-- The counts of a filter from left to right. -/
def counts : Filter Count → List Count
  | images range => range.bounds
  | propertyCount _ range => range.bounds
  | _ => []

/-- The same filter over other counts. -/
def map (f : Count → Other) : Filter Count → Filter Other
  | word text => word text
  | quoted text => quoted text
  | draft state => draft state
  | kind text => kind text
  | category text => category text
  | creator author => creator author
  | created range => created range
  | images range => images (range.map f)
  | propertyCount propertyKind range => propertyCount propertyKind (range.map f)
  | property propertyKind id value => property propertyKind id value

/-- Reads every count again, from left to right, and stops at the first that fails. -/
def mapM {ε : Type} (f : Count → Except ε Other) : Filter Count → Except ε (Filter Other)
  | word text => .ok (word text)
  | quoted text => .ok (quoted text)
  | draft state => .ok (draft state)
  | kind text => .ok (kind text)
  | category text => .ok (category text)
  | creator author => .ok (creator author)
  | created range => .ok (created range)
  | images range => images <$> range.mapM f
  | propertyCount propertyKind range => propertyCount propertyKind <$> range.mapM f
  | property propertyKind id value => .ok (property propertyKind id value)

end Filter

/-- The filters of a query in the order they were typed. -/
structure Query where
  filters : List (Filter Int) := []
  deriving DecidableEq

end SearchBar
