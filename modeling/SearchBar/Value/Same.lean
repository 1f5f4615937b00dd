import SearchBar.Value

/-!
# Equality of loosely typed values

Two values are the same if they are of one kind with the same fields. Truth
values and numbers are compared as numbers, so that true is the same as one, and
records are the same if they have the same fields in any order.
-/

namespace SearchBar

namespace Value

mutual

/-- Whether two values are the same. -/
def same : Value → Value → Bool
  | null, null => true
  | text left, text right => left == right
  | list left, list right => sameItems left right
  | record left, record right => left.length == right.length && sameFields left right
  | state left, state right => left == right
  | date left, date right => left == right
  | userId left, userId right => same left right
  | username left, username right => same left right
  | range leftOperator left leftUpper, range rightOperator right rightUpper =>
    leftOperator == rightOperator && same left right && sameOptions leftUpper rightUpper
  | word left, word right => same left right
  | quoted left, quoted right => same left right
  | draft left, draft right => same left right
  | kind left, kind right => same left right
  | category left, category right => same left right
  | creator left, creator right => same left right
  | created left, created right => same left right
  | images left, images right => same left right
  | propertyCount leftKind left, propertyCount rightKind right =>
    same leftKind rightKind && same left right
  | property leftKind leftId left, property rightKind rightId right =>
    same leftKind rightKind && same leftId rightId && same left right
  | query left, query right => sameItems left right
  | left, right =>
    match left.number?, right.number? with
    | some left, some right => left == right
    | _, _ => false

/-- Whether two lists hold the same values in order. -/
def sameItems : List Value → List Value → Bool
  | [], [] => true
  | left :: lefts, right :: rights => same left right && sameItems lefts rights
  | _, _ => false

/-- Whether two optional values are the same. -/
def sameOptions : Option Value → Option Value → Bool
  | none, none => true
  | some left, some right => same left right
  | _, _ => false

/-- Whether every field of the first record is a field of the second. -/
def sameFields : List (String × Value) → List (String × Value) → Bool
  | [], _ => true
  | (name, left) :: fields, right =>
    (match right.lookup name with
      | some value => same left value
      | none => false) && sameFields fields right

end

/-- For each value, the place of the first value that is the same. -/
def firstPlaces (values : List Value) : List Nat :=
  values.map fun value => values.findIdx (same · value)

/-- The number of values that differ from all in front of them. -/
def distinctCount (values : List Value) : Nat :=
  ((firstPlaces values).zipIdx.filter fun place => place.1 == place.2).length

end Value

end SearchBar
