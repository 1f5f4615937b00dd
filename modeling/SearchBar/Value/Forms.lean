import SearchBar.Value.Shown

/-!
# The forms of loosely typed values

A loose value has the three forms of a query, as far as its fields allow: the
written form, the tagged form and the record. The first two refuse plain data
wherever a token, a filter or a query belongs, and insert anything where a text
belongs. A word and an identifier are written as what they hold, which need not
be a text; a longer form inserts it, but a query cannot be joined of it. The
record asks only for the fields that it has to look into.
-/

namespace SearchBar

open Text

namespace Value

/-- What writing a value gives: a text, or the value that stands where a text belongs. -/
inductive Written
  | text (characters : String)
  | other (value : Value) (inserted : Except Fault String)

/-- The text that a written form inserts into a longer one. -/
def Written.inserted : Written → Except Fault String
  | text characters => .ok characters
  | other _ inserted => inserted

/-- The written form of a node as a text. -/
def Written.asText : Written → Except Fault String
  | text characters => .ok characters
  | other value _ => .error (.noText value.typeName)

/-- The text that a field inserts into the form of its node, given the written form of the field.
Plain data stand as in diagnostics, and a text for itself. -/
def inserted (value : Value) (form : Except Fault Written) : Except Fault String :=
  match value with
  | text characters => .ok characters
  | _ => if value.isNode then form.bind Written.asText else .ok value.shown

/-- The written form of a node that is nothing but its field. -/
def bare (value : Value) (form : Except Fault Written) : Written :=
  match value with
  | text characters => .text characters
  | _ => .other value (inserted value form)

/-- The form of a bound: truth values, integers and texts stand for themselves, and every other
value takes the form it has anywhere. -/
def boundForm (value : Value) (form : Except Fault String) : Except Fault String :=
  match value with
  | bool truth => .ok (boolText truth)
  | integer number => .ok (integerNumeral number)
  | text characters => .ok characters
  | _ => form

/-- The refusal of plain data where a token, a filter or a query belongs. -/
def refused {α : Type} (value : Value) : Except Fault α := .error (.cannotRender value.typeName)

/-- Written forms that are all texts; the first other one is the fault. -/
def textsFrom (place : Nat) : List Written → Except Fault (List String)
  | [] => .ok []
  | .text characters :: forms => (textsFrom (place + 1) forms).map (characters :: ·)
  | .other value _ :: _ => .error (.noPartOfText place value.typeName)

mutual

/-- The value as queries write it. -/
def written : Value → Except Fault Written
  | state found => .ok (.text found.written)
  | date found => .ok (.text found.text)
  | userId value => .ok (bare value (written value))
  | username name => return .text ("@" ++ (← inserted name (written name)))
  | range operator value none => do
    let bound ← boundForm value ((written value).bind Written.inserted)
    return .text (operator.symbol ++ bound)
  | range _ value (some upper) => do
    let lower ← boundForm value ((written value).bind Written.inserted)
    let upper ← boundForm upper ((written upper).bind Written.inserted)
    return .text (lower ++ ".." ++ upper)
  | word content => .ok (bare content (written content))
  | quoted content => return .text ("\"" ++ (← inserted content (written content)) ++ "\"")
  | draft value => return .text ("draft:" ++ (← (written value).bind Written.inserted))
  | kind content => return .text ("kind:" ++ (← inserted content (written content)))
  | category content => return .text ("category:" ++ (← inserted content (written content)))
  | creator user => return .text ("creator:" ++ (← (written user).bind Written.inserted))
  | created condition => return .text ("created:" ++ (← (written condition).bind Written.inserted))
  | images condition => return .text ("images:" ++ (← (written condition).bind Written.inserted))
  | propertyCount propertyKind condition => do
    let propertyKind ← inserted propertyKind (written propertyKind)
    let condition ← (written condition).bind Written.inserted
    return .text ("properties:" ++ propertyKind ++ ":" ++ condition)
  | property propertyKind id value => do
    let propertyKind ← inserted propertyKind (written propertyKind)
    let id ← inserted id (written id)
    return .text ("properties:" ++ propertyKind ++ "/" ++ id ++ ":" ++ boolText value.isTruthy)
  | query filters => return .text (" ".intercalate (← textsFrom 0 (← writtenItems filters)))
  | null => refused null
  | bool value => refused (bool value)
  | integer value => refused (integer value)
  | decimal value => refused (decimal value)
  | text characters => refused (text characters)
  | list items => refused (list items)
  | record fields => refused (record fields)

/-- The values of a list as queries write them. -/
def writtenItems : List Value → Except Fault (List Written)
  | [] => .ok []
  | item :: items => return (← written item) :: (← writtenItems items)

end

/-- The text that a field inserts into the form of its node. -/
def insertedText (value : Value) : Except Fault String := inserted value (written value)

mutual

/-- The value in the tagged form. -/
def tagged : Value → Except Fault String
  | state found => .ok found.tagged
  | date found => .ok (".date(" ++ found.text ++ ")")
  | userId value => return ".userId(" ++ (← insertedText value) ++ ")"
  | username name => return ".username(" ++ (← insertedText name) ++ ")"
  | range operator value none =>
    return "." ++ operator.tag ++ "(" ++ (← boundForm value (tagged value)) ++ ")"
  | range operator value (some upper) =>
    return "." ++ operator.tag ++ "(" ++ (← boundForm value (tagged value)) ++ "," ++
      (← boundForm upper (tagged upper)) ++ ")"
  | word content => return ".word(" ++ (← insertedText content) ++ ")"
  | quoted content => return ".quotedString(" ++ (← insertedText content) ++ ")"
  | draft value => return ".isDraft(" ++ (← tagged value) ++ ")"
  | kind content => return ".kind(" ++ (← insertedText content) ++ ")"
  | category content => return ".category(" ++ (← insertedText content) ++ ")"
  | creator user => return ".creator(" ++ (← tagged user) ++ ")"
  | created condition => return ".creation(" ++ (← tagged condition) ++ ")"
  | images condition => return ".imagesCount(" ++ (← tagged condition) ++ ")"
  | propertyCount propertyKind condition =>
    return ".propertiesCount(" ++ (← insertedText propertyKind) ++ "," ++ (← tagged condition) ++
      ")"
  | property propertyKind id value =>
    return ".hasProperty(" ++ (← insertedText propertyKind) ++ "," ++ (← insertedText id) ++ "," ++
      boolText value.isTruthy ++ ")"
  | query filters => return " ".intercalate (← taggedItems filters)
  | null => refused null
  | bool value => refused (bool value)
  | integer value => refused (integer value)
  | decimal value => refused (decimal value)
  | text characters => refused (text characters)
  | list items => refused (list items)
  | record fields => refused (record fields)

/-- The values of a list in the tagged form. -/
def taggedItems : List Value → Except Fault (List String)
  | [] => .ok []
  | item :: items => return (← tagged item) :: (← taggedItems items)

end

/-- The value that a token, a range or a filter holds under the name of its value. -/
def content : Value → Except Fault Value
  | state found => .ok (text found.written)
  | userId value => .ok value
  | range _ value _ => .ok value
  | draft value => .ok value
  | property _ _ value => .ok value
  | _ => .error .noSuchField

/-- A bound in a record: a date gives its text, every other value itself. -/
def boundRecord : Value → Value
  | date found => text found.text
  | value => value

/-- The record of a range; no other value has one. -/
def rangeRecord : Value → Except Fault Value
  | range .between value upper =>
    .ok (record [("op", text "between"), ("value", boundRecord value),
      ("upper", boundRecord (upper.getD null))])
  | range operator value _ =>
    .ok (record [("op", text operator.tag), ("value", boundRecord value)])
  | _ => .error .noSuchField

mutual

/-- The value as machines read it. -/
def toRecord : Value → Except Fault Value
  | range operator value upper => rangeRecord (range operator value upper)
  | word content => .ok (record [("type", text "word"), ("value", content)])
  | quoted content => .ok (record [("type", text "quoted_string"), ("value", content)])
  | draft value => return record [("type", text "draft"), ("value", ← content value)]
  | kind content => .ok (record [("type", text "kind"), ("value", content)])
  | category content => .ok (record [("type", text "category"), ("value", content)])
  | creator (username name) => .ok (record [("type", text "creator"), ("username", name)])
  | creator user => return record [("type", text "creator"), ("user_id", ← content user)]
  | created condition => return record [("type", text "created"), ("range", ← rangeRecord condition)]
  | images condition => return record [("type", text "images"), ("range", ← rangeRecord condition)]
  | propertyCount propertyKind condition =>
    return record [("type", text "properties_count"), ("kind", propertyKind),
      ("range", ← rangeRecord condition)]
  | property propertyKind id value =>
    .ok (record [("type", text "has_property"), ("kind", propertyKind), ("id", id),
      ("value", value)])
  | query filters => return list (← recordItems filters)
  | state found => .error (.cannotConvert (state found).typeName)
  | date found => .error (.cannotConvert (date found).typeName)
  | userId value => .error (.cannotConvert (userId value).typeName)
  | username name => .error (.cannotConvert (username name).typeName)
  | null => .error (.cannotConvert null.typeName)
  | bool value => .error (.cannotConvert (bool value).typeName)
  | integer value => .error (.cannotConvert (integer value).typeName)
  | decimal value => .error (.cannotConvert (decimal value).typeName)
  | text characters => .error (.cannotConvert (text characters).typeName)
  | list items => .error (.cannotConvert (list items).typeName)
  | record fields => .error (.cannotConvert (record fields).typeName)

/-- The values of a list as machines read them. -/
def recordItems : List Value → Except Fault (List Value)
  | [] => .ok []
  | item :: items => return (← toRecord item) :: (← recordItems items)

end

end Value

end SearchBar
