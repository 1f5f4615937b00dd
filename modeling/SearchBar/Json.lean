import SearchBar.Text.Numerals
import SearchBar.Text.Quoted

/-!
# JSON texts

JSON values with their fields in a fixed order, and their text: two spaces of
indentation per level, and ASCII alone. Characters beyond ASCII are escaped by
their UTF-16 units.
-/

namespace SearchBar

open Text

/-- A JSON value. The fields of an object keep their order. -/
inductive Json
  | null
  | bool (value : Bool)
  | integer (value : Int)
  | string (text : String)
  | array (items : List Json)
  | object (fields : List (String × Json))

namespace Json

/-- One UTF-16 unit as an escape. -/
def unitEscape (unit : Nat) : List Char := backslash :: 'u' :: hexNumeral 4 unit

/-- The escape of a character by its UTF-16 units. -/
def unitEscapes (c : Char) : List Char :=
  if c.toNat < 0x10000 then unitEscape c.toNat
  else
    unitEscape (0xD800 + (c.toNat - 0x10000) / 0x400) ++
      unitEscape (0xDC00 + (c.toNat - 0x10000) % 0x400)

/-- One character of a string. -/
def escape (c : Char) : List Char :=
  if c == quotationMark || c == backslash then [backslash, c]
  else if c == '\n' then [backslash, 'n']
  else if c == '\r' then [backslash, 'r']
  else if c == '\t' then [backslash, 't']
  else if c == '\x08' then [backslash, 'b']
  else if c == '\x0c' then [backslash, 'f']
  else if decide (32 ≤ c.toNat) && decide (c.toNat < 127) then [c]
  else unitEscapes c

/-- A string between its quotation marks. -/
def stringText (text : String) : String :=
  String.ofList (quotationMark :: text.toList.flatMap escape ++ [quotationMark])

/-- A new line at a level of nesting. -/
def newLine (level : Nat) : String := "\n" ++ String.ofList (List.replicate (2 * level) ' ')

mutual

/-- The text of a value at a level of nesting. -/
def textAt (level : Nat) : Json → String
  | null => "null"
  | bool value => if value then "true" else "false"
  | integer value => integerNumeral value
  | string text => stringText text
  | array [] => "[]"
  | array (item :: items) =>
    "[" ++ newLine (level + 1) ++ textAt (level + 1) item ++ itemsText (level + 1) items ++
      newLine level ++ "]"
  | object [] => "\x7b\x7d"
  | object ((name, value) :: fields) =>
    "\x7b" ++ newLine (level + 1) ++ stringText name ++ ": " ++ textAt (level + 1) value ++
      fieldsText (level + 1) fields ++ newLine level ++ "\x7d"

/-- The items behind the first. -/
def itemsText (level : Nat) : List Json → String
  | [] => ""
  | item :: items => "," ++ newLine level ++ textAt level item ++ itemsText level items

/-- The fields behind the first. -/
def fieldsText (level : Nat) : List (String × Json) → String
  | [] => ""
  | (name, value) :: fields =>
    "," ++ newLine level ++ stringText name ++ ": " ++ textAt level value ++
      fieldsText level fields

end

/-- The text of a value. -/
def text (value : Json) : String := textAt 0 value

end Json

end SearchBar
