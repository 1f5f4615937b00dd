import SearchBar.Text.Numerals
import SearchBar.Text.Quoted
import SearchBar.Toml

/-!
# Writing configuration documents

Documents of one level: sections with a header each, and strings and truth
values in them. Strings are written between double quotation marks, and every
control character but the tab is escaped.
-/

namespace SearchBar.Toml

open Text

/-- One character of a string. -/
def writeCharacter (c : Char) : List Char :=
  if c == quotationMark || c == backslash then [backslash, c]
  else if c == '\n' then [backslash, 'n']
  else if c == '\x08' then [backslash, 'b']
  else if c == '\x0c' then [backslash, 'f']
  else if c == '\r' then [backslash, 'r']
  else if (decide (c.toNat < 32) && c != '\t') || c.toNat == 127 then
    backslash :: 'u' :: hexNumeral 4 c.toNat
  else [c]

/-- A string between its marks. -/
def writeString (text : String) : String :=
  String.ofList (quotationMark :: text.toList.flatMap writeCharacter ++ [quotationMark])

/-- A value of a section. -/
inductive Scalar
  | string (text : String)
  | boolean (value : Bool)
  deriving DecidableEq, Repr

/-- The value as documents write it. -/
def Scalar.written : Scalar → String
  | string text => writeString text
  | boolean true => "true"
  | boolean false => "false"

/-- A table of scalars with its header. Names are written without marks. -/
structure Section where
  name : String
  fields : List (String × Scalar)
  deriving DecidableEq, Repr

/-- The header and one line for each field. -/
def Section.written (part : Section) : String :=
  "[" ++ part.name ++ "]\n" ++
    String.join (part.fields.map fun field => field.1 ++ " = " ++ field.2.written ++ "\n")

/-- The sections with an empty line between any two. -/
def write (sections : List Section) : String :=
  "\n".intercalate (sections.map Section.written)

end SearchBar.Toml
