import SearchBar.Text.Numerals
import SearchBar.Text.Printable

/-!
# Quoted text in diagnostics

Diagnostics show a text between quotation marks with nothing invisible left in
it: the mark in use, the backslash and the common controls are escaped by a
letter, every other character that is not printable by its number. The mark is
the apostrophe unless the text holds one and no double quotation mark.
-/

namespace SearchBar.Text

/-- The apostrophe. -/
def apostrophe : Char := '\x27'

/-- The double quotation mark. -/
def quotationMark : Char := '\x22'

/-- The reverse solidus. -/
def backslash : Char := '\x5c'

/-- The mark that surrounds a text shown in a diagnostic. -/
def surroundingMark (text : List Char) : Char :=
  if text.contains apostrophe && !text.contains quotationMark then quotationMark else apostrophe

/-- A character by its number, in the narrowest of three forms that holds it. -/
def numberEscape (c : Char) : List Char :=
  if c.toNat < 0x100 then backslash :: 'x' :: hexNumeral 2 c.toNat
  else if c.toNat < 0x10000 then backslash :: 'u' :: hexNumeral 4 c.toNat
  else backslash :: 'U' :: hexNumeral 8 c.toNat

/-- One character of a text that stands between the given marks. -/
def quotedCharacter (mark c : Char) : List Char :=
  if c == mark || c == backslash then [backslash, c]
  else if c == '\n' then [backslash, 'n']
  else if c == '\r' then [backslash, 'r']
  else if c == '\t' then [backslash, 't']
  else if isPrintable c then [c]
  else numberEscape c

/-- A text as diagnostics show it. -/
def quoted (text : String) : String :=
  let mark := surroundingMark text.toList
  String.ofList (mark :: text.toList.flatMap (quotedCharacter mark) ++ [mark])

end SearchBar.Text
