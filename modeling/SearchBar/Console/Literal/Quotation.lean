import SearchBar.Text.CharacterNames
import SearchBar.Text.Quoted

/-!
# Quotations in literals

A quotation stands between two marks, or between two marks thrice written, and
only the latter may go over the end of a line. A backslash begins an escape,
unless the quotation is raw. A quotation of bytes holds characters of ASCII only.
-/

namespace SearchBar.Console.Literal

open Text

/-- What the letters in front of a quotation say about it. -/
structure QuotationStyle where
  bytes : Bool := false
  raw : Bool := false
  deriving DecidableEq, Repr

/-- The style that letters in front of a quotation ask for. -/
def QuotationStyle.ofLetters? (letters : List Char) : Option QuotationStyle :=
  match letters.map Char.toLower with
  | [] => some {}
  | ['u'] => some {}
  | ['r'] => some { raw := true }
  | ['b'] => some { bytes := true }
  | ['b', 'r'] => some { bytes := true, raw := true }
  | ['r', 'b'] => some { bytes := true, raw := true }
  | _ => none

/-- A mark of a quotation. -/
def isMark (c : Char) : Bool := c == apostrophe || c == quotationMark

/-- Reads up to the mark that ends a quotation within a line: what is quoted, and the text behind
the mark. A character behind a backslash ends nothing. -/
def readLine? (mark : Char) : List Char → Option (List Char × List Char)
  | [] => none
  | [c] => if c == mark then some ([], []) else none
  | c :: next :: rest =>
    if c == mark then some ([], next :: rest)
    else if c == '\n' then none
    else if c == backslash then
      (readLine? mark rest).map fun (quoted, after) => (c :: next :: quoted, after)
    else (readLine? mark (next :: rest)).map fun (quoted, after) => (c :: quoted, after)

/-- Reads up to the three marks that end a long quotation: what is quoted, and the text behind the
marks. -/
def readBlock? (mark : Char) : List Char → Option (List Char × List Char)
  | first :: second :: third :: rest =>
    if first == mark && second == mark && third == mark then some ([], rest)
    else if first == backslash then
      (readBlock? mark (third :: rest)).map fun (quoted, after) => (first :: second :: quoted, after)
    else
      (readBlock? mark (second :: third :: rest)).map fun (quoted, after) =>
        (first :: quoted, after)
  | _ => none

/-- A text that begins with so many hexadecimal digits. -/
def beginsWithHex (count : Nat) (text : List Char) : Bool :=
  let digits := text.take count
  decide (digits.length = count) && digits.all isHexDigit

/-- The largest number of a character. -/
def maximalCharacter : Nat := 0x10ffff

/-- A text that begins with the name of a character in braces. -/
def beginsWithName : List Char → Bool
  | '\x7b' :: rest =>
    let name := rest.takeWhile (· != '\x7d')
    decide (name.length < rest.length) && isCharacterName name
  | _ => false

/-- Whether an escape of a text is complete, from its letter and the text behind it. -/
def isCompleteEscape (letter : Char) (rest : List Char) : Bool :=
  if letter == 'x' then beginsWithHex 2 rest
  else if letter == 'u' then beginsWithHex 4 rest
  else if letter == 'U' then
    beginsWithHex 8 rest && decide (hexValue (rest.take 8) ≤ maximalCharacter)
  else if letter == 'N' then beginsWithName rest
  else true

/-- Whether every escape in a quotation is complete. Bytes have no escapes but that of two digits. -/
def hasCompleteEscapes (bytes : Bool) : List Char → Bool
  | [] => true
  | [_] => true
  | c :: letter :: rest =>
    if c == backslash then
      (if bytes && letter != 'x' then true else isCompleteEscape letter rest) &&
        hasCompleteEscapes bytes rest
    else hasCompleteEscapes bytes (letter :: rest)

/-- Whether a quotation of this style may hold these characters. -/
def QuotationStyle.admits (style : QuotationStyle) (quoted : List Char) : Bool :=
  (!style.bytes || quoted.all fun c => decide (c.toNat < 128)) &&
    (style.raw || hasCompleteEscapes style.bytes quoted)

/-- What is quoted by the quotation that begins a text, and the text behind it. -/
def readQuoted? : List Char → Option (List Char × List Char)
  | mark :: rest =>
    match rest with
    | second :: third :: behind =>
      if second == mark && third == mark then readBlock? mark behind else readLine? mark rest
    | _ => readLine? mark rest
  | [] => none

/-- The text behind a quotation of this style, which begins with its mark. -/
def QuotationStyle.behind? (style : QuotationStyle) (text : List Char) : Option (List Char) :=
  match readQuoted? text with
  | some (quoted, after) => if style.admits quoted then some after else none
  | none => none

end SearchBar.Console.Literal
