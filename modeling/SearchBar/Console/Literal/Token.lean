import SearchBar.Console.Literal.Numeral
import SearchBar.Console.Literal.Quotation

/-!
# Tokens of literals

A literal is a sequence of numerals, quotations, a few words, signs, commas,
colons and brackets. Blank space, comments and the ends of lines stand between
them; a line that holds a token begins at a column, which matters outside of
brackets.
-/

namespace SearchBar.Console.Literal

open Text

/-- What is known of a value: whether it is a number that may be part of a sum, whether it may be a
key, and whether it is no value by itself but the word that makes an empty set. -/
inductive Kind
  | real (addable : Bool)
  | signed (addable : Bool)
  | imaginary
  | nothing
  | fixed
  | changeable
  | setMaker
  deriving DecidableEq, Repr

/-- A part of a literal within one pair of brackets. -/
inductive Item
  | value (kind : Kind)
  | quotation (bytes : Bool)
  | sign
  | comma
  | colon
  deriving DecidableEq, Repr

/-- The two kinds of brackets. -/
inductive Bracket
  | round
  | curly
  deriving DecidableEq, Repr

/-- A token: an item, a bracket, or the beginning of a line that holds more tokens. -/
inductive Token
  | item (found : Item)
  | opening (bracket : Bracket)
  | closing (bracket : Bracket)
  | line (indented : Bool)
  deriving DecidableEq, Repr

/-- The smallest whole number that is too large for a sum with an imaginary one: half a step beyond
the largest number with a fraction. -/
def sumLimit : Nat := Nat.pow 2 1024 - Nat.pow 2 970

/-- What is known of the value of a numeral. -/
def Numeral.kind : Numeral → Kind
  | whole value => .real (decide (value < sumLimit))
  | fractional => .real true
  | imaginary => .imaginary

/-- The letters that stand for the letter S in a word. -/
def formsOfS : List Nat :=
  [0x73, 0x17f, 0x2e2, 0x209b, 0xff53, 0x1d42c, 0x1d460, 0x1d494, 0x1d4c8, 0x1d4fc, 0x1d530,
    0x1d564, 0x1d598, 0x1d5cc, 0x1d600, 0x1d634, 0x1d668, 0x1d69c]

/-- The letters that stand for the letter E in a word. -/
def formsOfE : List Nat :=
  [0x65, 0x1d49, 0x2091, 0x212f, 0x2147, 0xff45, 0x1d41e, 0x1d452, 0x1d486, 0x1d4ee, 0x1d522,
    0x1d556, 0x1d58a, 0x1d5be, 0x1d5f2, 0x1d626, 0x1d65a, 0x1d68e]

/-- The letters that stand for the letter T in a word. -/
def formsOfT : List Nat :=
  [0x74, 0x1d57, 0x209c, 0xff54, 0x1d42d, 0x1d461, 0x1d495, 0x1d4c9, 0x1d4fd, 0x1d531, 0x1d565,
    0x1d599, 0x1d5cd, 0x1d601, 0x1d635, 0x1d669, 0x1d69d]

/-- The word that makes an empty set, in any form of its letters. -/
def isSetMaker : List Char → Bool
  | [s, e, t] =>
    formsOfS.contains s.toNat && formsOfE.contains e.toNat && formsOfT.contains t.toNat
  | _ => false

/-- The words that are values. -/
def constants : List String := ["None", "True", "False"]

/-- What is known of the value of a word, if it has one. -/
def kindOfWord? (word : List Char) : Option Kind :=
  if constants.contains (String.ofList word) then some .fixed
  else if isSetMaker word then some .setMaker
  else none

/-- A character of a word. Any character beyond ASCII may be one. -/
def isWordPart (c : Char) : Bool :=
  isDecimalDigit c || c.isAlpha || c == '_' || decide (128 ≤ c.toNat)

/-- Reads a numeral that is not followed by a part of a word. -/
def readNumber? (text : List Char) : Option (Token × List Char) :=
  match readNumeral? text with
  | some (numeral, after) =>
    if after.head?.any isWordPart then none else some (.item (.value numeral.kind), after)
  | none => none

/-- Reads a word or a quotation. -/
def readWord? (text : List Char) : Option (Token × List Char) :=
  let word := text.takeWhile isWordPart
  let after := text.dropWhile isWordPart
  if after.head?.any isMark then
    match QuotationStyle.ofLetters? word with
    | some style => (style.behind? after).map fun rest => (.item (.quotation style.bytes), rest)
    | none => none
  else (kindOfWord? word).map fun kind => (.item (.value kind), after)

/-- Reads the token at the front of a text, the text behind it as well. -/
def readToken? (text : List Char) : Option (Token × List Char) :=
  if beginsNumeral text then readNumber? text
  else
    match text with
    | '(' :: rest => some (.opening .round, rest)
    | ')' :: rest => some (.closing .round, rest)
    | '\x7b' :: rest => some (.opening .curly, rest)
    | '\x7d' :: rest => some (.closing .curly, rest)
    | ',' :: rest => some (.item .comma, rest)
    | ':' :: rest => some (.item .colon, rest)
    | '+' :: rest => some (.item .sign, rest)
    | '-' :: rest => some (.item .sign, rest)
    | '.' :: '.' :: '.' :: rest => some (.item (.value .fixed), rest)
    | _ => readWord? text

/-- The column behind a tab. -/
def columnBehindTab (column : Nat) : Nat := (column / 8 + 1) * 8

/-- The blank space in front of a line: the column of the first token, and the text from there. A
form feed goes back to the first column. A line goes on behind a backslash at its end, and then
the first column that was reached in front of such a backslash counts. -/
def readIndent (kept column : Nat) : List Char → Nat × List Char
  | ' ' :: rest => readIndent kept (column + 1) rest
  | '\t' :: rest => readIndent kept (columnBehindTab column) rest
  | '\x0c' :: rest => readIndent kept 0 rest
  | '\\' :: '\n' :: c :: rest => readIndent (if kept = 0 then column else kept) column (c :: rest)
  | text => (if kept = 0 then column else kept, text)

/-- Whether a text begins with the end of a line, with a comment, or not at all. -/
def beginsBlank : List Char → Bool
  | [] => true
  | c :: _ => c == '\n' || c == '#'

/-- The tokens of a step through a text, at most one, and the text behind them. -/
def readStep? (text : List Char) : Option (List Token × List Char) :=
  match text with
  | '\n' :: rest =>
    let (column, rest) := readIndent 0 0 rest
    some (if beginsBlank rest then [] else [.line (decide (column ≠ 0))], rest)
  | '#' :: rest => some ([], rest.dropWhile (· != '\n'))
  | ' ' :: rest => some ([], rest)
  | '\t' :: rest => some ([], rest)
  | '\x0c' :: rest => some ([], rest)
  | '\\' :: '\n' :: c :: rest => some ([], c :: rest)
  | _ => (readToken? text).map fun (token, rest) => ([token], rest)

/-- The tokens of a text. Every step leaves a shorter text behind it. -/
def readTokens? (text : List Char) : Option (List Token) :=
  match text with
  | [] => some []
  | c :: following =>
    match readStep? (c :: following) with
    | none => none
    | some (tokens, rest) =>
      if _shorter : rest.length < (c :: following).length then
        (readTokens? rest).map (tokens ++ ·)
      else none
termination_by text.length
decreasing_by exact _shorter

/-- The text with one character at the end of each line. -/
def withPlainLines : List Char → List Char
  | '\r' :: '\n' :: rest => '\n' :: withPlainLines rest
  | '\r' :: rest => '\n' :: withPlainLines rest
  | c :: rest => c :: withPlainLines rest
  | [] => []

/-- The tokens of a literal. It begins on a line of its own. -/
def tokensOf? (text : List Char) : Option (List Token) :=
  if text.contains '\x00' then none else readTokens? ('\n' :: withPlainLines text)

end SearchBar.Console.Literal
