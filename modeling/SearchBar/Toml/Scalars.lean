import SearchBar.Calendar
import SearchBar.Text.Numerals
import SearchBar.Text.Quoted
import SearchBar.Toml

/-!
# Scalars of configuration documents

Strings in their four forms, numbers, dates and times at the front of a text.
Each reader returns the rest of the text, or fails if no value of its form is
there.
-/

namespace SearchBar.Toml

open Text

/-- The outcome of reading something from the front of a text: it and the rest. -/
abbrev Read (α : Type) := Except Fault (α × List Char)

/-- The text is no document. -/
def malformed {α : Type} : Except Fault α := .error .malformed

/-- A space or a tab. -/
def isSpace (c : Char) : Bool := c == ' ' || c == '\t'

/-- A space, a tab or a line feed. -/
def isSpaceOrNewLine (c : Char) : Bool := isSpace c || c == '\n'

/-- A control character that no string and no comment of one line may hold. -/
def isForbidden (c : Char) : Bool := (decide (c.toNat < 32) && c != '\t') || c.toNat == 127

/-- The text behind its leading spaces and tabs. -/
def skipSpaces (text : List Char) : List Char := text.dropWhile isSpace

/-- The character that an escape of one letter stands for. -/
def escaped? (c : Char) : Option Char :=
  if c == 'b' then some '\x08'
  else if c == 't' then some '\t'
  else if c == 'n' then some '\n'
  else if c == 'f' then some '\x0c'
  else if c == 'r' then some '\r'
  else if c == quotationMark || c == backslash then some c
  else none

/-- The character with this number in hexadecimal digits. -/
def numbered? (digits : List Char) : Option Char :=
  if digits.all isHexDigit then
    if valid : (hexValue digits).isValidChar then some (Char.ofNatAux (hexValue digits) valid)
    else none
  else none

/-- Puts a character in front of a string that is read. -/
def andThen (c : Option Char) (found : Read (List Char)) : Read (List Char) :=
  match c, found with
  | some c, .ok (characters, rest) => .ok (c :: characters, rest)
  | none, _ => malformed
  | _, .error fault => .error fault

/-- Reads a basic string of one line behind its opening mark. -/
def readBasic : List Char → Read (List Char)
  | [] => malformed
  | '\\' :: 'u' :: a :: b :: c :: d :: rest => andThen (numbered? [a, b, c, d]) (readBasic rest)
  | '\\' :: 'U' :: a :: b :: c :: d :: e :: f :: g :: h :: rest =>
    andThen (numbered? [a, b, c, d, e, f, g, h]) (readBasic rest)
  | '\\' :: c :: rest => andThen (escaped? c) (readBasic rest)
  | c :: rest =>
    if c == quotationMark then .ok ([], rest)
    else if isForbidden c || c == backslash then malformed
    else andThen (some c) (readBasic rest)

/-- Where the reading of a string of several lines stands. -/
inductive Trimming
  | none
  | toLineEnd
  | toText
  deriving DecidableEq

/-- Reads a basic string of several lines behind its opening marks. A backslash at the end of a
line leaves out everything up to the next character that is neither a space nor a line end. -/
def readLines (trimming : Trimming) : List Char → Read (List Char)
  | [] => malformed
  | c :: rest =>
    if trimming = .toLineEnd then
      if isSpace c then readLines .toLineEnd rest
      else if c == '\n' then readLines .toText rest
      else malformed
    else if trimming = .toText && isSpaceOrNewLine c then readLines .toText rest
    else if c == quotationMark then
      match rest with
      | '\"' :: '\"' :: rest => .ok ([], rest)
      | rest => andThen (some c) (readLines .none rest)
    else if c == backslash then
      match rest with
      | 'u' :: a :: b :: c :: d :: rest =>
        andThen (numbered? [a, b, c, d]) (readLines .none rest)
      | 'U' :: a :: b :: c :: d :: e :: f :: g :: h :: rest =>
        andThen (numbered? [a, b, c, d, e, f, g, h]) (readLines .none rest)
      | '\n' :: rest => readLines .toText rest
      | ' ' :: rest => readLines .toLineEnd rest
      | '\t' :: rest => readLines .toLineEnd rest
      | c :: rest => andThen (escaped? c) (readLines .none rest)
      | [] => malformed
    else if isForbidden c && c != '\n' then malformed
    else andThen (some c) (readLines .none rest)

/-- Reads a literal string of one line behind its opening mark. -/
def readLiteral (text : List Char) : Read (List Char) :=
  let body := text.takeWhile (· != apostrophe)
  match text.dropWhile (· != apostrophe) with
  | [] => malformed
  | _ :: rest => if body.any isForbidden then malformed else .ok (body, rest)

/-- Reads a literal string of several lines behind its opening marks. -/
def readLiteralLines : List Char → Read (List Char)
  | '\x27' :: '\x27' :: '\x27' :: rest => .ok ([], rest)
  | [] => malformed
  | c :: rest =>
    if isForbidden c && c != '\n' then malformed else andThen (some c) (readLiteralLines rest)

/-- Adds the marks that stand directly behind the closing ones, two at the most. -/
def withFinalMarks (mark : Char) (found : Read (List Char)) : Read (List Char) :=
  found.map fun (characters, rest) =>
    let marks := (rest.take 2).takeWhile (· == mark)
    (characters ++ marks, rest.drop marks.length)

/-- The text behind a line feed at its front, if there is one. -/
def skipNewLine : List Char → List Char
  | '\n' :: rest => rest
  | text => text

/-- Reads a string at the front of a text, if a mark opens one. -/
def readString? : List Char → Option (Read (List Char))
  | '\"' :: '\"' :: '\"' :: rest =>
    some (withFinalMarks quotationMark (readLines .none (skipNewLine rest)))
  | '\"' :: rest => some (readBasic rest)
  | '\x27' :: '\x27' :: '\x27' :: rest =>
    some (withFinalMarks apostrophe (readLiteralLines (skipNewLine rest)))
  | '\x27' :: rest => some (readLiteral rest)
  | _ => none

/-- Reads digits that may be separated by single underscores. -/
def readMoreDigits (isDigit : Char → Bool) : List Char → List Char × List Char
  | [] => ([], [])
  | '_' :: c :: rest =>
    if isDigit c then
      let (digits, rest) := readMoreDigits isDigit rest
      (c :: digits, rest)
    else ([], '_' :: c :: rest)
  | c :: rest =>
    if isDigit c then
      let (digits, rest) := readMoreDigits isDigit rest
      (c :: digits, rest)
    else ([], c :: rest)

/-- Reads at least one digit. -/
def readSomeDigits? (isDigit : Char → Bool) : List Char → Option (List Char × List Char)
  | [] => none
  | c :: rest =>
    if isDigit c then
      let (digits, rest) := readMoreDigits isDigit rest
      some (c :: digits, rest)
    else none

/-- The value of digits to some base. -/
def baseValue (base : Nat) (digits : List Char) : Nat :=
  digits.foldl (fun value digit => base * value + hexDigitValue digit) 0

/-- A digit of a number to base eight. -/
def isOctalDigit (c : Char) : Bool := isDecimalDigit c && decide (c < '8')

/-- A digit of a number to base two. -/
def isBinaryDigit (c : Char) : Bool := c == '0' || c == '1'

/-- Reads a whole number that names its base. -/
def readBased? : List Char → Option (Value × List Char)
  | '0' :: 'x' :: rest => based 16 isHexDigit rest
  | '0' :: 'b' :: rest => based 2 isBinaryDigit rest
  | '0' :: 'o' :: rest => based 8 isOctalDigit rest
  | _ => none
where
  /-- Reads the digits behind the name of the base. -/
  based (base : Nat) (isDigit : Char → Bool) (text : List Char) : Option (Value × List Char) :=
    (readSomeDigits? isDigit text).map fun (digits, rest) =>
      (.integer (baseValue base digits), rest)

/-- Reads a sign, if there is one. -/
def readSign : List Char → Bool × List Char
  | '+' :: rest => (false, rest)
  | '-' :: rest => (true, rest)
  | text => (false, text)

/-- Reads the whole part of a decimal number, which begins with zero only if it is zero. -/
def readWhole? : List Char → Option (List Char × List Char)
  | '0' :: rest => some (['0'], rest)
  | text => readSomeDigits? isDecimalDigit text

/-- The text behind the fraction at its front, if there is one. -/
def skipFraction : List Char → List Char
  | '.' :: rest =>
    match readSomeDigits? isDecimalDigit rest with
    | some (_, rest) => rest
    | none => '.' :: rest
  | text => text

/-- The text behind the exponent at its front, if there is one. -/
def skipExponent : List Char → List Char
  | [] => []
  | c :: rest =>
    if c == 'e' || c == 'E' then
      match readSomeDigits? isDecimalDigit (readSign rest).2 with
      | some (_, rest) => rest
      | none => c :: rest
    else c :: rest

/-- Reads a decimal number. A fraction or an exponent makes it no whole number. -/
def readDecimal? (text : List Char) : Option (Read Value) :=
  let (negative, unsigned) := readSign text
  (readWhole? unsigned).map fun (digits, rest) =>
    let stop := skipExponent (skipFraction rest)
    if stop.length < rest.length then
      .ok (.other (String.ofList (text.take (text.length - stop.length))), stop)
    else if maximalDigits < digits.length then .error .tooManyDigits
    else
      let size : Int := decimalValue digits
      .ok (.integer (if negative then -size else size), rest)

/-- Reads an infinite number or the result of no computation. -/
def readSpecial? (text : List Char) : Option (Value × List Char) :=
  let word := (readSign text).2.take 3
  if word = ['i', 'n', 'f'] ∨ word = ['n', 'a', 'n'] then
    some (.other (String.ofList (text.take (text.length - (readSign text).2.length + 3))),
      (readSign text).2.drop 3)
  else none

/-- Reads two digits whose number is at most the given one. -/
def readPair? (greatest : Nat) : List Char → Option (Nat × List Char)
  | tens :: units :: rest =>
    if isDecimalDigit tens && isDecimalDigit units && decide (decimalValue [tens, units] ≤ greatest)
    then some (decimalValue [tens, units], rest)
    else none
  | _ => none

/-- The text behind a character, if it begins with it. -/
def skipCharacter? (c : Char) : List Char → Option (List Char)
  | first :: rest => if first = c then some rest else none
  | [] => none

/-- The text behind a time of day at its front, in whole or broken seconds. -/
def skipTime? (text : List Char) : Option (List Char) := do
  let (_, rest) ← readPair? 23 text
  let (_, rest) ← readPair? 59 (← skipCharacter? ':' rest)
  let (_, rest) ← readPair? 59 (← skipCharacter? ':' rest)
  match rest with
  | '.' :: c :: more => if isDecimalDigit c then some (more.dropWhile isDecimalDigit) else some rest
  | _ => some rest

/-- The text behind a distance from universal time, if there is one. -/
def skipOffset (text : List Char) : List Char :=
  match text with
  | [] => []
  | c :: rest =>
    if c == 'Z' || c == 'z' then rest
    else if c == '+' || c == '-' then
      match (do
        let (_, rest) ← readPair? 23 rest
        let (_, rest) ← readPair? 59 (← skipCharacter? ':' rest)
        some rest) with
      | some rest => rest
      | none => text
    else text

/-- Reads the numbers of a day. The month and the day of the month are not zero. -/
def readDay? (text : List Char) : Option (CalendarDate × List Char) := do
  let (century, rest) ← readPair? 99 text
  let (years, rest) ← readPair? 99 rest
  let (month, rest) ← readPair? 12 (← skipCharacter? '-' rest)
  let (day, rest) ← readPair? 31 (← skipCharacter? '-' rest)
  if month = 0 ∨ day = 0 then none else some (⟨100 * century + years, month, day⟩, rest)

/-- The text behind a time that follows a day, if there is one. -/
def skipTimeOfDay (text : List Char) : List Char :=
  match text with
  | [] => []
  | c :: rest =>
    if c == 'T' || c == 't' || c == ' ' then
      match skipTime? rest with
      | some rest => skipOffset rest
      | none => text
    else text

/-- Reads a day with or without a time, or a time alone. A day that does not exist is an error. -/
def readMoment? (text : List Char) : Option (Read Value) :=
  let literal (rest : List Char) : Value :=
    .other (String.ofList (text.take (text.length - rest.length)))
  match readDay? text with
  | some (date, rest) =>
    if date.Exists then some (.ok (literal (skipTimeOfDay rest), skipTimeOfDay rest))
    else some malformed
  | none => (skipTime? text).map fun rest => .ok (literal rest, rest)

/-- Reads a truth value. -/
def readBoolean? : List Char → Option (Value × List Char)
  | 't' :: 'r' :: 'u' :: 'e' :: rest => some (.boolean true, rest)
  | 'f' :: 'a' :: 'l' :: 's' :: 'e' :: rest => some (.boolean false, rest)
  | _ => none

/-- Reads a value that holds no other value. -/
def readScalar (text : List Char) : Read Value :=
  match readString? text with
  | some found => found.map fun (characters, rest) => (.string (String.ofList characters), rest)
  | none =>
    match readBoolean? text with
    | some found => .ok found
    | none =>
      match readMoment? text with
      | some found => found
      | none =>
        match readBased? text with
        | some found => .ok found
        | none =>
          match readDecimal? text with
          | some found => found
          | none =>
            match readSpecial? text with
            | some found => .ok found
            | none => malformed

end SearchBar.Toml
