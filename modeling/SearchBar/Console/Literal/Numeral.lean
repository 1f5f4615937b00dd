import SearchBar.Text.Numerals

/-!
# Numerals in literals

A number in a literal is whole, in one of four bases, or has a fraction or an
exponent. The letter J behind it makes it imaginary. Digits may be divided into
groups by single underscores.
-/

namespace SearchBar.Console.Literal

open Text

/-- What a numeral stands for. -/
inductive Numeral
  | whole (value : Nat)
  | fractional
  | imaginary
  deriving DecidableEq, Repr

/-- The digits at the front of a text without the underscores between their groups, and the text
behind them. An underscore may stand in front of the first group. -/
def readGroups (among : Char → Bool) : List Char → List Char × List Char
  | [] => ([], [])
  | [c] => if among c then ([c], []) else ([], [c])
  | c :: next :: rest =>
    if among c then
      let (digits, after) := readGroups among (next :: rest)
      (c :: digits, after)
    else if c == '_' && among next then readGroups among (next :: rest)
    else ([], c :: next :: rest)

/-- A digit of the binary system. -/
def isBinaryDigit (c : Char) : Bool := c == '0' || c == '1'

/-- A digit of the octal system. -/
def isOctalDigit (c : Char) : Bool := decide ('0' ≤ c) && decide (c ≤ '7')

/-- The base that a letter behind a zero announces, with the digits of that base. -/
def base? (c : Char) : Option (Nat × (Char → Bool)) :=
  if c == 'x' || c == 'X' then some (16, isHexDigit)
  else if c == 'o' || c == 'O' then some (8, isOctalDigit)
  else if c == 'b' || c == 'B' then some (2, isBinaryDigit)
  else none

/-- The number that digits stand for in a base. -/
def valueIn (base : Nat) (digits : List Char) : Nat :=
  digits.foldl (fun value digit => base * value + hexDigitValue digit) 0

/-- Whether a text begins with a digit. -/
def beginsWithDigit (text : List Char) : Bool := text.head?.any isDecimalDigit

/-- The text behind the fraction at its front, if there is one. A point needs no digits behind it. -/
def behindFraction? : List Char → Option (List Char)
  | '.' :: rest => some (if beginsWithDigit rest then (readGroups isDecimalDigit rest).2 else rest)
  | _ => none

/-- The text without the sign at its front. -/
def withoutSign : List Char → List Char
  | '+' :: rest => rest
  | '-' :: rest => rest
  | text => text

/-- The text behind the exponent at its front, if there is one. -/
def behindExponent? : List Char → Option (List Char)
  | c :: rest =>
    if (c == 'e' || c == 'E') && beginsWithDigit (withoutSign rest) then
      some (readGroups isDecimalDigit (withoutSign rest)).2
    else none
  | [] => none

/-- The text behind the letter J at its front, if there is one. -/
def behindUnit? : List Char → Option (List Char)
  | c :: rest => if c == 'j' || c == 'J' then some rest else none
  | [] => none

/-- The whole number that decimal digits stand for. Zeros may stand in front of other digits in no
whole number, and a number other than zero may not have too many digits. -/
def wholeNumber? (digits : List Char) : Option Nat :=
  if digits.all (· == '0') then some 0
  else if digits.head? == some '0' || decide (maximalDigits < digits.length) then none
  else some (decimalValue digits)

/-- Reads a decimal numeral, the text behind it as well. -/
def readDecimal? (text : List Char) : Option (Numeral × List Char) :=
  let (digits, afterDigits) := readGroups isDecimalDigit text
  let fraction? := behindFraction? afterDigits
  let afterFraction := fraction?.getD afterDigits
  let exponent? := behindExponent? afterFraction
  let after := exponent?.getD afterFraction
  match behindUnit? after with
  | some after => some (.imaginary, after)
  | none =>
    if fraction?.isSome || exponent?.isSome then some (.fractional, after)
    else (wholeNumber? digits).map fun value => (.whole value, after)

/-- Reads a numeral, the text behind it as well. -/
def readNumeral? (text : List Char) : Option (Numeral × List Char) :=
  match text with
  | '0' :: c :: rest =>
    match base? c with
    | some (base, among) =>
      let (digits, after) := readGroups among rest
      if digits.isEmpty then none else some (.whole (valueIn base digits), after)
    | none => readDecimal? text
  | _ => readDecimal? text

/-- A numeral begins with a digit, or with a point and a digit. -/
def beginsNumeral : List Char → Bool
  | '.' :: rest => beginsWithDigit rest
  | text => beginsWithDigit text

/-- The bases, the groups, and what makes a number fractional or imaginary. -/
example :
    readNumeral? "0x_fF,".toList = some (.whole 255, [',']) ∧
      readNumeral? "1_000)".toList = some (.whole 1000, [')']) ∧
      readNumeral? "1e-3".toList = some (.fractional, []) ∧
      readNumeral? ".5j".toList = some (.imaginary, []) ∧
      readNumeral? "007".toList = none ∧ readNumeral? "0b".toList = none := by decide +kernel

end SearchBar.Console.Literal
