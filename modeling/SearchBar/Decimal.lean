import SearchBar.Text.Numerals

/-!
# Decimal fractions

Finite decimal fractions in lowest terms, and their text. The digits are written
out with a point if the first of them stands at most four places behind the
point or at most sixteen in front of it, and with an exponent otherwise.
-/

namespace SearchBar

open Text

/-- The number `mantissa / 10 ^ scale`. -/
structure Decimal where
  mantissa : Int
  scale : Nat
  deriving DecidableEq, Repr

namespace Decimal

/-- Takes factors of ten out of a fraction, at most as many as its scale. -/
def reduce (mantissa : Int) : Nat → Decimal
  | 0 => ⟨mantissa, 0⟩
  | scale + 1 => if mantissa % 10 = 0 then reduce (mantissa / 10) scale else ⟨mantissa, scale + 1⟩

/-- The fraction in lowest terms. -/
def ofScaled (mantissa : Int) (scale : Nat) : Decimal := reduce mantissa scale

/-- The text of significant digits that begin `point` places in front of the point. -/
def layout (digits : List Char) (point : Int) : String :=
  if point > 16 ∨ point < -3 then
    let exponent := point - 1
    let sign := if exponent < 0 then "-" else "+"
    let size := naturalNumeral exponent.natAbs
    let size := if size.length < 2 then "0" ++ size else size
    let fraction := if digits.length ≤ 1 then "" else "." ++ String.ofList (digits.drop 1)
    String.ofList (digits.take 1) ++ fraction ++ "e" ++ sign ++ size
  else if point ≤ 0 then
    "0." ++ String.ofList (List.replicate (-point).toNat '0' ++ digits)
  else
    let whole := digits.take point.toNat
    let zeros := List.replicate (point.toNat - whole.length) '0'
    let fraction := digits.drop point.toNat
    String.ofList (whole ++ zeros) ++ "." ++
      (if fraction.isEmpty then "0" else String.ofList fraction)

/-- The digits without the zeros behind them. -/
def dropFinalZeros (digits : List Char) : List Char :=
  (digits.reverse.dropWhile (· == '0')).reverse

/-- The text of a fraction, with at least one digit behind its point unless it has an exponent. -/
def text (decimal : Decimal) : String :=
  if decimal.mantissa = 0 then "0.0"
  else
    let digits := (naturalNumeral decimal.mantissa.natAbs).toList
    let point : Int := digits.length - decimal.scale
    (if decimal.mantissa < 0 then "-" else "") ++ layout (dropFinalZeros digits) point

end Decimal

end SearchBar
