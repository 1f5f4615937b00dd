/-!
# Numerals

Decimal numerals in their shortest form, their values, and hexadecimal numerals
of a fixed width. A decimal numeral read back gives the number it was made from.
-/

namespace SearchBar.Text

/-- A decimal digit of ASCII. -/
def isDecimalDigit (c : Char) : Bool := decide ('0' ≤ c) && decide (c ≤ '9')

/-- A hexadecimal digit of ASCII, of either case. -/
def isHexDigit (c : Char) : Bool :=
  isDecimalDigit c || (decide ('a' ≤ c) && decide (c ≤ 'f')) ||
    (decide ('A' ≤ c) && decide (c ≤ 'F'))

/-- The number that a run of decimal digits stands for, leading zeros included. -/
def decimalValue (digits : List Char) : Nat := Nat.ofDigitChars 10 digits 0

/-- The largest number of digits that is still read as a number, leading zeros included. -/
def maximalDigits : Nat := 4300

/-- The shortest decimal numeral of a natural number. -/
def naturalNumeral (n : Nat) : String := Nat.repr n

/-- The shortest decimal numeral of an integer, a hyphen in front of it if it is negative. -/
def integerNumeral : Int → String
  | .ofNat n => naturalNumeral n
  | .negSucc n => "-" ++ naturalNumeral (n + 1)

/-- A character of the shortest numeral of an integer. -/
def isIntegerCharacter (c : Char) : Bool := c == '-' || isDecimalDigit c

/-- The integer that a run of decimal digits stands for, a hyphen in front of it if it is
negative. -/
def integerValue : List Char → Int
  | '-' :: digits => -(decimalValue digits : Int)
  | digits => decimalValue digits

/-- The decimal numeral of a natural number, with zeros in front up to a width. -/
def paddedNumeral (width n : Nat) : String :=
  let numeral := (naturalNumeral n).toList
  String.ofList (List.replicate (width - numeral.length) '0' ++ numeral)

/-- The value of one hexadecimal digit. -/
def hexDigitValue (c : Char) : Nat :=
  if isDecimalDigit c then c.toNat - 48
  else if c.toNat < 97 then c.toNat - 55
  else c.toNat - 87

/-- The number that a run of hexadecimal digits stands for. -/
def hexValue (digits : List Char) : Nat :=
  digits.foldl (fun value digit => 16 * value + hexDigitValue digit) 0

/-- The last `width` hexadecimal digits of a number, in lower case. -/
def hexNumeral : Nat → Nat → List Char
  | 0, _ => []
  | width + 1, n => hexNumeral width (n / 16) ++ [Nat.digitChar (n % 16)]

/-- The shortest numeral of a number has that number as its value. -/
theorem decimalValue_naturalNumeral (n : Nat) : decimalValue (naturalNumeral n).toList = n := by
  simp [decimalValue, naturalNumeral]

/-- A shortest numeral consists of decimal digits. -/
theorem isDecimalDigit_of_mem_naturalNumeral {n : Nat} {c : Char}
    (member : c ∈ (naturalNumeral n).toList) : isDecimalDigit c = true := by
  have digit : c.isDigit = true := by
    apply Nat.isDigit_of_mem_toDigits (b := 10) (by decide) (by decide)
    rwa [← Nat.toList_repr]
  simpa [Char.isDigit, isDecimalDigit, Char.le_def] using digit

/-- The shortest numeral of an integer has only such characters. -/
theorem isIntegerCharacter_of_mem_integerNumeral {value : Int} {c : Char}
    (member : c ∈ (integerNumeral value).toList) : isIntegerCharacter c = true := by
  rw [isIntegerCharacter, Bool.or_eq_true, beq_iff_eq]
  cases value with
  | ofNat n => exact Or.inr (isDecimalDigit_of_mem_naturalNumeral member)
  | negSucc n =>
    rw [integerNumeral, String.toList_append] at member
    rcases List.mem_append.mp member with sign | digit
    · exact Or.inl (List.mem_singleton.mp sign)
    · exact Or.inr (isDecimalDigit_of_mem_naturalNumeral digit)

/-- The shortest numeral of an integer has a character. -/
theorem integerNumeral_ne_nil (value : Int) : (integerNumeral value).toList ≠ [] := by
  cases value with
  | ofNat n => exact mt String.toList_eq_nil_iff.mp Nat.repr_ne_empty
  | negSucc n => simp [integerNumeral]

/-- Without a hyphen in front of it a run of digits stands for a natural number. -/
theorem integerValue_of_digits {digits : List Char}
    (run : ∀ c ∈ digits, isDecimalDigit c = true) : integerValue digits = decimalValue digits := by
  unfold integerValue
  split
  · exact absurd (run '-' List.mem_cons_self) (by decide)
  · rfl

/-- The shortest numeral of an integer has that integer as its value. -/
theorem integerValue_integerNumeral (value : Int) :
    integerValue (integerNumeral value).toList = value := by
  cases value with
  | ofNat n =>
    rw [integerNumeral, integerValue_of_digits fun c => isDecimalDigit_of_mem_naturalNumeral,
      decimalValue_naturalNumeral]
    rfl
  | negSucc n =>
    have signed : (integerNumeral (.negSucc n)).toList = '-' :: (naturalNumeral (n + 1)).toList := by
      rw [integerNumeral, String.toList_append]
      rfl
    rw [signed, integerValue, decimalValue_naturalNumeral]
    rfl

/-- A hexadecimal numeral has the width asked for. -/
theorem length_hexNumeral (width n : Nat) : (hexNumeral width n).length = width := by
  induction width generalizing n with
  | zero => rfl
  | succ width ih => simp [hexNumeral, ih]

/-- The last digit of a hexadecimal numeral counts once, the others sixteen times. -/
theorem hexValue_append (digits : List Char) (last : Char) :
    hexValue (digits ++ [last]) = 16 * hexValue digits + hexDigitValue last := by
  rw [hexValue, List.foldl_append]
  rfl

/-- A digit is read back from its character. -/
theorem hexDigitValue_digitChar : ∀ digit < 16, hexDigitValue (Nat.digitChar digit) = digit := by
  decide

/-- A digit is written as a hexadecimal digit. -/
theorem isHexDigit_digitChar : ∀ digit < 16, isHexDigit (Nat.digitChar digit) = true := by
  decide

/-- Four hexadecimal digits hold every number below 65536. -/
theorem hexValue_hexNumeral {n : Nat} (small : n < 0x10000) : hexValue (hexNumeral 4 n) = n := by
  have step : ∀ width n,
      hexValue (hexNumeral (width + 1) n) = 16 * hexValue (hexNumeral width (n / 16)) + n % 16 := by
    intro width n
    rw [hexNumeral, hexValue_append, hexDigitValue_digitChar _ (Nat.mod_lt n (by decide))]
  have none : ∀ n, hexValue (hexNumeral 0 n) = 0 := fun n => rfl
  rw [step, step, step, step, none]
  omega

/-- A hexadecimal numeral consists of hexadecimal digits. -/
theorem isHexDigit_of_mem_hexNumeral {width n : Nat} {c : Char}
    (member : c ∈ hexNumeral width n) : isHexDigit c = true := by
  induction width generalizing n with
  | zero => cases member
  | succ width ih =>
    rcases List.mem_append.mp member with front | last
    · exact ih front
    · rw [List.mem_singleton.mp last]
      exact isHexDigit_digitChar _ (Nat.mod_lt n (by decide))

end SearchBar.Text
