import SearchBar.Query.Reading

/-!
# Counts

Once a text has been read, its numerals become counts from left to right. The
first numeral that is too long to be a number, or that is above the largest
count, is the one reported.
-/

namespace SearchBar

open Text

/-- The number that a numeral stands for. -/
def Numeral.value (numeral : Numeral) : Nat := decimalValue numeral.digits.toList

/-- The count that a numeral stands for. -/
def Numeral.count (numeral : Numeral) : Except Failure Int :=
  if maximalDigits < numeral.digits.length then
    .error ⟨numeral.offset, .tooManyDigits numeral.digits.length⟩
  else if maximalCount < numeral.value then
    .error ⟨numeral.offset, .outOfRange numeral.digits⟩
  else .ok numeral.value

/-- The filter with its numerals read as counts. -/
def Filter.count (filter : Filter Numeral) : Except Failure (Filter Int) :=
  filter.mapM Numeral.count

end SearchBar
