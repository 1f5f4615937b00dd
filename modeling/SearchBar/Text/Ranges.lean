/-!
# Classes of characters

A class of characters is a list of closed ranges of code points. The tables of
the library are such lists, and membership is one comparison per range.
-/

namespace SearchBar.Text

/-- A class of characters, as closed ranges of code points. -/
abbrev Ranges := List (Nat × Nat)

/-- Membership in one closed range of code points. -/
def inRange (c : Char) (range : Nat × Nat) : Bool :=
  decide (range.1 ≤ c.toNat) && decide (c.toNat ≤ range.2)

/-- Membership in any range of the class. -/
def Ranges.has (ranges : Ranges) (c : Char) : Bool := ranges.any (inRange c)

/-- A character belongs to a class exactly if one of its ranges covers it. -/
theorem Ranges.has_iff (ranges : Ranges) (c : Char) :
    ranges.has c = true ↔ ∃ range ∈ ranges, range.1 ≤ c.toNat ∧ c.toNat ≤ range.2 := by
  simp [Ranges.has, inRange]

end SearchBar.Text
