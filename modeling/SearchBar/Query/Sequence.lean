import SearchBar.Query.Faithful

/-!
# Sequences of filters

The filters of a query stand one behind the other with blank characters between
them; blank characters around them are ignored. Reading goes from left to right
and stops at the first place where no filter can be read.
-/

namespace SearchBar

open Text

/-- The same numeral in a text with so many more characters in front. -/
def Numeral.shift (offset : Nat) (numeral : Numeral) : Numeral :=
  { numeral with offset := offset + numeral.offset }

/-- A filter that starts solid and is followed by a blank has taken some of the text. -/
theorem rest_length_lt {text : List Char} {reading : Reading (Filter Numeral)} {c : Char}
    {tail : List Char} (read : readFilter (dropBlank text) = .ok reading)
    (following : reading.rest = c :: tail) (blank : isBlank c = true) :
    reading.rest.length < text.length := by
  have whole := readFilter_eq read
  have fewer : (dropBlank text).length ≤ text.length :=
    (List.dropWhile_suffix isBlank).length_le
  have solid := List.head?_dropWhile_not isBlank text
  cases typed : reading.value.typed.toList with
  | nil =>
    rw [typed, following, List.nil_append] at whole
    rw [dropBlank] at whole
    simp [whole, blank] at solid
  | cons first others =>
    rw [typed] at whole
    have lengths := congrArg List.length whole
    simp only [List.length_append, List.length_cons] at lengths
    omega

/-- Reads filters to the end of the text, given how many characters are in front. -/
def readFilters (offset : Nat) (text : List Char) : Except Failure (List (Filter Numeral)) :=
  if (dropBlank text).isEmpty then .ok []
  else
    let start := offset + (text.length - (dropBlank text).length)
    match _read : readFilter (dropBlank text) with
    | .error failure => .error (failure.shift start)
    | .ok reading =>
      let filter := reading.value.map (Numeral.shift start)
      let stop := offset + (text.length - reading.rest.length)
      match following : reading.rest with
      | [] => .ok [filter]
      | c :: tail =>
        if blank : isBlank c then (readFilters stop (c :: tail)).map (filter :: ·)
        else unexpected stop (reading.extensions ++ [.blank])
termination_by text.length
decreasing_by
  rw [← following]
  exact rest_length_lt _read following blank

end SearchBar
