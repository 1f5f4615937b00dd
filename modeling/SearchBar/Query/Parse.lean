import SearchBar.Query.Counts
import SearchBar.Query.Sequence

/-!
# Reading queries, filters and ranges

The three readers of the library. A query is a sequence of filters, a filter or
a range is the whole text. All three report the first failure of the text they
were given; there is no partial result.
-/

namespace SearchBar

open Text

/-- Reads a whole text as a query. -/
def readQuery (text : List Char) : Except Failure Query := do
  let filters ← readFilters 0 text
  let filters ← filters.mapM Filter.count
  return ⟨filters⟩

/-- Reads a whole text as one filter over its numerals. A blank behind the filter is read but
cannot be used. -/
def readSingleFilter (text : List Char) : Except Failure (Filter Numeral) := do
  let reading ← readFilter text
  let stop := text.length - reading.rest.length
  match reading.rest with
  | [] => return reading.value
  | c :: _ =>
    if isBlank c then unexpected stop [] else unexpected stop (reading.extensions ++ [.blank])

/-- Reads a whole text as a range over bounds that are texts. -/
def readTextRange (text : List Char) : Except Failure (Range String) := do
  let reading ← readRange textForm 0 text
  let stop := text.length - reading.rest.length
  match reading.rest, reading.extensions with
  | [], _ => return reading.value
  | _, [] => unexpected stop [.endOfText]
  | _, extensions => unexpected stop extensions

/-- A failure reported together with its text. -/
def reported {α : Type} (text : String) (outcome : Except Failure α) : Except ParseError α :=
  outcome.mapError (Failure.toError text)

/-- The query that a text means. Blank characters around it are ignored, and a blank text means
the empty query. -/
def parseQuery (text : String) : Except ParseError Query := reported text (readQuery text.toList)

/-- The filter that a text means; blank characters around it are an error. -/
def parseFilter (text : String) : Except ParseError (Filter Int) :=
  reported text (readSingleFilter text.toList >>= Filter.count)

/-- The range over texts that a text means. -/
def parseRange (text : String) : Except ParseError (Range String) :=
  reported text (readTextRange text.toList)

/-- Whether a text means a query. -/
def isQuery (text : String) : Bool := (parseQuery text).isOk

end SearchBar
