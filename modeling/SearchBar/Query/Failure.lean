import SearchBar.Text.Numerals

/-!
# Failures of reading

A text that is no query fails at one place, for one reason: something else was
expected there, a quotation mark opens a phrase that is never closed, or a count
is no number from 0 to 255. The wording of every reason is in this module.
-/

namespace SearchBar

/-- What a reader may ask for at some place of a text. -/
inductive Terminal
  | keyword
  | quotedString
  | word
  | identifier
  | truthValue
  | only
  | username
  | userId
  | comparator
  | count
  | date
  | value
  | blank
  | colon
  | slash
  | rangeSeparator
  | endOfText
  deriving DecidableEq, Repr

/-- The terminal in words. The end of a range has no description of its own. -/
def Terminal.description : Terminal → String
  | keyword => "a qualifier keyword"
  | quotedString => "a quoted string"
  | word => "a word"
  | identifier => "an identifier"
  | truthValue => "'true' or 'false'"
  | only => "'only'"
  | username => "an @username"
  | userId => "a 36-character user id"
  | comparator => "a comparison operator"
  | count => "a number from 0 to 255"
  | date => "a date"
  | value => "a value"
  | blank => "whitespace"
  | colon => "':'"
  | slash => "'/'"
  | rangeSeparator => "'..'"
  | endOfText => "<END-OF-FILE>"

/-- Puts a text into a list in ascending order, unless the list holds it. -/
def insertAscending (text : String) : List String → List String
  | [] => [text]
  | first :: rest =>
    if text < first then text :: first :: rest
    else if text = first then first :: rest
    else first :: insertAscending text rest

/-- The descriptions of some terminals in ascending order, each once. -/
def descriptions (terminals : List Terminal) : List String :=
  terminals.foldr (fun terminal found => insertAscending terminal.description found) []

/-- The largest count. -/
def maximalCount : Nat := 255

/-- Why a text is no query. -/
inductive Cause
  | unexpected (expected : List Terminal)
  | unterminatedQuote
  | outOfRange (digits : String)
  | tooManyDigits (number : Nat)
  deriving DecidableEq, Repr

/-- What would have been accepted, in words. -/
def Cause.expected : Cause → List String
  | unexpected terminals => descriptions terminals
  | unterminatedQuote => ["a closing '\"'"]
  | outOfRange _ => []
  | tooManyDigits _ => []

/-- The wording for what was expected and not found. -/
def expectationDetail (expected : List String) : String :=
  if expected.isEmpty then "unexpected input" else "expected " ++ " or ".intercalate expected

/-- The reason in words. -/
def Cause.detail : Cause → String
  | unexpected terminals => expectationDetail (descriptions terminals)
  | unterminatedQuote => "unterminated quoted string"
  | outOfRange digits => digits ++ " is out of range (0-" ++ Text.naturalNumeral maximalCount ++ ")"
  | tooManyDigits number =>
    "Exceeds the limit (" ++ Text.naturalNumeral Text.maximalDigits ++
      " digits) for integer string conversion: value has " ++ Text.naturalNumeral number ++
      " digits; use sys.set_int_max_str_digits() to increase the limit"

/-- A reason and the number of characters in front of the place it concerns. -/
structure Failure where
  position : Nat
  cause : Cause
  deriving DecidableEq, Repr

/-- The same failure in a text with so many more characters in front. -/
def Failure.shift (offset : Nat) (failure : Failure) : Failure :=
  { failure with position := offset + failure.position }

/-- A failure as it is reported, together with the whole text. -/
structure ParseError where
  query : String
  position : Int
  expected : List String
  detail : String
  deriving DecidableEq, Repr

namespace ParseError

/-- The report with the given detail, or else with the wording for what was expected. -/
def report (query : String) (position : Int) (expected : List String) (detail? : Option String) :
    ParseError :=
  ⟨query, position, expected, detail?.getD (expectationDetail expected)⟩

/-- The report in one line. -/
def message (error : ParseError) : String :=
  "Failed to parse search query '" ++ error.query ++ "' at position " ++
    Text.integerNumeral error.position ++ ": " ++ error.detail

end ParseError

/-- The report of a failure in a text. -/
def Failure.toError (query : String) (failure : Failure) : ParseError :=
  ⟨query, failure.position, failure.cause.expected, failure.cause.detail⟩

end SearchBar
