import SearchBar.Filter
import SearchBar.Keyword
import SearchBar.Query.Failure
import SearchBar.Text.Blank
import SearchBar.Text.Identifier
import SearchBar.Text.Quoted

/-!
# Reading filters

One filter is read from the front of a text, as far as it reaches. Each step
takes the longest run of its class, so the text that follows is never looked at
again. Positions count from the front of the filter. Counts stay as they were
typed: whether they are numbers from 0 to 255 is asked after the whole text has
been read.
-/

namespace SearchBar

open Text

/-- A run of decimal digits as it was typed, and the number of characters in front of it. -/
structure Numeral where
  offset : Nat
  digits : String
  deriving DecidableEq, Repr

/-- A bound that can be read: its terminal, and what its longest form at the front of a text is. -/
structure BoundForm (α : Type) where
  terminal : Terminal
  /-- The bound and the text behind it, given how many characters are in front. -/
  read : Nat → List Char → Option (α × List Char)

/-- The run of characters at the front of a text, if it has one. -/
def readRun (first following : Char → Bool) : List Char → Option (List Char × List Char)
  | [] => none
  | c :: rest =>
    if first c then some (c :: rest.takeWhile following, rest.dropWhile following) else none

/-- Counts are runs of digits. -/
def countForm : BoundForm Numeral where
  terminal := .count
  read offset text := (readRun isDecimalDigit isDecimalDigit text).map fun (digits, rest) =>
    (⟨offset, String.ofList digits⟩, rest)

/-- Dates are runs of date characters. -/
def dateForm : BoundForm DateText where
  terminal := .date
  read _ text := DateText.read text

/-- A character with which a bound of a text range may begin. -/
def opensTextBound (c : Char) : Bool := isSolid c && c != '.' && c != '<' && c != '>'

/-- A character that a bound of a text range may hold further on. -/
def continuesTextBound (c : Char) : Bool := isSolid c && c != '.'

/-- Bounds of text ranges end at a blank or a full stop. -/
def textForm : BoundForm String where
  terminal := .value
  read _ text := (readRun opensTextBound continuesTextBound text).map fun (bound, rest) =>
    (String.ofList bound, rest)

/-- The comparison at the front of a text, in its longest form. -/
def Comparison.read : List Char → Option (Comparison × List Char)
  | '<' :: '=' :: rest => some (atMost, rest)
  | '<' :: rest => some (less, rest)
  | '>' :: '=' :: rest => some (atLeast, rest)
  | '>' :: rest => some (greater, rest)
  | _ => none

/-- A value read from the front of a text, what could have made it longer, and the rest. -/
structure Reading (α : Type) where
  value : α
  extensions : List Terminal
  rest : List Char

/-- The same reading of another value. -/
def Reading.map {α β : Type} (f : α → β) (reading : Reading α) : Reading β :=
  ⟨f reading.value, reading.extensions, reading.rest⟩

/-- Something else was expected behind so many characters. -/
def unexpected {α : Type} (offset : Nat) (expected : List Terminal) : Except Failure α :=
  .error ⟨offset, .unexpected expected⟩

/-- Reads a range. A single bound could have been made longer into an interval. -/
def readRange {α : Type} (form : BoundForm α) (offset : Nat) (text : List Char) :
    Except Failure (Reading (Range α)) :=
  match Comparison.read text with
  | some (comparison, rest) =>
    let place := offset + comparison.symbol.length
    match form.read place rest with
    | some (bound, rest) => .ok ⟨.compared comparison bound, [], rest⟩
    | none => unexpected place [form.terminal]
  | none =>
    match form.read offset text with
    | some (lower, '.' :: '.' :: rest) =>
      let place := offset + (text.length - rest.length)
      match form.read place rest with
      | some (upper, rest) => .ok ⟨.between lower upper, [], rest⟩
      | none => unexpected place [form.terminal]
    | some (value, rest) => .ok ⟨.exactly value, [.rangeSeparator], rest⟩
    | none => unexpected offset [.comparator, form.terminal]

/-- The number of characters of a user identifier. -/
def userIdLength : Nat := 36

/-- A character of a user identifier. -/
def isUserIdCharacter (c : Char) : Bool := isHexDigit c || c == '-'

/-- The first of the given words that stands at the front of a text, and the text behind it. -/
def readLiteral {α : Type} (choices : List (String × α)) (text : List Char) :
    Option (α × List Char) :=
  (choices.find? fun choice => choice.1.toList.isPrefixOf text).map fun choice =>
    (choice.2, text.drop choice.1.length)

/-- The states of a draft qualifier as they are written. -/
def tristateChoices : List (String × Tristate) := [("true", .yes), ("false", .no), ("only", .only)]

/-- The truth values as they are written. -/
def boolChoices : List (String × Bool) := [("true", true), ("false", false)]

/-- Reads the value of a draft qualifier. -/
def readDraft (offset : Nat) (text : List Char) : Except Failure (Reading (Filter Numeral)) :=
  match readLiteral tristateChoices text with
  | some (state, rest) => .ok ⟨.draft state, [], rest⟩
  | none => unexpected offset [.truthValue, .only]

/-- Reads an identifier, which may be empty and could then have been made longer. -/
def readIdentifier (text : List Char) : Reading String :=
  let name := text.takeWhile isIdentifierCharacter
  ⟨String.ofList name, if name.isEmpty then [.identifier] else [],
    text.dropWhile isIdentifierCharacter⟩

/-- Reads the author behind a creator qualifier. -/
def readCreator (offset : Nat) (text : List Char) : Except Failure (Reading (Filter Numeral)) :=
  match text with
  | '@' :: name =>
    match readRun isSolid isSolid name with
    | some (name, rest) => .ok ⟨.creator (.username (String.ofList name)), [], rest⟩
    | none => unexpected offset [.username, .userId]
  | _ =>
    let value := text.take userIdLength
    if value.length = userIdLength ∧ value.all isUserIdCharacter then
      .ok ⟨.creator (.userId (String.ofList value)), [], text.drop userIdLength⟩
    else unexpected offset [.username, .userId]

/-- Reads the truth value of a property. -/
def readPropertyValue (propertyKind id : String) (offset : Nat) (text : List Char) :
    Except Failure (Reading (Filter Numeral)) :=
  match readLiteral boolChoices text with
  | some (value, rest) => .ok ⟨.property propertyKind id value, [], rest⟩
  | none => unexpected offset [.truthValue]

/-- Reads what stands behind a properties qualifier: a kind with a count, or a kind, an
identifier and a truth value. -/
def readProperties (offset : Nat) (text : List Char) :
    Except Failure (Reading (Filter Numeral)) :=
  let kind := readIdentifier text
  let place := offset + kind.value.length
  match kind.rest with
  | ':' :: rest =>
    (readRange countForm (place + 1) rest).map (·.map (.propertyCount kind.value))
  | '/' :: rest =>
    let id := readIdentifier rest
    let place := place + 1 + id.value.length
    match id.rest with
    | ':' :: rest => readPropertyValue kind.value id.value (place + 1) rest
    | _ => unexpected place (id.extensions ++ [.colon])
  | _ => unexpected place (kind.extensions ++ [.colon, .slash])

/-- Reads the value of a qualifier. -/
def readQualifier (keyword : Keyword) (offset : Nat) (text : List Char) :
    Except Failure (Reading (Filter Numeral)) :=
  match keyword with
  | .draft => readDraft offset text
  | .kind => .ok ((readIdentifier text).map .kind)
  | .category => .ok ((readIdentifier text).map .category)
  | .creator => readCreator offset text
  | .created => (readRange dateForm offset text).map (·.map .created)
  | .images => (readRange countForm offset text).map (·.map .images)
  | .properties => readProperties offset text

/-- What may stand at the front of a filter. -/
def filterStart : List Terminal := [.keyword, .quotedString, .word]

/-- Reads a phrase behind its opening quotation mark, up to the closing one. -/
def readPhrase (text : List Char) : Except Failure (Reading (Filter Numeral)) :=
  match text.dropWhile (· != quotationMark) with
  | [] => .error ⟨0, .unterminatedQuote⟩
  | _ :: rest =>
    .ok ⟨.quoted (String.ofList (text.takeWhile (· != quotationMark))), [], rest⟩

/-- Reads one filter from the front of a text. -/
def readFilter (text : List Char) : Except Failure (Reading (Filter Numeral)) :=
  match Keyword.at? text with
  | some keyword =>
    readQualifier keyword keyword.characters.length (text.drop keyword.characters.length)
  | none =>
    match text with
    | [] => unexpected 0 filterStart
    | c :: rest =>
      if c == quotationMark then readPhrase rest
      else if isBlank c then unexpected 0 filterStart
      else .ok ⟨.word (String.ofList (c :: rest.takeWhile isSolid)), [], rest.dropWhile isSolid⟩

end SearchBar
