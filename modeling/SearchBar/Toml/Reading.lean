import SearchBar.Toml.Scalars

/-!
# Reading configuration documents

A document is a sequence of statements, each on a line of its own: an
assignment, the header of a table, the header of an item of an array of tables,
or nothing. Arrays and inline tables may hold each other, so reading them is
bounded by a number that the length of the text keeps above every nesting.
-/

namespace SearchBar.Toml

open Text

/-- The text behind a comment, up to the line feed that ends it. -/
def skipComment : List Char → Except Fault (List Char)
  | '#' :: text =>
    if (text.takeWhile (· != '\n')).any isForbidden then malformed
    else .ok (text.dropWhile (· != '\n'))
  | text => .ok text

/-- The text behind spaces, line feeds and comments. -/
def skipFill (inComment : Bool) : List Char → Except Fault (List Char)
  | [] => .ok []
  | c :: rest =>
    if inComment then
      if c == '\n' then skipFill false rest
      else if isForbidden c then malformed
      else skipFill true rest
    else if isSpaceOrNewLine c then skipFill false rest
    else if c == '#' then skipFill true rest
    else .ok (c :: rest)

/-- A character of a key without marks. -/
def isBareKeyCharacter (c : Char) : Bool :=
  isDecimalDigit c || (decide ('a' ≤ c) && decide (c ≤ 'z')) ||
    (decide ('A' ≤ c) && decide (c ≤ 'Z')) || c == '-' || c == '_'

/-- Reads one name of a key. -/
def readName : List Char → Except Fault (String × List Char)
  | [] => malformed
  | c :: rest =>
    if c == quotationMark then
      (readBasic rest).map fun (characters, rest) => (String.ofList characters, rest)
    else if c == apostrophe then
      (readLiteral rest).map fun (characters, rest) => (String.ofList characters, rest)
    else if isBareKeyCharacter c then
      .ok (String.ofList (c :: rest.takeWhile isBareKeyCharacter),
        rest.dropWhile isBareKeyCharacter)
    else malformed

/-- Reads names with dots between them and the spaces behind them, at most `bound` names. -/
def readNames : Nat → List Char → Except Fault (Path × List Char)
  | 0, _ => malformed
  | bound + 1, text => do
    let (name, rest) ← readName text
    match skipSpaces rest with
    | '.' :: rest => do
      let (names, rest) ← readNames bound (skipSpaces rest)
      return (name :: names, rest)
    | rest => return ([name], rest)

/-- Reads a key and the spaces behind it. -/
def readKey (text : List Char) : Except Fault (Path × List Char) := readNames (text.length + 1) text

/-- An inline table that is being read, and the keys in it that are closed. -/
structure Inline where
  fields : Table := []
  closed : List Path := []

/-- Assigns a value to a key of an inline table. Only behind a further assignment is a table or an
array closed, for only then could one follow. -/
def Inline.assign (key : Path) (value : Value) (inline : Inline) : Option Inline :=
  if isWithin inline.closed key then none
  else do
    let fields ← inline.fields.change false key.dropLast (Table.define (key.getLast?.getD "") value)
    some ⟨fields, if value.isClosed then key :: inline.closed else inline.closed⟩

mutual

/-- Reads a value; the first argument bounds the nesting. -/
def readValue : Nat → List Char → Except Fault (Value × List Char)
  | 0, _ => malformed
  | bound + 1, text =>
    match text with
    | '[' :: rest => do
      let (items, rest) ← readItems bound (← skipFill false rest)
      return (.array items, rest)
    | '\x7b' :: rest =>
      match skipSpaces rest with
      | '\x7d' :: rest => .ok (.table [], rest)
      | rest => do
        let (inline, rest) ← readFields bound {} rest
        return (.table inline.fields, rest)
    | text => readScalar text

/-- Reads the items of an array and the bracket that closes it. -/
def readItems : Nat → List Char → Except Fault (List Value × List Char)
  | 0, _ => malformed
  | bound + 1, text =>
    match text with
    | ']' :: rest => .ok ([], rest)
    | text => do
      let (item, rest) ← readValue bound text
      match ← skipFill false rest with
      | ']' :: rest => return ([item], rest)
      | ',' :: rest => do
        let (items, rest) ← readItems bound (← skipFill false rest)
        return (item :: items, rest)
      | _ => malformed

/-- Reads the assignments of an inline table and the brace that closes it. -/
def readFields : Nat → Inline → List Char → Except Fault (Inline × List Char)
  | 0, _, _ => malformed
  | bound + 1, inline, text => do
    let (key, rest) ← readKey text
    match rest with
    | '=' :: rest => do
      let (value, rest) ← readValue bound (skipSpaces rest)
      match inline.assign key value with
      | none => malformed
      | some inline =>
        match skipSpaces rest with
        | '\x7d' :: rest => return (inline, rest)
        | ',' :: rest => readFields bound inline (skipSpaces rest)
        | _ => malformed
    | _ => malformed

end

/-- Reads an assignment. -/
def readAssignment (text : List Char) : Except Fault ((Path × Value) × List Char) := do
  let (key, rest) ← readKey text
  match rest with
  | '=' :: rest => do
    let (value, rest) ← readValue (2 * text.length + 2) (skipSpaces rest)
    return ((key, value), rest)
  | _ => malformed

/-- A statement that is out of place spoils the document. -/
def accepted (document? : Option Document) : Except Fault Document :=
  match document? with
  | some document => .ok document
  | none => malformed

/-- Reads the statement at the front of a line, which may be empty, into the document. -/
def readStatement (document : Document) (text : List Char) : Except Fault (Document × List Char) :=
  match text with
  | '[' :: '[' :: rest => do
    let (key, rest) ← readKey (skipSpaces rest)
    match rest with
    | ']' :: ']' :: rest => return (← accepted (document.openItem key), rest)
    | _ => malformed
  | '[' :: rest => do
    let (key, rest) ← readKey (skipSpaces rest)
    match rest with
    | ']' :: rest => return (← accepted (document.openTable key), rest)
    | _ => malformed
  | [] => .ok (document, [])
  | c :: rest =>
    if c == '\n' || c == '#' then .ok (document, c :: rest)
    else do
      let ((key, value), rest) ← readAssignment (c :: rest)
      return (← accepted (document.assign key value), rest)

/-- Reads statements to the end of the text, at most `bound` lines. -/
def readStatements : Nat → Document → List Char → Except Fault Document
  | 0, _, _ => malformed
  | bound + 1, document, text => do
    let (document, rest) ← readStatement document (skipSpaces text)
    match ← skipComment (skipSpaces rest) with
    | [] => return document
    | '\n' :: rest => readStatements bound document rest
    | _ => malformed

/-- The text with every pair of a carriage return and a line feed made one line feed. -/
def withLineFeeds : List Char → List Char
  | '\r' :: '\n' :: rest => '\n' :: withLineFeeds rest
  | c :: rest => c :: withLineFeeds rest
  | [] => []

/-- The table that a text describes. -/
def read (text : String) : Except Fault Table :=
  let text := withLineFeeds text.toList
  (readStatements (text.length + 1) {} text).map (·.root)

end SearchBar.Toml
