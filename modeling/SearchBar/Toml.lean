/-!
# Configuration documents

A configuration document is a tree of tables. Tables and values may be defined
in several statements, and the rules of the format decide which statements go
together: a value is never replaced, a table is declared at most once, a table
that a dotted key made is closed to headers, and tables and arrays that are
written inline are closed altogether.
-/

namespace SearchBar.Toml

/-- A value of a document. Numbers with a fraction, dates and times are kept as they were written,
for no setting holds one. -/
inductive Value
  | string (text : String)
  | integer (value : Int)
  | boolean (value : Bool)
  | other (literal : String)
  | array (items : List Value)
  | table (fields : List (String × Value))
  deriving Inhabited

/-- The fields of a table in the order of their definition. -/
abbrev Table := List (String × Value)

/-- The names that lead from the root of a document to a value. -/
abbrev Path := List String

/-- Why a text is no document, or none that can be represented. -/
inductive Fault
  | malformed
  | tooManyDigits
  deriving DecidableEq, Repr

namespace Table

/-- The table with another value in the field of this name. -/
def replace (name : String) (value : Value) (fields : Table) : Table :=
  fields.map fun field => if field.1 = name then (name, value) else field

/-- The last item of an array, if it is a table, and the items in front of it. -/
def lastTable? (items : List Value) : Option (List Value × Table) :=
  match items.getLast? with
  | some (.table fields) => some (items.dropLast, fields)
  | _ => none

/-- Changes the table that a path leads to. Tables that are missing on the way are made; an array
on the way stands for its last table if arrays are entered, and any other value blocks the way. -/
def change (entersArrays : Bool) (path : Path) (act : Table → Option Table) (fields : Table) :
    Option Table :=
  match path with
  | [] => act fields
  | name :: path =>
    match fields.lookup name with
    | none => do
      let inner ← change entersArrays path act []
      some (fields ++ [(name, .table inner)])
    | some (.table inner) => do
      let inner ← change entersArrays path act inner
      some (replace name (.table inner) fields)
    | some (.array items) =>
      if entersArrays then do
        let (others, inner) ← lastTable? items
        let inner ← change entersArrays path act inner
        some (replace name (.array (others ++ [.table inner])) fields)
      else none
    | some _ => none

/-- Adds a field with a new name. -/
def define (name : String) (value : Value) (fields : Table) : Option Table :=
  if (fields.lookup name).isSome then none else some (fields ++ [(name, value)])

/-- Adds an empty table to an array of tables, which is made if it is missing. -/
def extend (name : String) (fields : Table) : Option Table :=
  match fields.lookup name with
  | none => some (fields ++ [(name, .array [.table []])])
  | some (.array items) => some (replace name (.array (items ++ [.table []])) fields)
  | some _ => none

end Table

namespace Value

/-- A table or an array that is written inline is closed to later statements. -/
def isClosed : Value → Bool
  | array _ | table _ => true
  | _ => false

end Value

/-- A path reaches into a closed value if one of the closed paths begins it. -/
def isWithin (closed : List Path) (path : Path) : Bool :=
  !path.isEmpty && closed.any fun start => start.isPrefixOf path

/-- A document that is being read, and what later statements may no longer touch. -/
structure Document where
  root : Table := []
  /-- The table that assignments belong to. -/
  header : Path := []
  /-- Tables that no header may declare. -/
  declared : List Path := []
  /-- Values that were written inline. -/
  closed : List Path := []
  /-- Tables made by dotted keys since the last header. -/
  dotted : List Path := []

namespace Document

/-- The document when a new header begins: tables made by dotted keys are declared now. -/
def atHeader (document : Document) : Document :=
  { document with declared := document.declared ++ document.dotted, dotted := [] }

/-- Declares a table and opens it for assignments. -/
def openTable (key : Path) (document : Document) : Option Document :=
  let document := document.atHeader
  if document.declared.contains key || isWithin document.closed key then none
  else do
    let root ← document.root.change true key some
    some { document with root, header := key, declared := key :: document.declared }

/-- Adds a table to an array of tables and opens it for assignments. What was said of earlier
tables of the array does not concern it. -/
def openItem (key : Path) (document : Document) : Option Document :=
  let document := document.atHeader
  if isWithin document.closed key then none
  else do
    let root ← document.root.change true key.dropLast (Table.extend (key.getLast?.getD ""))
    let outside := document.declared.filter fun path => !key.isPrefixOf path
    let closed := document.closed.filter fun path => !key.isPrefixOf path
    some { document with root, closed, header := key, declared := key :: outside }

/-- The tables that a dotted key passes through, from the outermost. -/
def passed (header key : Path) : List Path :=
  ((List.range key.length).drop 1).map fun count => header ++ key.take count

/-- Assigns a value to a key of the open table. -/
def assign (key : Path) (value : Value) (document : Document) : Option Document :=
  let through := passed document.header key
  let parent := document.header ++ key.dropLast
  if through.any document.declared.contains || isWithin document.closed parent then none
  else do
    let root ← document.root.change true parent (Table.define (key.getLast?.getD "") value)
    let closed := if value.isClosed then (document.header ++ key) :: document.closed
      else document.closed
    some { document with root, closed, dotted := document.dotted ++ through }

end Document

end SearchBar.Toml
