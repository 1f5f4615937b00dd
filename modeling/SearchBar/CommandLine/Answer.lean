import SearchBar.CommandLine.Request
import SearchBar.Console.Table
import SearchBar.Filter.Record
import SearchBar.Filter.Tagged
import SearchBar.Filter.Written
import SearchBar.Query.Parse

/-!
# The answers of the program

What the program prints for a request, and the status it ends with. A text that
means no query is reported with status 1, as is a configuration that does not
say what it should; arguments that make no sense end the program with status 2
before it prints anything.
-/

namespace SearchBar.CommandLine

open Text

/-- What one run prints and the status it ends with. -/
structure Report where
  status : Nat := 0
  output : String := ""
  errors : String := ""
  deriving DecidableEq, Repr

/-- The report with more text in front of its errors. -/
def Report.after (errors : String) (report : Report) : Report :=
  { report with errors := errors ++ report.errors }

/-- Why a run ends without a report. -/
inductive Stop
  | misuse (fault : UsageFault)
  | brokenMarkup (fault : Console.MarkupFault)
  | brokenConfig (fault : ConfigFault)

/-- A run ends with a report, or stops. -/
abbrev Answer := Except Stop Report

/-- Arguments that make no sense stop a run. -/
def understood {α : Type} (outcome : Except UsageFault α) : Except Stop α :=
  outcome.mapError .misuse

/-- Markup that cannot be shown stops a run. -/
def displayed (outcome : Except Console.MarkupFault String) : Except Stop String :=
  outcome.mapError .brokenMarkup

/-- The settings of a run and its configuration. -/
structure Session where
  settings : RunSettings
  config : Config
  deriving DecidableEq, Repr

/-- The columns of the table of filters. -/
def filterColumns : List Console.Column :=
  [{ title := "#", alignment := .right }, { title := "Qualifier" }, { title := "Value" },
    { title := "Debug" }]

/-- The qualifier of a filter and what it asks of it. Words and phrases have no qualifier. -/
def qualifiedParts : Filter Int → String × String
  | .word text => ("", text)
  | filter =>
    let written := filter.written.toList
    if written.head? = some quotationMark then ("", String.ofList written)
    else
      (String.ofList (written.takeWhile (· != ':')),
        String.ofList ((written.dropWhile (· != ':')).drop 1))

/-- The row of a filter, with the number of filters in front of it. -/
def filterRow (place : Nat) (filter : Filter Int) : List String :=
  [naturalNumeral (place + 1), (qualifiedParts filter).1, (qualifiedParts filter).2, filter.tagged]

/-- A query in one of the forms. -/
def display (query : Query) : OutputFormat → Except Stop String
  | .text => .ok (Console.echo query.written)
  | .debug => .ok (Console.echo query.tagged)
  | .json => .ok (query.record.text ++ "\n")
  | .table => displayed (Console.shownTable filterColumns (query.filters.mapIdx filterRow))

/-- The line about a failure, and the query with a caret below the place if positions are shown.
The wording of a failure holds neither markup nor codes. A terminal is wide enough for every
line. -/
def failureLines (showPositions : Bool) (error : ParseError) : String :=
  "Error: Invalid search query: " ++ error.detail ++ " (position " ++
    integerNumeral error.position ++ ")\n" ++
    if showPositions then
      Console.shownText ("  " ++ error.query).toList ++
        Console.shownText (Console.spaces (2 + error.position.toNat) ++ ['^'])
    else ""

/-- The line that tells what is going to be read. -/
def announcement (single : Bool) (text : String) : Except Stop String :=
  (displayed (Console.shownMarkup
    ("Parsing " ++ quoted text ++ " as " ++ if single then "a filter" else "a query"))).map
    ("[DEBUG] " ++ ·)

/-- The line that tells how a text was read; nothing is told of a blank text. -/
def trace (text : String) (outcome : Except ParseError Query) : String :=
  if text.toList.all isBlank then ""
  else
    "DEBUG monkimap_search.search.parser: " ++
      match outcome with
      | .ok query =>
        "Parsed " ++ naturalNumeral query.filters.length ++ " filter(s) from " ++ quoted text ++ "\n"
      | .error error =>
        "Rejected query " ++ quoted text ++ " at " ++ integerNumeral error.position ++ ": " ++
          error.detail ++ "\n"

/-- What is told of a query that was read, if the run is to be debugged. -/
def Session.trace (session : Session) (text : String) (outcome : Except ParseError Query) :
    String :=
  if session.settings.debug then CommandLine.trace text outcome else ""

/-- The warnings, if the run is talkative and not to be quiet. -/
def warningLines (settings : RunSettings) (warnings : List String) : Except Stop String :=
  if settings.isTalkative && !settings.quiet then do
    let lines ← warnings.mapM fun warning => displayed (Console.shownMarkup ("Warning: " ++ warning))
    return String.join lines
  else .ok ""

/-- Shows a query, or reports why the text is none. -/
def Session.parse (session : Session) (format : OutputFormat) (single : Bool) (text : String) :
    Answer := do
  let announced ← if session.settings.debug then announcement single text else .ok ""
  let outcome := if single then (parseFilter text).map fun filter => ⟨[filter]⟩ else parseQuery text
  let errors := announced ++ if single then "" else session.trace text outcome
  match outcome with
  | .error error =>
    return { status := 1, errors := errors ++ failureLines session.config.showPositions error }
  | .ok query => return { output := ← display query format, errors }

/-- Tells whether a text is a query. -/
def Session.validate (session : Session) (text : String) : Report :=
  let outcome := parseQuery text
  let quiet := session.settings.quiet
  let report : Report :=
    match outcome with
    | .error error =>
      { status := 1, errors := if quiet then "" else failureLines session.config.showPositions error }
    | .ok _ => { output := if quiet then "" else "Valid query\n" }
  report.after (session.trace text outcome)

/-- The form that is used when no option names one. -/
def Session.format (session : Session) : OutputFormat :=
  (OutputFormat.ofName? session.config.outputFormat).getD .text

/-- The text of the help. -/
def helpText : String := "Usage: monkimap-search [OPTIONS] parse|validate [ARGUMENTS]\n"

/-- The text of the version. -/
def versionText : String := "monkimap-search, version 0.1.0\n"

/-- Does what a command is to do. -/
def Session.perform (session : Session) : Task → Answer
  | .help => .ok { output := helpText }
  | .parse format? single text => session.parse (format?.getD session.format) single text
  | .validate text => .ok (session.validate text)

/-- The report of a configuration that cannot be used. A fault that is not told in words stops the
run. -/
def configReport (path : String) (fault : ConfigFault) : Answer :=
  match fault.message? path with
  | some message =>
    (displayed (Console.shownMarkup ("Error: " ++ message))).map fun errors =>
      { status := 1, errors }
  | none => .error (.brokenConfig fault)

/-- Runs a command with the configuration file of this path and content. The configuration is read
before the arguments of the command. -/
def runCommand (reader : Toml.Reader) (settings : RunSettings) (command : CommandName)
    (arguments : List String) (path : String) (content? : Option ByteArray) : Answer :=
  match Config.load reader path content? with
  | .error fault => configReport path fault
  | .ok (config, warnings) => do
    let warned ← warningLines settings warnings
    let task ← understood (Task.ofArguments command arguments)
    let report ← Session.perform ⟨settings, config⟩ task
    return report.after warned

/-- Answers a request, given the path and the content of the configuration file. -/
def Request.answer (reader : Toml.Reader) (path : String) (content? : Option ByteArray) :
    Request → Answer
  | .version => .ok { output := versionText }
  | .help => .ok { output := helpText }
  | .run settings command arguments => runCommand reader settings command arguments path content?

end SearchBar.CommandLine
