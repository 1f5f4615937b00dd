import SearchBar.CommandLine.Arguments
import SearchBar.Config

/-!
# What a command line asks for

Options of the program come first, then the name of a command and the arguments
of the command. The arguments of a command are read only when it runs, for the
configuration comes before them.
-/

namespace SearchBar.CommandLine

/-- The options of the program. -/
inductive ProgramOption
  | config
  | noColor
  | verbose
  | debug
  | quiet
  | version
  | help
  deriving DecidableEq, Repr

/-- The names of the options of the program. -/
def programRules : List (OptionRule ProgramOption) := [
  { key := .config, long := "config", short? := some 'c', takesValue := true },
  { key := .noColor, long := "no-color" },
  { key := .verbose, long := "verbose", short? := some 'v' },
  { key := .debug, long := "debug" },
  { key := .quiet, long := "quiet", short? := some 'q' },
  { key := .version, long := "version" },
  { key := .help, long := "help" }
]

/-- The settings of one run. -/
structure RunSettings where
  /-- The file of the configuration, if it is not the usual one. -/
  configPath? : Option String := none
  noColor : Bool := false
  verbose : Bool := false
  debug : Bool := false
  quiet : Bool := false
  deriving DecidableEq, Repr

/-- The settings after one more option. The last value of an option counts. -/
def RunSettings.apply (settings : RunSettings) (given : Given ProgramOption) : RunSettings :=
  match given.key with
  | .config => { settings with configPath? := given.value? }
  | .noColor => { settings with noColor := true }
  | .verbose => { settings with verbose := true }
  | .debug => { settings with debug := true }
  | .quiet => { settings with quiet := true }
  | .version | .help => settings

/-- A run is talkative if it is to be verbose or to be debugged. -/
def RunSettings.isTalkative (settings : RunSettings) : Bool := settings.verbose || settings.debug

/-- The commands. -/
inductive CommandName
  | parse
  | validate
  deriving DecidableEq, Repr

/-- The command of this name. -/
def CommandName.ofText? (name : String) : Option CommandName :=
  if name = "parse" then some .parse else if name = "validate" then some .validate else none

/-- What a command line asks for. -/
inductive Request
  | version
  | help
  | run (settings : RunSettings) (command : CommandName) (arguments : List String)
  deriving DecidableEq, Repr

/-- The configuration file that a request names. -/
def Request.configPath? : Request → Option String
  | run settings _ _ => settings.configPath?
  | version | help => none

/-- The version and the help are shown whatever else is asked for; of the two, the first wins. -/
def information? (options : List (Given ProgramOption)) : Option Request :=
  options.findSome? fun given =>
    match given.key with
    | .version => some .version
    | .help => some .help
    | _ => none

/-- The request of arguments that begin with no command. They may be options behind the end of the
options, and then those that ask for information still count. -/
def withoutCommand (name : String) (rest : List String) : Except UsageFault Request := do
  let arguments ← readArguments programRules false (name :: rest)
  match information? arguments.options with
  | some request => return request
  | none => .error (.noSuchCommand name)

/-- Reads a command line. -/
def Request.ofArguments (arguments : List String) : Except UsageFault Request := do
  let arguments ← readArguments programRules false arguments
  match information? arguments.options, arguments.operands with
  | some request, _ => return request
  | none, [] => .error .missingCommand
  | none, name :: rest =>
    match CommandName.ofText? name with
    | some command => return .run (arguments.options.foldl RunSettings.apply {}) command rest
    | none => withoutCommand name rest

/-- The options of the commands. -/
inductive TaskOption
  | format
  | single
  | help
  deriving DecidableEq, Repr

/-- The names of the options of a command. -/
def CommandName.rules : CommandName → List (OptionRule TaskOption)
  | parse => [
      { key := .format, long := "format", short? := some 'f', takesValue := true },
      { key := .single, long := "filter" },
      { key := .help, long := "help" }
    ]
  | validate => [{ key := .help, long := "help" }]

/-- What a command is to do. -/
inductive Task
  | help
  | parse (format? : Option OutputFormat) (single : Bool) (text : String)
  | validate (text : String)
  deriving DecidableEq, Repr

/-- The format that the options name last, if they name one. -/
def formatOf (options : List (Given TaskOption)) : Except UsageFault (Option OutputFormat) :=
  match (options.filterMap fun given =>
      if given.key = .format then given.value? else none).getLast? with
  | none => .ok none
  | some name =>
    match OutputFormat.ofName? name with
    | some format => .ok (some format)
    | none => .error (.noSuchFormat name)

/-- Whether an option is given. -/
def isGiven (key : TaskOption) (options : List (Given TaskOption)) : Bool :=
  options.any fun given => given.key == key

/-- Reads the arguments of a command. The operands, one space between any two, are its text. -/
def Task.ofArguments (command : CommandName) (arguments : List String) :
    Except UsageFault Task := do
  let arguments ← readArguments command.rules true arguments
  let text := " ".intercalate arguments.operands
  if isGiven .help arguments.options then return .help
  match command with
  | .parse => return .parse (← formatOf arguments.options) (isGiven .single arguments.options) text
  | .validate => return .validate text

end SearchBar.CommandLine
