import SearchBar.Toml.Reader

/-!
# Configuration

The settings of the program, read from a configuration document and written to
one. A missing file means the default settings; a file that is there is checked
before it is used.
-/

namespace SearchBar

/-- The forms in which the program shows a query. -/
inductive OutputFormat
  | text
  | debug
  | json
  | table
  deriving DecidableEq, Repr

namespace OutputFormat

/-- The name of the form in settings and options. -/
def name : OutputFormat → String
  | text => "text"
  | debug => "debug"
  | json => "json"
  | table => "table"

/-- Every form. -/
def all : List OutputFormat := [text, debug, json, table]

/-- The form of this name. -/
def ofName? (name : String) : Option OutputFormat := all.find? (·.name == name)

end OutputFormat

/-- The settings. The name of the output format need not be one of a form until it is checked. -/
structure Config where
  /-- Whether colours are used on a terminal. -/
  coloredOutput : Bool := true
  /-- The name of the form in which queries are shown unless an option says otherwise. -/
  outputFormat : String := OutputFormat.text.name
  /-- Whether a failure is shown below the query. -/
  showPositions : Bool := true
  /-- The file that the settings come from. -/
  path : Option String := none
  deriving DecidableEq, Repr

/-- Why a configuration file cannot be used. What is wrong with a malformed document is told in the
words of its reader. -/
inductive ConfigFault
  | malformed (detail : String)
  | invalid (key : String) (value : Toml.Value) (reason : String)
  | notASection
  | notUnicode
  | tooManyDigits
  | tooDeep

/-- The fault in words, for a file with this path. Faults without words end the program. -/
def ConfigFault.message? (path : String) : ConfigFault → Option String
  | malformed detail => some ("Invalid config at " ++ path ++ ": " ++ detail)
  | invalid key _ reason => some ("Invalid config value for '" ++ key ++ "': " ++ reason)
  | notASection | notUnicode | tooManyDigits | tooDeep => none

/-- Whether a text holds another one somewhere. -/
def holds (part : List Char) : List Char → Bool
  | [] => part.isEmpty
  | c :: rest => part.isPrefixOf (c :: rest) || holds part rest

namespace Config

/-- The setting of this name in a section, if the section has it. A section that is no table may be
asked only if it is a text or an array, and only for a name that does not occur in it. -/
def setting? (part : Option Toml.Value) (name : String) :
    Except ConfigFault (Option Toml.Value) :=
  match part with
  | none => .ok none
  | some (.table fields) => .ok (fields.lookup name)
  | some (.string text) =>
    if holds name.toList text.toList then .error .notASection else .ok none
  | some (.array items) =>
    if items.any fun item => match item with
      | .string text => text == name
      | _ => false
    then .error .notASection else .ok none
  | some _ => .error .notASection

/-- A truth value in a section, or else the default. -/
def truth (key : String) (default : Bool) (found : Option Toml.Value) : Except ConfigFault Bool :=
  match found with
  | none => .ok default
  | some (.boolean value) => .ok value
  | some value => .error (.invalid key value "must be a boolean")

/-- A text in a section, or else the default. -/
def words (key : String) (default : String) (found : Option Toml.Value) :
    Except ConfigFault String :=
  match found with
  | none => .ok default
  | some (.string text) => .ok text
  | some value => .error (.invalid key value "must be a string")

/-- The settings that a document holds. -/
def ofTable (path : String) (document : Toml.Table) : Except ConfigFault Config := do
  let display := document.lookup "display"
  let coloredOutput ← truth "display.colored_output" true (← setting? display "colored_output")
  let output := document.lookup "output"
  let outputFormat ← words "output.format" OutputFormat.text.name (← setting? output "format")
  let showPositions ← truth "output.show_positions" true (← setting? output "show_positions")
  return { coloredOutput, outputFormat, showPositions, path := some path }

/-- The reason given for a name that is no output format. -/
def formatReason : String :=
  "must be one of " ++ ", ".intercalate (OutputFormat.all.map OutputFormat.name)

/-- The output format has to be one of the forms. -/
def check (config : Config) : Except ConfigFault Unit :=
  if (OutputFormat.ofName? config.outputFormat).isSome then .ok ()
  else .error (.invalid "output.format" (.string config.outputFormat) formatReason)

/-- The settings that a file of this path and content holds. -/
def ofContent (reader : Toml.Reader) (path : String) (content : ByteArray) :
    Except ConfigFault Config :=
  match String.fromUTF8? content with
  | none => .error .notUnicode
  | some text =>
    if reader.isTooDeep text then .error .tooDeep
    else
      match Toml.read text with
      | .error .malformed => .error (.malformed (reader.wording text))
      | .error .tooManyDigits => .error .tooManyDigits
      | .ok document => do
        let config ← ofTable path document
        config.check
        return config

/-- The settings and the warnings of a file that may be missing. -/
def load (reader : Toml.Reader) (path : String) (content? : Option ByteArray) :
    Except ConfigFault (Config × List String) :=
  match content? with
  | none => .ok ({}, ["No config file found at " ++ path ++ ". Using defaults."])
  | some content => (ofContent reader path content).map fun config => (config, [])

/-- The sections of the settings. Of the output section only what differs from the defaults is
kept, and nothing if nothing does. -/
def sections (config : Config) : List Toml.Section :=
  let format : List (String × Toml.Scalar) :=
    if config.outputFormat = OutputFormat.text.name then []
    else [("format", .string config.outputFormat)]
  let positions : List (String × Toml.Scalar) :=
    if config.showPositions then [] else [("show_positions", .boolean false)]
  let output := format ++ positions
  ⟨"display", [("colored_output", .boolean config.coloredOutput)]⟩ ::
    (if output.isEmpty then [] else [⟨"output", output⟩])

/-- The document in which the settings are saved. -/
def saved (config : Config) : String := Toml.write config.sections

end Config

/-- The files that settings are kept in. -/
structure Files where
  /-- The file that a path leads to. -/
  resolve : String → String
  /-- The path that is meant if none is given. -/
  usual : String
  /-- What a file holds, unless it is missing. -/
  content? : String → Option ByteArray

/-- The files with another content in one of them. -/
def Files.write (path : String) (content : ByteArray) (files : Files) : Files :=
  { files with
    content? := fun other => if other = path then some content else files.content? other }

namespace Config

/-- Loads the settings from the file of this path, or from the usual one. -/
def loadFrom (reader : Toml.Reader) (files : Files) (path? : Option String) :
    Except ConfigFault (Config × List String) :=
  let path := files.resolve (path?.getD files.usual)
  load reader path (files.content? path)

/-- Saves the settings to the file of this path, or else to the one that they come from, or else to
the usual one. -/
def saveTo (files : Files) (config : Config) (path? : Option String) : Files :=
  let path := files.resolve ((path?.or config.path).getD files.usual)
  files.write path config.saved.toUTF8

end Config

end SearchBar
