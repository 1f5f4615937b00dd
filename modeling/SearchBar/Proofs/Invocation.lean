import SearchBar.CommandLine.Answer

/-!
# What a command line is read as

The options in front of a command, the command, its options, and behind the end
of the options the words of a text: such a command line is read as a run of the
command on that text, whatever the text is. The options are read from left to
right, so that it does not matter what stands behind them.

Main statement: what the program answers is what the command answers with the
settings, the configuration and the text (`answered_run`).
-/

namespace SearchBar.CommandLine

variable {Key : Type} {reader : Toml.Reader}

/-- The arguments are options, each with its value if it takes one, and give what is listed. -/
inductive OptionsOnly (rules : List (OptionRule Key)) : List String → List (Given Key) → Prop
  | nil : OptionsOnly rules [] []
  | complete {argument : String} {rest : List String} {given others : List (Given Key)}
    (option : argument ≠ endOfOptions)
    (read : readOption? rules argument = some (.ok ⟨given, none⟩))
    (behind : OptionsOnly rules rest others) :
    OptionsOnly rules (argument :: rest) (given ++ others)
  | valued {argument value : String} {rest : List String} {given others : List (Given Key)}
    {rule : OptionRule Key} (option : argument ≠ endOfOptions)
    (read : readOption? rules argument = some (.ok ⟨given, some rule⟩))
    (behind : OptionsOnly rules rest others) :
    OptionsOnly rules (argument :: value :: rest) (given ++ [⟨rule.key, some value⟩] ++ others)

/-- Options in front of options in front. -/
theorem Arguments.withOptions_append (given others : List (Given Key)) (arguments : Arguments Key) :
    arguments.withOptions (given ++ others) =
      (arguments.withOptions others).withOptions given := by
  simp only [withOptions, List.append_assoc]

/-- Options are read in front of anything. -/
theorem readArguments_append {rules : List (OptionRule Key)} {front : List String}
    {given : List (Given Key)} (options : OptionsOnly rules front given) (optionsBehind : Bool)
    (rest : List String) :
    readArguments rules optionsBehind (front ++ rest) =
      (readArguments rules optionsBehind rest).map (Arguments.withOptions given) := by
  -- the rest is read last, whatever it is, and the options are put in front of what it gives
  induction options with
  | nil =>
    rw [List.nil_append]
    cases readArguments rules optionsBehind rest with
    | error fault => rfl
    | ok arguments => rfl
  | complete option read behind ih =>
    rw [List.cons_append, readArguments, if_neg option, read]
    simp only [ih]
    cases readArguments rules optionsBehind rest with
    | error fault => rfl
    | ok arguments => simp only [Except.map, Arguments.withOptions_append]
  | valued option read behind ih =>
    rw [List.cons_append, List.cons_append, readArguments, if_neg option, read]
    simp only [ih]
    cases readArguments rules optionsBehind rest with
    | error fault => rfl
    | ok arguments => simp only [Except.map, Arguments.withOptions_append]

/-- Options with the end of the options behind them give what they give and the words behind. -/
theorem readArguments_ended {rules : List (OptionRule Key)} {front : List String}
    {given : List (Given Key)} (options : OptionsOnly rules front given) (optionsBehind : Bool)
    (words : List String) :
    readArguments rules optionsBehind (front ++ endOfOptions :: words) = .ok ⟨given, words⟩ := by
  rw [readArguments_append options, readArguments_endOfOptions]
  simp only [Except.map, Arguments.withOptions, List.append_nil]

/-- Options behind options give what both give. -/
theorem OptionsOnly.append {rules : List (OptionRule Key)} {front behind : List String}
    {given others : List (Given Key)} (first : OptionsOnly rules front given)
    (last : OptionsOnly rules behind others) :
    OptionsOnly rules (front ++ behind) (given ++ others) := by
  induction first with
  | nil => exact last
  | complete option read rest ih =>
    rw [List.cons_append, List.append_assoc]
    exact .complete option read ih
  | valued option read rest ih =>
    rw [List.cons_append, List.cons_append, List.append_assoc]
    exact .valued option read ih

/-- Options give one list only. -/
theorem OptionsOnly.unique {rules : List (OptionRule Key)} {front : List String}
    {given others : List (Given Key)} (first : OptionsOnly rules front given)
    (second : OptionsOnly rules front others) : given = others := by
  have read := readArguments_ended first false []
  rw [readArguments_ended second] at read
  cases read
  rfl

/-- Options of the program that ask for no information and make these settings. -/
def MakesSettings (front : List String) (settings : RunSettings) : Prop :=
  ∃ given, OptionsOnly programRules front given ∧ information? given = none ∧
    given.foldl RunSettings.apply {} = settings

/-- Options of the first command that ask for no help: the format they name, if any, and whether
they ask for a single filter. -/
def AsksFor (options : List String) (format? : Option OutputFormat) (single : Bool) : Prop :=
  ∃ given, OptionsOnly CommandName.parse.rules options given ∧ isGiven .help given = false ∧
    formatOf given = .ok format? ∧ isGiven .single given = single

/-- The name of a command. -/
def CommandName.text : CommandName → String
  | parse => "parse"
  | validate => "validate"

/-- Behind its options the program reads the name of a command, and leaves the rest to it. -/
theorem ofArguments_run {front : List String} {settings : RunSettings}
    (makes : MakesSettings front settings) (command : CommandName) (rest : List String) :
    Request.ofArguments (front ++ command.text :: rest) = .ok (.run settings command rest) := by
  obtain ⟨given, options, uninformed, rfl⟩ := makes
  have read : readArguments programRules false (front ++ command.text :: rest) =
      .ok ⟨given, command.text :: rest⟩ := by
    have first : readArguments programRules false (command.text :: rest) =
        .ok { operands := command.text :: rest } := by
      cases command <;> rfl
    rw [readArguments_append options, first]
    simp only [Except.map, Arguments.withOptions, List.append_nil]
  have named : CommandName.ofText? command.text = some command := by cases command <;> rfl
  simp only [Request.ofArguments, read, bind, Except.bind, uninformed, named, pure, Except.pure]

/-- The first command is to show the text of its words. -/
theorem ofArguments_parse {options : List String} {format? : Option OutputFormat} {single : Bool}
    (asks : AsksFor options format? single) (words : List String) :
    Task.ofArguments .parse (options ++ endOfOptions :: words) =
      .ok (.parse format? single (" ".intercalate words)) := by
  obtain ⟨given, only, unhelped, format, rfl⟩ := asks
  simp only [Task.ofArguments, readArguments_ended only, bind, Except.bind, unhelped, format, pure,
    Except.pure]
  rfl

/-- The second command is to check the text of its words. -/
theorem ofArguments_validate (words : List String) :
    Task.ofArguments .validate (endOfOptions :: words) =
      .ok (.validate (" ".intercalate words)) := by
  simp only [Task.ofArguments, readArguments_endOfOptions, bind, Except.bind]
  rfl

/-- What the program answers to a command line, given the reader of documents, and the path and the
content of the file of its configuration. -/
def answered (reader : Toml.Reader) (path : String) (content? : Option ByteArray)
    (arguments : List String) : Answer := do
  let request ← understood (Request.ofArguments arguments)
  request.answer reader path content?

/-- The warnings of the configuration are told to those only who ask for them. -/
theorem warningLines_silent {settings : RunSettings} (silent : settings.isTalkative = false)
    (warnings : List String) : warningLines settings warnings = .ok "" := by
  simp [warningLines, silent]

/-- With nothing in front of its errors a report is the same. -/
theorem Report.after_empty (report : Report) : report.after "" = report := by
  simp [Report.after]

/-- Arguments that make sense are understood. -/
theorem understood_ok {α : Type} (value : α) : understood (.ok value) = .ok value := rfl

/-- What a session answers: its warnings, and behind them what the task gives. -/
def Session.answer (session : Session) (warnings : List String) (task : Task) : Answer :=
  warningLines session.settings warnings >>= fun warned =>
    (session.perform task).map (Report.after warned)

/-- A command line is answered by the session that its options and the configuration make. -/
theorem answered_session {front : List String} {settings : RunSettings}
    (makes : MakesSettings front settings) {path : String} {content? : Option ByteArray}
    {config : Config} {warnings : List String}
    (loaded : Config.load reader path content? = .ok (config, warnings)) {command : CommandName}
    {arguments : List String} {task : Task}
    (asked : Task.ofArguments command arguments = .ok task) :
    answered reader path content? (front ++ command.text :: arguments) =
      Session.answer ⟨settings, config⟩ warnings task := by
  simp only [answered, ofArguments_run makes, understood_ok, bind, Except.bind, Request.answer,
    runCommand, loaded, asked, pure, Except.pure]
  rfl

/-- A command line without warnings is answered as its command does what its arguments ask for. -/
theorem answered_run {front : List String} {settings : RunSettings}
    (makes : MakesSettings front settings) (silent : settings.isTalkative = false)
    {path : String} {content? : Option ByteArray} {config : Config} {warnings : List String}
    (loaded : Config.load reader path content? = .ok (config, warnings)) {command : CommandName}
    {arguments : List String} {task : Task}
    (asked : Task.ofArguments command arguments = .ok task) :
    answered reader path content? (front ++ command.text :: arguments) =
      Session.perform ⟨settings, config⟩ task := by
  rw [answered_session makes loaded asked, Session.answer, warningLines_silent silent]
  simp only [bind, Except.bind]
  cases Session.perform ⟨settings, config⟩ task with
  | error stop => rfl
  | ok report => simp only [Except.map, Report.after_empty]

end SearchBar.CommandLine
