import SearchBar.Proofs.FormCharacters
import SearchBar.Proofs.Invocation
import SearchBar.Proofs.Wording

/-!
# What the two commands answer

One command shows a text in a form, the other checks it. Both take the words
behind the end of the options for the text, with one space between any two, and
agree on it: they fail on the same texts, with the same status and the same
lines. The form is the one that the options name, or else the one of the
configuration, which names one of the forms whenever it can be loaded.

Main statement: `answers_agree`.
-/

namespace SearchBar

open Text

/-- The name of a form is the name of no other. -/
theorem OutputFormat.name_of_ofName? {name : String} {format : OutputFormat}
    (found : OutputFormat.ofName? name = some format) : format.name = name := by
  have same := List.find?_some found
  rwa [beq_iff_eq] at same

/-- A configuration that can be loaded names one of the forms. -/
theorem Config.format_of_load {reader : Toml.Reader} {path : String}
    {content? : Option ByteArray} {config : Config} {warnings : List String}
    (loaded : Config.load reader path content? = .ok (config, warnings)) :
    ∃ format, OutputFormat.ofName? config.outputFormat = some format := by
  cases content? with
  | none =>
    cases loaded
    exact ⟨.text, rfl⟩
  | some content =>
    simp only [Config.load, Except.map] at loaded
    split at loaded
    · cases loaded
    · rename_i found outcome
      cases loaded
      simp only [Config.ofContent] at outcome
      split at outcome
      · cases outcome
      · split at outcome
        · cases outcome
        · split at outcome
          · cases outcome
          · cases outcome
          · simp only [bind, Except.bind, pure, Except.pure] at outcome
            split at outcome
            · cases outcome
            · split at outcome
              · cases outcome
              · rename_i checked
                cases outcome
                unfold Config.check at checked
                split at checked
                · rename_i known
                  exact Option.isSome_iff_exists.mp known
                · cases checked

end SearchBar

namespace SearchBar.Console

/-- A text without the character that begins a sequence is echoed as it is. -/
theorem withoutSequences_eq_self {text : List Char} (plain : escapeCharacter ∉ text) :
    withoutSequences text = text := by
  induction text with
  | nil =>
    unfold withoutSequences
    rfl
  | cons c rest ih =>
    have none : behindSequence? (c :: rest) = none := by
      unfold behindSequence?
      split
      · rename_i same
        cases same
        rw [if_neg]
        rw [beq_iff_eq]
        rintro rfl
        exact plain List.mem_cons_self
      · rfl
    unfold withoutSequences
    split
    · rename_i found
      rw [none] at found
      cases found
    · simp only
      rw [ih fun inside => plain (List.mem_cons_of_mem c inside)]

/-- What is echoed of such a text is the text and a new line. -/
theorem echo_eq {text : String} (plain : escapeCharacter ∉ text.toList) :
    echo text = text ++ "\n" := by
  rw [echo, withoutSequences_eq_self plain, String.ofList_toList]

end SearchBar.Console

namespace SearchBar.CommandLine

open Text

/-- What a text is read as: a query, or one filter. -/
def meaning (single : Bool) (text : String) : Except ParseError Query :=
  if single then (parseFilter text).map fun filter => ⟨[filter]⟩ else parseQuery text

/-- What a text is read as, one filter alone included, is a query that the text means. -/
theorem parseQuery_of_meaning {single : Bool} {text : String} {query : Query}
    (meant : meaning single text = .ok query) : parseQuery text = .ok query := by
  cases single with
  | false => exact meant
  | true =>
    obtain ⟨filter, single, rfl⟩ := map_eq_ok_iff.mp meant
    exact parseQuery_of_parseFilter single

/-- What is reported of a text is reported in words, and with the text. -/
theorem worded_of_meaning {single : Bool} {text : String} {error : ParseError}
    (failed : meaning single text = .error error) : error.Worded ∧ error.query = text := by
  cases single with
  | false => exact ⟨parseQuery_worded failed, query_of_reported failed⟩
  | true =>
    have unread : parseFilter text = .error error := by
      rw [meaning, if_pos rfl] at failed
      exact map_eq_error_iff.mp failed
    exact ⟨parseFilter_worded unread, query_of_reported unread⟩

/-- A query in one of the forms that are printed as they are. The table is none of them. -/
def printed? (query : Query) : OutputFormat → Option String
  | .text => some query.written
  | .debug => some query.tagged
  | .json => some query.record.text
  | .table => none

/-- The line of a text and the line with a caret below one of its places, both behind two
spaces. -/
def caretLines (text : String) (place : Nat) : String :=
  Console.shownText ("  " ++ text).toList ++
    (String.ofList (Console.spaces (2 + place) ++ ['^']) ++ "\n")

/-- The report of a text that cannot be read. -/
def refusal (showPositions : Bool) (text : String) (error : ParseError) : Report where
  status := 1
  output := ""
  errors := failureLine error ++ "\n" ++
    if showPositions then caretLines text error.position.toNat else ""

/-- A query that a text means, if the text can be echoed, is shown in a form and a new line. -/
theorem display_eq {single : Bool} {text : String} {query : Query}
    (meant : meaning single text = .ok query) (plain : Console.escapeCharacter ∉ text.toList)
    {format : OutputFormat} {form : String} (printed : printed? query format = some form) :
    display query format = .ok (form ++ "\n") := by
  have read := parseQuery_of_meaning meant
  have space : Console.escapeCharacter ≠ ' ' := by decide
  cases format with
  | text =>
    cases printed
    rw [display, Console.echo_eq]
    intro escape
    rcases Query.mem_written read escape with typed | same
    · exact plain typed
    · exact space same
  | debug =>
    cases printed
    rw [display, Console.echo_eq]
    intro escape
    rcases Query.mem_tagged read escape with typed | tag | same
    · exact plain typed
    · exact absurd tag (by decide)
    · exact space same
  | json =>
    cases printed
    rfl
  | table => cases printed

/-- The caret is shown where it stands. -/
theorem shownText_caret (place : Nat) :
    Console.shownText (Console.spaces place ++ ['^']) =
      String.ofList (Console.spaces place ++ ['^']) ++ "\n" := by
  apply Console.shownText_still
  intro c member
  rcases List.mem_append.mp member with space | caret
  · rw [(List.mem_replicate.mp space).2]
    decide
  · rw [List.mem_singleton.mp caret]
    decide

/-- The lines about a failure to read a text are those of the report. -/
theorem failureLines_eq {single : Bool} {text : String} {error : ParseError}
    (failed : meaning single text = .error error) (showPositions : Bool) :
    failureLines showPositions error = (refusal showPositions text error).errors := by
  obtain ⟨-, same⟩ := worded_of_meaning failed
  have closing (line : String) : line ++ ")\n" = line ++ ")" ++ "\n" := by
    have ending : ")" ++ "\n" = ")\n" := by decide
    rw [String.append_assoc, ending]
  unfold failureLines refusal failureLine caretLines
  rw [same, shownText_caret, closing]

/-- Showing a text that cannot be read reports it. -/
theorem parse_refused {session : Session} (undebugged : session.settings.debug = false)
    {single : Bool} {text : String} {error : ParseError}
    (failed : meaning single text = .error error) (format : OutputFormat) :
    session.parse format single text = .ok (refusal session.config.showPositions text error) := by
  have lines := failureLines_eq failed session.config.showPositions
  rw [meaning] at failed
  simp only [Session.parse, undebugged, Bool.false_eq_true, if_false, bind, Except.bind, failed,
    Session.trace, ite_self, String.empty_append, pure, Except.pure, lines]
  rfl

/-- Showing a text that can be read shows its query, if it can be shown. -/
theorem parse_shown {session : Session} (undebugged : session.settings.debug = false)
    {single : Bool} {text : String} {query : Query} (meant : meaning single text = .ok query)
    (format : OutputFormat) :
    session.parse format single text =
      (display query format).map fun output => { status := 0, output, errors := "" } := by
  rw [meaning] at meant
  simp only [Session.parse, undebugged, Bool.false_eq_true, if_false, bind, Except.bind, meant,
    Session.trace, ite_self, String.empty_append, pure, Except.pure]
  cases display query format with
  | error stop => rfl
  | ok output => rfl

/-- The first command shows the query that its words mean in the form that is used. -/
theorem answered_meant {front : List String} {settings : RunSettings}
    (makes : MakesSettings front settings) (silent : settings.isTalkative = false)
    {path : String} {content? : Option ByteArray} {config : Config} {warnings : List String}
    (loaded : Config.load reader path content? = .ok (config, warnings)) {options : List String}
    {format? : Option OutputFormat} {single : Bool} (asks : AsksFor options format? single)
    {words : List String} {query : Query}
    (meant : meaning single (" ".intercalate words) = .ok query) :
    answered reader path content? (front ++ "parse" :: (options ++ "--" :: words)) =
      (display query (format?.getD (Session.format ⟨settings, config⟩))).map fun output =>
        { status := 0, output, errors := "" } := by
  have undebugged : settings.debug = false := (Bool.or_eq_false_iff.mp silent).2
  have run := answered_run makes silent loaded (ofArguments_parse asks words)
  exact run.trans (parse_shown undebugged meant _)

/-- Checking a text that cannot be read reports it, unless the run is to be quiet. -/
theorem validate_refused {session : Session} (undebugged : session.settings.debug = false)
    {text : String} {error : ParseError} (failed : parseQuery text = .error error) :
    session.validate text =
      if session.settings.quiet then { status := 1, output := "", errors := "" }
      else refusal session.config.showPositions text error := by
  have single : meaning false text = .error error := failed
  have lines := failureLines_eq single session.config.showPositions
  simp only [Session.validate, failed, Session.trace, undebugged, Bool.false_eq_true, if_false,
    Report.after_empty, lines]
  cases session.settings.quiet <;> rfl

/-- Checking a text that can be read says so, unless the run is to be quiet. -/
theorem validate_accepted {session : Session} (undebugged : session.settings.debug = false)
    {text : String} {query : Query} (meant : parseQuery text = .ok query) :
    session.validate text =
      { status := 0,
        output := if session.settings.quiet then "" else "Valid query\n",
        errors := "" } := by
  simp only [Session.validate, meant, Session.trace, undebugged, Bool.false_eq_true, if_false,
    Report.after_empty]

/-- The form that is used: the one that the options name, or else that of the configuration. -/
def Uses (format? : Option OutputFormat) (config : Config) (format : OutputFormat) : Prop :=
  format? = some format ∨ format? = none ∧ config.outputFormat = format.name

/-- A configuration that can be loaded leaves no doubt about the form. -/
theorem uses_getD {path : String} {content? : Option ByteArray} {config : Config}
    {warnings : List String} (loaded : Config.load reader path content? = .ok (config, warnings))
    (settings : RunSettings) (format? : Option OutputFormat) :
    Uses format? config (format?.getD (Session.format ⟨settings, config⟩)) := by
  cases format? with
  | some format => exact Or.inl rfl
  | none =>
    obtain ⟨format, found⟩ := Config.format_of_load loaded
    refine Or.inr ⟨rfl, ?_⟩
    simp only [Session.format, found, Option.getD_some, Option.getD_none]
    exact (OutputFormat.name_of_ofName? found).symm

/-- What the two commands answer to a text, given the configuration, whether the run is to be quiet,
the form that is used, and whether the text is to be a single filter. -/
structure Agree (config : Config) (quiet : Bool) (format : OutputFormat) (single : Bool)
    (text : String) (parsed validated : Answer) : Prop where
  /-- What a text is read as is shown in the form that is used, with a new line and nothing else. -/
  shown : format ≠ .table → Console.escapeCharacter ∉ text.toList →
    ∀ query, meaning single text = .ok query →
      ∃ form, printed? query format = some form ∧
        parsed = .ok { status := 0, output := form ++ "\n", errors := "" }
  /-- A text that cannot be read is reported. -/
  refused : ∀ error, meaning single text = .error error →
    parsed = .ok (refusal config.showPositions text error)
  /-- A query is accepted. -/
  accepted : ∀ query, parseQuery text = .ok query →
    validated = .ok
      { status := 0, output := if quiet then "" else "Valid query\n", errors := "" }
  /-- Any other text is reported as it is when it is to be shown, or not at all. -/
  rejected : ∀ error, parseQuery text = .error error →
    validated = .ok
      (if quiet then { status := 1, output := "", errors := "" }
        else refusal config.showPositions text error)
  /-- The line about a failure is shown as it is, even if markup is looked for in it. -/
  worded : ∀ error, meaning single text = .error error →
    Console.shownMarkup (failureLine error) = .ok (failureLine error ++ "\n")
  /-- The status of both tells whether the text is a query. -/
  status : ∃ report, validated = .ok report ∧ report.status = (if isQuery text then 0 else 1) ∧
    (single = false → format ≠ .table → Console.escapeCharacter ∉ text.toList →
      ∃ other, parsed = .ok other ∧ other.status = report.status)

/-- Only the table is no form that is printed as it is. -/
theorem exists_printed {format : OutputFormat} (plain : format ≠ .table) (query : Query) :
    ∃ form, printed? query format = some form := by
  cases format with
  | text => exact ⟨_, rfl⟩
  | debug => exact ⟨_, rfl⟩
  | json => exact ⟨_, rfl⟩
  | table => exact absurd rfl plain

/-- In one session both commands answer to the same text as they should. -/
theorem agree_of_session (session : Session) (undebugged : session.settings.debug = false)
    (format : OutputFormat) (single : Bool) (text : String) :
    Agree session.config session.settings.quiet format single text
      (session.parse format single text) (.ok (session.validate text)) := by
  have shown : format ≠ .table → Console.escapeCharacter ∉ text.toList →
      ∀ query, meaning single text = .ok query →
        ∃ form, printed? query format = some form ∧
          session.parse format single text =
            .ok { status := 0, output := form ++ "\n", errors := "" } := by
    intro plain echoed query meant
    obtain ⟨form, printed⟩ := exists_printed plain query
    refine ⟨form, printed, ?_⟩
    rw [parse_shown undebugged meant, display_eq meant echoed printed]
    rfl
  have refused : ∀ error, meaning single text = .error error →
      session.parse format single text = .ok (refusal session.config.showPositions text error) :=
    fun error failed => parse_refused undebugged failed format
  refine ⟨shown, refused, ?_, ?_, ?_, ?_⟩
  · intro query meant
    rw [validate_accepted undebugged meant]
  · intro error failed
    rw [validate_refused undebugged failed]
  · exact fun error failed => shownMarkup_failureLine (worded_of_meaning failed).1
  · refine ⟨session.validate text, rfl, ?_⟩
    cases outcome : parseQuery text with
    | ok query =>
      rw [validate_accepted undebugged outcome, isQuery, outcome]
      refine ⟨rfl, ?_⟩
      -- one filter alone may be asked for where the text is a longer query, so only queries agree
      rintro rfl plain echoed
      obtain ⟨form, -, answer⟩ := shown plain echoed query outcome
      exact ⟨_, answer, rfl⟩
    | error error =>
      rw [validate_refused undebugged outcome, isQuery, outcome]
      constructor
      · cases session.settings.quiet <;> rfl
      · rintro rfl - -
        refine ⟨_, refused error outcome, ?_⟩
        cases session.settings.quiet <;> rfl

/-- For all options and every configuration that can be loaded, both commands take the words behind
the end of the options for the same text and answer to it as they should, in the form that the
options or the configuration name. -/
theorem answers_agree {front : List String} {settings : RunSettings}
    (makes : MakesSettings front settings) (silent : settings.isTalkative = false)
    {path : String} {content? : Option ByteArray} {config : Config} {warnings : List String}
    (loaded : Config.load reader path content? = .ok (config, warnings)) {options : List String}
    {format? : Option OutputFormat} {single : Bool} (asks : AsksFor options format? single)
    (words : List String) :
    ∃ format, Uses format? config format ∧
      Agree config settings.quiet format single (" ".intercalate words)
        (answered reader path content? (front ++ "parse" :: (options ++ "--" :: words)))
        (answered reader path content? (front ++ "validate" :: "--" :: words)) := by
  have undebugged : settings.debug = false := (Bool.or_eq_false_iff.mp silent).2
  have parsed := answered_run makes silent loaded (ofArguments_parse asks words)
  have validated := answered_run makes silent loaded (ofArguments_validate words)
  have both : Agree config settings.quiet (format?.getD (Session.format ⟨settings, config⟩)) single
      (" ".intercalate words)
      (Session.perform ⟨settings, config⟩ (.parse format? single (" ".intercalate words)))
      (Session.perform ⟨settings, config⟩ (.validate (" ".intercalate words))) :=
    agree_of_session ⟨settings, config⟩ undebugged _ single _
  rw [← parsed, ← validated] at both
  exact ⟨_, uses_getD loaded settings format?, both⟩

/-- Without a configuration the options name the tagged form, and the text is one filter. -/
theorem answers_agree_tagged :
    answered .terse "settings.toml" none
        ["--no-color", "-c", "settings.toml", "parse", "--filter", "-fdebug", "--", "images:007"] =
      .ok { status := 0, output := ".imagesCount(.eq(7))\n", errors := "" } ∧
    answered .terse "settings.toml" none
        ["--no-color", "-c", "settings.toml", "validate", "--", "images:007"] =
      .ok { status := 0, output := "Valid query\n", errors := "" } := by
  have makes : MakesSettings ["--no-color", "-c", "settings.toml"]
      { configPath? := some "settings.toml", noColor := true } :=
    ⟨_, .complete (by decide) rfl (.valued (by decide) rfl .nil), rfl, rfl⟩
  have asks : AsksFor ["--filter", "-fdebug"] (some .debug) true :=
    ⟨_, .complete (by decide) rfl (.complete (by decide) rfl .nil), rfl, rfl, rfl⟩
  have loaded : Config.load .terse "settings.toml" none =
      .ok ({}, ["No config file found at settings.toml. Using defaults."]) := rfl
  obtain ⟨format, uses, agree⟩ := answers_agree makes rfl loaded asks ["images:007"]
  obtain rfl : format = .debug := by
    rcases uses with named | ⟨absent, -⟩
    · exact (Option.some.inj named).symm
    · cases absent
  have meant : meaning true "images:007" = .ok ⟨[.images (.exactly 7)]⟩ := by decide +kernel
  obtain ⟨form, printed, answer⟩ := agree.shown (by decide) (by decide) _ meant
  cases printed
  exact ⟨answer, agree.accepted _ (parseQuery_of_meaning meant)⟩

end SearchBar.CommandLine
