import SearchBar.Proofs.BrokenMarkup
import SearchBar.Proofs.Commands
import SearchBar.Proofs.Quoting

/-!
# Runs that are to be debugged

A run that is to be debugged tells more than another one: the warnings of the
configuration, what it is going to read, and how that was read. If the lines of
the first two can be shown, nothing else changes. But markup is looked for in
them, and in what is going to be read it is the user's. So a text that holds a
closing tag stops a run that is to be debugged, whatever the same run answers
otherwise. Literal texts never do.

Main statement: `debugging_only_adds`.
-/

namespace SearchBar.Console

/-- The text can be shown, with the markup in it. Two assumptions about the arguments of tags go into
this: every name of several words is taken for the name of a character, and brackets alone limit the
depth of a literal. -/
def IsShowable (markup : String) : Prop := ∃ shown, shownMarkup markup = .ok shown

/-- A literal text can be shown. -/
theorem isShowable_of_literal {markup : String} (literal : isLiteral markup.toList = true) :
    IsShowable markup := ⟨_, shownMarkup_literal literal⟩

/-- A text with markup that cannot be read cannot be shown. -/
theorem not_isShowable_of_unread {markup : String} {fault : MarkupFault}
    (unread : markedText markup = .error fault) : ¬ IsShowable markup := by
  rintro ⟨line, shown⟩
  simp only [shownMarkup, unread, bind, Except.bind] at shown
  cases shown

end SearchBar.Console

namespace SearchBar.CommandLine

open Text

/-- The warnings of a run that is to be debugged, unless it is to be quiet. -/
def warningMarkup (quiet : Bool) (warnings : List String) : List String :=
  if quiet then [] else warnings.map ("Warning: " ++ ·)

/-- What a run that is to be debugged is going to read, between quotation marks. -/
def announcedMarkup (single : Bool) (text : String) : String :=
  "Parsing " ++ quoted text ++ " as " ++ if single then "a filter" else "a query"

/-- What a run that is to be debugged looks for markup in before it reads a text. -/
def debugMarkup (quiet : Bool) (warnings : List String) (single : Bool) (text : String) :
    List String :=
  warningMarkup quiet warnings ++ [announcedMarkup single text]

/-- The second run ends as the first one, and at most prints more errors. -/
structure OnlyAdds (plain debugged : Answer) : Prop where
  /-- The status and the output are the same, and no error is lost. -/
  report : ∀ report, plain = .ok report →
    ∃ more, debugged = .ok { report with errors := more } ∧
      report.errors.toList.Sublist more.toList
  /-- What stops the one stops the other. -/
  stop : ∀ stop, plain = .error stop → debugged = .error stop

/-- The second options are the first ones with the one for debugging somewhere among them. -/
def AddsDebug (front debugged : List String) : Prop :=
  ∃ before behind given others, OptionsOnly programRules before given ∧
    OptionsOnly programRules behind others ∧ front = before ++ behind ∧
    debugged = before ++ "--debug" :: behind

/-- The option for debugging is kept by the options behind it, and changes nothing else. -/
theorem foldl_apply_debug (given : List (Given ProgramOption)) (settings : RunSettings) :
    given.foldl RunSettings.apply { settings with debug := true } =
      { given.foldl RunSettings.apply settings with debug := true } := by
  induction given generalizing settings with
  | nil => rfl
  | cons option given ih =>
    have step : RunSettings.apply { settings with debug := true } option =
        { settings.apply option with debug := true } := by
      unfold RunSettings.apply
      cases option.key <;> rfl
    rw [List.foldl_cons, step, ih, List.foldl_cons]

/-- With the option for debugging the settings are the same but for that. -/
theorem AddsDebug.makes {front debugged : List String} {settings : RunSettings}
    (adds : AddsDebug front debugged) (makes : MakesSettings front settings) :
    MakesSettings debugged { settings with debug := true } := by
  obtain ⟨before, behind, given, others, first, last, rfl, rfl⟩ := adds
  obtain ⟨all, options, uninformed, rfl⟩ := makes
  obtain rfl := options.unique (first.append last)
  refine ⟨given ++ ([⟨.debug, none⟩] ++ others),
    first.append (.complete (by decide) rfl last), ?_, ?_⟩
  · rw [information?, List.findSome?_append] at uninformed ⊢
    exact uninformed
  · simp only [List.foldl_append]
    exact foldl_apply_debug others (given.foldl RunSettings.apply {})

/-- A text is displayed if it can be shown, and stops a run otherwise. -/
theorem displayed_or_stopped (markup : String) :
    (∃ line, displayed (Console.shownMarkup markup) = .ok line ∧ Console.IsShowable markup) ∨
    ∃ fault, displayed (Console.shownMarkup markup) = .error (.brokenMarkup fault) ∧
      ¬ Console.IsShowable markup := by
  cases shown : Console.shownMarkup markup with
  | ok line => exact Or.inl ⟨line, rfl, line, shown⟩
  | error fault =>
    refine Or.inr ⟨fault, rfl, ?_⟩
    rintro ⟨line, other⟩
    rw [shown] at other
    cases other

/-- Texts are displayed if all of them can be shown, and stop a run otherwise. -/
theorem mapM_displayed_or_stopped (markups : List String) :
    (∃ lines, (markups.mapM fun markup => displayed (Console.shownMarkup markup)) = .ok lines ∧
      ∀ markup ∈ markups, Console.IsShowable markup) ∨
    ∃ fault, (markups.mapM fun markup => displayed (Console.shownMarkup markup)) =
        .error (.brokenMarkup fault) ∧
      ∃ markup ∈ markups, ¬ Console.IsShowable markup := by
  induction markups with
  | nil => exact Or.inl ⟨[], rfl, fun _ => nofun⟩
  | cons first rest ih =>
    rw [List.mapM_cons]
    rcases displayed_or_stopped first with ⟨line, shown, showable⟩ | ⟨fault, stopped, unshowable⟩
    · rw [shown]
      rcases ih with ⟨lines, others, all⟩ | ⟨fault, stopped, markup, listed, unshowable⟩
      · rw [others]
        exact Or.inl ⟨line :: lines, rfl, List.forall_mem_cons.mpr ⟨showable, all⟩⟩
      · rw [stopped]
        exact Or.inr ⟨fault, rfl, markup, List.mem_cons_of_mem first listed, unshowable⟩
    · rw [stopped]
      exact Or.inr ⟨fault, rfl, first, List.mem_cons_self, unshowable⟩

/-- The warnings of a run that is to be debugged are told if all of them can be shown, and stop it
otherwise. -/
theorem warningLines_debugged (settings : RunSettings) (warnings : List String) :
    (∃ lines, warningLines { settings with debug := true } warnings = .ok lines ∧
      ∀ markup ∈ warningMarkup settings.quiet warnings, Console.IsShowable markup) ∨
    ∃ fault, warningLines { settings with debug := true } warnings = .error (.brokenMarkup fault) ∧
      ∃ markup ∈ warningMarkup settings.quiet warnings, ¬ Console.IsShowable markup := by
  have told : warningLines { settings with debug := true } warnings =
      ((warningMarkup settings.quiet warnings).mapM fun markup =>
        displayed (Console.shownMarkup markup)).map String.join := by
    unfold warningLines warningMarkup RunSettings.isTalkative
    cases settings.quiet with
    | true =>
      simp only [Bool.or_true, Bool.not_true, Bool.and_false, Bool.false_eq_true, if_false, if_true]
      rfl
    | false =>
      simp only [Bool.or_true, Bool.not_false, Bool.and_self, if_true, Bool.false_eq_true, if_false,
        List.mapM_map]
      rfl
  rw [told]
  rcases mapM_displayed_or_stopped (warningMarkup settings.quiet warnings) with
    ⟨lines, shown, all⟩ | ⟨fault, stopped, some⟩
  · exact Or.inl ⟨String.join lines, by rw [shown]; rfl, all⟩
  · exact Or.inr ⟨fault, by rw [stopped]; rfl, some⟩

/-- What is going to be read is told if it can be shown, and stops a run otherwise. -/
theorem announcement_debugged (single : Bool) (text : String) :
    (∃ line, announcement single text = .ok line ∧
      Console.IsShowable (announcedMarkup single text)) ∨
    ∃ fault, announcement single text = .error (.brokenMarkup fault) ∧
      ¬ Console.IsShowable (announcedMarkup single text) := by
  have told : announcement single text =
      (displayed (Console.shownMarkup (announcedMarkup single text))).map ("[DEBUG] " ++ ·) := rfl
  rw [told]
  rcases displayed_or_stopped (announcedMarkup single text) with
    ⟨line, shown, showable⟩ | ⟨fault, stopped, unshowable⟩
  · exact Or.inl ⟨"[DEBUG] " ++ line, by rw [shown]; rfl, showable⟩
  · exact Or.inr ⟨fault, by rw [stopped]; rfl, unshowable⟩

/-- A run that is not to be debugged has no warnings, or the same ones. -/
theorem warningLines_plain {settings : RunSettings} (undebugged : settings.debug = false)
    (warnings : List String) :
    warningLines settings warnings = .ok "" ∨
      warningLines settings warnings = warningLines { settings with debug := true } warnings := by
  unfold warningLines RunSettings.isTalkative
  rw [undebugged]
  cases settings.verbose with
  | false => exact Or.inl rfl
  | true => exact Or.inr rfl

/-- A text is shown in a run that is to be debugged as in any other, behind what is told. -/
theorem parse_debugged {settings : RunSettings} (undebugged : settings.debug = false)
    (config : Config) (format : OutputFormat) (single : Bool) (text : String) :
    Session.parse ⟨{ settings with debug := true }, config⟩ format single text =
      announcement single text >>= fun announced =>
        (Session.parse ⟨settings, config⟩ format single text).map (Report.after
          (announced ++ if single then "" else trace text (meaning single text))) := by
  have plain : (Session.mk settings config).settings.debug = false := undebugged
  cases outcome : meaning single text with
  | error error =>
    have lines := failureLines_eq outcome config.showPositions
    rw [parse_refused plain outcome]
    rw [meaning] at outcome
    simp only [Session.parse, if_true, outcome, Session.trace, bind, Except.bind, pure, Except.pure,
      lines]
    rfl
  | ok query =>
    rw [parse_shown plain outcome]
    rw [meaning] at outcome
    simp only [Session.parse, if_true, outcome, Session.trace, bind, Except.bind, pure, Except.pure]
    cases announcement single text with
    | error stop => rfl
    | ok line =>
      cases display query format with
      | error stop => rfl
      | ok output => simp only [Except.map, Report.after, String.append_empty]

/-- What is put in front of the errors of a report twice is put there at once. -/
theorem map_after_after (answer : Answer) (first second : String) :
    (answer.map (Report.after first)).map (Report.after second) =
      answer.map (Report.after (second ++ first)) := by
  cases answer with
  | error stop => rfl
  | ok report => simp only [Except.map, Report.after, String.append_assoc]

/-- With more in front of its errors, and a part of that left out, a report is at most longer. -/
theorem onlyAdds_after {answer : Answer} {few more : String}
    (part : few.toList.Sublist more.toList) :
    OnlyAdds (answer.map (Report.after few)) (answer.map (Report.after more)) := by
  constructor
  · intro report same
    obtain ⟨inner, rfl, rfl⟩ := map_eq_ok_iff.mp same
    refine ⟨more ++ inner.errors, rfl, ?_⟩
    simp only [Report.after, String.toList_append]
    exact part.append (List.Sublist.refl _)
  · intro stop same
    rw [map_eq_error_iff.mp same]
    rfl

section

variable {settings : RunSettings} (undebugged : settings.debug = false) {warnings : List String}
  {format? : Option OutputFormat} {single : Bool} {text : String} (config : Config)

include undebugged

/-- A run that is to be debugged only adds errors, if what it tells can be shown. -/
theorem onlyAdds_of_showable
    (showable : ∀ markup ∈ debugMarkup settings.quiet warnings single text,
      Console.IsShowable markup) :
    OnlyAdds (Session.answer ⟨settings, config⟩ warnings (.parse format? single text))
      (Session.answer ⟨{ settings with debug := true }, config⟩ warnings
        (.parse format? single text)) := by
  rcases warningLines_debugged settings warnings with
    ⟨told, warned, -⟩ | ⟨fault, -, markup, listed, unshowable⟩
  · rcases announcement_debugged single text with ⟨line, announced, -⟩ | ⟨fault, -, unshowable⟩
    -- a run that is verbose tells the warnings in any case, another one tells nothing
    · have few : ∃ lines, warningLines settings warnings = .ok lines ∧
          ∀ more : String, lines.toList.Sublist (told ++ more).toList := by
        rcases warningLines_plain undebugged warnings with silent | same
        · exact ⟨"", silent, fun _ => List.nil_sublist _⟩
        · refine ⟨told, same.trans warned, fun more => ?_⟩
          rw [String.toList_append]
          exact List.sublist_append_left _ _
      obtain ⟨lines, plain, part⟩ := few
      simp only [Session.answer, plain, warned, bind, Except.bind, Session.perform, Session.format,
        parse_debugged undebugged, announced, map_after_after]
      exact onlyAdds_after (part _)
    · exact absurd (showable _ (List.mem_append_right _ (List.mem_singleton_self _))) unshowable
  · exact absurd (showable markup (List.mem_append_left _ listed)) unshowable

/-- A run that is to be debugged stops, if something that it tells cannot be shown. -/
theorem stopped_of_unshowable
    (unshowable : ∃ markup ∈ debugMarkup settings.quiet warnings single text,
      ¬ Console.IsShowable markup) :
    ∃ fault, Session.answer ⟨{ settings with debug := true }, config⟩ warnings
      (.parse format? single text) = .error (.brokenMarkup fault) := by
  obtain ⟨markup, listed, wrong⟩ := unshowable
  rcases warningLines_debugged settings warnings with ⟨told, warned, all⟩ | ⟨fault, stopped, -⟩
  · rcases announcement_debugged single text with ⟨line, -, showable⟩ | ⟨fault, stopped, -⟩
    · rcases List.mem_append.mp listed with warning | announced
      · exact absurd (all markup warning) wrong
      · obtain rfl := List.mem_singleton.mp announced
        exact absurd showable wrong
    · refine ⟨fault, ?_⟩
      simp only [Session.answer, warned, bind, Except.bind, Session.perform,
        parse_debugged undebugged, stopped]
      rfl
  · exact ⟨fault, by simp only [Session.answer, stopped, bind, Except.bind]⟩

end

/-- A literal text can be shown between quotation marks. -/
theorem isLiteral_announcedMarkup {text : String} (literal : Console.isLiteral text.toList = true)
    (single : Bool) : Console.isLiteral (announcedMarkup single text).toList = true := by
  have front : ∀ c ∈ "Parsing ".toList, Console.isOrdinary c = true :=
    List.all_eq_true.mp (by decide)
  have behind : ∀ c ∈ (" as " ++ if single then "a filter" else "a query").toList,
      Console.isOrdinary c = true := by
    cases single <;> exact List.all_eq_true.mp (by decide)
  rw [announcedMarkup, String.append_assoc, String.append_assoc, String.toList_append,
    String.toList_append]
  exact Console.isLiteral_append front
    (Console.isLiteral_append_ordinary behind (Console.isLiteral_quoted literal))

/-- The only warning names the missing file, so it is literal if the path is. -/
theorem isLiteral_warningMarkup {quiet : Bool} {path : String} {content? : Option ByteArray}
    {config : Config} {warnings : List String}
    (loaded : Config.load reader path content? = .ok (config, warnings))
    (named : quiet = true ∨ content?.isSome = true ∨ Console.isLiteral path.toList = true) :
    ∀ markup ∈ warningMarkup quiet warnings, Console.isLiteral markup.toList = true := by
  intro markup member
  cases quiet with
  | true => cases member
  | false =>
    obtain ⟨warning, listed, rfl⟩ := List.mem_map.mp member
    cases content? with
    | some content =>
      simp only [Config.load, Except.map] at loaded
      split at loaded
      · cases loaded
      · cases loaded
        cases listed
    | none =>
      cases loaded
      obtain rfl := List.mem_singleton.mp listed
      have literal : Console.isLiteral path.toList = true := by simpa using named
      have front : ∀ c ∈ "Warning: No config file found at ".toList,
          Console.isOrdinary c = true := List.all_eq_true.mp (by decide)
      have behind : ∀ c ∈ ". Using defaults.".toList, Console.isOrdinary c = true :=
        List.all_eq_true.mp (by decide)
      have parts : "Warning: " ++ ("No config file found at " ++ path ++ ". Using defaults.") =
          "Warning: No config file found at " ++ (path ++ ". Using defaults.") := by
        have lead : "Warning: " ++ "No config file found at " =
            "Warning: No config file found at " := by decide
        rw [← lead, String.append_assoc, String.append_assoc]
      rw [parts, String.toList_append, String.toList_append]
      exact Console.isLiteral_append front (Console.isLiteral_append_ordinary behind literal)

/-- If the text and the path are literal, everything can be shown that a run tells. -/
theorem isShowable_debugMarkup {quiet single : Bool} {text path : String}
    {content? : Option ByteArray} {config : Config} {warnings : List String}
    (loaded : Config.load reader path content? = .ok (config, warnings))
    (literal : Console.isLiteral text.toList = true)
    (named : quiet = true ∨ content?.isSome = true ∨ Console.isLiteral path.toList = true) :
    ∀ markup ∈ debugMarkup quiet warnings single text, Console.IsShowable markup := by
  intro markup member
  apply Console.isShowable_of_literal
  rcases List.mem_append.mp member with warning | announced
  · exact isLiteral_warningMarkup loaded named markup warning
  · rw [List.mem_singleton.mp announced]
    exact isLiteral_announcedMarkup literal single

/-- A run with the option for debugging answers as the same run without it, with more errors at
most, if the warnings of the configuration and the text between quotation marks can be shown with
the markup in them. Otherwise it stops. A literal text can be shown, and so can the only warning
there is, which names the missing file, if its path is literal. -/
theorem debugging_only_adds {front debugFront : List String} {settings : RunSettings}
    (makes : MakesSettings front settings) (undebugged : settings.debug = false)
    (adds : AddsDebug front debugFront) {path : String} {content? : Option ByteArray}
    {config : Config} {warnings : List String}
    (loaded : Config.load reader path content? = .ok (config, warnings)) {options : List String}
    {format? : Option OutputFormat} {single : Bool} (asks : AsksFor options format? single)
    (words : List String) :
    let text := " ".intercalate words
    let plain := answered reader path content? (front ++ "parse" :: (options ++ "--" :: words))
    let debugged :=
      answered reader path content? (debugFront ++ "parse" :: (options ++ "--" :: words))
    ((∀ markup ∈ debugMarkup settings.quiet warnings single text, Console.IsShowable markup) →
        OnlyAdds plain debugged) ∧
      ((∃ markup ∈ debugMarkup settings.quiet warnings single text, ¬ Console.IsShowable markup) →
        ∃ fault, debugged = .error (.brokenMarkup fault)) ∧
      (Console.isLiteral text.toList = true →
        settings.quiet = true ∨ content?.isSome = true ∨ Console.isLiteral path.toList = true →
        OnlyAdds plain debugged) := by
  intro text plain debugged
  have plainRun : plain = Session.answer ⟨settings, config⟩ warnings (.parse format? single text) :=
    answered_session makes loaded (ofArguments_parse asks words)
  have debugRun : debugged = Session.answer ⟨{ settings with debug := true }, config⟩ warnings
      (.parse format? single text) :=
    answered_session (adds.makes makes) loaded (ofArguments_parse asks words)
  rw [plainRun, debugRun]
  refine ⟨onlyAdds_of_showable undebugged config, stopped_of_unshowable undebugged config, ?_⟩
  intro literal named
  exact onlyAdds_of_showable undebugged config (isShowable_debugMarkup loaded literal named)

/-- Without a configuration a query is shown as it is written. -/
theorem answered_written {front : List String} {settings : RunSettings}
    (makes : MakesSettings front settings) (silent : settings.isTalkative = false) (path : String)
    (words : List String) {query : Query}
    (meant : meaning false (" ".intercalate words) = .ok query)
    (echoed : Console.escapeCharacter ∉ (" ".intercalate words).toList) :
    answered reader path none (front ++ "parse" :: "--" :: words) =
      .ok { status := 0, output := query.written ++ "\n", errors := "" } := by
  have asks : AsksFor [] none false := ⟨[], .nil, rfl, rfl, rfl⟩
  have loaded : Config.load reader path none =
      .ok ({}, ["No config file found at " ++ path ++ ". Using defaults."]) := rfl
  have run : answered reader path none (front ++ "parse" :: "--" :: words) =
      (display query .text).map fun output => { status := 0, output, errors := "" } :=
    answered_meant makes silent loaded asks meant
  rw [run, display_eq meant echoed rfl]
  rfl

/-- With brackets that open no tag in the text, the option for debugging changes no more than the
errors, wherever it stands. -/
theorem debugging_only_adds_bracket :
    answered .terse "settings.toml" none ["-q", "--no-color", "parse", "--", "[1]", "a"] =
        .ok { status := 0, output := "[1] a\n", errors := "" } ∧
      ∃ more, answered .terse "settings.toml" none
        ["-q", "--debug", "--no-color", "parse", "--", "[1]", "a"] =
          .ok { status := 0, output := "[1] a\n", errors := more } := by
  have makes : MakesSettings ["-q", "--no-color"] { quiet := true, noColor := true } :=
    ⟨_, .complete (by decide) rfl (.complete (by decide) rfl .nil), rfl, rfl⟩
  have adds : AddsDebug ["-q", "--no-color"] ["-q", "--debug", "--no-color"] :=
    ⟨["-q"], ["--no-color"], _, _, .complete (by decide) rfl .nil, .complete (by decide) rfl .nil,
      rfl, rfl⟩
  have asks : AsksFor [] none false := ⟨[], .nil, rfl, rfl, rfl⟩
  have loaded : Config.load .terse "settings.toml" none =
      .ok ({}, ["No config file found at settings.toml. Using defaults."]) := rfl
  have literal : Console.isLiteral "[1] a".toList = true := by decide +kernel
  have meant : meaning false "[1] a" = .ok ⟨[.word "[1]", .word "a"]⟩ := by decide +kernel
  have plain : answered .terse "settings.toml" none ["-q", "--no-color", "parse", "--", "[1]", "a"] =
      .ok { status := 0, output := "[1] a\n", errors := "" } :=
    answered_written makes rfl "settings.toml" ["[1]", "a"] meant (by decide)
  obtain ⟨-, -, only⟩ := debugging_only_adds makes rfl adds loaded asks ["[1]", "a"]
  obtain ⟨more, debugged, -⟩ := (only literal (Or.inl rfl)).report _ plain
  exact ⟨plain, more, debugged⟩

/-- A query that the program shows stops the same run when it is to be debugged. -/
theorem debugging_stops_closing_tag :
    answered .terse "settings.toml" none ["parse", "--", "[/x]"] =
        .ok { status := 0, output := "[/x]\n", errors := "" } ∧
      ∃ fault, answered .terse "settings.toml" none ["--debug", "parse", "--", "[/x]"] =
        .error (.brokenMarkup fault) := by
  have meant : meaning false "[/x]" = .ok ⟨[.word "[/x]"]⟩ := by decide +kernel
  have plain : MakesSettings [] {} := ⟨[], .nil, rfl, rfl⟩
  have debugged : MakesSettings ["--debug"] { debug := true } :=
    ⟨_, .complete (by decide) rfl .nil, rfl, rfl⟩
  have asks : AsksFor [] none false := ⟨[], .nil, rfl, rfl, rfl⟩
  have parts : (announcedMarkup false "[/x]").toList =
      "Parsing '".toList ++ '[' :: '/' :: (['x'] ++ ']' :: "' as a query".toList) := by
    decide +kernel
  obtain ⟨fault, unread⟩ := Console.markedText_closing
    (List.all_eq_true.mp (by decide)) (List.forall_mem_singleton.mpr rfl) parts
  have run : answered .terse "settings.toml" none
      (["--debug"] ++ "parse" :: ([] ++ ["--", "[/x]"])) = _ :=
    answered_session debugged rfl (ofArguments_parse asks ["[/x]"])
  refine ⟨answered_written plain rfl "settings.toml" ["[/x]"] meant (by decide), ?_⟩
  have undebugged : ({} : RunSettings).debug = false := rfl
  obtain ⟨stop, stopped⟩ := stopped_of_unshowable undebugged {}
    ⟨_, List.mem_append_right _ (List.mem_singleton_self _),
      Console.not_isShowable_of_unread unread⟩
  exact ⟨stop, run.trans stopped⟩

end SearchBar.CommandLine
