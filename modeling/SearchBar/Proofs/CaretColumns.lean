import SearchBar.Proofs.Debugging

/-!
# Where the caret stands

A text that cannot be read is shown behind two spaces, and in the line below it a
caret, behind two spaces and one more for every character in front of the place
that is reported. A tab of the text goes on to the next tab stop, but counts as
one character. So if every other character takes one column, the caret is never
to the right of the character that it points at, and it stands below it exactly
if every tab in front of that character takes one column as well.

Main statement: `caret_below_iff_tabs_fit`.
-/

namespace SearchBar.Console

open Text

/-- The column behind a character that is shown in a column. A tab goes on to the next tab stop. -/
def nextColumn (column : Nat) (c : Char) : Nat :=
  column + if c = '\t' then tabWidth - column % tabWidth else cellWidth c

/-- The column behind a text that is shown from a column on. -/
def columnBehind (column : Nat) (text : List Char) : Nat := text.foldl nextColumn column

/-- A tab, or a character that takes one column. -/
def isNarrow (c : Char) : Bool := c == '\t' || cellWidth c == 1

/-- Every tab of a text that is shown from a column on takes one column, for it stands in the last
column in front of a tab stop. -/
def TabsFit (column : Nat) (text : List Char) : Prop :=
  ∀ front behind, text = front ++ '\t' :: behind →
    columnBehind column front % tabWidth = tabWidth - 1

/-- What is seen of a character in its column. -/
def seen (c : Char) : Char := if c = '\t' then ' ' else c

/-- A line shows a text behind two spaces, with the character at a place in a column, or nothing if
the place is the end of the text. -/
def ShowsAt (line text : List Char) (place column : Nat) : Prop :=
  ∃ front behind, line = front ++ behind ∧ front = expandTabs 0 (spaces 2 ++ text.take place) ∧
    cells front = column ∧ behind.head? = text[place]?.map seen

/-- The column of the first caret in a line. -/
def caretColumn (line : List Char) : Nat := cells (line.takeWhile (· != '^'))

/-- The column behind a text and one more text is reached in two steps. -/
theorem columnBehind_append (column : Nat) (front rest : List Char) :
    columnBehind column (front ++ rest) = columnBehind (columnBehind column front) rest :=
  List.foldl_append

/-- There is always room for a tab in front of the next tab stop. -/
theorem tab_gap_pos (column : Nat) : 0 < tabWidth - column % tabWidth := by
  have below : column % tabWidth < tabWidth := Nat.mod_lt column (by decide)
  omega

/-- The first character of a line is shown, and the rest from the column behind it on. -/
theorem expandTabs_cons (column : Nat) (c : Char) (rest : List Char) :
    expandTabs column (c :: rest) =
      expandTabs column [c] ++ expandTabs (nextColumn column c) rest := by
  by_cases tab : c = '\t'
  · simp [expandTabs, nextColumn, tab]
  · simp [expandTabs, nextColumn, tab]

/-- A line is shown as its front is, and the rest from the column behind the front on. -/
theorem expandTabs_append (column : Nat) (front rest : List Char) :
    expandTabs column (front ++ rest) =
      expandTabs column front ++ expandTabs (columnBehind column front) rest := by
  induction front generalizing column with
  | nil => rfl
  | cons c front ih =>
    rw [List.cons_append, expandTabs_cons, ih, expandTabs_cons column c front, List.append_assoc]
    rfl

/-- A line takes the cells up to the column behind it. -/
theorem cells_expandTabs (column : Nat) (line : List Char) :
    column + cells (expandTabs column line) = columnBehind column line := by
  induction line generalizing column with
  | nil => rfl
  | cons c rest ih =>
    have first : column + cells (expandTabs column [c]) = nextColumn column c := by
      by_cases tab : c = '\t'
      · have gap := cells_spaces (tabWidth - column % tabWidth)
        rw [spaces] at gap
        simp [expandTabs, nextColumn, tab, gap]
      · simp [expandTabs, nextColumn, tab]
    have step : columnBehind column (c :: rest) = columnBehind (nextColumn column c) rest := rfl
    rw [step, ← ih, expandTabs_cons, cells_append, ← Nat.add_assoc, first]

/-- A line begins with what is seen of its first character. -/
theorem head?_expandTabs (column : Nat) (line : List Char) :
    (expandTabs column line).head? = line.head?.map seen := by
  cases line with
  | nil => rfl
  | cons c rest =>
    by_cases tab : c = '\t'
    · have room : tabWidth - column % tabWidth ≠ 0 := Nat.ne_of_gt (tab_gap_pos column)
      simp [expandTabs, seen, tab, List.head?_replicate, room]
    · simp [expandTabs, seen, tab]

/-- Every place of a text is shown in the column behind the text in front of it. -/
theorem showsAt_expandTabs (text : List Char) (place : Nat) :
    ShowsAt (expandTabs 0 (spaces 2 ++ text)) text place (columnBehind 2 (text.take place)) := by
  have cut : spaces 2 ++ text = (spaces 2 ++ text.take place) ++ text.drop place := by
    rw [List.append_assoc, List.take_append_drop]
  have indent : columnBehind 0 (spaces 2 ++ text.take place) =
      columnBehind 2 (text.take place) := by
    rw [columnBehind_append]
    rfl
  refine ⟨_, expandTabs (columnBehind 2 (text.take place)) (text.drop place), ?_, rfl, ?_, ?_⟩
  · rw [cut, expandTabs_append, indent]
  · have size := cells_expandTabs 0 (spaces 2 ++ text.take place)
    rw [indent] at size
    omega
  · rw [head?_expandTabs, List.head?_drop]

/-- A character that takes one column is no control. -/
theorem space_le_of_cellWidth {c : Char} (single : cellWidth c = 1) : 32 ≤ c.toNat := by
  by_contra control
  have low : zeroCellRanges.has c = true :=
    (zeroCellRanges.has_iff c).mpr ⟨(0, 31), List.mem_cons_self, Nat.zero_le _, by simp; omega⟩
  have nothing : cellWidth c = 0 := by
    unfold cellWidth
    rw [if_neg (by omega), if_pos low]
  omega

/-- A narrow character is a tab, or is shown in its place. -/
theorem eq_tab_or_isStill {c : Char} (narrow : isNarrow c = true) : c = '\t' ∨ isStill c = true := by
  simp only [isNarrow, Bool.or_eq_true, beq_iff_eq] at narrow
  rcases narrow with tab | single
  · exact Or.inl tab
  · exact Or.inr (isStill_of_space_le (space_le_of_cellWidth single))

/-- A text of narrow characters is shown in one line. -/
theorem shownText_narrow {text : List Char} (narrow : ∀ c ∈ text, isNarrow c = true) :
    shownText text = String.ofList (expandTabs 0 text) ++ "\n" := by
  have keeps : settled text = text := by
    apply List.filter_eq_self.mpr
    intro c member
    rcases eq_tab_or_isStill (narrow c member) with rfl | still
    · rfl
    · rw [(isStill_iff.mp still).1]
      rfl
  have oneLine : '\n' ∉ text := by
    intro member
    rcases eq_tab_or_isStill (narrow _ member) with tab | still
    · exact absurd tab (by decide)
    · exact (isStill_iff.mp still).2.1 rfl
  have newLine : "\n".toList = ['\n'] := rfl
  rw [shownText, keeps, linesOf_eq_singleton oneLine, List.map_singleton, joinLines,
    List.flatMap_singleton, ← String.toList_inj, String.toList_append, String.toList_ofList,
    String.toList_ofList, newLine]

/-- A narrow character takes a column, and no more exactly if it is no tab or the next column is a
tab stop. -/
theorem nextColumn_narrow {c : Char} (narrow : isNarrow c = true) (column : Nat) :
    column + 1 ≤ nextColumn column c ∧
      (nextColumn column c = column + 1 ↔ (c = '\t' → column % tabWidth = tabWidth - 1)) := by
  have below : column % tabWidth < tabWidth := Nat.mod_lt column (by decide)
  by_cases tab : c = '\t'
  · simp only [nextColumn, tab, if_true, true_implies]
    omega
  · have single : cellWidth c = 1 := by simpa [isNarrow, tab] using narrow
    simp [nextColumn, tab, single]

/-- The tabs of a text fit if the first character fits, and the tabs behind it. -/
theorem tabsFit_cons {column : Nat} {c : Char} {rest : List Char} :
    TabsFit column (c :: rest) ↔
      (c = '\t' → column % tabWidth = tabWidth - 1) ∧ TabsFit (nextColumn column c) rest := by
  constructor
  · intro fit
    refine ⟨fun tab => fit [] rest (by rw [tab]; rfl), ?_⟩
    intro front behind whole
    exact fit (c :: front) behind (by rw [whole]; rfl)
  · rintro ⟨first, others⟩ front behind whole
    cases front with
    | nil => exact first (List.cons.inj whole).1
    | cons d front =>
      obtain ⟨rfl, tail⟩ := List.cons.inj whole
      exact others front behind tail

/-- A narrow text takes a column for every character, and no more exactly if its tabs fit. -/
theorem columnBehind_narrow {text : List Char} (narrow : ∀ c ∈ text, isNarrow c = true)
    (column : Nat) :
    column + text.length ≤ columnBehind column text ∧
      (column + text.length = columnBehind column text ↔ TabsFit column text) := by
  induction text generalizing column with
  | nil =>
    refine ⟨Nat.le_refl column, fun _ => ?_, fun _ => rfl⟩
    intro front behind whole
    simp at whole
  | cons c rest ih =>
    obtain ⟨least, single⟩ := nextColumn_narrow (narrow c List.mem_cons_self) column
    obtain ⟨low, exact⟩ :=
      ih (fun d member => narrow d (List.mem_cons_of_mem c member)) (nextColumn column c)
    have step : columnBehind column (c :: rest) = columnBehind (nextColumn column c) rest := rfl
    rw [step, tabsFit_cons, ← single, ← exact, List.length_cons]
    -- the first character takes too much or the others do, since none of them takes too little
    omega

/-- The caret stands behind the spaces in front of it. -/
theorem caretColumn_spaces (count : Nat) : caretColumn (spaces count ++ ['^']) = count := by
  have inside : ∀ c ∈ spaces count, (c != '^') = true := by
    intro c member
    rw [(List.mem_replicate.mp member).2]
    decide
  rw [caretColumn, takeWhile_run inside (stopsAt_cons.mpr (by decide)), cells_spaces]

end SearchBar.Console

namespace SearchBar

open Text

/-- What is reported of a text that is no filter concerns a place of the text, or its end. -/
theorem parseFilter_error_position_le {text : String} {error : ParseError}
    (failed : parseFilter text = .error error) : error.position ≤ text.length := by
  obtain ⟨failure, stopped, rfl⟩ := reported_error failed
  have inside : failure.position ≤ text.toList.length := by
    rcases readSingleFilter_count_error stopped with
      unread | ⟨filter, read, numeral, member, uncounted⟩
    · exact readSingleFilter_position_le unread
    · obtain ⟨wellFormed, placed, typed⟩ := readSingleFilter_eq_ok_iff_typed.mp read
      have stands := filter.standsIn_placed numeral (by rw [placed]; exact member)
      have bound := (stands.bounds (wellFormed.counts numeral member)).2
      rw [numeral.count_error_position uncounted, ← typed]
      exact Nat.le_of_lt bound
  rw [String.length_toList] at inside
  exact Int.ofNat_le.mpr inside

/-- What is reported of a text that is no query concerns a place of the text, or its end. -/
theorem parseQuery_error_position_le {text : String} {error : ParseError}
    (failed : parseQuery text = .error error) : error.position ≤ text.length := by
  obtain ⟨gap, -, whole⟩ := exists_gap_behind_trim text.toList
  have size := congrArg List.length whole
  rw [List.length_append, List.length_append, String.length_toList] at size
  have high := (parseQuery_error_position failed).2
  rw [leadingBlanks] at high
  omega

end SearchBar

namespace SearchBar.CommandLine

open Text

/-- The place that is reported of a text that is not read as it should be. -/
theorem exists_place_of_meaning {single : Bool} {text : String} {error : ParseError}
    (failed : meaning single text = .error error) :
    ∃ place : Nat, error.position = place ∧ place ≤ text.length := by
  have high : error.position ≤ text.length := by
    cases single with
    | false => exact parseQuery_error_position_le failed
    | true =>
      rw [meaning, if_pos rfl] at failed
      exact parseFilter_error_position_le (map_eq_error_iff.mp failed)
  obtain ⟨place, same⟩ := Int.eq_ofNat_of_zero_le (worded_of_meaning failed).1.position
  exact ⟨place, same, by omega⟩

/-- The line that shows a text behind two spaces. -/
def textLine (text : String) : List Char :=
  Console.expandTabs 0 (Console.spaces 2 ++ text.toList)

/-- The line with a caret for a place of the text above it. -/
def caretLine (place : Nat) : List Char := Console.spaces (2 + place) ++ ['^']

/-- A line shows a text, and the caret in the line below it points at a place. -/
structure PointsAt (line below : List Char) (text : String) (place : Nat) : Prop where
  /-- The place is in the text, or its end. -/
  inside : place ≤ text.length
  /-- The character at the place is shown in the column behind those in front of it. -/
  shown : Console.ShowsAt line text.toList place
    (Console.columnBehind 2 (text.toList.take place))
  /-- The caret is not to the right of that column. -/
  caret_le : Console.caretColumn below ≤ Console.columnBehind 2 (text.toList.take place)
  /-- It is in that column exactly if every tab in front of the place takes one column. -/
  caret_eq_iff : Console.caretColumn below = Console.columnBehind 2 (text.toList.take place) ↔
    Console.TabsFit 2 (text.toList.take place)

/-- The two lines of a narrow text point at its places. -/
theorem pointsAt_of_narrow {text : String}
    (narrow : ∀ c ∈ text.toList, Console.isNarrow c = true) {place : Nat}
    (inside : place ≤ text.length) : PointsAt (textLine text) (caretLine place) text place := by
  have size : (text.toList.take place).length = place := by
    rw [List.length_take, String.length_toList]
    omega
  obtain ⟨low, fit⟩ :=
    Console.columnBehind_narrow (fun c member => narrow c (List.mem_of_mem_take member)) 2
  have caret : Console.caretColumn (caretLine place) = 2 + (text.toList.take place).length := by
    rw [caretLine, Console.caretColumn_spaces, size]
  refine ⟨inside, Console.showsAt_expandTabs text.toList place, ?_, ?_⟩
  · rw [caret]
    exact low
  · rw [caret]
    exact fit

/-- A narrow text and the caret take a line each. -/
theorem caretLines_narrow {text : String} (narrow : ∀ c ∈ text.toList, Console.isNarrow c = true)
    (place : Nat) :
    caretLines text place =
      String.ofList (textLine text) ++ "\n" ++ (String.ofList (caretLine place) ++ "\n") := by
  have indent : ("  " ++ text).toList = Console.spaces 2 ++ text.toList := by
    rw [String.toList_append]
    rfl
  have shown : Console.shownText (Console.spaces 2 ++ text.toList) =
      String.ofList (textLine text) ++ "\n" := by
    apply Console.shownText_narrow
    intro c member
    rcases List.mem_append.mp member with space | inText
    · rw [(List.mem_replicate.mp space).2]
      decide
    · exact narrow c inText
  rw [caretLines, indent, shown, caretLine]

/-- What a run tells before it reports, with markup looked for in some texts. Only a talkative run
tells anything, and whatever can be shown is told. -/
structure Tells (settings : RunSettings) (markups : List String) (told : Except Stop String) :
    Prop where
  /-- A run that is not talkative tells nothing. -/
  silent : settings.isTalkative = false → told = .ok ""
  /-- What can be shown does not stop the run. -/
  shown : (∀ markup ∈ markups, Console.IsShowable markup) → ∃ line, told = .ok line

/-- The line about a failure, the line that shows the text, and the line with the caret. -/
def pointingLines (text : String) (error : ParseError) : String :=
  failureLine error ++ "\n" ++ (String.ofList (textLine text) ++ "\n" ++
    (String.ofList (caretLine error.position.toNat) ++ "\n"))

/-- A run reports a text that cannot be read, with status 1 and behind what it tells, and the caret
of its report points at the place. -/
structure PointedOut (settings : RunSettings) (markups : List String) (text : String)
    (error : ParseError) (answer : Answer) : Prop where
  /-- The lines of the report. -/
  lines : ∃ told, Tells settings markups told ∧
    answer = told.map fun front =>
      { status := 1, output := "", errors := front ++ pointingLines text error }
  /-- The place that the caret points at is the one that is reported. -/
  points : ∃ place : Nat, error.position = place ∧
    PointsAt (textLine text) (caretLine place) text place

/-- What a run tells before it reports: the warnings, what it is going to do, and how that ended. -/
def RunSettings.told (settings : RunSettings) (warnings : List String)
    (announced : Except Stop String) (traced : String) : Except Stop String :=
  warningLines settings warnings >>= fun warned =>
    announced.map fun line => warned ++ (line ++ traced)

/-- Showing a text that cannot be read reports it, behind what is told. -/
theorem parse_failed (session : Session) {single : Bool} {text : String} {error : ParseError}
    (failed : meaning single text = .error error) (format : OutputFormat) :
    session.parse format single text =
      (if session.settings.debug then announcement single text else .ok "").map fun line =>
        (refusal session.config.showPositions text error).after
          (line ++ if single then "" else session.trace text (.error error)) := by
  have lines := failureLines_eq failed session.config.showPositions
  rw [meaning] at failed
  simp only [Session.parse, failed, bind, Except.bind, pure, Except.pure, lines]
  cases session.settings.debug with
  | false => rfl
  | true =>
    cases announcement single text with
    | error stop => rfl
    | ok line => rfl

/-- Checking a text that cannot be read reports it, behind what is told. -/
theorem validate_failed (session : Session) (unquiet : session.settings.quiet = false)
    {text : String} {error : ParseError} (failed : parseQuery text = .error error) :
    session.validate text =
      (refusal session.config.showPositions text error).after
        (session.trace text (.error error)) := by
  have unread : meaning false text = .error error := failed
  have lines := failureLines_eq unread session.config.showPositions
  simp only [Session.validate, failed, unquiet, Bool.false_eq_true, if_false, lines]
  rfl

/-- The warnings of a run are told if all of them can be shown. -/
theorem warningLines_of_showable {settings : RunSettings} {warnings : List String}
    (showable : ∀ markup ∈ warningMarkup settings.quiet warnings, Console.IsShowable markup) :
    ∃ lines, warningLines settings warnings = .ok lines := by
  have debugged : ∃ lines, warningLines { settings with debug := true } warnings = .ok lines := by
    rcases warningLines_debugged settings warnings with ⟨lines, told, -⟩ | ⟨-, -, markup, found⟩
    · exact ⟨lines, told⟩
    · exact absurd (showable markup found.1) found.2
  cases debug : settings.debug with
  | true =>
    have same : { settings with debug := true } = settings := by rw [← debug]
    rwa [same] at debugged
  | false =>
    rcases warningLines_plain debug warnings with silent | same
    · exact ⟨"", silent⟩
    · rw [same]
      exact debugged

/-- The warnings and what a run that is to be debugged tells are told as they should be. -/
theorem tells_told {settings : RunSettings} {warnings markups : List String}
    {announced : Except Stop String} {traced : String}
    (undebugged : settings.debug = false → announced = .ok "" ∧ traced = "")
    (warned : ∀ markup ∈ warningMarkup settings.quiet warnings, markup ∈ markups)
    (shown : (∀ markup ∈ markups, Console.IsShowable markup) → ∃ line, announced = .ok line) :
    Tells settings markups (settings.told warnings announced traced) := by
  constructor
  · intro silent
    obtain ⟨rfl, rfl⟩ := undebugged (Bool.or_eq_false_iff.mp silent).2
    rw [RunSettings.told, warningLines_silent silent]
    rfl
  · intro showable
    obtain ⟨lines, told⟩ :=
      warningLines_of_showable fun markup member => showable markup (warned markup member)
    obtain ⟨line, rfl⟩ := shown showable
    rw [RunSettings.told, told]
    exact ⟨_, rfl⟩

/-- What a run looks for markup in before it reads a text, unless it tells nothing. -/
def toldMarkup (settings : RunSettings) (warnings : List String) (single : Bool) (text : String) :
    List String :=
  warningMarkup settings.quiet warnings ++
    if settings.debug then [announcedMarkup single text] else []

/-- The report of a narrow text, behind what is told, points at the place. -/
theorem pointedOut_refusal {single : Bool} {text : String} {error : ParseError}
    (failed : meaning single text = .error error)
    (narrow : ∀ c ∈ text.toList, Console.isNarrow c = true) {settings : RunSettings}
    {markups : List String} {told : Except Stop String} (tells : Tells settings markups told) :
    PointedOut settings markups text error
      (told.map fun front => (refusal true text error).after front) := by
  refine ⟨⟨told, tells, ?_⟩, ?_⟩
  · have lines := caretLines_narrow narrow error.position.toNat
    simp only [refusal, Report.after, if_true, lines, pointingLines]
  · obtain ⟨place, same, inside⟩ := exists_place_of_meaning failed
    exact ⟨place, same, pointsAt_of_narrow narrow inside⟩

/-- What is put in front of the errors of a report in two steps is told in one. -/
theorem Session.answer_told (session : Session) (warnings : List String) (task : Task)
    {announced : Except Stop String} {traced : String} {report : Report}
    (performed : session.perform task = announced.map fun line => report.after (line ++ traced)) :
    session.answer warnings task =
      (session.settings.told warnings announced traced).map fun front => report.after front := by
  rw [Session.answer, performed, RunSettings.told]
  cases warningLines session.settings warnings with
  | error stop => rfl
  | ok warned =>
    cases announced with
    | error stop => rfl
    | ok line =>
      simp only [bind, Except.bind, Except.map, Report.after, String.append_assoc]

section

variable {settings : RunSettings} {config : Config} (positions : config.showPositions = true)
  (warnings : List String) {text : String}
  (narrow : ∀ c ∈ text.toList, Console.isNarrow c = true) {error : ParseError}

include positions narrow

/-- A session that is to show a narrow text that cannot be read points at the place. -/
theorem pointedOut_parse (format? : Option OutputFormat) {single : Bool}
    (failed : meaning single text = .error error) :
    PointedOut settings (toldMarkup settings warnings single text) text error
      (Session.answer ⟨settings, config⟩ warnings (.parse format? single text)) := by
  have performed : Session.perform ⟨settings, config⟩ (.parse format? single text) = _ :=
    parse_failed ⟨settings, config⟩ failed (format?.getD (Session.format ⟨settings, config⟩))
  rw [Session.answer_told _ warnings _ performed]
  simp only [positions]
  apply pointedOut_refusal failed narrow
  apply tells_told
  · intro undebugged
    simp only [undebugged, Bool.false_eq_true, if_false, Session.trace, ite_self, and_self]
  · exact fun markup member => List.mem_append_left _ member
  · intro showable
    cases debug : settings.debug with
    | false => exact ⟨"", by simp⟩
    | true =>
      rcases announcement_debugged single text with ⟨line, told, -⟩ | ⟨-, -, unshowable⟩
      · exact ⟨line, by simpa using told⟩
      · have listed : announcedMarkup single text ∈ toldMarkup settings warnings single text := by
          simp [toldMarkup, debug]
        exact absurd (showable _ listed) unshowable

/-- A session that is to check a narrow text that is no query points at the place, unless it is to
be quiet. -/
theorem pointedOut_validate (unquiet : settings.quiet = false)
    (failed : parseQuery text = .error error) :
    PointedOut settings (warningMarkup false warnings) text error
      (Session.answer ⟨settings, config⟩ warnings (.validate text)) := by
  have performed : Session.perform ⟨settings, config⟩ (.validate text) =
      (Except.ok "" : Except Stop String).map fun line =>
        (refusal config.showPositions text error).after
          (line ++ Session.trace ⟨settings, config⟩ text (.error error)) := by
    rw [Session.perform, validate_failed ⟨settings, config⟩ unquiet failed, Except.map,
      String.empty_append]
  rw [Session.answer_told _ warnings _ performed]
  simp only [positions]
  have unread : meaning false text = .error error := failed
  apply pointedOut_refusal unread narrow
  apply tells_told
  · intro undebugged
    simp only [undebugged, Bool.false_eq_true, if_false, Session.trace, and_self]
  · rw [unquiet]
    exact fun markup member => member
  · exact fun _ => ⟨"", rfl⟩

end

/-- For all options, and every configuration that can be loaded and shows positions: a text of
narrow characters that cannot be read is shown in one line, and the caret in the line below it
stands in the column of the character at the place that is reported, or behind the last one if that
is the end, exactly if every tab in front of the place takes one column. Otherwise it stands to the
left of it. -/
theorem caret_below_iff_tabs_fit {front : List String} {settings : RunSettings}
    (makes : MakesSettings front settings) {path : String} {content? : Option ByteArray}
    {config : Config} {warnings : List String}
    (loaded : Config.load reader path content? = .ok (config, warnings))
    (positions : config.showPositions = true) {options : List String}
    {format? : Option OutputFormat} {single : Bool} (asks : AsksFor options format? single)
    (words : List String)
    (narrow : ∀ c ∈ (" ".intercalate words).toList, Console.isNarrow c = true) :
    let text := " ".intercalate words
    (∀ error, meaning single text = .error error →
        PointedOut settings (toldMarkup settings warnings single text) text error
          (answered reader path content? (front ++ "parse" :: (options ++ "--" :: words)))) ∧
      ∀ error, parseQuery text = .error error → settings.quiet = false →
        PointedOut settings (warningMarkup false warnings) text error
          (answered reader path content? (front ++ "validate" :: "--" :: words)) := by
  intro text
  have parseRun : answered reader path content? (front ++ "parse" :: (options ++ "--" :: words)) =
      Session.answer ⟨settings, config⟩ warnings (.parse format? single text) :=
    answered_session makes loaded (ofArguments_parse asks words)
  have validateRun : answered reader path content? (front ++ "validate" :: "--" :: words) =
      Session.answer ⟨settings, config⟩ warnings (.validate text) :=
    answered_session makes loaded (ofArguments_validate words)
  rw [parseRun, validateRun]
  constructor
  · intro error failed
    exact pointedOut_parse positions warnings narrow format? failed
  · intro error failed unquiet
    exact pointedOut_validate positions warnings narrow unquiet failed

/-- A tab that takes one column leaves the caret below the count that is out of range. -/
theorem caret_below_fitting_tab :
    answered .terse "settings.toml" none ["parse", "--", "abcde\timages:300"] =
        .ok
          { status := 1
            output := ""
            errors := "Error: Invalid search query: 300 is out of range (0-255) (position 13)\n" ++
              "  abcde images:300\n               ^\n" } ∧
      Console.caretColumn (caretLine 13) = 15 ∧
      Console.ShowsAt (textLine "abcde\timages:300") "abcde\timages:300".toList 13 15 := by
  have makes : MakesSettings [] {} := ⟨[], .nil, rfl, rfl⟩
  have asks : AsksFor [] none false := ⟨[], .nil, rfl, rfl, rfl⟩
  have loaded : Config.load .terse "settings.toml" none =
      .ok ({}, ["No config file found at settings.toml. Using defaults."]) := rfl
  have narrow : ∀ c ∈ "abcde\timages:300".toList, Console.isNarrow c = true :=
    List.all_eq_true.mp (by decide)
  let error : ParseError := ⟨"abcde\timages:300", 13, [], "300 is out of range (0-255)"⟩
  have failed : meaning false "abcde\timages:300" = .error error := by decide +kernel
  have column : Console.columnBehind 2 ("abcde\timages:300".toList.take 13) = 15 := by decide
  have fit : Console.TabsFit 2 ("abcde\timages:300".toList.take 13) :=
    (Console.columnBehind_narrow (fun c member => narrow c (List.mem_of_mem_take member)) 2).2.mp
      column.symm
  have both := caret_below_iff_tabs_fit makes loaded rfl asks ["abcde\timages:300"] narrow
  obtain ⟨⟨told, tells, answer⟩, place, same, points⟩ := both.1 error failed
  obtain rfl : place = 13 := (Int.ofNat.inj same).symm
  have points : PointsAt (textLine "abcde\timages:300") (caretLine 13) "abcde\timages:300" 13 :=
    points
  have lines : "" ++ pointingLines "abcde\timages:300" error =
      "Error: Invalid search query: 300 is out of range (0-255) (position 13)\n" ++
        "  abcde images:300\n               ^\n" := by decide +kernel
  refine ⟨?_, ?_, ?_⟩
  · rw [tells.silent rfl] at answer
    rw [← lines]
    exact answer
  · rw [points.caret_eq_iff.mpr fit, column]
  · rw [← column]
    exact points.shown

/-- A tab that takes more than one column leaves the caret to the left of the count that is out of
range. -/
theorem caret_beside_tab :
    answered .terse "settings.toml" none ["validate", "--", "a\timages:300"] =
        .ok
          { status := 1
            output := ""
            errors := "Error: Invalid search query: 300 is out of range (0-255) (position 9)\n" ++
              "  a     images:300\n           ^\n" } ∧
      Console.caretColumn (caretLine 9) = 11 ∧
      Console.ShowsAt (textLine "a\timages:300") "a\timages:300".toList 9 15 := by
  have makes : MakesSettings [] {} := ⟨[], .nil, rfl, rfl⟩
  have loaded : Config.load .terse "settings.toml" none =
      .ok ({}, ["No config file found at settings.toml. Using defaults."]) := rfl
  have narrow : ∀ c ∈ "a\timages:300".toList, Console.isNarrow c = true :=
    List.all_eq_true.mp (by decide)
  let error : ParseError := ⟨"a\timages:300", 9, [], "300 is out of range (0-255)"⟩
  have failed : parseQuery "a\timages:300" = .error error := by decide +kernel
  have column : Console.columnBehind 2 ("a\timages:300".toList.take 9) = 15 := by decide
  have run : answered .terse "settings.toml" none
      ([] ++ "validate" :: ["--", "a\timages:300"]) = _ :=
    answered_session makes loaded (ofArguments_validate ["a\timages:300"])
  have positions : ({} : Config).showPositions = true := rfl
  have unquiet : ({} : RunSettings).quiet = false := rfl
  obtain ⟨⟨told, tells, answer⟩, -⟩ := pointedOut_validate positions
    ["No config file found at settings.toml. Using defaults."] narrow unquiet failed
  have lines : "" ++ pointingLines "a\timages:300" error =
      "Error: Invalid search query: 300 is out of range (0-255) (position 9)\n" ++
        "  a     images:300\n           ^\n" := by decide +kernel
  refine ⟨?_, Console.caretColumn_spaces 11, ?_⟩
  · rw [tells.silent rfl] at answer
    rw [← lines]
    exact run.trans answer
  · rw [← column]
    exact Console.showsAt_expandTabs "a\timages:300".toList 9

end SearchBar.CommandLine
