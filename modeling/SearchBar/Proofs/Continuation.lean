import Mathlib.Data.List.Basic
import SearchBar.Proofs.TypedFilter

/-!
# How filters go on

A reader that stops in the middle of a filter has read the front of some text
that is a filter, and what it expects are the parts with which such a text goes
on. The places in which it can stop, and the parts that are expected there, are
listed as a relation. For each of them the relation names a filter to go on to,
whose counts are zero behind the front.

Main statements: whatever goes on can be typed (`Filter.Continues.text`), a
filter that cannot be read has failed in one of the places listed
(`readFilter_error`), and what could make a filter longer does
(`Filter.continues_of_extension`).
-/

namespace SearchBar

open Text

variable {α : Type}

/-- A text that a terminal stands for. -/
def Terminal.Lexeme (terminal : Terminal) (text : String) : Prop :=
  match terminal with
  | keyword => ∃ keyword : Keyword, text = keyword.written
  | quotedString => ∃ phrase, IsPhrase phrase ∧ text = "\"" ++ phrase ++ "\""
  | word => IsWord text
  | identifier => text ≠ "" ∧ IsIdentifier text
  | truthValue => ∃ value, text = boolText value
  | only => text = Tristate.only.written
  | username => ∃ name, IsUsername name ∧ text = "@" ++ name
  | userId => IsUserId text
  | comparator => ∃ comparison : Comparison, text = comparison.symbol
  | count => text ≠ "" ∧ ∀ c ∈ text.toList, isDecimalDigit c = true
  | date => isDateText text.toList = true
  | value =>
    ∃ c rest, text.toList = c :: rest ∧ opensTextBound c = true ∧
      ∀ d ∈ rest, continuesTextBound d = true
  | blank => text ≠ "" ∧ ∀ c ∈ text.toList, isBlank c = true
  | colon => text = ":"
  | slash => text = "/"
  | rangeSeparator => text = ".."
  | endOfText => text = ""

/-- The ways in which a range goes on: behind the text on the left stands a part of this kind, and
the range is one to go on to, with a sample for every bound that is still to come. -/
inductive Range.Continues (form : BoundForm α) (written : α → String) (valid : α → Prop)
    (sample : α) : List Char → Terminal → Range α → Prop
  | comparator :
    Continues form written valid sample [] .comparator (.compared .less sample)
  | first : Continues form written valid sample [] form.terminal (.exactly sample)
  | compared (comparison : Comparison) :
    Continues form written valid sample comparison.symbol.toList form.terminal
      (.compared comparison sample)
  | separator {lower : α} (read : valid lower) :
    Continues form written valid sample (written lower).toList .rangeSeparator
      (.between lower sample)
  | second {lower : α} (read : valid lower) :
    Continues form written valid sample ((written lower).toList ++ "..".toList) form.terminal
      (.between lower sample)

section

variable {form : BoundForm α} {written : α → String} {valid : α → Prop} {sample : α}
  {front : List Char} {terminal : Terminal} {range : Range α}

/-- A range that goes on is typed as the text in front of the part, the part, and some more. -/
theorem Range.Continues.text (fits : form.terminal.Lexeme (written sample))
    (continues : range.Continues form written valid sample front terminal) :
    ∃ lexeme more : String, terminal.Lexeme lexeme ∧
      (range.written written).toList = front ++ (lexeme.toList ++ more.toList) := by
  cases continues with
  | comparator =>
    exact ⟨Comparison.less.symbol, written sample, ⟨.less, rfl⟩, by simp [Range.written]⟩
  | first => exact ⟨written sample, "", fits, by simp [Range.written]⟩
  | compared comparison => exact ⟨written sample, "", fits, by simp [Range.written]⟩
  | separator read => exact ⟨"..", written sample, rfl, by simp [Range.written]⟩
  | second read => exact ⟨written sample, "", fits, by simp [Range.written]⟩

/-- The bounds of a range that goes on are valid. -/
theorem Range.Continues.bounds (fine : valid sample)
    (continues : range.Continues form written valid sample front terminal) :
    ∀ bound ∈ range.bounds, valid bound := by
  intro bound member
  cases continues with
  | comparator => rwa [List.mem_singleton.mp member]
  | first => rwa [List.mem_singleton.mp member]
  | compared comparison => rwa [List.mem_singleton.mp member]
  | separator read =>
    rcases List.mem_pair.mp member with rfl | rfl
    · exact read
    · exact fine
  | second read =>
    rcases List.mem_pair.mp member with rfl | rfl
    · exact read
    · exact fine

/-- The numerals of a range that goes on begin in the text in front of the part, or are zero. -/
theorem Range.Continues.placed {sample : Numeral} {range : Range Numeral}
    (continues : range.Continues countForm Numeral.digits Numeral.WellFormed sample front terminal)
    (offset : Nat) :
    ∀ numeral ∈ (range.placed Numeral.digits Numeral.placed offset).bounds,
      numeral.offset < offset + front.length ∨ numeral.digits = sample.digits := by
  intro numeral member
  cases continues with
  | comparator =>
    obtain rfl := List.mem_singleton.mp member
    exact Or.inr rfl
  | first =>
    obtain rfl := List.mem_singleton.mp member
    exact Or.inr rfl
  | compared comparison =>
    obtain rfl := List.mem_singleton.mp member
    exact Or.inr rfl
  | separator read =>
    rcases List.mem_pair.mp member with rfl | rfl
    · left
      have some := List.length_pos_iff.mpr (mt String.toList_eq_nil_iff.mp read.1)
      simpa [Numeral.placed] using some
    · exact Or.inr rfl
  | second read =>
    rcases List.mem_pair.mp member with rfl | rfl
    · left
      simp [Numeral.placed]
    · exact Or.inr rfl

/-- A range that cannot be read has failed where a range goes on with what was expected. -/
theorem readRange_error {place : Nat → α → α} (exact : form.Exact written place valid)
    (sample : α) {offset : Nat} {text : List Char} {failure : Failure}
    (failed : readRange form offset text = .error failure) :
    ∃ front behind terminals, text = front ++ behind ∧
      failure = ⟨offset + front.length, .unexpected terminals⟩ ∧
      ∀ terminal ∈ terminals, ∃ range : Range α,
        range.Continues form written valid sample front terminal := by
  simp only [readRange, unexpected] at failed
  split at failed
  · rename_i comparison rest symbol
    split at failed
    · cases failed
    · cases failed
      refine ⟨comparison.symbol.toList, rest, [form.terminal], Comparison.read_eq symbol, ?_, ?_⟩
      · rw [String.length_toList]
      · intro terminal listed
        obtain rfl := List.mem_singleton.mp listed
        exact ⟨_, .compared comparison⟩
  · split at failed
    · rename_i lower rest found
      split at failed
      · cases failed
      · cases failed
        have whole := exact.faithful _ _ _ _ found
        refine ⟨(written lower).toList ++ "..".toList, rest, [form.terminal], ?_, ?_, ?_⟩
        · rw [whole, List.append_assoc]
          rfl
        · have place := congrArg List.length whole
          simp only [List.length_append, List.length_cons] at place
          simp only [List.length_append, Failure.mk.injEq, and_true]
          have size : "..".toList.length = 2 := rfl
          omega
        · intro terminal listed
          obtain rfl := List.mem_singleton.mp listed
          exact ⟨_, .second (exact.sound found).1⟩
    · cases failed
    · cases failed
      refine ⟨[], text, [.comparator, form.terminal], rfl, rfl, ?_⟩
      intro terminal listed
      rcases List.mem_pair.mp listed with rfl | rfl
      · exact ⟨_, .comparator⟩
      · exact ⟨_, .first⟩

/-- What could make a range longer does. -/
theorem Range.continues_of_extension (form : BoundForm α) (written : α → String) (sample : α)
    (bounds : ∀ bound ∈ range.bounds, valid bound) (extension : terminal ∈ range.extensions) :
    ∃ longer : Range α,
      longer.Continues form written valid sample (range.written written).toList terminal := by
  cases range with
  | exactly value =>
    obtain rfl := List.mem_singleton.mp extension
    exact ⟨_, .separator (bounds value List.mem_cons_self)⟩
  | compared comparison bound => cases extension
  | between lower upper => cases extension

end

/-- A numeral for the places where any count will do. -/
def Numeral.sample : Numeral := ⟨0, "0"⟩

/-- A date for the places where any date will do. -/
def DateText.sample : DateText := ⟨"0", by decide⟩

/-- An identifier of an author for the places where any will do. -/
def sampleUserId : String := String.ofList (List.replicate userIdLength '0')

/-- The numeral is one. -/
theorem Numeral.wellFormed_sample : Numeral.sample.WellFormed :=
  ⟨by decide, List.all_eq_true.mp (by decide)⟩

/-- The identifier of an author is one. -/
theorem isUserId_sample : IsUserId sampleUserId := ⟨by decide, List.all_eq_true.mp (by decide)⟩

/-- A letter can be typed as an identifier. -/
theorem isIdentifier_letter : IsIdentifier "a" := List.all_eq_true.mp (by decide)

/-- A letter can be typed as the name of an author. -/
theorem isUsername_letter : IsUsername "a" := ⟨by decide, List.all_eq_true.mp (by decide)⟩

/-- A letter can be typed as a word. -/
theorem isWord_letter : IsWord "a" := by
  refine ⟨by decide, List.all_eq_true.mp (by decide), by decide, ?_⟩
  intro keyword
  cases keyword <;> decide

/-- The empty text can be typed as an identifier. -/
theorem isIdentifier_empty : IsIdentifier "" := List.all_eq_true.mp rfl

/-- The empty text can be typed as a phrase. -/
theorem isPhrase_empty : IsPhrase "" := List.not_mem_nil

namespace Filter

/-- The ways in which a filter goes on: behind the text on the left stands a part of this kind, and
the filter is one to go on to. -/
inductive Continues : List Char → Terminal → Filter Numeral → Prop
  | keyword : Continues [] .keyword (.kind "")
  | quotedString : Continues [] .quotedString (.quoted "")
  | word : Continues [] .word (.word "a")
  | truthValue : Continues Keyword.draft.characters .truthValue (.draft .yes)
  | only : Continues Keyword.draft.characters .only (.draft .only)
  | kind : Continues Keyword.kind.characters .identifier (.kind "a")
  | category : Continues Keyword.category.characters .identifier (.category "a")
  | username : Continues Keyword.creator.characters .username (.creator (.username "a"))
  | userId : Continues Keyword.creator.characters .userId (.creator (.userId sampleUserId))
  | created {front : List Char} {terminal : Terminal} {range : Range DateText}
    (continues : range.Continues dateForm DateText.text (fun _ => True) .sample front terminal) :
    Continues (Keyword.created.characters ++ front) terminal (.created range)
  | images {front : List Char} {terminal : Terminal} {range : Range Numeral}
    (continues : range.Continues countForm Numeral.digits Numeral.WellFormed .sample front
      terminal) :
    Continues (Keyword.images.characters ++ front) terminal (.images range)
  | propertyKind :
    Continues Keyword.properties.characters .identifier (.propertyCount "a" (.exactly .sample))
  | propertyColon {propertyKind : String} (named : IsIdentifier propertyKind) :
    Continues (Keyword.properties.characters ++ propertyKind.toList) .colon
      (.propertyCount propertyKind (.exactly .sample))
  | propertySlash {propertyKind : String} (named : IsIdentifier propertyKind) :
    Continues (Keyword.properties.characters ++ propertyKind.toList) .slash
      (.property propertyKind "" true)
  | propertyCount {propertyKind : String} (named : IsIdentifier propertyKind)
    {front : List Char} {terminal : Terminal} {range : Range Numeral}
    (continues : range.Continues countForm Numeral.digits Numeral.WellFormed .sample front
      terminal) :
    Continues (Keyword.properties.characters ++ (propertyKind.toList ++ ':' :: front)) terminal
      (.propertyCount propertyKind range)
  | id {propertyKind : String} (named : IsIdentifier propertyKind) :
    Continues (Keyword.properties.characters ++ (propertyKind.toList ++ ['/'])) .identifier
      (.property propertyKind "a" true)
  | idColon {propertyKind id : String} (named : IsIdentifier propertyKind)
    (identified : IsIdentifier id) :
    Continues (Keyword.properties.characters ++ (propertyKind.toList ++ '/' :: id.toList)) .colon
      (.property propertyKind id true)
  | propertyValue {propertyKind id : String} (named : IsIdentifier propertyKind)
    (identified : IsIdentifier id) :
    Continues (Keyword.properties.characters ++ (propertyKind.toList ++ '/' :: (id.toList ++ [':'])))
      .truthValue (.property propertyKind id true)

variable {front : List Char} {terminal : Terminal} {filter : Filter Numeral}

/-- A filter that goes on is typed as the text in front of the part, the part, and some more. -/
theorem Continues.text (continues : filter.Continues front terminal) :
    ∃ lexeme more : String, terminal.Lexeme lexeme ∧
      filter.typed.toList = front ++ (lexeme.toList ++ more.toList) := by
  have digit : countForm.terminal.Lexeme Numeral.sample.digits := Numeral.wellFormed_sample
  have date : dateForm.terminal.Lexeme DateText.sample.text := DateText.sample.lexical
  have identifier : Terminal.identifier.Lexeme "a" := ⟨by decide, isIdentifier_letter⟩
  cases continues with
  | keyword => exact ⟨"kind:", "", ⟨.kind, rfl⟩, by decide⟩
  | quotedString => exact ⟨"\"\"", "", ⟨"", isPhrase_empty, rfl⟩, by decide⟩
  | word => exact ⟨"a", "", isWord_letter, by decide⟩
  | truthValue => exact ⟨"true", "", ⟨true, rfl⟩, by decide⟩
  | only => exact ⟨"only", "", rfl, by decide⟩
  | kind => exact ⟨"a", "", identifier, by decide⟩
  | category => exact ⟨"a", "", identifier, by decide⟩
  | username => exact ⟨"@a", "", ⟨"a", isUsername_letter, rfl⟩, by decide⟩
  | userId => exact ⟨sampleUserId, "", isUserId_sample, by decide⟩
  | created continues =>
    obtain ⟨lexeme, more, fits, text⟩ := continues.text date
    refine ⟨lexeme, more, fits, ?_⟩
    simp only [typed, writtenWith, String.toList_append, Keyword.characters, text,
      List.append_assoc]
  | images continues =>
    obtain ⟨lexeme, more, fits, text⟩ := continues.text digit
    refine ⟨lexeme, more, fits, ?_⟩
    simp only [typed, writtenWith, String.toList_append, Keyword.characters, text,
      List.append_assoc]
  | propertyKind => exact ⟨"a", ":0", identifier, by decide⟩
  | propertyColon named =>
    refine ⟨":", "0", rfl, ?_⟩
    simp [typed, writtenWith, Keyword.characters, Range.written, Numeral.sample]
  | propertySlash named =>
    refine ⟨"/", ":true", rfl, ?_⟩
    simp [typed, writtenWith, Keyword.characters, boolText]
  | propertyCount named continues =>
    obtain ⟨lexeme, more, fits, text⟩ := continues.text digit
    refine ⟨lexeme, more, fits, ?_⟩
    simp [typed, writtenWith, Keyword.characters, text]
  | id named =>
    refine ⟨"a", ":true", identifier, ?_⟩
    simp [typed, writtenWith, Keyword.characters, boolText]
  | idColon named identified =>
    refine ⟨":", "true", rfl, ?_⟩
    simp [typed, writtenWith, Keyword.characters, boolText]
  | propertyValue named identified =>
    refine ⟨"true", "", ⟨true, rfl⟩, ?_⟩
    simp [typed, writtenWith, Keyword.characters, boolText]

/-- A filter that goes on can be typed. -/
theorem Continues.wellFormed (continues : filter.Continues front terminal) :
    filter.WellFormed Numeral.WellFormed := by
  have onlyZero : ∀ bound ∈ (Range.exactly Numeral.sample).bounds, bound.WellFormed := by
    intro bound member
    rw [List.mem_singleton.mp member]
    exact Numeral.wellFormed_sample
  cases continues with
  | keyword => exact isIdentifier_empty
  | quotedString => exact isPhrase_empty
  | word => exact isWord_letter
  | truthValue => trivial
  | only => trivial
  | kind => exact isIdentifier_letter
  | category => exact isIdentifier_letter
  | username => exact isUsername_letter
  | userId => exact isUserId_sample
  | created continues => trivial
  | images continues => exact continues.bounds Numeral.wellFormed_sample
  | propertyKind => exact ⟨isIdentifier_letter, onlyZero⟩
  | propertyColon valid => exact ⟨valid, onlyZero⟩
  | propertySlash valid => exact ⟨valid, isIdentifier_empty⟩
  | propertyCount valid continues => exact ⟨valid, continues.bounds Numeral.wellFormed_sample⟩
  | id valid => exact ⟨valid, isIdentifier_letter⟩
  | idColon valid validId => exact ⟨valid, validId⟩
  | propertyValue valid validId => exact ⟨valid, validId⟩

/-- The numerals of a filter that goes on begin in the text in front of the part, or are zero. -/
theorem Continues.counts (continues : filter.Continues front terminal) :
    ∀ numeral ∈ filter.placed.counts,
      numeral.offset < front.length ∨ numeral.digits = Numeral.sample.digits := by
  intro numeral member
  cases continues with
  | images continues =>
    have bound := continues.placed Keyword.images.characters.length numeral member
    rwa [List.length_append]
  | propertyKind =>
    obtain rfl := List.mem_singleton.mp member
    exact Or.inr rfl
  | propertyColon valid =>
    obtain rfl := List.mem_singleton.mp member
    exact Or.inr rfl
  | propertyCount valid continues =>
    have bound := continues.placed _ numeral member
    simp only [List.length_append, List.length_cons, String.length_toList]
    rcases bound with inside | zero
    · left
      omega
    · exact Or.inr zero
  | _ => cases member

/-- What could make a filter longer does. -/
theorem continues_of_extension (wellFormed : filter.WellFormed Numeral.WellFormed)
    (extension : terminal ∈ filter.extensions) :
    ∃ longer : Filter Numeral, longer.Continues filter.typed.toList terminal := by
  cases filter with
  | kind text =>
    by_cases empty : text = ""
    · subst empty
      obtain rfl := List.mem_singleton.mp extension
      exact ⟨_, .kind⟩
    · rw [extensions, if_neg empty] at extension
      cases extension
  | category text =>
    by_cases empty : text = ""
    · subst empty
      obtain rfl := List.mem_singleton.mp extension
      exact ⟨_, .category⟩
    · rw [extensions, if_neg empty] at extension
      cases extension
  | created range =>
    obtain ⟨longer, continues⟩ :=
      range.continues_of_extension dateForm DateText.text .sample (fun _ _ => trivial) extension
    rw [typed, writtenWith, String.toList_append]
    exact ⟨_, .created continues⟩
  | images range =>
    obtain ⟨longer, continues⟩ :=
      range.continues_of_extension countForm Numeral.digits .sample wellFormed extension
    rw [typed, writtenWith, String.toList_append]
    exact ⟨_, .images continues⟩
  | propertyCount propertyKind range =>
    obtain ⟨longer, continues⟩ :=
      range.continues_of_extension countForm Numeral.digits .sample wellFormed.2 extension
    have text : (Filter.propertyCount propertyKind range).typed.toList =
        Keyword.properties.characters ++
          (propertyKind.toList ++ ':' :: (range.written Numeral.digits).toList) := by
      simp [typed, writtenWith, Keyword.characters]
    rw [text]
    exact ⟨_, .propertyCount wellFormed.1 continues⟩
  | _ => cases extension

end Filter

/-- The text stops being the front of a filter in the place of the failure, and a filter goes on
there with each of the parts that were expected. -/
def Interrupted (text : List Char) (failure : Failure) : Prop :=
  ∃ front behind terminals, text = front ++ behind ∧
    failure = ⟨front.length, .unexpected terminals⟩ ∧
    ∀ terminal ∈ terminals, ∃ filter : Filter Numeral, filter.Continues front terminal

/-- A failure behind the front of filters that go on with what was expected. -/
theorem Interrupted.of_front {text : List Char} {place : Nat} {terminals : List Terminal}
    (front behind : List Char) (whole : text = front ++ behind) (size : place = front.length)
    (continues : ∀ terminal ∈ terminals,
      ∃ filter : Filter Numeral, filter.Continues front terminal) :
    Interrupted text ⟨place, .unexpected terminals⟩ := by
  subst size
  exact ⟨front, behind, terminals, whole, rfl, continues⟩

section

variable {text : List Char} {failure : Failure}

/-- The states of drafts are what a draft qualifier goes on with. -/
theorem readDraft_error
    (failed : readDraft Keyword.draft.characters.length text = .error failure) :
    Interrupted (Keyword.draft.characters ++ text) failure := by
  simp only [readDraft, unexpected] at failed
  split at failed
  · cases failed
  · cases failed
    apply Interrupted.of_front _ text rfl rfl
    intro terminal listed
    rcases List.mem_pair.mp listed with rfl | rfl
    · exact ⟨_, .truthValue⟩
    · exact ⟨_, .only⟩

/-- An author is what a creator qualifier goes on with. -/
theorem readCreator_error
    (failed : readCreator Keyword.creator.characters.length text = .error failure) :
    Interrupted (Keyword.creator.characters ++ text) failure := by
  have author : Interrupted (Keyword.creator.characters ++ text)
      ⟨Keyword.creator.characters.length, .unexpected [.username, .userId]⟩ := by
    apply Interrupted.of_front _ text rfl rfl
    intro terminal listed
    rcases List.mem_pair.mp listed with rfl | rfl
    · exact ⟨_, .username⟩
    · exact ⟨_, .userId⟩
  simp only [readCreator, unexpected] at failed
  split at failed
  · split at failed
    · cases failed
    · cases failed
      exact author
  · split at failed
    · cases failed
    · cases failed
      exact author

/-- A mapped reading fails as the reading does. -/
theorem Reading.map_error {α β : Type} {f : α → β} {outcome : Except Failure (Reading α)}
    (failed : outcome.map (·.map f) = .error failure) : outcome = .error failure := by
  cases outcome with
  | error other => cases failed; rfl
  | ok reading => cases failed

/-- Only an identifier that is empty could have been longer. -/
theorem readIdentifier_extension (text : List Char) (terminal : Terminal)
    (extension : terminal ∈ (readIdentifier text).extensions) :
    (readIdentifier text).value = "" ∧ terminal = .identifier := by
  rw [(readIdentifier_sound text).2] at extension
  split at extension
  · rename_i empty
    exact ⟨empty, List.mem_singleton.mp extension⟩
  · cases extension

/-- Behind a lead that filters with a range begin with, a filter goes on as a range does. -/
theorem interrupted_of_range {form : BoundForm α} {written : α → String} {place : Nat → α → α}
    {valid : α → Prop} {offset : Nat} (exact : form.Exact written place valid) (sample : α)
    (lead : List Char) (size : offset = lead.length)
    (continues : ∀ {front : List Char} {terminal : Terminal} {range : Range α},
      range.Continues form written valid sample front terminal →
        ∃ filter : Filter Numeral, filter.Continues (lead ++ front) terminal)
    (failed : readRange form offset text = .error failure) :
    Interrupted (lead ++ text) failure := by
  obtain ⟨front, behind, terminals, rfl, rfl, goesOn⟩ := readRange_error exact sample failed
  subst size
  apply Interrupted.of_front _ behind (List.append_assoc lead front behind).symm
    List.length_append.symm
  intro terminal listed
  obtain ⟨range, found⟩ := goesOn terminal listed
  exact continues found

/-- Behind its kind and a colon a properties qualifier goes on with a count. -/
theorem readProperties_error_count {propertyKind : String} (named : IsIdentifier propertyKind)
    (failed : readRange countForm
      (Keyword.properties.characters.length + propertyKind.length + 1) text = .error failure) :
    Interrupted (Keyword.properties.characters ++ (propertyKind.toList ++ ':' :: text)) failure := by
  have behindColon : ∀ front : List Char,
      Keyword.properties.characters ++ (propertyKind.toList ++ ':' :: front) =
        Keyword.properties.characters ++ (propertyKind.toList ++ [':']) ++ front := by
    intro front
    simp
  rw [behindColon]
  apply interrupted_of_range countForm_exact .sample _ ?_ ?_ failed
  · simp only [List.length_append, List.length_cons, List.length_nil, String.length_toList]
    omega
  · intro front terminal range continues
    rw [← behindColon]
    exact ⟨_, .propertyCount named continues⟩

/-- Behind its kind, a slash, an identifier and a colon a properties qualifier goes on with a truth
value. -/
theorem readProperties_error_value {propertyKind id : String} (named : IsIdentifier propertyKind)
    (identified : IsIdentifier id)
    (failed : readPropertyValue propertyKind id
      (Keyword.properties.characters.length + propertyKind.length + 1 + id.length + 1) text =
        .error failure) :
    Interrupted
      (Keyword.properties.characters ++ (propertyKind.toList ++ '/' :: (id.toList ++ ':' :: text)))
      failure := by
  simp only [readPropertyValue, unexpected] at failed
  split at failed
  · cases failed
  · cases failed
    apply Interrupted.of_front
      (Keyword.properties.characters ++ (propertyKind.toList ++ '/' :: (id.toList ++ [':']))) text
    · simp
    · simp only [List.length_append, List.length_cons, List.length_nil, String.length_toList]
      omega
    · intro terminal listed
      obtain rfl := List.mem_singleton.mp listed
      exact ⟨_, .propertyValue named identified⟩

/-- A properties qualifier goes on with what its next part is. -/
theorem readProperties_error
    (failed : readProperties Keyword.properties.characters.length text = .error failure) :
    Interrupted (Keyword.properties.characters ++ text) failure := by
  have whole := readIdentifier_eq text
  have named := (readIdentifier_sound text).1
  have nameless := readIdentifier_extension text
  simp only [readProperties, unexpected] at failed
  generalize readIdentifier text = kind at whole named nameless failed
  split at failed
  · rename_i rest colon
    rw [whole, colon]
    exact readProperties_error_count named (Reading.map_error failed)
  · rename_i rest slash
    have following := readIdentifier_eq rest
    have identified := (readIdentifier_sound rest).1
    have idless := readIdentifier_extension rest
    generalize readIdentifier rest = id at following identified idless failed
    split at failed
    · rename_i value colon
      rw [whole, slash, following, colon]
      exact readProperties_error_value named identified failed
    · cases failed
      apply Interrupted.of_front
        (Keyword.properties.characters ++ (kind.value.toList ++ '/' :: id.value.toList)) id.rest
      · rw [whole, slash, following]
        simp
      · simp only [List.length_append, List.length_cons, String.length_toList]
        omega
      · intro terminal listed
        rcases List.mem_append.mp listed with extension | colon
        · obtain ⟨empty, rfl⟩ := idless terminal extension
          rw [empty]
          exact ⟨_, .id named⟩
        · obtain rfl := List.mem_singleton.mp colon
          exact ⟨_, .idColon named identified⟩
  · cases failed
    apply Interrupted.of_front (Keyword.properties.characters ++ kind.value.toList) kind.rest
    · rw [whole, List.append_assoc]
    · rw [List.length_append, String.length_toList]
    · intro terminal listed
      rcases List.mem_append.mp listed with extension | sign
      · obtain ⟨empty, rfl⟩ := nameless terminal extension
        rw [empty]
        exact ⟨_, .propertyKind⟩
      · rcases List.mem_pair.mp sign with rfl | rfl
        · exact ⟨_, .propertyColon named⟩
        · exact ⟨_, .propertySlash named⟩

/-- A qualifier that cannot be read goes on with what was expected. -/
theorem readQualifier_error {keyword : Keyword}
    (failed : readQualifier keyword keyword.characters.length text = .error failure) :
    Interrupted (keyword.characters ++ text) failure := by
  cases keyword with
  | draft => exact readDraft_error failed
  | kind => cases failed
  | category => cases failed
  | creator => exact readCreator_error failed
  | created =>
    exact interrupted_of_range dateForm_exact .sample _ rfl (fun found => ⟨_, .created found⟩)
      (Reading.map_error failed)
  | images =>
    exact interrupted_of_range countForm_exact .sample _ rfl (fun found => ⟨_, .images found⟩)
      (Reading.map_error failed)
  | properties => exact readProperties_error failed

/-- Where no filter has begun, any filter goes on. -/
theorem interrupted_start (text : List Char) : Interrupted text ⟨0, .unexpected filterStart⟩ := by
  apply Interrupted.of_front [] text rfl rfl
  intro terminal listed
  simp only [filterStart, List.mem_cons, List.not_mem_nil, or_false] at listed
  rcases listed with rfl | rfl | rfl
  · exact ⟨_, .keyword⟩
  · exact ⟨_, .quotedString⟩
  · exact ⟨_, .word⟩

/-- A phrase that cannot be read is not closed. -/
theorem readPhrase_error (failed : readPhrase text = .error failure) :
    failure = ⟨0, .unterminatedQuote⟩ ∧ quotationMark ∉ text := by
  simp only [readPhrase] at failed
  split at failed
  · rename_i unclosed
    cases failed
    refine ⟨rfl, ?_⟩
    intro closing
    have other := List.dropWhile_eq_nil_iff.mp unclosed quotationMark closing
    simp at other
  · cases failed

/-- A text from which no filter can be read opens a phrase that it does not close, or is the front
of a filter up to the place of the failure. -/
theorem readFilter_error (failed : readFilter text = .error failure) :
    (failure = ⟨0, .unterminatedQuote⟩ ∧
        ∃ behind, text = quotationMark :: behind ∧ quotationMark ∉ behind) ∨
      Interrupted text failure := by
  cases front : Keyword.at? text with
  | some keyword =>
    rw [readFilter_keyword front] at failed
    right
    rw [Keyword.at?_eq front]
    exact readQualifier_error failed
  | none =>
    by_cases seam : StopsAt isSolid text
    · rw [readFilter_seam seam] at failed
      cases failed
      exact Or.inr (interrupted_start text)
    · cases text with
      | nil => exact absurd (StopsAt.nil isSolid) seam
      | cons c rest =>
        by_cases mark : c = quotationMark
        · subst mark
          rw [readFilter_mark] at failed
          obtain ⟨same, unclosed⟩ := readPhrase_error failed
          exact Or.inl ⟨same, rest, rfl, unclosed⟩
        · rw [stopsAt_cons, Bool.not_eq_false] at seam
          rw [readFilter_word front mark seam] at failed
          cases failed

end

end SearchBar
