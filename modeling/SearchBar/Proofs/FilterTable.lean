import SearchBar.Proofs.BrokenMarkup
import SearchBar.Proofs.Commands
import SearchBar.Proofs.LiteralTable
import SearchBar.Proofs.RoundTrip

/-!
# Queries in a table

A table has one row for every filter of a query: its number, its qualifier, what
it asks of the qualifier, and its tagged form. The texts of the row are shown as
they are if the written form of the filter holds no markup, no code of an emoji and
nothing that ends a line. Markup in a filter is interpreted, so that there are
queries that cannot be shown in a table.

Main statements: the qualifier and the value make up the written form
(`isSplit_qualifiedParts`), what the table of a query looks like
(`answered_table`), and that a closing tag in a filter leaves the query without one
(`answered_table_closing`).
-/

namespace SearchBar

open Text

variable {Count : Type}

/-- The keyword of a filter. Words and phrases have none. -/
def Filter.keyword? : Filter Count → Option Keyword
  | word _ => none
  | quoted _ => none
  | draft _ => some .draft
  | kind _ => some .kind
  | category _ => some .category
  | creator _ => some .creator
  | created _ => some .created
  | images _ => some .images
  | propertyCount _ _ => some .properties
  | property _ _ _ => some .properties

/-- What a filter asks of its qualifier; of a word and of a phrase, all of it. -/
def Filter.valueText : Filter Int → String
  | word text => text
  | quoted text => "\"" ++ text ++ "\""
  | draft state => state.written
  | kind text => text
  | category text => text
  | creator author => author.written
  | created range => range.written DateText.text
  | images range => range.written integerNumeral
  | propertyCount propertyKind range => propertyKind ++ ":" ++ range.written integerNumeral
  | property propertyKind id value => propertyKind ++ "/" ++ id ++ ":" ++ boolText value

/-- A filter with a keyword is written as the keyword and its value. -/
theorem Filter.written_keyword {filter : Filter Int} {keyword : Keyword}
    (qualified : filter.keyword? = some keyword) :
    filter.written = keyword.written ++ filter.valueText := by
  cases filter with
  | word text => cases qualified
  | quoted text => cases qualified
  | propertyCount propertyKind range =>
    cases qualified
    simp only [written, writtenWith, valueText, String.append_assoc]
  | property propertyKind id value =>
    cases qualified
    simp only [written, writtenWith, valueText, String.append_assoc]
  | _ =>
    cases qualified
    rfl

/-- A filter without a keyword is written as its value. -/
theorem Filter.written_plain {filter : Filter Int} (plain : filter.keyword? = none) :
    filter.written = filter.valueText := by
  cases filter with
  | word text => rfl
  | quoted text => rfl
  | _ => cases plain

/-- The keyword without its colon. -/
def Keyword.qualifier (keyword : Keyword) : String :=
  String.ofList (keyword.characters.takeWhile (· != ':'))

/-- A keyword ends with its only colon. -/
theorem Keyword.qualifier_colon (keyword : Keyword) :
    keyword.qualifier ++ ":" = keyword.written := by
  cases keyword <;> decide

/-- A qualifier and a value make up the filter. Words and phrases have no qualifier; of the others
the qualifier is a keyword. -/
def IsSplit (filter : Filter Int) (qualifier value : String) : Prop :=
  match filter.keyword? with
  | none => qualifier = "" ∧ value = filter.written
  | some keyword =>
    qualifier ++ ":" = keyword.written ∧ qualifier ++ ":" ++ value = filter.written

/-- The qualifier of a filter is a cell. -/
theorem Keyword.isCell_qualifier (keyword : Keyword) :
    Console.IsCell keyword.qualifier.toList := by
  apply Console.isCell_of_characters
  apply List.all_eq_true.mp
  cases keyword <;> decide

/-- A phrase is written between two marks. -/
theorem Filter.toList_quoted (text : String) :
    (Filter.quoted text : Filter Int).written.toList =
      [quotationMark] ++ text.toList ++ [quotationMark] := by
  simp [Filter.written, Filter.writtenWith, quotationMark]

/-- A name is written behind a keyword and a sign. -/
theorem Filter.toList_username (name : String) :
    (Filter.creator (.username name) : Filter Int).written.toList =
      Keyword.creator.characters ++ ['@'] ++ name.toList := by
  simp [Filter.written, Filter.writtenWith, Author.written, Keyword.characters]

/-- A filter that can be typed does not end with a blank. -/
theorem Filter.closed_written {filter : Filter Int} (wellFormed : filter.WellFormed IsCount) :
    ∀ c ∈ filter.written.toList.getLast?, isBlank c = false := by
  have solid : (∀ c ∈ filter.written.toList, isSolid c = true) →
      ∀ c ∈ filter.written.toList.getLast?, isBlank c = false :=
    fun all c last => isSolid_eq_true_iff.mp (all c (List.mem_of_getLast? last))
  cases fixed : filter.freeText? with
  | none =>
    have formed := Filter.isFormed_written wellFormed fixed
    exact solid fun c member => isSolid_of_isFormCharacter (formed c member)
  | some free =>
    cases filter with
    | word text => exact solid wellFormed.solid
    | quoted text =>
      intro c last
      rw [Filter.toList_quoted, List.getLast?_concat] at last
      cases last
      decide
    | creator author =>
      cases author with
      | username name =>
        apply solid
        intro c member
        rw [Filter.toList_username, List.mem_append, List.mem_append, List.mem_singleton] at member
        rcases member with (keyword | rfl) | inName
        · exact Keyword.creator.characters_solid c keyword
        · decide
        · exact wellFormed.2 c inName
      | userId value => cases fixed
    | _ => cases fixed

/-- Form characters are ordinary. -/
theorem isOrdinary_of_isFormCharacter {c : Char} (member : isFormCharacter c = true) :
    Console.isOrdinary c = true :=
  Console.isOrdinary_of_class (by decide) (by decide) (by decide) member

/-- The characters of tags are ordinary. -/
theorem isOrdinary_of_isTagCharacter {c : Char} (member : isTagCharacter c = true) :
    Console.isOrdinary c = true :=
  Console.isOrdinary_of_class (by decide) (by decide) (by decide) member

/-- The free text of a filter is literal where its written form is, and so are its arguments. -/
theorem Filter.isLiteral_arguments {filter : Filter Int} (wellFormed : filter.WellFormed IsCount)
    (literal : Console.isLiteral filter.written.toList = true) :
    Console.isLiteral filter.arguments = true := by
  -- of a text with free text in it only that part can hold brackets, and it is part of both forms
  cases fixed : filter.freeText? with
  | none =>
    have formed := Filter.isFormed_written wellFormed fixed
    apply Console.isLiteral_of_ordinary
    intro c member
    rcases Filter.mem_arguments member with inWritten | tag
    · exact isOrdinary_of_isFormCharacter (formed c inWritten)
    · exact isOrdinary_of_isTagCharacter tag
  | some free =>
    cases filter with
    | word text => exact literal
    | quoted text =>
      rw [Filter.toList_quoted] at literal
      exact Console.isLiteral_of_append (Console.isLiteral_of_append_left literal)
    | creator author =>
      cases author with
      | username name =>
        rw [Filter.toList_username] at literal
        have enclosed : (Filter.creator (.username name)).arguments =
            ".username(".toList ++ name.toList ++ ")".toList := by
          simp only [Filter.arguments, Author.tagged, String.toList_append]
        have front : ∀ c ∈ ".username(".toList, isTagCharacter c = true :=
          List.all_eq_true.mp (by decide)
        have behind : ∀ c ∈ ")".toList, isTagCharacter c = true := List.all_eq_true.mp (by decide)
        rw [enclosed]
        apply Console.isLiteral_append_ordinary
        · exact fun c member => isOrdinary_of_isTagCharacter (behind c member)
        · apply Console.isLiteral_append
          · exact fun c member => isOrdinary_of_isTagCharacter (front c member)
          · exact Console.isLiteral_of_append literal
      | userId value => cases fixed
    | _ => cases fixed

/-- A number is a cell. -/
theorem isCell_naturalNumeral (number : Nat) :
    Console.IsCell (naturalNumeral number).toList := by
  apply Console.isCell_of_characters
  intro c member
  have digit := isDecimalDigit_of_mem_naturalNumeral member
  have inside := isFormCharacter_of_digit digit
  have calm : Console.isCalm c = true := Console.isCalm_of_class (by decide) digit
  have notColon : c ≠ ':' := by
    rintro rfl
    exact absurd digit (by decide)
  simp [Console.isCellCharacter, isOrdinary_of_isFormCharacter inside,
    isSolid_of_isFormCharacter inside, calm, notColon]

/-- A filter that a table shows as it is: its written form holds no markup and nothing that moves
the cursor or ends a line, and no code of an emoji stands in the two cells that show its text. -/
structure Filter.IsShowable (filter : Filter Int) : Prop where
  literal : Console.isLiteral filter.written.toList = true
  calm : ∀ c ∈ filter.written.toList, Console.isCalm c = true
  codelessValue : Console.IsCodeless filter.valueText.toList
  codelessTagged : Console.IsCodeless filter.tagged.toList

/-- The tagged form of such a filter is a cell. -/
theorem Filter.IsShowable.isCell_tagged {filter : Filter Int} (showable : filter.IsShowable)
    (wellFormed : filter.WellFormed IsCount) : Console.IsCell filter.tagged.toList := by
  have calm : ∀ c ∈ filter.tagged.toList, Console.isCalm c = true := by
    intro c member
    rcases Filter.mem_tagged member with inWritten | tag
    · exact showable.calm c inWritten
    · exact Console.isCalm_of_class (by decide) tag
  have parts : filter.tagged.toList =
      '.' :: filter.label.toList ++ ['('] ++ filter.arguments ++ [')'] := by
    simp [Filter.toList_tagged]
  have front : ∀ c ∈ '.' :: filter.label.toList ++ ['('], Console.isOrdinary c = true := by
    intro c member
    apply isOrdinary_of_isTagCharacter
    simp only [List.cons_append, List.mem_cons, List.mem_append, List.not_mem_nil,
      or_false] at member
    rcases member with rfl | inLabel | rfl
    · decide
    · exact List.all_eq_true.mp filter.label_characters c inLabel
    · decide
  constructor
  · rw [parts]
    apply Console.isLiteral_append_ordinary (List.all_eq_true.mp (by decide))
    exact Console.isLiteral_append front (Filter.isLiteral_arguments wellFormed showable.literal)
  · exact showable.codelessTagged
  · exact calm
  · intro c last
    rw [parts, List.getLast?_concat] at last
    cases last
    decide

/-- What such a filter asks of its qualifier is a cell. -/
theorem Filter.IsShowable.isCell_valueText {filter : Filter Int} (showable : filter.IsShowable)
    (wellFormed : filter.WellFormed IsCount) : Console.IsCell filter.valueText.toList := by
  obtain ⟨front, whole⟩ : ∃ front, filter.written = front ++ filter.valueText := by
    cases qualified : filter.keyword? with
    | none => exact ⟨"", by rw [Filter.written_plain qualified, String.empty_append]⟩
    | some keyword => exact ⟨_, Filter.written_keyword qualified⟩
  have calm : ∀ c ∈ filter.valueText.toList, Console.isCalm c = true :=
    fun c member => showable.calm c (whole ▸ mem_behind member front)
  have literal := showable.literal
  have closed := Filter.closed_written wellFormed
  rw [whole, String.toList_append] at literal closed
  constructor
  · exact Console.isLiteral_of_append literal
  · exact showable.codelessValue
  · exact calm
  · intro c last
    apply closed
    rw [List.getLast?_append, Option.mem_def.mp last]
    rfl

end SearchBar

namespace SearchBar.CommandLine

open Text

/-- A filter is divided in front of its value. -/
theorem qualifiedParts_eq (filter : Filter Int) :
    qualifiedParts filter =
      (match filter.keyword? with
        | none => ""
        | some keyword => keyword.qualifier, filter.valueText) := by
  cases qualified : filter.keyword? with
  | none =>
    cases filter with
    | word text => rfl
    | quoted text =>
      have mark : (Filter.quoted text).written.toList.head? = some quotationMark := by
        simp [Filter.written, Filter.writtenWith, quotationMark]
      simp only [qualifiedParts, mark, if_true, String.ofList_toList]
      rfl
    | _ => cases qualified
  | some keyword =>
    have whole : filter.written.toList = keyword.characters ++ filter.valueText.toList := by
      rw [Filter.written_keyword qualified, String.toList_append]
      rfl
    have colon : keyword.characters = keyword.qualifier.toList ++ [':'] := by
      cases keyword <;> decide
    have inside : ∀ c ∈ keyword.qualifier.toList, (c != ':') = true := by
      apply List.all_eq_true.mp
      cases keyword <;> decide
    -- only a phrase begins with a mark, so the text is divided at the colon of the keyword
    have unmarked : (keyword.characters ++ filter.valueText.toList).head? ≠ some quotationMark := by
      cases keyword <;> exact fun same => absurd (Option.some.inj same) (by decide)
    have stops : StopsAt (· != ':') (':' :: filter.valueText.toList) := stopsAt_cons.mpr rfl
    have parts : qualifiedParts filter =
        (String.ofList (filter.written.toList.takeWhile (· != ':')),
          String.ofList ((filter.written.toList.dropWhile (· != ':')).drop 1)) := by
      rw [whole]
      cases filter with
      | word text => cases qualified
      | _ => simp only [qualifiedParts, whole, if_neg unmarked]
    rw [parts, whole, colon, List.append_assoc, List.singleton_append, takeWhile_run inside stops,
      dropWhile_run inside stops, List.drop_one, List.tail_cons, String.ofList_toList,
      String.ofList_toList]

/-- The qualifier and the value of a filter make up its written form. -/
theorem isSplit_qualifiedParts (filter : Filter Int) :
    IsSplit filter (qualifiedParts filter).1 (qualifiedParts filter).2 := by
  rw [qualifiedParts_eq]
  unfold IsSplit
  cases qualified : filter.keyword? with
  | none => exact ⟨rfl, (Filter.written_plain qualified).symm⟩
  | some keyword =>
    refine ⟨keyword.qualifier_colon, ?_⟩
    simp only [keyword.qualifier_colon]
    exact (Filter.written_keyword qualified).symm

/-- The row of such a filter has cells only. -/
theorem isCell_of_mem_filterRow {filter : Filter Int} (showable : filter.IsShowable)
    (wellFormed : filter.WellFormed IsCount) (place : Nat) {text : String}
    (listed : text ∈ filterRow place filter) : Console.IsCell text.toList := by
  rw [filterRow, qualifiedParts_eq] at listed
  simp only [List.mem_cons, List.not_mem_nil, or_false] at listed
  rcases listed with rfl | rfl | rfl | rfl
  · exact isCell_naturalNumeral (place + 1)
  · cases filter.keyword? with
    | none => exact Console.isCell_of_characters fun c => nofun
    | some keyword => exact keyword.isCell_qualifier
  · exact showable.isCell_valueText wellFormed
  · exact showable.isCell_tagged wellFormed

/-- The titles are cells. -/
theorem isCell_title {column : Console.Column} (listed : column ∈ filterColumns) :
    Console.IsCell column.title.toList := by
  have titles : ∀ column ∈ filterColumns,
      column.title.toList.all Console.isCellCharacter = true := by
    decide
  exact Console.isCell_of_characters (List.all_eq_true.mp (titles column listed))

/-- A query whose filters are written without markup and codes is displayed with their texts as they
are. -/
theorem display_showable {query : Query} (wellFormed : query.WellFormed)
    (showable : ∀ filter ∈ query.filters, filter.IsShowable) :
    display query .table =
      .ok (Console.literalTable filterColumns (query.filters.mapIdx filterRow)) := by
  have full : ∀ row ∈ query.filters.mapIdx filterRow, row.length = filterColumns.length := by
    intro row listed
    obtain ⟨place, inside, rfl⟩ := List.mem_mapIdx.mp listed
    rfl
  have cell : ∀ row ∈ query.filters.mapIdx filterRow, ∀ text ∈ row,
      Console.IsCell text.toList := by
    intro row listed text member
    obtain ⟨place, inside, rfl⟩ := List.mem_mapIdx.mp listed
    have filter := List.getElem_mem inside
    exact isCell_of_mem_filterRow (showable _ filter) (wellFormed _ filter) place member
  have table := Console.shownTable_literal (fun column => isCell_title) full cell
  rw [display, table]
  rfl

/-- A query with a closing tag in what one of its filters asks for cannot be displayed. -/
theorem display_closing {query : Query} {filter : Filter Int} (listed : filter ∈ query.filters)
    {before name behind : List Char} (ordinary : ∀ c ∈ before, Console.isOrdinary c = true)
    (unbracketed : ∀ c ∈ name, Console.isBracket c = false)
    (parts : filter.valueText.toList = before ++ '[' :: '/' :: (name ++ ']' :: behind)) :
    ∃ fault, display query .table = .error (.brokenMarkup fault) := by
  obtain ⟨place, inside, rfl⟩ := List.getElem_of_mem listed
  have row : filterRow place query.filters[place] ∈ query.filters.mapIdx filterRow :=
    List.mem_mapIdx.mpr ⟨place, inside, rfl⟩
  have value : (filterRow place query.filters[place])[2]? =
      some query.filters[place].valueText := by
    rw [filterRow, qualifiedParts_eq]
    rfl
  obtain ⟨fault, unread⟩ := Console.markedText_closing ordinary unbracketed parts
  have third : 2 < filterColumns.length := by decide
  obtain ⟨fault, table⟩ := Console.shownTable_unreadable row third value unread
  refine ⟨fault, ?_⟩
  rw [display, table]
  rfl

section

variable {front : List String} {settings : RunSettings} (makes : MakesSettings front settings)
  (silent : settings.isTalkative = false) {path : String} {content? : Option ByteArray}
  {config : Config} {warnings : List String}
  (loaded : Config.load reader path content? = .ok (config, warnings)) {options : List String}
  {single : Bool} (asks : AsksFor options (some .table) single) {words : List String}
  {query : Query} (meant : meaning single (" ".intercalate words) = .ok query)

include makes silent loaded asks meant

/-- Asked for a table the first command displays the query that its words mean. -/
theorem answered_display :
    answered reader path content? (front ++ "parse" :: (options ++ "--" :: words)) =
      (display query .table).map fun output => { status := 0, output, errors := "" } :=
  answered_meant makes silent loaded asks meant

/-- A query with a closing tag in what one of its filters asks for is not shown in a table. -/
theorem answered_table_closing {filter : Filter Int} (listed : filter ∈ query.filters)
    {before name behind : List Char} (ordinary : ∀ c ∈ before, Console.isOrdinary c = true)
    (unbracketed : ∀ c ∈ name, Console.isBracket c = false)
    (parts : filter.valueText.toList = before ++ '[' :: '/' :: (name ++ ']' :: behind)) :
    ∃ fault, answered reader path content? (front ++ "parse" :: (options ++ "--" :: words)) =
      .error (.brokenMarkup fault) := by
  obtain ⟨fault, displayed⟩ := display_closing listed ordinary unbracketed parts
  refine ⟨fault, ?_⟩
  rw [answered_display makes silent loaded asks meant, displayed]
  rfl

/-- A query whose filters are written without markup and without codes of emoji is shown in a table
that holds, one row for every filter, the number of the filter, its qualifier, its value and its
tagged form as they are. -/
theorem answered_table (showable : ∀ filter ∈ query.filters, filter.IsShowable) :
    answered reader path content? (front ++ "parse" :: (options ++ "--" :: words)) =
        .ok { status := 0,
              output := Console.literalTable filterColumns (query.filters.mapIdx fun place filter =>
                [naturalNumeral (place + 1), (qualifiedParts filter).1, (qualifiedParts filter).2,
                  filter.tagged]),
              errors := "" } ∧
      ∀ filter ∈ query.filters,
        IsSplit filter (qualifiedParts filter).1 (qualifiedParts filter).2 := by
  have wellFormed : query.WellFormed :=
    Query.wellFormed_of_parseQuery (parseQuery_of_meaning meant)
  constructor
  · rw [answered_display makes silent loaded asks meant, display_showable wellFormed showable]
    rfl
  · exact fun filter _ => isSplit_qualifiedParts filter

end

/-- Brackets without a name between them are shown as they are. -/
theorem answered_table_brackets :
    answered .terse "settings.toml" none ["parse", "--format", "table", "--", "kind:park", "[1]"] =
      .ok
        { status := 0,
          output := Console.literalTable filterColumns
            [["1", "kind", "park", ".kind(park)"], ["2", "", "[1]", ".word([1])"]],
          errors := "" } := by
  have makes : MakesSettings [] {} := ⟨[], .nil, rfl, rfl⟩
  have loaded : Config.load .terse "settings.toml" none =
      .ok ({}, ["No config file found at settings.toml. Using defaults."]) := rfl
  have asks : AsksFor ["--format", "table"] (some .table) false :=
    ⟨_, .valued (by decide) rfl .nil, rfl, rfl, rfl⟩
  have meant : meaning false (" ".intercalate ["kind:park", "[1]"]) =
      .ok ⟨[.kind "park", .word "[1]"]⟩ := by
    decide +kernel
  have showable : ∀ filter ∈ [Filter.kind "park", .word "[1]"], filter.IsShowable := by
    intro filter listed
    have codeless : ∀ text : String, ':' ∉ text.toList → Console.IsCodeless text.toList :=
      fun text absent => Console.isCodeless_of_sparse (Console.isSparse_of_no_colon absent)
    rcases List.mem_pair.mp listed with rfl | rfl
    · exact ⟨by decide, List.all_eq_true.mp (by decide), codeless _ (by decide),
        codeless _ (by decide)⟩
    · exact ⟨by decide, List.all_eq_true.mp (by decide), codeless _ (by decide),
        codeless _ (by decide)⟩
  have rows : (([Filter.kind "park", .word "[1]"] : List (Filter Int)).mapIdx fun place filter =>
      [naturalNumeral (place + 1), (qualifiedParts filter).1, (qualifiedParts filter).2,
        filter.tagged]) =
        [["1", "kind", "park", ".kind(park)"], ["2", "", "[1]", ".word([1])"]] := by
    decide +kernel
  obtain ⟨answer, -⟩ := answered_table makes rfl loaded asks meant showable
  rw [rows] at answer
  exact answer

/-- A word that is a query, and that no table shows. -/
theorem answered_table_closing_tag :
    parseQuery "[/x]" = .ok ⟨[.word "[/x]"]⟩ ∧
      ∃ fault, answered .terse "settings.toml" none ["parse", "--format", "table", "--", "[/x]"] =
        .error (.brokenMarkup fault) := by
  have makes : MakesSettings [] {} := ⟨[], .nil, rfl, rfl⟩
  have asks : AsksFor ["--format", "table"] (some .table) false :=
    ⟨_, .valued (by decide) rfl .nil, rfl, rfl, rfl⟩
  have loaded : Config.load .terse "settings.toml" none =
      .ok ({}, ["No config file found at settings.toml. Using defaults."]) := rfl
  have meant : parseQuery "[/x]" = .ok ⟨[.word "[/x]"]⟩ := by decide +kernel
  have parts : (Filter.word "[/x]").valueText.toList = [] ++ '[' :: '/' :: (['x'] ++ ']' :: []) := by
    decide
  have ordinary : ∀ c ∈ ([] : List Char), Console.isOrdinary c = true := fun _ => nofun
  have unbracketed : ∀ c ∈ ['x'], Console.isBracket c = false := by simp [Console.isBracket]
  have meantAlone : meaning false (" ".intercalate ["[/x]"]) = .ok ⟨[.word "[/x]"]⟩ := meant
  refine ⟨meant, ?_⟩
  exact answered_table_closing makes rfl loaded asks meantAlone List.mem_cons_self ordinary
    unbracketed parts

end SearchBar.CommandLine
