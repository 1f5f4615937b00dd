import SearchBar.Proofs.TypedRange
import SearchBar.Query.Parse

/-!
# Filters as they are typed

Reading and typing are inverse to each other on the filters that can be typed.
A filter over numerals determines the text that was typed, the places of its
numerals in that text, and what could have made the text longer; reading returns
exactly these, and it returns nothing else.

Main statements: a filter that can be typed is read from its text
(`readFilter_typed`), and every filter that is read can be typed and has its
numerals in place (`readFilter_settled`).
-/

namespace SearchBar

open Text

namespace Filter

/-- What could make a filter longer: an identifier for an empty one, or a second bound. -/
def extensions : Filter Numeral → List Terminal
  | kind text => if text = "" then [.identifier] else []
  | category text => if text = "" then [.identifier] else []
  | created range => range.extensions
  | images range => range.extensions
  | propertyCount _ range => range.extensions
  | _ => []

/-- The filter with its numerals where they stand in its text. -/
def placed : Filter Numeral → Filter Numeral
  | images range =>
    images (range.placed Numeral.digits Numeral.placed Keyword.images.characters.length)
  | propertyCount propertyKind range =>
    propertyCount propertyKind (range.placed Numeral.digits Numeral.placed
      (Keyword.properties.characters.length + propertyKind.length + 1))
  | filter => filter

end Filter

/-- A reading of a filter that can be typed, its numerals in place. -/
structure Reading.Settled (reading : Reading (Filter Numeral)) : Prop where
  /-- The filter can be typed. -/
  wellFormed : reading.value.WellFormed Numeral.WellFormed
  /-- Its numerals are in place. -/
  placed : reading.value.placed = reading.value
  /-- The filter alone decides what could have made it longer. -/
  extensions : reading.extensions = reading.value.extensions

/-- A keyword is found at the front of a text that begins with it. -/
theorem Keyword.at?_characters (keyword : Keyword) (rest : List Char) :
    Keyword.at? (keyword.characters ++ rest) = some keyword := by
  cases keyword <;> rfl

/-- No keyword is found exactly if none is there. -/
theorem Keyword.at?_eq_none_iff {text : List Char} :
    Keyword.at? text = none ↔ ∀ keyword : Keyword, ¬ keyword.characters <+: text := by
  unfold Keyword.at?
  rw [List.find?_eq_none]
  constructor
  · intro absent keyword start
    exact absent keyword keyword.mem_all (List.isPrefixOf_iff_prefix.mpr start)
  · intro absent keyword _ start
    exact absent keyword (List.isPrefixOf_iff_prefix.mp start)

/-- An identifier is read up to a boundary. -/
theorem readIdentifier_complete {name : String} {rest : List Char} (valid : IsIdentifier name)
    (stops : StopsAt isIdentifierCharacter rest) :
    readIdentifier (name.toList ++ rest) =
      ⟨name, if name = "" then [.identifier] else [], rest⟩ := by
  simp only [readIdentifier, takeWhile_run valid stops, dropWhile_run valid stops,
    String.ofList_toList, List.isEmpty_iff, String.toList_eq_nil_iff]

/-- A phrase is read up to its closing mark. -/
theorem readPhrase_complete {text : String} (valid : IsPhrase text) (rest : List Char) :
    readPhrase (text.toList ++ quotationMark :: rest) = .ok ⟨.quoted text, [], rest⟩ := by
  have inside : ∀ c ∈ text.toList, (c != quotationMark) = true := by
    intro c member
    rw [bne_iff_ne]
    intro same
    rw [same] at member
    exact valid member
  have stops : StopsAt (· != quotationMark) (quotationMark :: rest) := stopsAt_cons.mpr (by decide)
  simp only [readPhrase, dropWhile_run inside stops, takeWhile_run inside stops,
    String.ofList_toList]

/-- An author who can be typed is read from the text of the author. -/
theorem readCreator_complete {author : Author} (valid : author.WellFormed) (offset : Nat) :
    readCreator offset author.written.toList = .ok ⟨.creator author, [], []⟩ := by
  cases author with
  | username name =>
    have nonempty : name.toList ≠ [] := by
      rw [ne_eq, String.toList_eq_nil_iff]
      exact valid.1
    have run := readRun_complete nonempty valid.2 (StopsAt.nil isSolid)
    rw [List.append_nil] at run
    have text : (Author.username name).written.toList = '@' :: name.toList := by
      simp [Author.written]
    rw [text]
    simp only [readCreator, run, String.ofList_toList]
  | userId value =>
    obtain ⟨length, inside⟩ := valid
    have unnamed : ¬ ∃ name, value.toList = '@' :: name := by
      intro named
      obtain ⟨name, same⟩ := named
      have first := inside '@' (by rw [same]; exact List.mem_cons_self)
      cases first
    have whole : value.toList.take userIdLength = value.toList := by
      rw [← length, ← String.length_toList, List.take_length]
    have none : value.toList.drop userIdLength = [] := by
      rw [← length, ← String.length_toList, List.drop_length]
    have identified : value.toList.length = userIdLength ∧
        value.toList.all isUserIdCharacter = true := by
      rw [String.length_toList]
      exact ⟨length, List.all_eq_true.mpr inside⟩
    simp only [Author.written]
    rw [readCreator_unnamed unnamed, whole, none, if_pos identified, String.ofList_toList]

/-- A count of properties is read from its text. -/
theorem readProperties_count {propertyKind : String} {range : Range Numeral}
    (named : IsIdentifier propertyKind) (bounds : ∀ bound ∈ range.bounds, bound.WellFormed)
    (offset : Nat) :
    readProperties offset (propertyKind.toList ++ ':' :: (range.written Numeral.digits).toList) =
      .ok ⟨.propertyCount propertyKind
          (range.placed Numeral.digits Numeral.placed (offset + propertyKind.length + 1)),
        range.extensions, []⟩ := by
  have stops : StopsAt isIdentifierCharacter (':' :: (range.written Numeral.digits).toList) :=
    stopsAt_cons.mpr (by decide)
  have kind := readIdentifier_complete named stops
  have value := readRange_written countForm_exact bounds (Range.clear_of_digits bounds)
    (offset + propertyKind.length + 1)
  simp only [readProperties, kind, value]
  rfl

/-- A property is read from its text. -/
theorem readProperties_property {propertyKind id : String} (named : IsIdentifier propertyKind)
    (identified : IsIdentifier id) (value : Bool) (offset : Nat) :
    readProperties offset
        (propertyKind.toList ++ '/' :: (id.toList ++ ':' :: (boolText value).toList)) =
      .ok ⟨.property propertyKind id value, [], []⟩ := by
  have stopsKind : StopsAt isIdentifierCharacter
      ('/' :: (id.toList ++ ':' :: (boolText value).toList)) := stopsAt_cons.mpr (by decide)
  have stopsId : StopsAt isIdentifierCharacter (':' :: (boolText value).toList) :=
    stopsAt_cons.mpr (by decide)
  have kind := readIdentifier_complete named stopsKind
  have idRead := readIdentifier_complete identified stopsId
  simp only [readProperties, kind, idRead]
  cases value with
  | true => rfl
  | false => rfl

/-- A filter that can be typed is read from its text. -/
theorem readFilter_typed {filter : Filter Numeral}
    (wellFormed : filter.WellFormed Numeral.WellFormed) :
    readFilter filter.typed.toList = .ok ⟨filter.placed, filter.extensions, []⟩ := by
  have qualifier : ∀ (keyword : Keyword) (value : List Char),
      readFilter (keyword.written.toList ++ value) =
        readQualifier keyword keyword.characters.length value := by
    intro keyword value
    rw [← Keyword.characters, readFilter_keyword (keyword.at?_characters value), List.drop_left]
  cases filter with
  | word text =>
    obtain ⟨nonempty, solid, unquoted, unqualified⟩ := wellFormed
    simp only [Filter.typed, Filter.writtenWith]
    cases front : text.toList with
    | nil => exact absurd (String.toList_eq_nil_iff.mp front) nonempty
    | cons c rest =>
      rw [front] at solid unquoted unqualified
      have plain := Keyword.at?_eq_none_iff.mpr unqualified
      have mark : c ≠ quotationMark := by simpa using unquoted
      have others : ∀ d ∈ rest, isSolid d = true :=
        fun d member => solid d (List.mem_cons_of_mem c member)
      rw [readFilter_word plain mark (solid c List.mem_cons_self),
        List.takeWhile_eq_self_iff.mpr others, List.dropWhile_eq_nil_iff.mpr others, ← front,
        String.ofList_toList]
      rfl
  | quoted text =>
    have shape : (Filter.quoted text : Filter Numeral).typed.toList =
        quotationMark :: (text.toList ++ quotationMark :: []) := by
      simp [Filter.typed, Filter.writtenWith, quotationMark]
    rw [shape, readFilter_mark, readPhrase_complete wellFormed]
    rfl
  | draft state =>
    simp only [Filter.typed, Filter.writtenWith, String.toList_append, qualifier]
    cases state <;> rfl
  | kind text =>
    have name := readIdentifier_complete wellFormed (StopsAt.nil _)
    rw [List.append_nil] at name
    simp only [Filter.typed, Filter.writtenWith, String.toList_append, qualifier, readQualifier,
      name]
    rfl
  | category text =>
    have name := readIdentifier_complete wellFormed (StopsAt.nil _)
    rw [List.append_nil] at name
    simp only [Filter.typed, Filter.writtenWith, String.toList_append, qualifier, readQualifier,
      name]
    rfl
  | creator author =>
    simp only [Filter.typed, Filter.writtenWith, String.toList_append, qualifier, readQualifier]
    exact readCreator_complete wellFormed _
  | created range =>
    have value := readRange_written dateForm_exact (fun _ _ => trivial) range.clear_of_dates
      Keyword.created.characters.length
    simp only [Filter.typed, Filter.writtenWith, String.toList_append, qualifier, readQualifier,
      value, range.placed_dates]
    rfl
  | images range =>
    have value := readRange_written countForm_exact wellFormed (Range.clear_of_digits wellFormed)
      Keyword.images.characters.length
    simp only [Filter.typed, Filter.writtenWith, String.toList_append, qualifier, readQualifier,
      value]
    rfl
  | propertyCount propertyKind range =>
    have value := readProperties_count wellFormed.1 wellFormed.2
      Keyword.properties.characters.length
    have shape : (Filter.propertyCount propertyKind range).typed.toList =
        Keyword.properties.written.toList ++
          (propertyKind.toList ++ ':' :: (range.written Numeral.digits).toList) := by
      simp [Filter.typed, Filter.writtenWith]
    rw [shape, qualifier, readQualifier, value]
    rfl
  | property propertyKind id value =>
    have read := readProperties_property wellFormed.1 wellFormed.2 value
      Keyword.properties.characters.length
    have shape : (Filter.property propertyKind id value : Filter Numeral).typed.toList =
        Keyword.properties.written.toList ++
          (propertyKind.toList ++ '/' :: (id.toList ++ ':' :: (boolText value).toList)) := by
      simp [Filter.typed, Filter.writtenWith]
    rw [shape, qualifier, readQualifier, read]
    rfl

/-- An identifier that is read can be typed. -/
theorem readIdentifier_sound (text : List Char) :
    IsIdentifier (readIdentifier text).value ∧
      (readIdentifier text).extensions =
        if (readIdentifier text).value = "" then [.identifier] else [] := by
  constructor
  · intro c member
    rw [readIdentifier, String.toList_ofList] at member
    exact List.mem_takeWhile_imp member
  · simp only [readIdentifier, List.isEmpty_iff, String.ofList_eq_empty_iff]

/-- A draft qualifier that is read is settled. -/
theorem readDraft_settled {offset : Nat} {text : List Char} {reading : Reading (Filter Numeral)}
    (read : readDraft offset text = .ok reading) : reading.Settled := by
  simp only [readDraft, unexpected] at read
  split at read
  · cases read
    exact ⟨trivial, rfl, rfl⟩
  · cases read

/-- A creator qualifier that is read is settled. -/
theorem readCreator_settled {offset : Nat} {text : List Char}
    {reading : Reading (Filter Numeral)} (read : readCreator offset text = .ok reading) :
    reading.Settled := by
  by_cases named : ∃ name, text = '@' :: name
  · obtain ⟨name, rfl⟩ := named
    simp only [readCreator, unexpected] at read
    split at read
    · rename_i run rest found
      cases read
      obtain ⟨nonempty, inside⟩ := readRun_sound found
      refine ⟨⟨?_, ?_⟩, rfl, rfl⟩
      · rwa [ne_eq, String.ofList_eq_empty_iff]
      · rwa [String.toList_ofList]
    · cases read
  · rw [readCreator_unnamed named] at read
    split at read
    · rename_i identified
      cases read
      refine ⟨⟨?_, ?_⟩, rfl, rfl⟩
      · rw [String.length_ofList]
        exact identified.1
      · rw [String.toList_ofList]
        exact List.all_eq_true.mp identified.2
    · cases read

/-- A properties qualifier that is read is settled. -/
theorem readProperties_settled {text : List Char} {reading : Reading (Filter Numeral)}
    (read : readProperties Keyword.properties.characters.length text = .ok reading) :
    reading.Settled := by
  have named := (readIdentifier_sound text).1
  simp only [readProperties, unexpected] at read
  generalize readIdentifier text = kind at named read
  split at read
  · rename_i rest colon
    obtain ⟨range, found, rfl⟩ := Reading.map_ok read
    obtain ⟨bounds, placed, extensions⟩ := readRange_sound countForm_exact found
    refine ⟨⟨named, bounds⟩, ?_, extensions⟩
    simp only [Reading.map, Filter.placed, placed]
  · rename_i rest slash
    have identified := (readIdentifier_sound rest).1
    generalize readIdentifier rest = id at identified read
    split at read
    · simp only [readPropertyValue, unexpected] at read
      split at read
      · cases read
        exact ⟨⟨named, identified⟩, rfl, rfl⟩
      · cases read
    · cases read
  · cases read

/-- A qualifier that is read is settled. -/
theorem readQualifier_settled {keyword : Keyword} {text : List Char}
    {reading : Reading (Filter Numeral)}
    (read : readQualifier keyword keyword.characters.length text = .ok reading) :
    reading.Settled := by
  cases keyword with
  | draft => exact readDraft_settled read
  | kind =>
    cases read
    exact ⟨(readIdentifier_sound text).1, rfl, (readIdentifier_sound text).2⟩
  | category =>
    cases read
    exact ⟨(readIdentifier_sound text).1, rfl, (readIdentifier_sound text).2⟩
  | creator => exact readCreator_settled read
  | created =>
    obtain ⟨range, found, rfl⟩ := Reading.map_ok read
    obtain ⟨-, -, extensions⟩ := readRange_sound dateForm_exact found
    exact ⟨trivial, rfl, extensions⟩
  | images =>
    obtain ⟨range, found, rfl⟩ := Reading.map_ok read
    obtain ⟨bounds, placed, extensions⟩ := readRange_sound countForm_exact found
    refine ⟨bounds, ?_, extensions⟩
    simp only [Reading.map, Filter.placed, placed]
  | properties => exact readProperties_settled read

/-- A phrase that is read is settled. -/
theorem readPhrase_settled {text : List Char} {reading : Reading (Filter Numeral)}
    (read : readPhrase text = .ok reading) : reading.Settled := by
  simp only [readPhrase] at read
  split at read
  · cases read
  · cases read
    refine ⟨?_, rfl, rfl⟩
    intro member
    rw [String.toList_ofList] at member
    have other := List.mem_takeWhile_imp (p := (· != quotationMark)) member
    simp at other

/-- Every filter that is read can be typed and has its numerals in place. -/
theorem readFilter_settled {text : List Char} {reading : Reading (Filter Numeral)}
    (read : readFilter text = .ok reading) : reading.Settled := by
  cases front : Keyword.at? text with
  | some keyword =>
    rw [readFilter_keyword front] at read
    exact readQualifier_settled read
  | none =>
    cases text with
    | nil => cases read
    | cons c rest =>
      by_cases mark : c = quotationMark
      · subst mark
        rw [readFilter_mark] at read
        exact readPhrase_settled read
      · by_cases solid : isSolid c = true
        · rw [readFilter_word front mark solid] at read
          cases read
          have absent := Keyword.at?_eq_none_iff.mp front
          refine ⟨⟨by simp, ?_, by simpa using mark, ?_⟩, rfl, rfl⟩
          · intro d member
            rw [String.toList_ofList, List.mem_cons] at member
            rcases member with rfl | member
            · exact solid
            · exact List.mem_takeWhile_imp member
          · intro keyword start
            rw [String.toList_ofList] at start
            apply absent keyword
            apply start.trans
            exact List.cons_prefix_cons.mpr ⟨rfl, List.takeWhile_prefix isSolid⟩
        · have stops : StopsAt isSolid (c :: rest) :=
            stopsAt_cons.mpr (Bool.eq_false_iff.mpr solid)
          rw [readFilter_seam stops] at read
          cases read

/-- A text is one filter exactly if the filter is read from it and nothing is left. -/
theorem readSingleFilter_eq_ok_iff {text : List Char} {filter : Filter Numeral} :
    readSingleFilter text = .ok filter ↔
      ∃ extensions, readFilter text = .ok ⟨filter, extensions, []⟩ := by
  cases front : readFilter text with
  | error failure =>
    simp only [readSingleFilter, front]
    constructor
    · intro read
      cases read
    · intro found
      obtain ⟨extensions, read⟩ := found
      cases read
  | ok reading =>
    obtain ⟨value, extensions, rest⟩ := reading
    cases rest with
    | nil => simp [readSingleFilter, front, bind, Except.bind, pure, Except.pure]
    | cons c rest =>
      have fails : ∃ failure, readSingleFilter text = .error failure := by
        simp only [readSingleFilter, front, bind, Except.bind, unexpected]
        split
        · exact ⟨_, rfl⟩
        · exact ⟨_, rfl⟩
      obtain ⟨failure, same⟩ := fails
      simp [same]

/-- A filter that can be typed is read from its text, with its numerals in place. -/
theorem readSingleFilter_typed {filter : Filter Numeral}
    (wellFormed : filter.WellFormed Numeral.WellFormed) :
    readSingleFilter filter.typed.toList = .ok filter.placed :=
  readSingleFilter_eq_ok_iff.mpr ⟨_, readFilter_typed wellFormed⟩

/-- The texts of the filters that can be typed are exactly the texts that are one filter. -/
theorem readSingleFilter_eq_ok_iff_typed {text : List Char} {filter : Filter Numeral} :
    readSingleFilter text = .ok filter ↔
      filter.WellFormed Numeral.WellFormed ∧ filter.placed = filter ∧
        filter.typed.toList = text := by
  rw [readSingleFilter_eq_ok_iff]
  constructor
  · intro found
    obtain ⟨extensions, read⟩ := found
    have whole := readFilter_eq read
    rw [List.append_nil] at whole
    obtain ⟨wellFormed, placed, -⟩ := readFilter_settled read
    exact ⟨wellFormed, placed, whole.symm⟩
  · rintro ⟨wellFormed, placed, rfl⟩
    have read := readFilter_typed wellFormed
    rw [placed] at read
    exact ⟨filter.extensions, read⟩

end SearchBar
