import SearchBar.Proofs.Normalisation
import SearchBar.Proofs.TwoForms

/-!
# The characters of the forms

Neither form of a query holds anything that was not typed, but for the space
between two filters and, in the tagged form, the tags. So what a text is free of,
its forms are free of. Only words, phrases and names are free text; a filter
without free text keeps to few characters.

Main statements: what the tagged form of a filter adds to the written one
(`Filter.mem_tagged`), what a filter without free text is written with
(`Filter.isFormed_written`), and where the characters of both forms of a query come
from (`Query.mem_written`, `Query.mem_tagged`).
-/

namespace SearchBar

open Text

variable {α Count : Type}

/-- A character of a tag or of what holds values together. -/
def isTagCharacter (c : Char) : Bool :=
  c.isAlpha || c == '.' || c == ',' || c == '(' || c == ')'

/-- What stands in two texts one after the other stands in one of them. -/
theorem mem_append_iff {front behind : String} {c : Char} :
    c ∈ (front ++ behind).toList ↔ c ∈ front.toList ∨ c ∈ behind.toList := by
  rw [String.toList_append, List.mem_append]

/-- Characters of a text stand behind whatever is put in front of it. -/
theorem mem_behind {text : String} {c : Char} (member : c ∈ text.toList) (front : String) :
    c ∈ (front ++ text).toList :=
  mem_append_iff.mpr (Or.inr member)

/-- A tag around values adds only its own characters. -/
theorem mem_enclosed {label values : List Char} {c : Char}
    (letters : label.all isTagCharacter = true)
    (member : c ∈ '.' :: (label ++ '(' :: (values ++ [')']))) :
    c ∈ values ∨ isTagCharacter c = true := by
  simp only [List.mem_cons, List.mem_append, List.not_mem_nil, or_false] at member
  rcases member with rfl | inLabel | rfl | inside | rfl
  · exact Or.inr (by decide)
  · exact Or.inr (List.all_eq_true.mp letters c inLabel)
  · exact Or.inr (by decide)
  · exact Or.inl inside
  · exact Or.inr (by decide)

/-- A comma between two values adds itself. -/
theorem mem_pair {first second : List Char} {c : Char} (member : c ∈ first ++ ',' :: second) :
    c ∈ first ∨ c ∈ second ∨ isTagCharacter c = true := by
  rcases List.mem_append.mp member with front | behind
  · exact Or.inl front
  · rcases List.mem_cons.mp behind with rfl | behind
    · exact Or.inr (Or.inr (by decide))
    · exact Or.inr (Or.inl behind)

/-- The tagged form of a range adds tags to its bounds. -/
theorem Range.mem_tagged {label bound : α → String}
    (labelled : ∀ value, ∀ c ∈ (label value).toList,
      c ∈ (bound value).toList ∨ isTagCharacter c = true)
    {range : Range α} {c : Char} (member : c ∈ (range.tagged label).toList) :
    c ∈ (range.written bound).toList ∨ isTagCharacter c = true := by
  have letters : range.tag.toList.all isTagCharacter = true := by
    cases range with
    | exactly value =>
      show "eq".toList.all isTagCharacter = true
      decide
    | compared comparison value =>
      show comparison.tag.toList.all isTagCharacter = true
      cases comparison <;> decide
    | between lower upper =>
      show "between".toList.all isTagCharacter = true
      decide
  rw [Range.toList_tagged] at member
  rcases mem_enclosed letters member with inside | added
  · cases range with
    | exactly value => exact labelled value c inside
    | compared comparison value => exact (labelled value c inside).imp_left (mem_behind · _)
    | between lower upper =>
      rcases mem_pair inside with low | high | added
      · apply (labelled lower c low).imp_left
        exact fun found => mem_append_iff.mpr (Or.inl (mem_append_iff.mpr (Or.inl found)))
      · exact (labelled upper c high).imp_left (mem_behind · _)
      · exact Or.inr added
  · exact Or.inr added

/-- The date in the tagged form adds a tag to the date. -/
theorem DateText.mem_tagged (date : DateText) (c : Char) (member : c ∈ date.tagged.toList) :
    c ∈ date.text.toList ∨ isTagCharacter c = true := by
  have enclosed : date.tagged.toList =
      '.' :: ("date".toList ++ '(' :: (date.text.toList ++ [')'])) := by
    simp [DateText.tagged]
  rw [enclosed] at member
  exact mem_enclosed (by decide) member

/-- The author in the tagged form adds a tag to the author. -/
theorem Author.mem_tagged (author : Author) (c : Char) (member : c ∈ author.tagged.toList) :
    c ∈ author.written.toList ∨ isTagCharacter c = true := by
  cases author with
  | username name =>
    have enclosed : (Author.username name).tagged.toList =
        '.' :: ("username".toList ++ '(' :: (name.toList ++ [')'])) := by
      simp [Author.tagged]
    rw [enclosed] at member
    exact (mem_enclosed (by decide) member).imp_left (mem_behind · _)
  | userId value =>
    have enclosed : (Author.userId value).tagged.toList =
        '.' :: ("userId".toList ++ '(' :: (value.toList ++ [')'])) := by
      simp [Author.tagged]
    rw [enclosed] at member
    exact mem_enclosed (by decide) member

/-- The arguments of a filter are what is written of it, with tags added. -/
theorem Filter.mem_arguments {filter : Filter Int} {c : Char} (member : c ∈ filter.arguments) :
    c ∈ filter.written.toList ∨ isTagCharacter c = true := by
  have counts : ∀ count : Int, ∀ d ∈ (integerNumeral count).toList,
      d ∈ (integerNumeral count).toList ∨ isTagCharacter d = true := fun count d => Or.inl
  cases filter with
  | word text => exact Or.inl member
  | quoted text => exact Or.inl (mem_append_iff.mpr (Or.inl (mem_behind member _)))
  | draft state =>
    right
    have letters : state.tagged.toList.all isTagCharacter = true := by cases state <;> decide
    exact List.all_eq_true.mp letters c member
  | kind text => exact Or.inl (mem_behind member _)
  | category text => exact Or.inl (mem_behind member _)
  | creator author => exact (author.mem_tagged c member).imp_left (mem_behind · _)
  | created range => exact (Range.mem_tagged DateText.mem_tagged member).imp_left (mem_behind · _)
  | images range => exact (Range.mem_tagged counts member).imp_left (mem_behind · _)
  | propertyCount propertyKind range =>
    rcases mem_pair member with name | inside | added
    · exact Or.inl (mem_append_iff.mpr (Or.inl (mem_append_iff.mpr (Or.inl (mem_behind name _)))))
    · exact (Range.mem_tagged counts inside).imp_left (mem_behind · _)
    · exact Or.inr added
  | property propertyKind id value =>
    show c ∈ (Keyword.properties.written ++ propertyKind ++ "/" ++ id ++ ":" ++
      boolText value).toList ∨ _
    rw [mem_append_iff, mem_append_iff, mem_append_iff, mem_append_iff, mem_append_iff]
    rcases mem_pair member with name | behind | added
    · exact Or.inl (Or.inl (Or.inl (Or.inl (Or.inl (Or.inr name)))))
    · rcases mem_pair behind with id | truth | added
      · exact Or.inl (Or.inl (Or.inl (Or.inr id)))
      · exact Or.inl (Or.inr truth)
      · exact Or.inr added
    · exact Or.inr added

/-- The tag of a filter has only such characters. -/
theorem Filter.label_characters (filter : Filter Int) :
    filter.label.toList.all isTagCharacter = true := by
  cases filter <;> (simp only [Filter.label]; decide)

/-- The tagged form of a filter adds tags to the written one. -/
theorem Filter.mem_tagged {filter : Filter Int} {c : Char} (member : c ∈ filter.tagged.toList) :
    c ∈ filter.written.toList ∨ isTagCharacter c = true := by
  rw [Filter.toList_tagged] at member
  rcases mem_enclosed filter.label_characters member with inside | added
  · exact Filter.mem_arguments inside
  · exact Or.inr added

namespace Text

/-- A character of what queries write other than free text: of keywords, identifiers, dates and
numerals, or between them. -/
def isFormCharacter (c : Char) : Bool :=
  isIdentifierCharacter c || c == ':' || c == '/' || c == '.' || c == '<' || c == '>' || c == '='

/-- The characters of identifiers are some of these. -/
theorem isFormCharacter_of_identifier {c : Char} (member : isIdentifierCharacter c = true) :
    isFormCharacter c = true := by
  simp only [isFormCharacter, member, Bool.true_or]

/-- A letter or a digit of ASCII is one of these. -/
theorem isFormCharacter_of_alphanumeric {c : Char} (ascii : c.toNat < 128)
    (alphanumeric : c.isAlphanum = true) : isFormCharacter c = true := by
  apply isFormCharacter_of_identifier
  simp only [isIdentifierCharacter, isWordCharacter, isLetterOrNumeral, if_pos ascii, alphanumeric,
    Bool.true_or]

/-- The decimal digits are some of these. -/
theorem isFormCharacter_of_digit {c : Char} (digit : isDecimalDigit c = true) :
    isFormCharacter c = true := by
  have bounds := isDecimalDigit_iff.mp digit
  have numeral : c.isDigit = true := by
    simpa [Char.isDigit, isDecimalDigit, Char.le_def] using digit
  exact isFormCharacter_of_alphanumeric (by omega) (by rw [Char.isAlphanum, numeral, Bool.or_true])

/-- The characters of user identifiers are some of these. -/
theorem isFormCharacter_of_userId {c : Char} (member : isUserIdCharacter c = true) :
    isFormCharacter c = true := by
  simp only [isUserIdCharacter, isHexDigit, Bool.or_eq_true, Bool.and_eq_true, beq_iff_eq,
    decide_eq_true_eq, Char.le_def, UInt32.le_iff_toNat_le] at member
  rcases member with ((digit | small) | capital) | rfl
  · exact isFormCharacter_of_digit digit
  · have high : c.toNat ≤ 102 := small.2
    apply isFormCharacter_of_alphanumeric (by omega)
    delta Char.isAlphanum Char.isAlpha Char.isLower
    simp only [Bool.or_eq_true, Bool.and_eq_true, decide_eq_true_eq, ge_iff_le,
      UInt32.le_iff_toNat_le]
    exact Or.inl (Or.inr ⟨small.1, Nat.le_trans small.2 (by decide)⟩)
  · have high : c.toNat ≤ 70 := capital.2
    apply isFormCharacter_of_alphanumeric (by omega)
    delta Char.isAlphanum Char.isAlpha Char.isUpper
    simp only [Bool.or_eq_true, decide_eq_true_eq, ge_iff_le, UInt32.le_iff_toNat_le]
    exact Or.inl (Or.inl ⟨capital.1, Nat.le_trans capital.2 (by decide)⟩)
  · decide

/-- The characters of dates are some of these. -/
theorem isFormCharacter_of_date {c : Char} (member : isDateCharacter c = true) :
    isFormCharacter c = true := by
  simp only [isDateCharacter, Bool.or_eq_true, beq_iff_eq] at member
  rcases member with (((((digit | rfl) | rfl) | rfl) | rfl) | rfl) | rfl
  · exact isFormCharacter_of_digit digit
  all_goals decide

/-- They are solid. -/
theorem isSolid_of_isFormCharacter {c : Char} (member : isFormCharacter c = true) :
    isSolid c = true := by
  simp only [isFormCharacter, Bool.or_eq_true, beq_iff_eq] at member
  rcases member with (((((identifier | rfl) | rfl) | rfl) | rfl) | rfl) | rfl
  · exact isSolid_of_isIdentifierCharacter identifier
  all_goals decide

end Text

/-- A text of form characters. -/
def IsFormed (text : String) : Prop := ∀ c ∈ text.toList, isFormCharacter c = true

/-- Two such texts make up another. -/
theorem IsFormed.append {front behind : String} (first : IsFormed front)
    (second : IsFormed behind) : IsFormed (front ++ behind) := by
  intro c member
  rcases mem_append_iff.mp member with inFront | inBehind
  · exact first c inFront
  · exact second c inBehind

/-- A range is formed if the texts of its bounds are. -/
theorem Range.isFormed {α : Type} {bound : α → String} (formed : ∀ value, IsFormed (bound value))
    (range : Range α) : IsFormed (range.written bound) := by
  cases range with
  | exactly value => exact formed value
  | compared comparison value =>
    have symbol : IsFormed comparison.symbol := by
      apply List.all_eq_true.mp
      cases comparison <;> decide
    exact symbol.append (formed value)
  | between lower upper =>
    have dots : IsFormed ".." := List.all_eq_true.mp (by decide)
    exact ((formed lower).append dots).append (formed upper)

/-- Numerals of counts are formed. -/
theorem isFormed_integerNumeral (count : Int) : IsFormed (integerNumeral count) := by
  intro c member
  have numeral := isIntegerCharacter_of_mem_integerNumeral member
  rw [isIntegerCharacter, Bool.or_eq_true, beq_iff_eq] at numeral
  rcases numeral with rfl | digit
  · decide
  · exact isFormCharacter_of_digit digit

/-- Keywords are formed. -/
theorem Keyword.isFormed_written (keyword : Keyword) : IsFormed keyword.written := by
  apply List.all_eq_true.mp
  cases keyword <;> decide

/-- The text of a filter that may hold more than form characters: a word, a phrase, or a name. -/
def Filter.freeText? : Filter Count → Option String
  | word text => some text
  | quoted text => some text
  | creator (.username name) => some name
  | _ => none

/-- A filter without free text is formed. -/
theorem Filter.isFormed_written {filter : Filter Int} (wellFormed : filter.WellFormed IsCount)
    (fixed : filter.freeText? = none) : IsFormed filter.written := by
  have identifier : ∀ {text : String}, IsIdentifier text → IsFormed text :=
    fun valid c member => isFormCharacter_of_identifier (valid c member)
  have colon : IsFormed ":" := List.all_eq_true.mp (by decide)
  have slash : IsFormed "/" := List.all_eq_true.mp (by decide)
  cases filter with
  | word text => cases fixed
  | quoted text => cases fixed
  | draft state =>
    have formed : IsFormed state.written := by
      apply List.all_eq_true.mp
      cases state <;> decide
    exact Keyword.draft.isFormed_written.append formed
  | kind text => exact Keyword.kind.isFormed_written.append (identifier wellFormed)
  | category text => exact Keyword.category.isFormed_written.append (identifier wellFormed)
  | creator author =>
    cases author with
    | username name => cases fixed
    | userId value =>
      have formed : IsFormed value :=
        fun c member => isFormCharacter_of_userId (wellFormed.2 c member)
      exact Keyword.creator.isFormed_written.append formed
  | created range =>
    have dates : ∀ date : DateText, IsFormed date.text :=
      fun date c member => isFormCharacter_of_date (date.characters c member)
    exact Keyword.created.isFormed_written.append (range.isFormed dates)
  | images range =>
    exact Keyword.images.isFormed_written.append (range.isFormed isFormed_integerNumeral)
  | propertyCount propertyKind range =>
    have front := Keyword.properties.isFormed_written.append (identifier wellFormed.1)
    exact (front.append colon).append (range.isFormed isFormed_integerNumeral)
  | property propertyKind id value =>
    have formed : IsFormed (boolText value) := by
      apply List.all_eq_true.mp
      cases value <;> decide
    have front := Keyword.properties.isFormed_written.append (identifier wellFormed.1)
    exact (((front.append slash).append (identifier wellFormed.2)).append colon).append formed

/-- What stands in texts with one space between any two stands in one of them, or is a space. -/
theorem mem_intercalate_space {texts : List String} {c : Char}
    (member : c ∈ (" ".intercalate texts).toList) : (∃ text ∈ texts, c ∈ text.toList) ∨ c = ' ' := by
  induction texts with
  | nil =>
    rw [String.intercalate_nil] at member
    cases member
  | cons text texts ih =>
    cases texts with
    | nil =>
      rw [String.intercalate_singleton] at member
      exact Or.inl ⟨text, List.mem_cons_self, member⟩
    | cons next texts =>
      rw [String.intercalate_cons_cons, mem_append_iff, mem_append_iff] at member
      rcases member with (first | space) | behind
      · exact Or.inl ⟨text, List.mem_cons_self, first⟩
      · exact Or.inr (List.mem_singleton.mp space)
      · rcases ih behind with ⟨found, listed, inside⟩ | space
        · exact Or.inl ⟨found, List.mem_cons_of_mem _ listed, inside⟩
        · exact Or.inr space

/-- What stands in a piece of a layout stands in the text. -/
theorem mem_textOfPieces {pieces : List (String × String)} {piece : String × String} {c : Char}
    (listed : piece ∈ pieces) (member : c ∈ piece.1.toList) : c ∈ (textOfPieces pieces).toList := by
  induction pieces with
  | nil => cases listed
  | cons first pieces ih =>
    rw [textOfPieces, mem_append_iff, mem_append_iff]
    rcases List.mem_cons.mp listed with rfl | listed
    · exact Or.inl (Or.inl member)
    · exact Or.inr (ih listed)

/-- Every filter that is spelled is spelled by one of the pieces. -/
theorem exists_piece_of_spelled {pieces : List (String × String)} {filters : List (Filter Int)}
    (spelled : Spelled pieces filters) {filter : Filter Int} (listed : filter ∈ filters) :
    ∃ piece ∈ pieces, Spelling piece.1 filter := by
  induction spelled with
  | nil => cases listed
  | @cons piece first pieces filters front behind ih =>
    rcases List.mem_cons.mp listed with rfl | listed
    · exact ⟨piece, List.mem_cons_self, front⟩
    · obtain ⟨found, member, spelling⟩ := ih listed
      exact ⟨found, List.mem_cons_of_mem piece member, spelling⟩

/-- Every filter of a query that a text means was typed in the text. -/
theorem mem_of_mem_written {text : String} {query : Query} (meant : parseQuery text = .ok query)
    {filter : Filter Int} (listed : filter ∈ query.filters) {c : Char}
    (member : c ∈ filter.written.toList) : c ∈ text.toList := by
  obtain ⟨layout, rfl, spelled⟩ := parseQuery_eq_ok_iff.mp meant
  obtain ⟨piece, pieceListed, spelling⟩ := exists_piece_of_spelled spelled listed
  exact mem_behind (mem_textOfPieces pieceListed (spelling.mem_of_mem_written member)) layout.lead

/-- The written form of a query holds spaces and what was typed. -/
theorem Query.mem_written {text : String} {query : Query} (meant : parseQuery text = .ok query)
    {c : Char} (member : c ∈ query.written.toList) : c ∈ text.toList ∨ c = ' ' := by
  rcases mem_intercalate_space member with ⟨form, listed, inside⟩ | space
  · obtain ⟨filter, filterListed, rfl⟩ := List.mem_map.mp listed
    exact Or.inl (mem_of_mem_written meant filterListed inside)
  · exact Or.inr space

/-- The tagged form of a query holds spaces, tags and what was typed. -/
theorem Query.mem_tagged {text : String} {query : Query} (meant : parseQuery text = .ok query)
    {c : Char} (member : c ∈ query.tagged.toList) :
    c ∈ text.toList ∨ isTagCharacter c = true ∨ c = ' ' := by
  rcases mem_intercalate_space member with ⟨form, listed, inside⟩ | space
  · obtain ⟨filter, filterListed, rfl⟩ := List.mem_map.mp listed
    rcases Filter.mem_tagged inside with written | added
    · exact Or.inl (mem_of_mem_written meant filterListed written)
    · exact Or.inr (Or.inl added)
  · exact Or.inr (Or.inr space)

end SearchBar
