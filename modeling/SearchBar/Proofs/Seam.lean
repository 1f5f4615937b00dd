import SearchBar.Proofs.Boundary
import SearchBar.Query.Faithful

/-!
# Reading up to a seam

A seam is a place at which a text is cut and behind which either a blank or
nothing stands. No reader looks past a seam, with one exception: a phrase whose
closing quotation mark is missing in front of the seam may be closed behind it.
Every other outcome, success or failure, is the same whether the text behind the
seam is there or not.

Main statement: a filter in front of a seam is read as if nothing were behind it
(`readFilter_append`).
-/

namespace SearchBar

open Text

variable {α β : Type} {tail : List Char}

/-- The same reading with more text behind it. -/
def Reading.extend (tail : List Char) (reading : Reading α) : Reading α :=
  ⟨reading.value, reading.extensions, reading.rest ++ tail⟩

/-- The same outcome with more text behind it. -/
def extended (tail : List Char) (outcome : Except Failure (Reading α)) :
    Except Failure (Reading α) :=
  outcome.map (Reading.extend tail)

/-- More text behind a reading changes its rest and nothing else. -/
@[simp] theorem extended_ok (value : α) (extensions : List Terminal) (rest : List Char) :
    extended tail (.ok ⟨value, extensions, rest⟩) = .ok ⟨value, extensions, rest ++ tail⟩ := rfl

/-- More text behind a failure changes nothing. -/
@[simp] theorem extended_error (failure : Failure) :
    extended tail (.error failure : Except Failure (Reading α)) = .error failure := rfl

/-- More text behind an unmet expectation changes nothing. -/
@[simp] theorem extended_unexpected (offset : Nat) (expected : List Terminal) :
    extended tail (unexpected offset expected : Except Failure (Reading α)) =
      unexpected offset expected := rfl

/-- The value of a reading may be mapped before or after more text is put behind it. -/
theorem extended_map (f : α → β) (outcome : Except Failure (Reading α)) :
    extended tail (outcome.map (·.map f)) = (extended tail outcome).map (·.map f) := by
  cases outcome with
  | error failure => rfl
  | ok reading => rfl

/-- A character with which a comparison begins. -/
def opensComparison (c : Char) : Bool := c == '<' || c == '>'

/-- A solid character does not stand behind a seam. -/
theorem ne_of_seam {c d : Char} {rest : List Char} (seam : StopsAt isSolid (c :: rest))
    (solid : isSolid d = true) : c ≠ d := by
  intro same
  rw [← same, stopsAt_cons.mp seam] at solid
  contradiction

/-- A run of solid characters ends at a seam. -/
theorem readRun_append {first following : Char → Bool}
    (opens : ∀ c, first c = true → isSolid c = true)
    (continues : ∀ c, following c = true → isSolid c = true)
    (seam : StopsAt isSolid tail) (text : List Char) :
    readRun first following (text ++ tail) =
      (readRun first following text).map (Prod.map id (· ++ tail)) := by
  cases text with
  | nil =>
    cases tail with
    | nil => rfl
    | cons c rest =>
      have stops := stopsAt_cons.mp (seam.mono opens)
      simp [readRun, stops]
  | cons c rest =>
    have stops := seam.mono continues
    by_cases start : first c = true
    · simp [readRun, start, takeWhile_append_boundary stops, dropWhile_append_boundary stops]
    · simp [readRun, start]

/-- A form whose bounds end at a seam. -/
def BoundForm.EndsAtSeam (form : BoundForm α) : Prop :=
  ∀ tail, StopsAt isSolid tail → ∀ offset text,
    form.read offset (text ++ tail) = (form.read offset text).map (Prod.map id (· ++ tail))

/-- Counts end at a seam. -/
theorem countForm_endsAtSeam : countForm.EndsAtSeam := by
  intro tail seam offset text
  have run := readRun_append (fun _ => isSolid_of_isDecimalDigit)
    (fun _ => isSolid_of_isDecimalDigit) seam text
  simp only [countForm, run]
  cases readRun isDecimalDigit isDecimalDigit text with
  | none => rfl
  | some found => rfl

/-- Dates end at a seam. -/
theorem dateForm_endsAtSeam : dateForm.EndsAtSeam := by
  intro tail seam offset text
  have stops := seam.mono fun _ => isSolid_of_isDateCharacter
  simp only [dateForm, DateText.read, takeWhile_append_boundary stops,
    dropWhile_append_boundary stops]
  split
  · rfl
  · rfl

/-- A text that begins with no sign begins with no comparison. -/
theorem Comparison.read_eq_none {text : List Char} (stops : StopsAt opensComparison text) :
    Comparison.read text = none := by
  cases text with
  | nil => rfl
  | cons c rest =>
    have first := stopsAt_cons.mp stops
    simp only [opensComparison, Bool.or_eq_false_iff, beq_eq_false_iff_ne] at first
    simp [Comparison.read, first.1, first.2]

/-- A sign without an equals sign behind it is read as a comparison of its own. -/
theorem Comparison.read_cons (c : Char) {rest : List Char} (plain : StopsAt (· == '=') rest) :
    Comparison.read (c :: rest) =
      if c = '<' then some (less, rest) else if c = '>' then some (greater, rest) else none := by
  have short : ∀ d others, rest = d :: others → d ≠ '=' := by
    intro d others shape
    rw [shape, stopsAt_cons, beq_eq_false_iff_ne] at plain
    exact plain
  by_cases less : c = '<'
  · cases rest with
    | nil => simp [Comparison.read, less]
    | cons d others => simp [Comparison.read, less, short d others rfl]
  · by_cases greater : c = '>'
    · cases rest with
      | nil => simp [Comparison.read, greater]
      | cons d others => simp [Comparison.read, greater, short d others rfl]
    · simp [Comparison.read, less, greater]

/-- A comparison ends at a seam. -/
theorem Comparison.read_append (seam : StopsAt isSolid tail) (text : List Char) :
    Comparison.read (text ++ tail) = (Comparison.read text).map (Prod.map id (· ++ tail)) := by
  have solid : ∀ c, opensComparison c = true ∨ (c == '=') = true → isSolid c = true := by
    intro c sign
    simp only [opensComparison, Bool.or_eq_true, beq_iff_eq] at sign
    rcases sign with (rfl | rfl) | rfl
    all_goals decide
  cases text with
  | nil =>
    have none : Comparison.read tail = none :=
      read_eq_none (seam.mono fun c sign => solid c (Or.inl sign))
    rw [List.nil_append, none]
    rfl
  | cons c text =>
    by_cases equal : ∃ rest, text = '=' :: rest
    · obtain ⟨rest, rfl⟩ := equal
      by_cases less : c = '<'
      · simp [Comparison.read, less]
      · by_cases greater : c = '>'
        · simp [Comparison.read, greater]
        · simp [Comparison.read, less, greater]
    · have plain : StopsAt (· == '=') text := by
        cases text with
        | nil => exact StopsAt.nil _
        | cons d rest =>
          rw [stopsAt_cons, beq_eq_false_iff_ne]
          intro same
          exact equal ⟨rest, by rw [same]⟩
      have behind : StopsAt (· == '=') tail := seam.mono fun c sign => solid c (Or.inr sign)
      rw [List.cons_append, read_cons c (plain.append behind), read_cons c plain]
      by_cases less : c = '<'
      · rw [if_pos less, if_pos less]
        rfl
      · rw [if_neg less, if_neg less]
        by_cases greater : c = '>'
        · rw [if_pos greater, if_pos greater]
          rfl
        · rw [if_neg greater, if_neg greater]
          rfl

/-- The number of characters read does not depend on what stands behind. -/
theorem length_sub_append (text rest tail : List Char) :
    (text ++ tail).length - (rest ++ tail).length = text.length - rest.length := by
  simp only [List.length_append]
  omega

/-- Two full stops that reach a seam stand in front of it. -/
theorem opensInterval_of_append (seam : StopsAt isSolid tail) {rest : List Char}
    (opening : ∃ upperText, rest ++ tail = '.' :: '.' :: upperText) :
    ∃ upperText, rest = '.' :: '.' :: upperText := by
  obtain ⟨upperText, same⟩ := opening
  match rest with
  | [] =>
    rw [List.nil_append] at same
    subst same
    exact absurd rfl (ne_of_seam seam (show isSolid '.' = true by decide))
  | [c] =>
    rw [List.singleton_append, List.cons.injEq] at same
    obtain ⟨-, rfl⟩ := same
    exact absurd rfl (ne_of_seam seam (show isSolid '.' = true by decide))
  | c :: d :: behind =>
    simp only [List.cons_append, List.cons.injEq] at same
    exact ⟨behind, by rw [same.1, same.2.1]⟩

/-- A bound without two full stops behind it is a range of its own. -/
theorem readRange_single {form : BoundForm α} {offset : Nat} {text rest : List Char} {value : α}
    (plain : Comparison.read text = none) (found : form.read offset text = some (value, rest))
    (single : ¬ ∃ upperText, rest = '.' :: '.' :: upperText) :
    readRange form offset text = .ok ⟨.exactly value, [.rangeSeparator], rest⟩ := by
  simp only [readRange, plain, found]
  split
  · rename_i opening
    cases opening
    exact absurd ⟨_, rfl⟩ single
  · rename_i same
    cases same
    rfl
  · contradiction

/-- A range ends at a seam if its bounds do. -/
theorem readRange_append {form : BoundForm α} (ends : form.EndsAtSeam)
    (seam : StopsAt isSolid tail) (offset : Nat) (text : List Char) :
    readRange form offset (text ++ tail) = extended tail (readRange form offset text) := by
  have symbol := Comparison.read_append seam text
  cases front : Comparison.read text with
  | some found =>
    obtain ⟨comparison, rest⟩ := found
    rw [front, Option.map_some] at symbol
    simp only [readRange, front, symbol, Prod.map, id, ends tail seam]
    cases form.read (offset + comparison.symbol.length) rest with
    | none => rfl
    | some bound => rfl
  | none =>
    rw [front, Option.map_none] at symbol
    have reads := ends tail seam offset text
    cases first : form.read offset text with
    | none =>
      rw [first, Option.map_none] at reads
      simp only [readRange, front, symbol, first, reads, extended_unexpected]
    | some found =>
      obtain ⟨lower, rest⟩ := found
      rw [first, Option.map_some] at reads
      by_cases interval : ∃ upperText, rest = '.' :: '.' :: upperText
      · obtain ⟨upperText, rfl⟩ := interval
        simp only [readRange, front, symbol, first, reads, Prod.map, id, List.cons_append,
          length_sub_append, ends tail seam]
        cases form.read (offset + (text.length - upperText.length)) upperText with
        | none => rfl
        | some upper => rfl
      · have apart := mt (opensInterval_of_append seam) interval
        rw [readRange_single front first interval, readRange_single symbol reads apart]
        rfl

/-- An identifier ends at a seam. -/
theorem readIdentifier_append (seam : StopsAt isSolid tail) (text : List Char) :
    readIdentifier (text ++ tail) = (readIdentifier text).extend tail := by
  have stops := seam.mono fun _ => isSolid_of_isIdentifierCharacter
  simp only [readIdentifier, Reading.extend, takeWhile_append_boundary stops,
    dropWhile_append_boundary stops]

/-- A solid text stands at the front of what is in front of a seam, or not at all. -/
theorem isPrefixOf_append_seam (seam : StopsAt isSolid tail) {literal : List Char}
    (solid : ∀ c ∈ literal, isSolid c = true) (text : List Char) :
    literal.isPrefixOf (text ++ tail) = literal.isPrefixOf text := by
  induction text generalizing literal with
  | nil =>
    cases literal with
    | nil => cases tail <;> rfl
    | cons d literal =>
      cases tail with
      | nil => rfl
      | cons c rest =>
        have different := ne_of_seam seam (solid d (by simp))
        simp [List.isPrefixOf, different.symm]
  | cons c text ih =>
    cases literal with
    | nil => rfl
    | cons d literal =>
      have rest := ih fun e member => solid e (List.mem_cons_of_mem d member)
      simp only [List.cons_append, List.isPrefixOf, rest]

/-- A literal ends at a seam. -/
theorem readLiteral_append (seam : StopsAt isSolid tail) {choices : List (String × α)}
    (solid : ∀ choice ∈ choices, ∀ c ∈ choice.1.toList, isSolid c = true) (text : List Char) :
    readLiteral choices (text ++ tail) =
      (readLiteral choices text).map (Prod.map id (· ++ tail)) := by
  induction choices with
  | nil => rfl
  | cons choice choices ih =>
    have same := isPrefixOf_append_seam seam (solid choice (by simp)) text
    have others := ih fun other member => solid other (by simp [member])
    simp only [readLiteral] at others ⊢
    by_cases starts : choice.1.toList.isPrefixOf text = true
    · have long := (List.isPrefixOf_iff_prefix.mp starts).length_le
      rw [String.length_toList] at long
      simp [same, starts, List.drop_append_of_le_length long]
    · simpa [same, starts] using others

/-- The states of drafts are solid texts. -/
theorem tristateChoices_solid :
    ∀ choice ∈ tristateChoices, ∀ c ∈ choice.1.toList, isSolid c = true := by
  have solid : ∀ choice ∈ tristateChoices, choice.1.toList.all isSolid = true := by decide
  exact fun choice listed => List.all_eq_true.mp (solid choice listed)

/-- The truth values are solid texts. -/
theorem boolChoices_solid :
    ∀ choice ∈ boolChoices, ∀ c ∈ choice.1.toList, isSolid c = true := by
  have solid : ∀ choice ∈ boolChoices, choice.1.toList.all isSolid = true := by decide
  exact fun choice listed => List.all_eq_true.mp (solid choice listed)

/-- The keywords are solid texts. -/
theorem Keyword.characters_solid (keyword : Keyword) :
    ∀ c ∈ keyword.characters, isSolid c = true := by
  have solid : ∀ keyword ∈ Keyword.all, keyword.characters.all isSolid = true := by decide
  exact List.all_eq_true.mp (solid keyword keyword.mem_all)

/-- The value of a draft qualifier ends at a seam. -/
theorem readDraft_append (seam : StopsAt isSolid tail) (offset : Nat) (text : List Char) :
    readDraft offset (text ++ tail) = extended tail (readDraft offset text) := by
  simp only [readDraft, readLiteral_append seam tristateChoices_solid]
  cases readLiteral tristateChoices text with
  | none => rfl
  | some found => rfl

/-- The truth value of a property ends at a seam. -/
theorem readPropertyValue_append (seam : StopsAt isSolid tail) (propertyKind id : String)
    (offset : Nat) (text : List Char) :
    readPropertyValue propertyKind id offset (text ++ tail) =
      extended tail (readPropertyValue propertyKind id offset text) := by
  simp only [readPropertyValue, readLiteral_append seam boolChoices_solid]
  cases readLiteral boolChoices text with
  | none => rfl
  | some found => rfl

/-- A user identifier stands in front of a seam as a whole, or not at all. -/
theorem isUserId_take_append (seam : StopsAt isSolid tail) (text : List Char) :
    ((text ++ tail).take userIdLength).length = userIdLength ∧
        ((text ++ tail).take userIdLength).all isUserIdCharacter = true ↔
      (text.take userIdLength).length = userIdLength ∧
        (text.take userIdLength).all isUserIdCharacter = true := by
  by_cases long : userIdLength ≤ text.length
  · rw [List.take_append_of_le_length long]
  · have short : (text.take userIdLength).length ≠ userIdLength := by
      rw [List.length_take]
      omega
    constructor
    · intro identified
      obtain ⟨length, member⟩ := identified
      cases tail with
      | nil =>
        rw [List.append_nil] at length
        exact absurd length short
      | cons c rest =>
        -- the character behind the seam would belong to the identifier
        have inside : c ∈ (text ++ c :: rest).take userIdLength := by
          rw [List.take_append]
          apply List.mem_append_right
          obtain ⟨n, size⟩ : ∃ n, userIdLength - text.length = n + 1 :=
            ⟨userIdLength - text.length - 1, by omega⟩
          rw [size, List.take_succ_cons]
          exact List.mem_cons_self
        have solid := isSolid_of_isUserIdCharacter (List.all_eq_true.mp member c inside)
        exact absurd rfl (ne_of_seam seam solid)
    · intro identified
      exact absurd identified.1 short

/-- An author without the sign of a name in front is read as an identifier. -/
theorem readCreator_unnamed {offset : Nat} {text : List Char}
    (unnamed : ¬ ∃ name, text = '@' :: name) :
    readCreator offset text =
      if (text.take userIdLength).length = userIdLength ∧
          (text.take userIdLength).all isUserIdCharacter = true then
        .ok ⟨.creator (.userId (String.ofList (text.take userIdLength))), [],
          text.drop userIdLength⟩
      else unexpected offset [.username, .userId] := by
  unfold readCreator
  split
  · exact absurd ⟨_, rfl⟩ unnamed
  · rfl

/-- An author ends at a seam. -/
theorem readCreator_append (seam : StopsAt isSolid tail) (offset : Nat) (text : List Char) :
    readCreator offset (text ++ tail) = extended tail (readCreator offset text) := by
  by_cases named : ∃ name, text = '@' :: name
  · obtain ⟨name, rfl⟩ := named
    simp only [readCreator, List.cons_append, readRun_append (fun _ => id) (fun _ => id) seam]
    cases readRun isSolid isSolid name with
    | none => rfl
    | some found => rfl
  · have unnamed : ¬ ∃ name, text ++ tail = '@' :: name := by
      intro longNamed
      obtain ⟨name, same⟩ := longNamed
      cases text with
      | nil =>
        rw [List.nil_append] at same
        subst same
        exact absurd rfl (ne_of_seam seam (show isSolid '@' = true by decide))
      | cons c text =>
        rw [List.cons_append, List.cons.injEq] at same
        exact named ⟨text, by rw [same.1]⟩
    rw [readCreator_unnamed named, readCreator_unnamed unnamed]
    by_cases identified : (text.take userIdLength).length = userIdLength ∧
        (text.take userIdLength).all isUserIdCharacter = true
    · have long : userIdLength ≤ text.length := by
        have taken := identified.1
        rw [List.length_take] at taken
        omega
      rw [if_pos identified, if_pos ((isUserId_take_append seam text).mpr identified),
        List.take_append_of_le_length long, List.drop_append_of_le_length long]
      rfl
    · rw [if_neg identified, if_neg (mt (isUserId_take_append seam text).mp identified)]
      rfl

/-- What stands behind a properties qualifier ends at a seam. -/
theorem readProperties_append (seam : StopsAt isSolid tail) (offset : Nat) (text : List Char) :
    readProperties offset (text ++ tail) = extended tail (readProperties offset text) := by
  have behind : ∀ c rest, tail = c :: rest → c ≠ ':' ∧ c ≠ '/' := by
    rintro c rest rfl
    exact ⟨ne_of_seam seam (by decide), ne_of_seam seam (by decide)⟩
  simp only [readProperties, readIdentifier_append seam, Reading.extend]
  generalize readIdentifier text = kind
  obtain ⟨name, extensions, rest⟩ := kind
  cases rest with
  | nil =>
    cases tail with
    | nil => rfl
    | cons c rest =>
      obtain ⟨colon, slash⟩ := behind c rest rfl
      simp [colon, slash]
  | cons c rest =>
    by_cases colon : c = ':'
    · subst colon
      simp only [List.cons_append, extended_map, readRange_append countForm_endsAtSeam seam]
    · by_cases slash : c = '/'
      · subst slash
        simp only [List.cons_append, readIdentifier_append seam, Reading.extend]
        generalize readIdentifier rest = id
        obtain ⟨idName, idExtensions, idRest⟩ := id
        cases idRest with
        | nil =>
          cases tail with
          | nil => rfl
          | cons d behindSeam =>
            obtain ⟨idColon, -⟩ := behind d behindSeam rfl
            simp [idColon]
        | cons d idRest =>
          by_cases idColon : d = ':'
          · subst idColon
            exact readPropertyValue_append seam name idName _ idRest
          · simp [idColon]
      · simp [colon, slash]

/-- A qualifier ends at a seam. -/
theorem readQualifier_append (seam : StopsAt isSolid tail) (keyword : Keyword) (offset : Nat)
    (text : List Char) :
    readQualifier keyword offset (text ++ tail) =
      extended tail (readQualifier keyword offset text) := by
  cases keyword with
  | draft => exact readDraft_append seam offset text
  | kind =>
    simp only [readQualifier, readIdentifier_append seam]
    rfl
  | category =>
    simp only [readQualifier, readIdentifier_append seam]
    rfl
  | creator => exact readCreator_append seam offset text
  | created =>
    simp only [readQualifier, extended_map, readRange_append dateForm_endsAtSeam seam]
  | images =>
    simp only [readQualifier, extended_map, readRange_append countForm_endsAtSeam seam]
  | properties => exact readProperties_append seam offset text

/-- The keyword at the front of a text in front of a seam is all in front of it. -/
theorem Keyword.at?_append (seam : StopsAt isSolid tail) (text : List Char) :
    Keyword.at? (text ++ tail) = Keyword.at? text := by
  unfold Keyword.at?
  congr 1
  funext keyword
  exact isPrefixOf_append_seam seam keyword.characters_solid text

/-- No filter starts at a seam. -/
theorem readFilter_seam (seam : StopsAt isSolid tail) :
    readFilter tail = unexpected 0 filterStart := by
  have keyword : Keyword.at? tail = none := Keyword.at?_append seam []
  cases tail with
  | nil => rfl
  | cons c rest =>
    have blank := isSolid_eq_false_iff.mp (stopsAt_cons.mp seam)
    have mark : ¬ (c == quotationMark) = true := by
      rw [beq_iff_eq]
      exact ne_of_seam seam (by decide)
    simp only [readFilter, keyword]
    rw [if_neg mark, if_pos blank]

/-- A text with a keyword at the front is read as a qualifier. -/
theorem readFilter_keyword {text : List Char} {keyword : Keyword}
    (front : Keyword.at? text = some keyword) :
    readFilter text =
      readQualifier keyword keyword.characters.length (text.drop keyword.characters.length) := by
  simp only [readFilter, front]

/-- A text with a quotation mark at the front is read as a phrase. -/
theorem readFilter_mark (rest : List Char) :
    readFilter (quotationMark :: rest) = readPhrase rest := by
  have keyword : Keyword.at? (quotationMark :: rest) = none := rfl
  simp only [readFilter, keyword]
  rw [if_pos (by decide)]

/-- Any other text that begins solid is read as a word. -/
theorem readFilter_word {c : Char} {rest : List Char} (plain : Keyword.at? (c :: rest) = none)
    (unquoted : c ≠ quotationMark) (solid : isSolid c = true) :
    readFilter (c :: rest) =
      .ok ⟨.word (String.ofList (c :: rest.takeWhile isSolid)), [], rest.dropWhile isSolid⟩ := by
  have notBlank := isSolid_eq_true_iff.mp solid
  simp only [readFilter, plain]
  rw [if_neg (by rwa [beq_iff_eq]), if_neg (by rw [notBlank]; decide)]

/-- A phrase that is closed ends there, whatever stands behind. -/
theorem readPhrase_append {text : List Char}
    (closed : readPhrase text ≠ .error ⟨0, .unterminatedQuote⟩) :
    readPhrase (text ++ tail) = extended tail (readPhrase text) := by
  have split := List.takeWhile_append_dropWhile (p := (· != quotationMark)) (l := text)
  cases closing : text.dropWhile (· != quotationMark) with
  | nil => exact absurd (by simp only [readPhrase, closing]) closed
  | cons mark rest =>
    have ends : mark = quotationMark := by
      have head := List.head?_dropWhile_not (· != quotationMark) text
      simpa [closing] using head
    have inside : ∀ c ∈ text.takeWhile (· != quotationMark), (c != quotationMark) = true :=
      fun c member => List.mem_takeWhile_imp (p := (· != quotationMark)) member
    have stops : StopsAt (· != quotationMark) (mark :: rest ++ tail) := by
      rw [List.cons_append, stopsAt_cons, ends]
      decide
    rw [closing] at split
    have taken := takeWhile_run inside stops
    have dropped := dropWhile_run inside stops
    rw [← List.append_assoc, split] at taken dropped
    simp only [readPhrase, closing, dropped, taken, List.cons_append, extended_ok]

/-- A filter in front of a seam is read as if nothing were behind it, unless it is a phrase that
is not closed. -/
theorem readFilter_append (seam : StopsAt isSolid tail) {text : List Char}
    (closed : readFilter text ≠ .error ⟨0, .unterminatedQuote⟩) :
    readFilter (text ++ tail) = extended tail (readFilter text) := by
  have keyword := Keyword.at?_append seam text
  cases front : Keyword.at? text with
  | some found =>
    rw [front] at keyword
    have long : found.characters.length ≤ text.length := by
      have whole := congrArg List.length (Keyword.at?_eq front)
      rw [List.length_append] at whole
      omega
    rw [readFilter_keyword front, readFilter_keyword keyword, List.drop_append_of_le_length long]
    exact readQualifier_append seam found _ _
  | none =>
    rw [front] at keyword
    cases text with
    | nil =>
      rw [List.nil_append, readFilter_seam seam]
      rfl
    | cons c rest =>
      by_cases mark : c = quotationMark
      · subst mark
        rw [readFilter_mark] at closed
        rw [List.cons_append, readFilter_mark, readFilter_mark]
        exact readPhrase_append closed
      · by_cases solid : isSolid c = true
        · rw [List.cons_append] at keyword ⊢
          rw [readFilter_word front mark solid, readFilter_word keyword mark solid,
            takeWhile_append_boundary seam, dropWhile_append_boundary seam, extended_ok]
        · have stops : StopsAt isSolid (c :: rest) := by
            rw [stopsAt_cons]
            exact Bool.eq_false_iff.mpr solid
          have longStops : StopsAt isSolid (c :: rest ++ tail) := by
            rw [List.cons_append, stopsAt_cons]
            exact Bool.eq_false_iff.mpr solid
          rw [readFilter_seam stops, readFilter_seam longStops]
          rfl

/-- A filter that is read in front of a seam is read there whatever stands behind it. -/
theorem readFilter_ok_append (seam : StopsAt isSolid tail) {text : List Char}
    {reading : Reading (Filter Numeral)} (read : readFilter text = .ok reading) :
    readFilter (text ++ tail) = .ok (reading.extend tail) := by
  have closed : readFilter text ≠ .error ⟨0, .unterminatedQuote⟩ := by
    rw [read]
    intro unclosed
    cases unclosed
  rw [readFilter_append seam closed, read]
  rfl

end SearchBar
