import SearchBar.Filter.Tagged
import SearchBar.Filter.Written
import SearchBar.Proofs.Boundary

/-!
# The two forms of a query together

Neither form tells every query from every other. A word and a qualifier may be
written alike, and in the tagged form a phrase may hold what looks like the end
of its filter and the start of the next. Together the two forms do. A text that
may hold anything stands in both, and what the written form has behind it is
never what the tagged form has behind it; so of two such texts none can go on
where the other ends. Everything else ends at a character that it does not hold.

Main statement: no other query has the same two forms (`Query.forms_injective`).
-/

namespace SearchBar

open Text

variable {α : Type}

/-- Two runs of a class with a boundary behind them are the same if the whole texts are. -/
theorem run_eq {member : Char → Bool} {left right behind rest : List Char}
    (leftRun : ∀ c ∈ left, member c = true) (rightRun : ∀ c ∈ right, member c = true)
    (leftStops : StopsAt member behind) (rightStops : StopsAt member rest)
    (same : left ++ behind = right ++ rest) : left = right ∧ behind = rest := by
  have fronts := congrArg (List.takeWhile member) same
  have ends := congrArg (List.dropWhile member) same
  rw [takeWhile_run leftRun leftStops, takeWhile_run rightRun rightStops] at fronts
  rw [dropWhile_run leftRun leftStops, dropWhile_run rightRun rightStops] at ends
  exact ⟨fronts, ends⟩

/-- No character stands at the front of both texts. -/
def Diverge (written tagged : List Char) : Prop := ∀ c ∈ written.head?, c ∉ tagged.head?

/-- Two texts are the same if each stands in front of two that diverge, and the whole texts are the
same in both. -/
theorem text_eq {left right : String} {written tagged written' tagged' : List Char}
    (leftEnds : Diverge written tagged) (rightEnds : Diverge written' tagged')
    (inWritten : left.toList ++ written = right.toList ++ written')
    (inTagged : left.toList ++ tagged = right.toList ++ tagged') :
    left = right ∧ written = written' ∧ tagged = tagged' := by
  have same : left.toList = right.toList := by
    rcases List.append_eq_append_iff.mp inWritten with ⟨more, longer, rfl⟩ | ⟨more, longer, rfl⟩
    · rw [longer, List.append_assoc] at inTagged
      obtain rfl := List.append_cancel_left inTagged
      cases more with
      | nil => rw [longer, List.append_nil]
      | cons c more => exact absurd rfl (leftEnds c rfl)
    · rw [longer, List.append_assoc] at inTagged
      obtain rfl := List.append_cancel_left inTagged
      cases more with
      | nil => rw [longer, List.append_nil]
      | cons c more => exact absurd rfl (rightEnds c rfl)
  rw [same] at inWritten inTagged
  exact ⟨String.toList_injective same, List.append_cancel_left inWritten,
    List.append_cancel_left inTagged⟩

/-- Different characters diverge. -/
theorem diverge_cons {c d : Char} (different : c ≠ d) (behind rest : List Char) :
    Diverge (c :: behind) (d :: rest) := by
  intro first here there
  cases here
  cases there
  exact different rfl

/-- What stands behind a written filter diverges from a character that is not blank. -/
theorem diverge_of_seam {seam : List Char} (stops : StopsAt isSolid seam) {d : Char}
    (solid : isSolid d = true) (rest : List Char) : Diverge seam (d :: rest) := by
  intro first here there
  cases there
  rw [stops d here] at solid
  contradiction

/-- The texts of values show their values and where they end, unless the text behind goes on like an
integer. -/
def SelfDelimiting (text : α → String) : Prop :=
  ∀ {left right : α} {behind rest : List Char}, StopsAt isIntegerCharacter behind →
    StopsAt isIntegerCharacter rest →
      (text left).toList ++ behind = (text right).toList ++ rest → left = right ∧ behind = rest

/-- In front of the same character of another kind the values are the same. -/
theorem SelfDelimiting.eq_of_mark {text : α → String} (delimited : SelfDelimiting text)
    {left right : α} {mark : Char} {behind rest : List Char}
    (outside : isIntegerCharacter mark = false)
    (same : (text left).toList ++ mark :: behind = (text right).toList ++ mark :: rest) :
    left = right ∧ behind = rest := by
  obtain ⟨values, ends⟩ := delimited (stopsAt_cons.mpr outside) (stopsAt_cons.mpr outside) same
  exact ⟨values, List.tail_eq_of_cons_eq ends⟩

/-- Numerals of integers are self-delimiting. -/
theorem selfDelimiting_integerNumeral : SelfDelimiting integerNumeral := by
  intro left right behind rest leftStops rightStops same
  obtain ⟨numerals, ends⟩ := run_eq (fun _ => isIntegerCharacter_of_mem_integerNumeral)
    (fun _ => isIntegerCharacter_of_mem_integerNumeral) leftStops rightStops same
  have values := congrArg integerValue numerals
  rw [integerValue_integerNumeral, integerValue_integerNumeral] at values
  exact ⟨values, ends⟩

/-- Dates in the tagged form are self-delimiting. -/
theorem selfDelimiting_date : SelfDelimiting DateText.tagged := by
  intro left right behind rest leftStops rightStops same
  simp only [DateText.tagged, String.toList_append, List.append_assoc] at same
  obtain ⟨texts, ends⟩ := run_eq left.characters right.characters (stopsAt_cons.mpr (by decide))
    (stopsAt_cons.mpr (by decide)) (List.append_cancel_left same)
  exact ⟨DateText.eq_of_text_eq (String.toList_injective texts), List.tail_eq_of_cons_eq ends⟩

/-- The tags of comparisons are all different. -/
theorem Comparison.tag_injective : Function.Injective Comparison.tag := by
  intro first second same
  cases first <;> cases second <;> first | rfl | simp [tag] at same

namespace Range

/-- The bounds of a range in the tagged form. -/
def taggedBounds (bound : α → String) : Range α → List Char
  | exactly value => (bound value).toList
  | compared _ value => (bound value).toList
  | between lower upper => (bound lower).toList ++ ',' :: (bound upper).toList

/-- The tagged form is a tag with bounds. -/
theorem toList_tagged (bound : α → String) (range : Range α) :
    (range.tagged bound).toList =
      '.' :: (range.tag.toList ++ '(' :: (range.taggedBounds bound ++ [')'])) := by
  cases range <;> simp [tagged, bounds, taggedBounds]

/-- The tag of a range ends at the parenthesis. -/
theorem tag_run (range : Range α) : ∀ c ∈ range.tag.toList, (c != '(') = true := by
  apply List.all_eq_true.mp
  cases range with
  | exactly value => simp [tag]
  | compared comparison bound => cases comparison <;> simp [tag, Comparison.tag]
  | between lower upper => simp [tag]

/-- Two ranges with the same tagged form are the same, if the texts of their bounds end where they
seem to. -/
theorem eq_of_tagged {bound : α → String} (delimited : SelfDelimiting bound)
    {first second : Range α} {behind rest : List Char}
    (same : (first.tagged bound).toList ++ behind = (second.tagged bound).toList ++ rest) :
    first = second ∧ behind = rest := by
  have comma : isIntegerCharacter ',' = false := by decide
  have close : isIntegerCharacter ')' = false := by decide
  simp only [toList_tagged, List.cons_append, List.append_assoc, List.nil_append] at same
  obtain ⟨tags, ends⟩ := run_eq first.tag_run second.tag_run (stopsAt_cons.mpr rfl)
    (stopsAt_cons.mpr rfl) (List.tail_eq_of_cons_eq same)
  have tags := String.toList_injective tags
  have ends := List.tail_eq_of_cons_eq ends
  cases first with
  | exactly value =>
    cases second with
    | exactly other =>
      obtain ⟨rfl, rfl⟩ := delimited.eq_of_mark close ends
      exact ⟨rfl, rfl⟩
    | compared comparison other => cases comparison <;> simp [tag, Comparison.tag] at tags
    | between lower upper => simp [tag] at tags
  | compared comparison value =>
    cases second with
    | exactly other => cases comparison <;> simp [tag, Comparison.tag] at tags
    | compared comparison' other =>
      obtain rfl := Comparison.tag_injective tags
      obtain ⟨rfl, rfl⟩ := delimited.eq_of_mark close ends
      exact ⟨rfl, rfl⟩
    | between lower upper => cases comparison <;> simp [tag, Comparison.tag] at tags
  | between lower upper =>
    cases second with
    | exactly other => simp [tag] at tags
    | compared comparison other => cases comparison <;> simp [tag, Comparison.tag] at tags
    | between lower' upper' =>
      simp only [taggedBounds, List.append_assoc, List.cons_append] at ends
      obtain ⟨rfl, uppers⟩ := delimited.eq_of_mark comma ends
      obtain ⟨rfl, rfl⟩ := delimited.eq_of_mark close uppers
      exact ⟨rfl, rfl⟩

end Range

namespace Filter

/-- The tag of a filter. -/
def label : Filter Int → String
  | word _ => "word"
  | quoted _ => "quotedString"
  | draft _ => "isDraft"
  | kind _ => "kind"
  | category _ => "category"
  | creator _ => "creator"
  | created _ => "creation"
  | images _ => "imagesCount"
  | propertyCount _ _ => "propertiesCount"
  | property _ _ _ => "hasProperty"

/-- What stands behind the tag of a filter, between the parentheses. -/
def arguments : Filter Int → List Char
  | word text => text.toList
  | quoted text => text.toList
  | draft state => state.tagged.toList
  | kind text => text.toList
  | category text => text.toList
  | creator author => author.tagged.toList
  | created range => (range.tagged DateText.tagged).toList
  | images range => (range.tagged integerNumeral).toList
  | propertyCount propertyKind range =>
    propertyKind.toList ++ ',' :: (range.tagged integerNumeral).toList
  | property propertyKind id value =>
    propertyKind.toList ++ ',' :: (id.toList ++ ',' :: (boolText value).toList)

/-- The tagged form is a tag with arguments. -/
theorem toList_tagged (filter : Filter Int) :
    filter.tagged.toList = '.' :: (filter.label.toList ++ '(' :: (filter.arguments ++ [')'])) := by
  unfold tagged
  cases filter <;> simp [label, arguments]

/-- The tag of a filter ends at the parenthesis. -/
theorem label_run (filter : Filter Int) : ∀ c ∈ filter.label.toList, (c != '(') = true := by
  apply List.all_eq_true.mp
  cases filter <;> simp [label]

end Filter

section

variable {written written' tagged tagged' : List Char}

/-- The tagged forms of two filters, whatever stands behind them, are the same only if the tags and
the arguments are. -/
theorem Filter.arguments_of_tagged {first second : Filter Int}
    (same : first.tagged.toList ++ tagged = second.tagged.toList ++ tagged') :
    first.label = second.label ∧
      first.arguments ++ ')' :: tagged = second.arguments ++ ')' :: tagged' := by
  simp only [Filter.toList_tagged, List.cons_append, List.append_assoc, List.nil_append] at same
  obtain ⟨labels, ends⟩ := run_eq first.label_run second.label_run (stopsAt_cons.mpr rfl)
    (stopsAt_cons.mpr rfl) (List.tail_eq_of_cons_eq same)
  exact ⟨String.toList_injective labels, List.tail_eq_of_cons_eq ends⟩

variable (seam : StopsAt isSolid written) (seam' : StopsAt isSolid written')

include seam seam'

/-- A state of drafts is known by how it is written. -/
theorem Tristate.eq_of_written {first second : Tristate}
    (same : first.written.toList ++ written = second.written.toList ++ written') :
    first = second := by
  have run : ∀ state : Tristate, ∀ c ∈ state.written.toList, isSolid c = true := by
    intro state
    apply List.all_eq_true.mp
    cases state <;> decide
  obtain ⟨texts, -⟩ := run_eq (run first) (run second) seam seam' same
  cases first <;> cases second <;> first | rfl | simp [Tristate.written] at texts

/-- A truth value is known by how it is written. -/
theorem boolText_eq_of_written {first second : Bool}
    (same : (boolText first).toList ++ written = (boolText second).toList ++ written') :
    first = second := by
  have run : ∀ value : Bool, ∀ c ∈ (boolText value).toList, isSolid c = true := by
    intro value
    apply List.all_eq_true.mp
    cases value <;> decide
  obtain ⟨texts, -⟩ := run_eq (run first) (run second) seam seam' same
  cases first <;> cases second <;> first | rfl | simp [boolText] at texts

/-- A text that ends with its filter is known by both forms. -/
theorem text_eq_of_seam {left right : String}
    (inWritten : left.toList ++ written = right.toList ++ written')
    (inTagged : left.toList ++ ')' :: tagged = right.toList ++ ')' :: tagged') : left = right := by
  have close : isSolid ')' = true := by decide
  exact (text_eq (diverge_of_seam seam close tagged) (diverge_of_seam seam' close tagged')
    inWritten inTagged).1

/-- An author is known by both forms. -/
theorem Author.eq_of_forms {first second : Author}
    (inWritten : first.written.toList ++ written = second.written.toList ++ written')
    (inTagged : first.tagged.toList ++ tagged = second.tagged.toList ++ tagged') :
    first = second := by
  cases first with
  | username name =>
    cases second with
    | username other =>
      simp only [Author.written, Author.tagged, String.toList_append, List.append_assoc]
        at inWritten inTagged
      obtain rfl := text_eq_of_seam seam seam' (List.append_cancel_left inWritten)
        (List.append_cancel_left inTagged)
      rfl
    | userId other => simp [Author.tagged] at inTagged
  | userId value =>
    cases second with
    | username other => simp [Author.tagged] at inTagged
    | userId other =>
      simp only [Author.written, Author.tagged, String.toList_append, List.append_assoc]
        at inWritten inTagged
      obtain rfl := text_eq_of_seam seam seam' inWritten (List.append_cancel_left inTagged)
      rfl

/-- A filter is known by both forms, if no solid character stands behind the written one. -/
theorem Filter.eq_of_forms {first second : Filter Int}
    (inWritten : first.written.toList ++ written = second.written.toList ++ written')
    (inTagged : first.tagged.toList ++ tagged = second.tagged.toList ++ tagged') :
    first = second := by
  obtain ⟨labels, inTagged⟩ := Filter.arguments_of_tagged inTagged
  simp only [Filter.written] at inWritten
  cases first with
  | word text =>
    cases second with
    | word other =>
      obtain rfl := text_eq_of_seam seam seam' inWritten inTagged
      rfl
    | _ => simp [label] at labels
  | quoted text =>
    cases second with
    | quoted other =>
      simp only [writtenWith, String.toList_append, List.append_assoc] at inWritten
      obtain ⟨rfl, -, -⟩ := text_eq (diverge_cons (by decide) written tagged)
        (diverge_cons (by decide) written' tagged') (List.append_cancel_left inWritten) inTagged
      rfl
    | _ => simp [label] at labels
  | draft state =>
    cases second with
    | draft other =>
      simp only [writtenWith, String.toList_append, List.append_assoc] at inWritten
      obtain rfl := Tristate.eq_of_written seam seam' (List.append_cancel_left inWritten)
      rfl
    | _ => simp [label] at labels
  | kind text =>
    cases second with
    | kind other =>
      simp only [writtenWith, String.toList_append, List.append_assoc] at inWritten
      obtain rfl := text_eq_of_seam seam seam' (List.append_cancel_left inWritten) inTagged
      rfl
    | _ => simp [label] at labels
  | category text =>
    cases second with
    | category other =>
      simp only [writtenWith, String.toList_append, List.append_assoc] at inWritten
      obtain rfl := text_eq_of_seam seam seam' (List.append_cancel_left inWritten) inTagged
      rfl
    | _ => simp [label] at labels
  | creator author =>
    cases second with
    | creator other =>
      simp only [writtenWith, String.toList_append, List.append_assoc] at inWritten
      obtain rfl := Author.eq_of_forms seam seam' (List.append_cancel_left inWritten) inTagged
      rfl
    | _ => simp [label] at labels
  | created range =>
    cases second with
    | created other =>
      obtain ⟨rfl, -⟩ := Range.eq_of_tagged selfDelimiting_date inTagged
      rfl
    | _ => simp [label] at labels
  | images range =>
    cases second with
    | images other =>
      obtain ⟨rfl, -⟩ := Range.eq_of_tagged selfDelimiting_integerNumeral inTagged
      rfl
    | _ => simp [label] at labels
  | propertyCount propertyKind range =>
    cases second with
    | propertyCount otherKind other =>
      simp only [writtenWith, String.toList_append, List.append_assoc] at inWritten
      simp only [arguments, List.append_assoc, List.cons_append] at inTagged
      obtain ⟨rfl, -, ranges⟩ := text_eq (diverge_cons (by decide) _ _)
        (diverge_cons (by decide) _ _) (List.append_cancel_left inWritten) inTagged
      obtain ⟨rfl, -⟩ :=
        Range.eq_of_tagged selfDelimiting_integerNumeral (List.tail_eq_of_cons_eq ranges)
      rfl
    | _ => simp [label] at labels
  | property propertyKind id value =>
    cases second with
    | property otherKind otherId other =>
      simp only [writtenWith, String.toList_append, List.append_assoc] at inWritten
      simp only [arguments, List.append_assoc, List.cons_append] at inTagged
      obtain ⟨rfl, inWritten, inTagged⟩ := text_eq (diverge_cons (by decide) _ _)
        (diverge_cons (by decide) _ _) (List.append_cancel_left inWritten) inTagged
      obtain ⟨rfl, inWritten, -⟩ := text_eq (diverge_cons (by decide) _ _)
        (diverge_cons (by decide) _ _) (List.tail_eq_of_cons_eq inWritten)
        (List.tail_eq_of_cons_eq inTagged)
      obtain rfl := boolText_eq_of_written seam seam' (List.tail_eq_of_cons_eq inWritten)
      rfl
    | _ => simp [label] at labels

end

/-- The forms of filters, a space in front of each. -/
def spaced (form : Filter Int → String) (filters : List (Filter Int)) : List Char :=
  filters.flatMap fun filter => ' ' :: (form filter).toList

/-- Behind a filter stands a space or nothing. -/
theorem spaced_seam (form : Filter Int → String) (filters : List (Filter Int)) :
    StopsAt isSolid (spaced form filters) := by
  cases filters with
  | nil => exact StopsAt.nil isSolid
  | cons filter filters => exact stopsAt_cons.mpr (by decide)

/-- Filters that are joined with spaces have a space in front of each but the first. -/
theorem space_joined (form : Filter Int → String) (filter : Filter Int)
    (filters : List (Filter Int)) :
    ' ' :: (" ".intercalate ((filter :: filters).map form)).toList =
      spaced form (filter :: filters) := by
  induction filters generalizing filter with
  | nil => simp [spaced]
  | cons next filters ih =>
    have space : " ".toList = [' '] := rfl
    rw [List.map_cons, List.map_cons, String.intercalate_cons_cons, ← List.map_cons,
      String.toList_append, String.toList_append, List.append_assoc, space,
      List.singleton_append, ih next]
    rfl

/-- The tagged form of filters is not empty. -/
theorem joined_tagged_ne_empty (filter : Filter Int) (filters : List (Filter Int)) :
    " ".intercalate ((filter :: filters).map Filter.tagged) ≠ "" := by
  intro empty
  have spaces := space_joined Filter.tagged filter filters
  rw [empty, spaced, List.flatMap_cons, filter.toList_tagged] at spaces
  cases List.tail_eq_of_cons_eq spaces

/-- Filters with a space in front of each are known by both forms. -/
theorem eq_of_spaced {first second : List (Filter Int)}
    (written : spaced Filter.written first = spaced Filter.written second)
    (tagged : spaced Filter.tagged first = spaced Filter.tagged second) : first = second := by
  induction first generalizing second with
  | nil =>
    cases second with
    | nil => rfl
    | cons other others => cases written
  | cons filter filters ih =>
    cases second with
    | nil => cases written
    | cons other others =>
      simp only [spaced, List.flatMap_cons, List.cons_append] at written tagged
      have inWritten := List.tail_eq_of_cons_eq written
      have inTagged := List.tail_eq_of_cons_eq tagged
      obtain rfl := Filter.eq_of_forms (spaced_seam Filter.written filters)
        (spaced_seam Filter.written others) inWritten inTagged
      rw [ih (List.append_cancel_left inWritten) (List.append_cancel_left inTagged)]

/-- The written form and the tagged form together tell all queries apart. -/
theorem Query.forms_injective :
    Function.Injective fun query : Query => (query.written, query.tagged) := by
  intro first second same
  obtain ⟨written, tagged⟩ := Prod.mk.inj same
  obtain ⟨filters⟩ := first
  obtain ⟨others⟩ := second
  congr 1
  -- only the empty query has an empty tagged form; the written one may be that of an empty word
  cases filters with
  | nil =>
    cases others with
    | nil => rfl
    | cons other others => exact absurd tagged.symm (joined_tagged_ne_empty other others)
  | cons filter filters =>
    cases others with
    | nil => exact absurd tagged (joined_tagged_ne_empty filter filters)
    | cons other others =>
      apply eq_of_spaced
      · rw [← space_joined, ← space_joined]
        exact congrArg (' ' :: ·.toList) written
      · rw [← space_joined, ← space_joined]
        exact congrArg (' ' :: ·.toList) tagged

/-- A word may be written as a qualifier is. -/
example : (Query.mk [.word "kind:x"]).written = (Query.mk [.kind "x"]).written := by decide

/-- A phrase may be tagged as two filters are. -/
example : (Query.mk [.word ") .word("]).tagged = (Query.mk [.word "", .word ""]).tagged := by
  decide

end SearchBar
