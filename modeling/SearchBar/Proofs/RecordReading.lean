import SearchBar.CommandLine.Answer
import SearchBar.Proofs.JsonReading

/-!
# Reading records

What is printed of a query as JSON is read back as the query: the text as a JSON
value, and the value, field by field, as the filters.

Main statement: nothing of a query is lost in its JSON (`Query.json_lossless`).
-/

namespace SearchBar

variable {α : Type}

/-- The text of a JSON string. -/
def Json.string? : Json → Option String
  | string text => some text
  | _ => none

/-- The integer of a JSON number. -/
def Json.integer? : Json → Option Int
  | integer value => some value
  | _ => none

/-- The truth value of a JSON constant. -/
def Json.bool? : Json → Option Bool
  | bool value => some value
  | _ => none

/-- The date of a JSON string. -/
def Json.date? (value : Json) : Option DateText := value.string? >>= DateText.ofString?

/-- The value of a field of a JSON object. -/
def Json.field? (name : String) : Json → Option Json
  | object fields => fields.lookup name
  | _ => none

/-- The comparison with this tag. -/
def Comparison.ofTag? (tag : String) : Option Comparison :=
  [less, greater, atMost, atLeast].find? (·.tag == tag)

/-- The range with this record. -/
def Range.ofRecord? (bound : Json → Option α) (record : Json) : Option (Range α) := do
  let tag ← record.field? "op" >>= Json.string?
  let value ← record.field? "value" >>= bound
  if tag == "eq" then some (exactly value)
  else if tag == "between" then (record.field? "upper" >>= bound).map (between value)
  else (Comparison.ofTag? tag).map (compared · value)

/-- The author that a record names. -/
def Author.ofRecord? (record : Json) : Option Author :=
  match record.field? "username" >>= Json.string? with
  | some name => some (username name)
  | none => (record.field? "user_id" >>= Json.string?).map userId

/-- The filter with this record. -/
def Filter.ofRecord? (record : Json) : Option (Filter Int) := do
  let type ← record.field? "type" >>= Json.string?
  let text := fun name => record.field? name >>= Json.string?
  if type == "word" then (text "value").map word
  else if type == "quoted_string" then (text "value").map quoted
  else if type == "draft" then (text "value" >>= Tristate.ofString?).map draft
  else if type == "kind" then (text "value").map kind
  else if type == "category" then (text "value").map category
  else if type == "creator" then (Author.ofRecord? record).map creator
  else
    let range := record.field? "range"
    if type == "created" then
      (range >>= Range.ofRecord? Json.date?).map created
    else if type == "images" then (range >>= Range.ofRecord? Json.integer?).map images
    else if type == "properties_count" then do
      some (propertyCount (← text "kind") (← range >>= Range.ofRecord? Json.integer?))
    else if type == "has_property" then do
      some (property (← text "kind") (← text "id") (← record.field? "value" >>= Json.bool?))
    else none

/-- The query with this record. -/
def Query.ofRecord? : Json → Option Query
  | .array records => (records.mapM Filter.ofRecord?).map Query.mk
  | _ => none

/-- The query whose record a text holds. -/
def Query.ofJson? (text : String) : Option Query := Json.read? text >>= Query.ofRecord?

/-- The field in front is found by its name, the others behind it. -/
@[simp] theorem Json.field?_cons (name key : String) (value : Json)
    (fields : List (String × Json)) :
    (object ((key, value) :: fields)).field? name =
      if name = key then some value else (object fields).field? name := by
  rw [field?, List.lookup_cons]
  by_cases same : name = key
  · rw [if_pos same, beq_iff_eq.mpr same]
  · rw [if_neg same, beq_eq_false_iff_ne.mpr same]
    rfl

/-- An object without fields has none of any name. -/
@[simp] theorem Json.field?_nil (name : String) : (object []).field? name = none := rfl

/-- The text of a string is found. -/
@[simp] theorem Json.string?_string (text : String) : (string text).string? = some text := rfl

/-- The integer of a number is found. -/
@[simp] theorem Json.integer?_integer (value : Int) : (integer value).integer? = some value := rfl

/-- The truth value of a constant is found. -/
@[simp] theorem Json.bool?_bool (value : Bool) : (bool value).bool? = some value := rfl

/-- The date of a string is found. -/
theorem Json.date?_string (date : DateText) : (string date.text).date? = some date :=
  DateText.ofString?_eq_some_iff.mpr rfl

/-- A comparison is known by its tag. -/
theorem Comparison.ofTag?_tag (comparison : Comparison) :
    ofTag? comparison.tag = some comparison := by
  cases comparison <;> decide

/-- A range is read back from its record if its bounds are. -/
theorem Range.ofRecord?_record {read : Json → Option α} {bound : α → Json}
    (reads : ∀ value, read (bound value) = some value) (range : Range α) :
    ofRecord? read (range.record bound) = some range := by
  cases range with
  | exactly value => simp [ofRecord?, record, reads]
  | compared comparison value =>
    have known := comparison.ofTag?_tag
    have plain : comparison.tag ≠ "eq" ∧ comparison.tag ≠ "between" := by
      cases comparison <;> decide
    simp [ofRecord?, record, reads, known, plain]
  | between lower upper => simp [ofRecord?, record, reads]

/-- A state of drafts is known by how it is written. -/
theorem Tristate.ofString?_written (state : Tristate) :
    ofString? state.written = some state := by
  cases state <;> decide

/-- An author is read back from the record with the field that names it. -/
theorem Author.ofRecord?_field (type : Json) (author : Author) :
    ofRecord? (.object [("type", type), author.field]) = some author := by
  cases author <;> simp [ofRecord?, field]

/-- A filter is read back from its record. -/
theorem Filter.ofRecord?_record (filter : Filter Int) : ofRecord? filter.record = some filter := by
  cases filter with
  | word text => simp [ofRecord?, record]
  | quoted text => simp [ofRecord?, record]
  | draft state => simp [ofRecord?, record, Tristate.ofString?_written]
  | kind text => simp [ofRecord?, record]
  | category text => simp [ofRecord?, record]
  | creator author => simp [ofRecord?, record, Author.ofRecord?_field]
  | created range => simp [ofRecord?, record, Range.ofRecord?_record Json.date?_string]
  | images range => simp [ofRecord?, record, Range.ofRecord?_record Json.integer?_integer]
  | propertyCount propertyKind range =>
    simp [ofRecord?, record, Range.ofRecord?_record Json.integer?_integer]
  | property propertyKind id value => simp [ofRecord?, record]

/-- A query is read back from its record. -/
theorem Query.ofRecord?_record (query : Query) : ofRecord? query.record = some query := by
  have filters : ∀ filters : List (Filter Int),
      (filters.map Filter.record).mapM Filter.ofRecord? = some filters := by
    intro filters
    induction filters with
    | nil => rfl
    | cons filter filters ih =>
      rw [List.map_cons, List.mapM_cons, Filter.ofRecord?_record, ih]
      rfl
  rw [record, ofRecord?, filters, Option.map_some]

/-- A query is read back from the text of its record, with space behind it or not. -/
theorem Query.ofJson?_text (query : Query) {behind : String}
    (space : ∀ c ∈ behind.toList, Json.isSpace c = true) :
    ofJson? (query.record.text ++ behind) = some query := by
  rw [ofJson?, Json.read?_text query.record space]
  exact query.ofRecord?_record

/-- Nothing of a query is lost in its JSON, and what is printed is ASCII. -/
theorem Query.json_lossless :
    (Function.Injective fun query : Query => query.record.text) ∧
      ∀ query : Query, ofJson? query.record.text = some query ∧
        ∃ printed, CommandLine.display query .json = .ok printed ∧
          ofJson? printed = some query ∧ ∀ c ∈ printed.toList, c.toNat < 128 := by
  have nothing : ∀ c ∈ "".toList, Json.isSpace c = true := List.all_eq_true.mp (by decide)
  have feed : ∀ c ∈ "\n".toList, Json.isSpace c = true := List.all_eq_true.mp (by decide)
  have reads : ∀ query : Query, ofJson? query.record.text = some query := by
    intro query
    have read := query.ofJson?_text nothing
    rwa [String.append_empty] at read
  constructor
  · intro first second same
    have once := reads first
    rw [show first.record.text = second.record.text from same, reads second] at once
    exact (Option.some.inj once).symm
  · intro query
    refine ⟨reads query, _, rfl, query.ofJson?_text feed, ?_⟩
    rw [String.toList_append]
    exact (Json.textAt_ascii 0 query.record).append (Json.isAscii_of_all (by decide))

end SearchBar
