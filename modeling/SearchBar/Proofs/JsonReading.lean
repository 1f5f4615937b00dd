import SearchBar.Proofs.JsonStrings

/-!
# Reading JSON

A reader of JSON texts with integers in their shortest form. Values may be nested
to a depth that is given; a text is never as deep as it is long.

Main statements: every value is read back from its text (`read?_text`), and the
text is ASCII alone (`textAt_ascii`).
-/

namespace SearchBar.Json

open Text

variable {α : Type}

/-- A character that may stand between the parts of a value. -/
def isSpace (c : Char) : Bool := c == ' ' || c == '\n' || c == '\r' || c == '\t'

/-- The text without the space in front of it. -/
def dropSpace (text : List Char) : List Char := text.dropWhile isSpace

/-- Reads the next item of a list, from the comma in front of it. -/
def readNext (read : List Char → Option (α × List Char)) : List Char → Option (α × List Char)
  | ',' :: rest => read rest
  | _ => none

/-- Reads the items of a list behind its opening bracket. -/
def readList (close : Char) (read : List Char → Option (α × List Char)) (text : List Char) :
    Option (List α × List Char) :=
  match dropSpace text with
  | [] => none
  | first :: rest =>
    if first == close then some ([], rest)
    else
      match read (first :: rest) with
      | none => none
      | some (item, behind) =>
        (readUntil dropSpace close (readNext read) behind).map fun (items, after) =>
          (item :: items, after)

/-- Reads a field of an object: its name, a colon and its value. -/
def readField (read : List Char → Option (Json × List Char)) (text : List Char) :
    Option ((String × Json) × List Char) :=
  match dropSpace text with
  | [] => none
  | first :: rest =>
    if first == quotationMark then
      match readString rest with
      | none => none
      | some (name, behind) =>
        match dropSpace behind with
        | ':' :: after => (read after).map fun (value, left) => ((name, value), left)
        | _ => none
    else none

/-- A character of a number or of a name of a value. -/
def isPlain (c : Char) : Bool := isIntegerCharacter c || (decide ('a' ≤ c) && decide (c ≤ 'z'))

/-- The value that a number or a name stands for. -/
def plainValue? (word : List Char) : Option Json :=
  if (integerNumeral (integerValue word)).toList = word then some (integer (integerValue word))
  else [("null", null), ("true", bool true), ("false", bool false)].lookup (String.ofList word)

/-- Reads a value, with values nested in it up to a depth. -/
def readValue : Nat → List Char → Option (Json × List Char)
  | 0, _ => none
  | depth + 1, text =>
    match dropSpace text with
    | [] => none
    | first :: rest =>
      if first == quotationMark then
        (readString rest).map fun (content, behind) => (string content, behind)
      else if first == '[' then
        (readList ']' (readValue depth) rest).map fun (items, behind) => (array items, behind)
      else if first == '\x7b' then
        (readList '\x7d' (readField (readValue depth)) rest).map fun (fields, behind) =>
          (object fields, behind)
      else
        (plainValue? ((first :: rest).takeWhile isPlain)).map fun value =>
          (value, (first :: rest).dropWhile isPlain)

/-- The value that a text holds, with nothing but space around it. -/
def read? (text : String) : Option Json :=
  match readValue (text.length + 1) text.toList with
  | some (value, rest) => if (dropSpace rest).isEmpty then some value else none
  | none => none

/-- Space in front of a text is dropped. -/
theorem dropSpace_append {lead : List Char} (space : ∀ c ∈ lead, isSpace c = true)
    (text : List Char) : dropSpace (lead ++ text) = dropSpace text :=
  List.dropWhile_append_of_pos space

/-- Nothing else is dropped. -/
theorem dropSpace_cons {c : Char} (visible : isSpace c = false) (text : List Char) :
    dropSpace (c :: text) = c :: text := by
  rw [dropSpace, List.dropWhile_cons, visible]
  rfl

/-- A new line is space. -/
theorem newLine_space (level : Nat) : ∀ c ∈ (newLine level).toList, isSpace c = true := by
  intro c member
  rw [newLine, String.toList_append] at member
  rcases List.mem_append.mp member with feed | indentation
  · rw [List.mem_singleton.mp feed]
    rfl
  · rw [String.toList_ofList] at indentation
    rw [List.eq_of_mem_replicate indentation]
    rfl

/-- Space in front of a value changes nothing. -/
theorem readValue_space {lead : List Char} (space : ∀ c ∈ lead, isSpace c = true) (depth : Nat)
    (text : List Char) : readValue depth (lead ++ text) = readValue depth text := by
  cases depth with
  | zero => rfl
  | succ depth => rw [readValue, readValue, dropSpace_append space]

/-- Space in front of a field changes nothing. -/
theorem readField_space {lead : List Char} (space : ∀ c ∈ lead, isSpace c = true)
    (read : List Char → Option (Json × List Char)) (text : List Char) :
    readField read (lead ++ text) = readField read text := by
  rw [readField, readField, dropSpace_append space]

/-- Items with commas between them, each behind a lead. -/
def joined (lead : List Char) (written : α → List Char) (item : α) (items : List α) : List Char :=
  lead ++ (written item ++ items.flatMap fun next => ',' :: (lead ++ written next))

/-- No item is longer than all of them. -/
theorem length_le_joined {lead : List Char} {written : α → List Char} {item other : α}
    {items : List α} (listed : other ∈ item :: items) :
    (written other).length ≤ (joined lead written item items).length := by
  simp only [joined, List.length_append]
  rcases List.mem_cons.mp listed with rfl | behind
  · omega
  · obtain ⟨before, after, rfl⟩ := List.append_of_mem behind
    simp only [List.flatMap_append, List.flatMap_cons, List.length_append, List.length_cons]
    omega

section

variable {close : Char} {read : List Char → Option (α × List Char)} {written : α → List Char}
  {lead tail rest : List Char}

/-- Items with commas between them are read back as a list, if each of them is read back. -/
theorem readList_joined {item : α} {items : List α}
    (reads : ∀ other ∈ item :: items, ReadsBack read written isPlain other)
    (leads : ∀ text, read (lead ++ text) = read text)
    (space : ∀ c ∈ lead, isSpace c = true)
    (opens : Opens dropSpace close (fun _ => false) (written item))
    (comma : ',' ≠ close) (ends : dropSpace tail = close :: rest) (stops : StopsAt isPlain tail) :
    readList close read (joined lead written item items ++ tail) = some (item :: items, rest) := by
  have readsNext : ∀ next ∈ items,
      ReadsBack (readNext read) (fun next => ',' :: (lead ++ written next)) isPlain next := by
    intro next listed behind stopsBehind
    rw [List.cons_append, List.append_assoc, readNext, leads]
    exact reads next (List.mem_cons_of_mem item listed) behind stopsBehind
  have opensNext : ∀ next ∈ items,
      Opens dropSpace close isPlain (',' :: (lead ++ written next)) :=
    fun next _ => ⟨',', _, rfl, comma, by decide, dropSpace_cons (by decide)⟩
  have others := readUntil_written readsNext opensNext ends stops
  have stopsBehind :
      StopsAt isPlain (items.flatMap (fun next => ',' :: (lead ++ written next)) ++ tail) := by
    cases items with
    | nil => exact stops
    | cons next items => exact stopsAt_cons.mpr (by decide)
  have once := reads item List.mem_cons_self _ stopsBehind
  obtain ⟨first, more, begins, different, -, kept⟩ := opens
  rw [joined, List.append_assoc, List.append_assoc, readList, dropSpace_append space]
  generalize items.flatMap (fun next => ',' :: (lead ++ written next)) ++ tail = behind
    at once others
  rw [begins, List.cons_append] at once ⊢
  rw [kept]
  simp only [beq_eq_false_iff_ne.mpr different, Bool.false_eq_true, if_false, once, others,
    Option.map_some]

end

/-- A character that is plain is no other. -/
theorem ne_of_isPlain {c d : Char} (plain : isPlain c = true) (other : isPlain d = false) :
    c ≠ d := by
  rintro rfl
  rw [plain] at other
  cases other

/-- A plain character is no space. -/
theorem isSpace_of_isPlain {c : Char} (plain : isPlain c = true) : isSpace c = false := by
  simp only [isSpace, Bool.or_eq_false_iff, beq_eq_false_iff_ne]
  exact ⟨⟨⟨ne_of_isPlain plain (by decide), ne_of_isPlain plain (by decide)⟩,
    ne_of_isPlain plain (by decide)⟩, ne_of_isPlain plain (by decide)⟩

/-- A word that stands for a value is read as that value. -/
theorem readValue_plain {word rest : List Char} {value : Json} (depth : Nat) (nonempty : word ≠ [])
    (plain : ∀ c ∈ word, isPlain c = true) (meaning : plainValue? word = some value)
    (stops : StopsAt isPlain rest) : readValue (depth + 1) (word ++ rest) = some (value, rest) := by
  have front := takeWhile_run plain stops
  have behind := dropWhile_run plain stops
  cases word with
  | nil => exact absurd rfl nonempty
  | cons first more =>
    have initial := plain first List.mem_cons_self
    have mark : (first == quotationMark) = false :=
      beq_eq_false_iff_ne.mpr (ne_of_isPlain initial (by decide))
    have bracket : (first == '[') = false :=
      beq_eq_false_iff_ne.mpr (ne_of_isPlain initial (by decide))
    have brace : (first == '\x7b') = false :=
      beq_eq_false_iff_ne.mpr (ne_of_isPlain initial (by decide))
    rw [List.cons_append] at front behind ⊢
    rw [readValue, dropSpace_cons (isSpace_of_isPlain initial)]
    simp only [mark, bracket, brace, Bool.false_eq_true, if_false, front, behind, meaning,
      Option.map_some]

/-- The numeral of an integer is read as that integer. -/
theorem readValue_integer (depth : Nat) (value : Int) {rest : List Char}
    (stops : StopsAt isPlain rest) :
    readValue (depth + 1) ((integerNumeral value).toList ++ rest) = some (integer value, rest) := by
  have plain : ∀ c ∈ (integerNumeral value).toList, isPlain c = true := by
    intro c member
    rw [isPlain, isIntegerCharacter_of_mem_integerNumeral member]
    rfl
  have meaning : plainValue? (integerNumeral value).toList = some (integer value) := by
    rw [plainValue?, integerValue_integerNumeral, if_pos rfl]
  exact readValue_plain depth (integerNumeral_ne_nil value) plain meaning stops

/-- The characters of a value at a level of nesting. -/
def valueText (level : Nat) (value : Json) : List Char := (textAt level value).toList

/-- The characters of a field at a level of nesting. -/
def fieldText (level : Nat) (field : String × Json) : List Char :=
  (stringText field.1).toList ++ ':' :: ' ' :: valueText level field.2

/-- The items behind the first stand behind commas. -/
theorem toList_itemsText (level : Nat) (items : List Json) :
    (itemsText level items).toList =
      items.flatMap fun next => ',' :: ((newLine level).toList ++ valueText level next) := by
  induction items with
  | nil => simp [itemsText]
  | cons item items ih => simp [itemsText, ih, valueText]

/-- The fields behind the first stand behind commas. -/
theorem toList_fieldsText (level : Nat) (fields : List (String × Json)) :
    (fieldsText level fields).toList =
      fields.flatMap fun next => ',' :: ((newLine level).toList ++ fieldText level next) := by
  induction fields with
  | nil => simp [fieldsText]
  | cons field fields ih => simp [fieldsText, ih, fieldText, valueText]

/-- An array with items stands between its brackets, every item on a line of its own. -/
theorem valueText_array (level : Nat) (item : Json) (items : List Json) :
    valueText level (array (item :: items)) =
      '[' :: (joined (newLine (level + 1)).toList (valueText (level + 1)) item items ++
        ((newLine level).toList ++ [']'])) := by
  simp [valueText, textAt, joined, toList_itemsText]

/-- An object with fields stands between its braces, every field on a line of its own. -/
theorem valueText_object (level : Nat) (field : String × Json) (fields : List (String × Json)) :
    valueText level (object (field :: fields)) =
      '\x7b' :: (joined (newLine (level + 1)).toList (fieldText (level + 1)) field fields ++
        ((newLine level).toList ++ ['\x7d'])) := by
  simp [valueText, textAt, joined, toList_fieldsText, fieldText]

/-- A value begins with a character that is neither space nor the end of an array. -/
theorem valueText_opens (level : Nat) (value : Json) :
    Opens dropSpace ']' (fun _ => false) (valueText level value) := by
  have begins : ∀ first more, valueText level value = first :: more → first ≠ ']' →
      isSpace first = false → Opens dropSpace ']' (fun _ => false) (valueText level value) :=
    fun first more same different visible =>
      ⟨first, more, same, different, rfl, dropSpace_cons visible⟩
  cases value with
  | null => exact begins 'n' "ull".toList (by simp [valueText, textAt]) (by decide) (by decide)
  | bool value =>
    cases value with
    | true => exact begins 't' "rue".toList (by simp [valueText, textAt]) (by decide) (by decide)
    | false => exact begins 'f' "alse".toList (by simp [valueText, textAt]) (by decide) (by decide)
  | integer value =>
    obtain ⟨first, more, same⟩ := List.exists_cons_of_ne_nil (integerNumeral_ne_nil value)
    have plain : isPlain first = true := by
      rw [isPlain, isIntegerCharacter_of_mem_integerNumeral (same ▸ List.mem_cons_self)]
      rfl
    have text : valueText level (integer value) = first :: more := by rw [valueText, textAt, same]
    exact begins first more text (ne_of_isPlain plain (by decide)) (isSpace_of_isPlain plain)
  | string text =>
    exact begins quotationMark (text.toList.flatMap escape ++ [quotationMark])
      (by simp [valueText, textAt, stringText]) (by decide) (by decide)
  | array items =>
    cases items with
    | nil => exact begins '[' [']'] (by simp [valueText, textAt]) (by decide) (by decide)
    | cons item items =>
      exact begins '[' _ (valueText_array level item items) (by decide) (by decide)
  | object fields =>
    cases fields with
    | nil => exact begins '\x7b' ['\x7d'] (by simp [valueText, textAt]) (by decide) (by decide)
    | cons field fields =>
      exact begins '\x7b' _ (valueText_object level field fields) (by decide) (by decide)

/-- A field begins with a quotation mark. -/
theorem fieldText_opens (level : Nat) (field : String × Json) :
    Opens dropSpace '\x7d' (fun _ => false) (fieldText level field) := by
  have begins : fieldText level field = quotationMark ::
      (field.1.toList.flatMap escape ++ quotationMark :: ':' :: ' ' :: valueText level field.2) := by
    simp [fieldText, stringText]
  exact ⟨quotationMark, _, begins, by decide, rfl, dropSpace_cons (by decide)⟩

/-- Items on lines of their own are read back as a list. -/
theorem readList_lines {close : Char} {read : List Char → Option (α × List Char)}
    {written : α → List Char} {level : Nat} {item : α} {items : List α}
    (reads : ∀ other ∈ item :: items, ReadsBack read written isPlain other)
    (leads : ∀ text, read ((newLine (level + 1)).toList ++ text) = read text)
    (opens : Opens dropSpace close (fun _ => false) (written item))
    (comma : ',' ≠ close) (visible : isSpace close = false) (rest : List Char) :
    readList close read (joined (newLine (level + 1)).toList written item items ++
      ((newLine level).toList ++ close :: rest)) = some (item :: items, rest) := by
  have ends : dropSpace ((newLine level).toList ++ close :: rest) = close :: rest := by
    rw [dropSpace_append (newLine_space level), dropSpace_cons visible]
  have stops : StopsAt isPlain ((newLine level).toList ++ close :: rest) := by
    rw [newLine, String.toList_append, List.append_assoc]
    exact stopsAt_cons.mpr (by decide)
  exact readList_joined reads leads (newLine_space (level + 1)) opens comma ends stops

/-- A field is read back if its value is. -/
theorem readField_fieldText {read : List Char → Option (Json × List Char)} {level : Nat}
    {field : String × Json} (leads : ∀ text, read (' ' :: text) = read text)
    (reads : ReadsBack read (valueText level) isPlain field.2) :
    ReadsBack (readField read) (fieldText level) isPlain field := by
  intro rest stops
  have begins : fieldText level field ++ rest = quotationMark ::
      (field.1.toList.flatMap escape ++ quotationMark ::
        (':' :: ' ' :: (valueText level field.2 ++ rest))) := by
    simp [fieldText, stringText]
  have colon : isSpace ':' = false := by decide
  rw [begins, readField, dropSpace_cons (by decide)]
  simp only [beq_self_eq_true, if_true, readString_escapes, dropSpace_cons colon, leads,
    reads rest stops, Option.map_some]

/-- A string begins with a quotation mark. -/
theorem readValue_string (depth : Nat) (rest : List Char) :
    readValue (depth + 1) (quotationMark :: rest) =
      (readString rest).map fun (content, behind) => (string content, behind) :=
  rfl

/-- An array begins with a bracket. -/
theorem readValue_array (depth : Nat) (rest : List Char) :
    readValue (depth + 1) ('[' :: rest) =
      (readList ']' (readValue depth) rest).map fun (items, behind) => (array items, behind) :=
  rfl

/-- An object begins with a brace. -/
theorem readValue_object (depth : Nat) (rest : List Char) :
    readValue (depth + 1) ('\x7b' :: rest) =
      (readList '\x7d' (readField (readValue depth)) rest).map fun (fields, behind) =>
        (object fields, behind) :=
  rfl

/-- The item of an array has a shorter text. -/
theorem length_item_lt {level : Nat} {item : Json} {items : List Json} (listed : item ∈ items) :
    (valueText (level + 1) item).length < (valueText level (array items)).length := by
  cases items with
  | nil => cases listed
  | cons first others =>
    have part : (valueText (level + 1) item).length ≤
        (joined (newLine (level + 1)).toList (valueText (level + 1)) first others).length :=
      length_le_joined listed
    rw [valueText_array, List.length_cons, List.length_append]
    omega

/-- The value of a field of an object has a shorter text. -/
theorem length_field_lt {level : Nat} {field : String × Json} {fields : List (String × Json)}
    (listed : field ∈ fields) :
    (valueText (level + 1) field.2).length < (valueText level (object fields)).length := by
  cases fields with
  | nil => cases listed
  | cons first others =>
    have part : (fieldText (level + 1) field).length ≤
        (joined (newLine (level + 1)).toList (fieldText (level + 1)) first others).length :=
      length_le_joined listed
    rw [fieldText, List.length_append, List.length_cons, List.length_cons] at part
    rw [valueText_object, List.length_cons, List.length_append]
    omega

/-- A truth value is read back from its text. -/
theorem readsBack_bool (depth level : Nat) (value : Bool) :
    ReadsBack (readValue (depth + 1)) (valueText level) isPlain (bool value) := by
  intro rest stops
  cases value with
  | true =>
    have word : valueText level (bool true) = "true".toList := by rw [valueText, textAt, if_pos rfl]
    rw [word]
    exact readValue_plain depth (by decide) (List.all_eq_true.mp (by decide)) rfl stops
  | false =>
    have word : valueText level (bool false) = "false".toList := by
      rw [valueText, textAt, if_neg Bool.false_ne_true]
    rw [word]
    exact readValue_plain depth (by decide) (List.all_eq_true.mp (by decide)) rfl stops

/-- An array is read back if its items are. -/
theorem readsBack_array {depth level : Nat} {items : List Json}
    (reads : ∀ item ∈ items, ReadsBack (readValue depth) (valueText (level + 1)) isPlain item) :
    ReadsBack (readValue (depth + 1)) (valueText level) isPlain (array items) := by
  intro rest stops
  cases items with
  | nil =>
    have word : valueText level (array []) = ['[', ']'] := by simp [valueText, textAt]
    rw [word]
    rfl
  | cons item items =>
    have list := readList_lines reads (readValue_space (newLine_space (level + 1)) depth)
      (valueText_opens (level + 1) item) (by decide) (by decide) rest
    rw [valueText_array, List.cons_append, List.append_assoc, List.append_assoc,
      List.singleton_append, readValue_array, list, Option.map_some]

/-- An object is read back if the values of its fields are. -/
theorem readsBack_object {depth level : Nat} {fields : List (String × Json)}
    (reads : ∀ field ∈ fields,
      ReadsBack (readValue depth) (valueText (level + 1)) isPlain field.2) :
    ReadsBack (readValue (depth + 1)) (valueText level) isPlain (object fields) := by
  intro rest stops
  cases fields with
  | nil =>
    have word : valueText level (object []) = ['\x7b', '\x7d'] := by simp [valueText, textAt]
    rw [word]
    rfl
  | cons field fields =>
    have space : ∀ c ∈ [' '], isSpace c = true := List.all_eq_true.mp (by decide)
    have readsFields : ∀ other ∈ field :: fields,
        ReadsBack (readField (readValue depth)) (fieldText (level + 1)) isPlain other :=
      fun other listed => readField_fieldText (readValue_space space depth) (reads other listed)
    have list := readList_lines readsFields (readField_space (newLine_space (level + 1)) _)
      (fieldText_opens (level + 1) field) (by decide) (by decide) rest
    rw [valueText_object, List.cons_append, List.append_assoc, List.append_assoc,
      List.singleton_append, readValue_object, list, Option.map_some]

/-- A value is read back from its text at any level, by a reader that goes deeper than the text is
long. -/
theorem readValue_valueText {depth level : Nat} {value : Json}
    (deep : (valueText level value).length < depth) :
    ReadsBack (readValue depth) (valueText level) isPlain value := by
  -- the texts of the values within a value are shorter, so one level less is enough for them
  induction depth generalizing level value with
  | zero => cases deep
  | succ depth ih =>
    cases value with
    | null =>
      have word : valueText level null = "null".toList := by rw [valueText, textAt]
      intro rest stops
      rw [word]
      exact readValue_plain depth (by decide) (List.all_eq_true.mp (by decide)) rfl stops
    | bool value => exact readsBack_bool depth level value
    | integer value => exact fun rest stops => readValue_integer depth value stops
    | string text =>
      intro rest stops
      have begins : valueText level (string text) ++ rest =
          quotationMark :: (text.toList.flatMap escape ++ quotationMark :: rest) := by
        simp [valueText, textAt, stringText]
      rw [begins, readValue_string, readString_escapes, Option.map_some]
    | array items =>
      apply readsBack_array
      intro item listed
      have shorter : (valueText (level + 1) item).length <
          (valueText level (array items)).length := length_item_lt listed
      exact ih (by omega)
    | object fields =>
      apply readsBack_object
      intro field listed
      have shorter : (valueText (level + 1) field.2).length <
          (valueText level (object fields)).length := length_field_lt listed
      exact ih (by omega)

/-- Every value is read back from its text, with space behind it or not. -/
theorem read?_text (value : Json) {behind : String}
    (space : ∀ c ∈ behind.toList, isSpace c = true) : read? (value.text ++ behind) = some value := by
  have deep : (valueText 0 value).length < (value.text ++ behind).length + 1 := by
    rw [String.length_append, valueText, String.length_toList, text]
    omega
  have stops : StopsAt isPlain behind.toList := by
    intro c first
    have blank := space c (List.mem_of_mem_head? first)
    by_cases plain : isPlain c = true
    · rw [isSpace_of_isPlain plain] at blank
      cases blank
    · exact Bool.eq_false_iff.mpr plain
  have nothing : dropSpace behind.toList = [] := List.dropWhile_eq_nil_iff.mpr space
  have whole : (value.text ++ behind).toList = valueText 0 value ++ behind.toList :=
    String.toList_append
  rw [read?, whole, readValue_valueText deep behind.toList stops]
  simp only [nothing, List.isEmpty_nil, if_true]

/-- A numeral is ASCII. -/
theorem integerNumeral_ascii (value : Int) : IsAscii (integerNumeral value).toList := by
  intro c member
  have inside := isIntegerCharacter_of_mem_integerNumeral member
  rw [isIntegerCharacter, Bool.or_eq_true, beq_iff_eq] at inside
  rcases inside with rfl | digit
  · decide
  · have bounds := isDecimalDigit_iff.mp digit
    omega

/-- A new line is ASCII. -/
theorem newLine_ascii (level : Nat) : IsAscii (newLine level).toList := by
  intro c member
  have space := newLine_space level c member
  simp only [isSpace, Bool.or_eq_true, beq_iff_eq] at space
  rcases space with ((rfl | rfl) | rfl) | rfl <;> decide

mutual

/-- The text of a value is ASCII. -/
theorem textAt_ascii (level : Nat) : ∀ value, IsAscii (textAt level value).toList
  | null => by
    rw [textAt]
    exact isAscii_of_all (by decide)
  | bool true => by
    rw [textAt, if_pos rfl]
    exact isAscii_of_all (by decide)
  | bool false => by
    rw [textAt, if_neg Bool.false_ne_true]
    exact isAscii_of_all (by decide)
  | integer value => by
    rw [textAt]
    exact integerNumeral_ascii value
  | string text => by
    rw [textAt]
    exact stringText_ascii text
  | array [] => by
    rw [textAt]
    exact isAscii_of_all (by decide)
  | array (item :: items) => by
    have opening : IsAscii "[".toList := isAscii_of_all (by decide)
    have closing : IsAscii "]".toList := isAscii_of_all (by decide)
    have first := textAt_ascii (level + 1) item
    have others := itemsText_ascii (level + 1) items
    simp only [textAt, String.toList_append]
    exact ((((opening.append (newLine_ascii _)).append first).append others).append
      (newLine_ascii _)).append closing
  | object [] => by
    rw [textAt]
    exact isAscii_of_all (by decide)
  | object ((name, value) :: fields) => by
    have opening : IsAscii "\x7b".toList := isAscii_of_all (by decide)
    have closing : IsAscii "\x7d".toList := isAscii_of_all (by decide)
    have colon : IsAscii ": ".toList := isAscii_of_all (by decide)
    have first := textAt_ascii (level + 1) value
    have others := fieldsText_ascii (level + 1) fields
    simp only [textAt, String.toList_append]
    exact ((((((opening.append (newLine_ascii _)).append (stringText_ascii name)).append
      colon).append first).append others).append (newLine_ascii _)).append closing

/-- The text of the items behind the first is ASCII. -/
theorem itemsText_ascii (level : Nat) : ∀ items, IsAscii (itemsText level items).toList
  | [] => by
    rw [itemsText]
    exact isAscii_of_all rfl
  | item :: items => by
    have comma : IsAscii ",".toList := isAscii_of_all (by decide)
    have first := textAt_ascii level item
    have others := itemsText_ascii level items
    simp only [itemsText, String.toList_append]
    exact ((comma.append (newLine_ascii level)).append first).append others

/-- The text of the fields behind the first is ASCII. -/
theorem fieldsText_ascii (level : Nat) : ∀ fields, IsAscii (fieldsText level fields).toList
  | [] => by
    rw [fieldsText]
    exact isAscii_of_all rfl
  | (name, value) :: fields => by
    have comma : IsAscii ",".toList := isAscii_of_all (by decide)
    have colon : IsAscii ": ".toList := isAscii_of_all (by decide)
    have first := textAt_ascii level value
    have others := fieldsText_ascii level fields
    simp only [fieldsText, String.toList_append]
    exact ((((comma.append (newLine_ascii level)).append (stringText_ascii name)).append
      colon).append first).append others

end

end SearchBar.Json
