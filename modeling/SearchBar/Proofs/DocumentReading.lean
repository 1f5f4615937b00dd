import SearchBar.Proofs.Boundary
import SearchBar.Toml.Reading
import SearchBar.Toml.Writing

/-!
# Reading documents that were written

Documents are written with one level of sections. Each line of such a document is
one statement, and what it does to a document depends only on the sections in
front of it: a header opens one more table, and an assignment adds a field to the
table that was opened last.

Main statement: sections are read back from the document they are written to
(`read_write`).
-/

namespace SearchBar.Toml

open Text

/-- The number of a character in four hexadecimal digits stands for the character. -/
theorem numbered?_hexNumeral {c : Char} (small : c.toNat < 0x10000) :
    numbered? (hexNumeral 4 c.toNat) = some c := by
  have digits : (hexNumeral 4 c.toNat).all isHexDigit = true :=
    List.all_eq_true.mpr fun _ => isHexDigit_of_mem_hexNumeral
  have value := hexValue_hexNumeral small
  have valid : (hexValue (hexNumeral 4 c.toNat)).isValidChar := by
    rw [value]
    exact c.valid
  have same : Char.ofNatAux (hexValue (hexNumeral 4 c.toNat)) valid = c := by
    apply Char.toNat_inj.mp
    exact value
  rw [numbered?, if_pos digits, dif_pos valid, same]

/-- The escape of a character by its number is read as the character. -/
theorem readBasic_numbered {c : Char} (small : c.toNat < 0x10000) (rest : List Char) :
    readBasic (backslash :: 'u' :: hexNumeral 4 c.toNat ++ rest) =
      andThen (some c) (readBasic rest) := by
  obtain ⟨first, second, third, fourth, digits⟩ :
      ∃ first second third fourth, hexNumeral 4 c.toNat = [first, second, third, fourth] :=
    ⟨_, _, _, _, rfl⟩
  rw [← numbered?_hexNumeral small, digits]
  rfl

/-- A character that needs no escape stands for itself. -/
theorem readBasic_plain {c : Char} (unmarked : ¬ (c == quotationMark || c == backslash) = true)
    (allowed : ¬ isForbidden c = true) (rest : List Char) :
    readBasic (c :: rest) = andThen (some c) (readBasic rest) := by
  rw [Bool.not_eq_true, Bool.or_eq_false_iff] at unmarked
  rw [Bool.not_eq_true] at allowed
  obtain ⟨noMark, noBackslash⟩ := unmarked
  have other : c ≠ '\\' := by
    rintro rfl
    cases noBackslash
  rw [readBasic.eq_5 _ _ (fun _ _ _ _ _ same => absurd same other)
    (fun _ _ _ _ _ _ _ _ _ same => absurd same other) (fun _ _ same => absurd same other),
    noMark, allowed, noBackslash]
  rfl

/-- A character is read back from what is written for it. -/
theorem readBasic_writeCharacter (c : Char) (rest : List Char) :
    readBasic (writeCharacter c ++ rest) = andThen (some c) (readBasic rest) := by
  unfold writeCharacter
  split_ifs with mark lineFeed backspace formFeed carriageReturn control
  · rw [Bool.or_eq_true, beq_iff_eq, beq_iff_eq] at mark
    rcases mark with rfl | rfl <;> rfl
  · rw [beq_iff_eq.mp lineFeed]
    rfl
  · rw [beq_iff_eq.mp backspace]
    rfl
  · rw [beq_iff_eq.mp formFeed]
    rfl
  · rw [beq_iff_eq.mp carriageReturn]
    rfl
  · apply readBasic_numbered
    simp only [Bool.or_eq_true, Bool.and_eq_true, decide_eq_true_eq, beq_iff_eq] at control
    omega
  · exact readBasic_plain mark control rest

/-- A string is read back up to the mark that closes it. -/
theorem readBasic_flatMap (characters rest : List Char) :
    readBasic (characters.flatMap writeCharacter ++ quotationMark :: rest) =
      .ok (characters, rest) := by
  induction characters with
  | nil => rfl
  | cons c characters ih =>
    rw [List.flatMap_cons, List.append_assoc, readBasic_writeCharacter, ih]
    rfl

/-- Nothing that is written for a character begins with a mark. -/
theorem stopsAt_writeCharacter (c : Char) (rest : List Char) :
    StopsAt (· == quotationMark) (writeCharacter c ++ rest) := by
  unfold writeCharacter
  split_ifs with mark
  all_goals try exact stopsAt_cons.mpr rfl
  rw [Bool.not_eq_true, Bool.or_eq_false_iff] at mark
  exact stopsAt_cons.mpr mark.1

/-- A mark opens a string of one line unless two more marks follow. -/
theorem readString?_single {text : List Char}
    (single : ∀ rest, text ≠ quotationMark :: quotationMark :: rest) :
    readString? (quotationMark :: text) = some (readBasic text) := by
  unfold readString?
  split
  · rename_i rest same
    cases same
    exact absurd rfl (single rest)
  · rename_i same
    cases same
    rfl
  · rename_i same
    cases same
  · rename_i same
    cases same
  · rename_i other _ _
    exact absurd rfl (other text)

/-- A string that is written is read back, if no mark follows. -/
theorem readString?_writeString (text : String) {rest : List Char}
    (stops : StopsAt (· == quotationMark) rest) :
    readString? ((writeString text).toList ++ rest) = some (.ok (text.toList, rest)) := by
  have marks : (writeString text).toList ++ rest =
      quotationMark :: (text.toList.flatMap writeCharacter ++ quotationMark :: rest) := by
    simp [writeString]
  rw [marks, readString?_single, readBasic_flatMap]
  -- two marks in a row would have to be the closing one and one behind it
  intro more same
  cases shape : text.toList with
  | nil =>
    rw [shape] at same
    obtain rfl : rest = quotationMark :: more := (List.cons_eq_cons.mp same).2
    cases stopsAt_cons.mp stops
  | cons c characters =>
    rw [shape, List.flatMap_cons, List.append_assoc] at same
    have front :=
      stopsAt_writeCharacter c (characters.flatMap writeCharacter ++ quotationMark :: rest)
    rw [same] at front
    cases stopsAt_cons.mp front

/-- The value that a scalar stands for. -/
def Scalar.value : Scalar → Value
  | .string text => .string text
  | .boolean value => .boolean value

/-- A scalar is read back at the end of a line. -/
theorem readScalar_written (scalar : Scalar) (rest : List Char) :
    readScalar (scalar.written.toList ++ '\n' :: rest) = .ok (scalar.value, '\n' :: rest) := by
  cases scalar with
  | string text =>
    have stops : StopsAt (· == quotationMark) ('\n' :: rest) := stopsAt_cons.mpr rfl
    have read := readString?_writeString text stops
    rw [readScalar, Scalar.written, read]
    simp only [Except.map, String.ofList_toList]
    rfl
  | boolean value => cases value <;> rfl

/-- A scalar is a value at the end of a line. -/
theorem readValue_written (bound : Nat) (scalar : Scalar) (rest : List Char) :
    readValue (bound + 1) (scalar.written.toList ++ '\n' :: rest) =
      .ok (scalar.value, '\n' :: rest) := by
  rw [← readScalar_written]
  cases scalar with
  | string text =>
    obtain ⟨more, shape⟩ : ∃ more, (writeString text).toList = quotationMark :: more :=
      ⟨_, String.toList_ofList⟩
    rw [Scalar.written, shape]
    rfl
  | boolean value => cases value <;> rfl

/-- A name that can be written without marks. -/
def IsBareName (name : String) : Prop :=
  name ≠ "" ∧ name.toList.all isBareKeyCharacter = true

instance (name : String) : Decidable (IsBareName name) :=
  inferInstanceAs (Decidable (_ ∧ _))

/-- A character of a name is none that means something in a statement. -/
theorem ne_of_isBareKeyCharacter {c other : Char} (bare : isBareKeyCharacter c = true)
    (reserved : isBareKeyCharacter other = false) : c ≠ other := by
  rintro rfl
  rw [bare] at reserved
  cases reserved

/-- Every character of such a name is one of a name. -/
theorem IsBareName.characters {name : String} (bare : IsBareName name) :
    ∀ c ∈ name.toList, isBareKeyCharacter c = true :=
  List.all_eq_true.mp bare.2

/-- A name without marks begins with a character of its own. -/
theorem IsBareName.exists_cons {name : String} (bare : IsBareName name) :
    ∃ c more, name.toList = c :: more ∧ isBareKeyCharacter c = true := by
  cases shape : name.toList with
  | nil => exact absurd (String.toList_eq_nil_iff.mp shape) bare.1
  | cons c more =>
    have member : c ∈ name.toList := by
      rw [shape]
      exact List.mem_cons_self
    exact ⟨c, more, rfl, bare.characters c member⟩

/-- A name without marks is read up to where it ends. -/
theorem readName_bare {name : String} (bare : IsBareName name) {rest : List Char}
    (stops : StopsAt isBareKeyCharacter rest) :
    readName (name.toList ++ rest) = .ok (name, rest) := by
  obtain ⟨c, more, shape, first⟩ := bare.exists_cons
  have inside : ∀ d ∈ more, isBareKeyCharacter d = true := by
    intro d member
    apply bare.characters d
    rw [shape]
    exact List.mem_cons_of_mem c member
  have noMark : (c == quotationMark) = false :=
    beq_eq_false_iff_ne.mpr (ne_of_isBareKeyCharacter first (by decide))
  have noApostrophe : (c == apostrophe) = false :=
    beq_eq_false_iff_ne.mpr (ne_of_isBareKeyCharacter first (by decide))
  rw [shape, List.cons_append, readName, noMark, noApostrophe, first, takeWhile_run inside stops,
    dropWhile_run inside stops, ← shape, String.ofList_toList]
  rfl

/-- A name without marks is a key, unless a dot follows. -/
theorem readKey_bare {name : String} (bare : IsBareName name) {rest : List Char}
    (stops : StopsAt isBareKeyCharacter rest) (single : StopsAt (· == '.') (skipSpaces rest)) :
    readKey (name.toList ++ rest) = .ok ([name], skipSpaces rest) := by
  rw [readKey, readNames, readName_bare bare stops]
  simp only [bind, Except.bind]
  split
  · rename_i same
    rw [same] at single
    cases stopsAt_cons.mp single
  · rfl

/-- No space stands in front of a name without marks. -/
theorem IsBareName.skipSpaces_append {name : String} (bare : IsBareName name) (rest : List Char) :
    skipSpaces (name.toList ++ rest) = name.toList ++ rest := by
  obtain ⟨c, more, shape, first⟩ := bare.exists_cons
  have solid : isSpace c = false := by
    rw [isSpace, Bool.or_eq_false_iff, beq_eq_false_iff_ne, beq_eq_false_iff_ne]
    exact ⟨ne_of_isBareKeyCharacter first (by decide), ne_of_isBareKeyCharacter first (by decide)⟩
  rw [shape, List.cons_append, skipSpaces, List.dropWhile_cons_of_neg (by rw [solid]; decide)]

/-- A header opens its table. -/
theorem readStatement_header (document : Document) {name : String} (bare : IsBareName name)
    (rest : List Char) :
    readStatement document ('[' :: (name.toList ++ ']' :: rest)) =
      (accepted (document.openTable [name])).map (·, rest) := by
  have key : readKey (name.toList ++ ']' :: rest) = .ok ([name], ']' :: rest) :=
    readKey_bare bare (stopsAt_cons.mpr (by decide)) (stopsAt_cons.mpr rfl)
  obtain ⟨c, more, shape, first⟩ := bare.exists_cons
  have single : c ≠ '[' := ne_of_isBareKeyCharacter first (by decide)
  unfold readStatement
  split
  · rename_i same
    rw [shape] at same
    exact absurd (List.cons_eq_cons.mp (List.cons_eq_cons.mp same).2).1 single
  · rename_i same
    cases same
    rw [bare.skipSpaces_append, key]
    change (accepted (document.openTable [name]) >>= fun opened => pure (opened, rest)) = _
    cases accepted (document.openTable [name]) <;> rfl
  · rename_i same
    cases same
  · rename_i other same
    exact absurd (List.cons_eq_cons.mp same).1.symm other

/-- An assignment is read at the end of a line. -/
theorem readAssignment_written {name : String} (bare : IsBareName name) (scalar : Scalar)
    (rest : List Char) :
    readAssignment (name.toList ++ ' ' :: '=' :: ' ' :: (scalar.written.toList ++ '\n' :: rest)) =
      .ok (([name], scalar.value), '\n' :: rest) := by
  have key : ∀ text, readKey (name.toList ++ ' ' :: '=' :: text) = .ok ([name], '=' :: text) :=
    fun text => readKey_bare bare (stopsAt_cons.mpr (by decide)) (stopsAt_cons.mpr rfl)
  have solid : skipSpaces (' ' :: (scalar.written.toList ++ '\n' :: rest)) =
      scalar.written.toList ++ '\n' :: rest := by
    cases scalar with
    | string text =>
      rw [Scalar.written, writeString, String.toList_ofList]
      rfl
    | boolean value => cases value <;> rfl
  rw [readAssignment, key]
  change (readValue _ (skipSpaces (' ' :: _)) >>= _) = _
  rw [solid, readValue_written]
  rfl

/-- An assignment adds a field to the table that is open. -/
theorem readStatement_assignment (document : Document) {name : String} (bare : IsBareName name)
    (scalar : Scalar) (rest : List Char) :
    readStatement document
        (name.toList ++ ' ' :: '=' :: ' ' :: (scalar.written.toList ++ '\n' :: rest)) =
      (accepted (document.assign [name] scalar.value)).map (·, '\n' :: rest) := by
  have assignment := readAssignment_written bare scalar rest
  obtain ⟨c, more, shape, first⟩ := bare.exists_cons
  have notHeader : c ≠ '[' := ne_of_isBareKeyCharacter first (by decide)
  have notEmpty : (c == '\n' || c == '#') = false := by
    rw [Bool.or_eq_false_iff, beq_eq_false_iff_ne, beq_eq_false_iff_ne]
    exact ⟨ne_of_isBareKeyCharacter first (by decide), ne_of_isBareKeyCharacter first (by decide)⟩
  rw [shape, List.cons_append] at assignment ⊢
  unfold readStatement
  split
  · rename_i same
    exact absurd (List.cons_eq_cons.mp same).1 notHeader
  · rename_i same
    exact absurd (List.cons_eq_cons.mp same).1 notHeader
  · rename_i same
    cases same
  · rename_i same
    cases same
    rw [notEmpty, assignment]
    change (accepted (document.assign [name] scalar.value) >>=
      fun assigned => pure (assigned, '\n' :: rest)) = _
    cases accepted (document.assign [name] scalar.value) <;> rfl

/-- The document of tables that were opened one after the other, the last of them still open. -/
def Document.ofTables (tables : Table) : Document :=
  { root := tables
    header := (tables.getLast?.map Prod.fst).toList
    declared := tables.reverse.map fun field => [field.1] }

/-- A new name is the name of no field. -/
theorem lookup_fresh {fields : Table} {name : String} (fresh : name ∉ fields.map Prod.fst) :
    fields.lookup name = none := by
  apply List.lookup_eq_none_iff.mpr
  intro field member
  apply bne_iff_ne.mpr
  rintro rfl
  exact fresh (List.mem_map_of_mem member)

/-- What is added at the end under a new name is found by it. -/
theorem lookup_append_fresh {fields : Table} {name : String} (fresh : name ∉ fields.map Prod.fst)
    (value : Value) : (fields ++ [(name, value)]).lookup name = some value := by
  rw [List.lookup_append, lookup_fresh fresh, Option.none_or, List.lookup_cons, beq_self_eq_true]

/-- What was added at the end under a new name is replaced there. -/
theorem replace_append_fresh {fields : Table} {name : String} (fresh : name ∉ fields.map Prod.fst)
    (old new : Value) :
    Table.replace name new (fields ++ [(name, old)]) = fields ++ [(name, new)] := by
  have kept : ∀ field ∈ fields, (if field.1 = name then (name, new) else field) = field := by
    rintro field member
    apply if_neg
    rintro rfl
    exact fresh (List.mem_map_of_mem member)
  rw [Table.replace, List.map_append, List.map_congr_left kept, List.map_id', List.map_singleton,
    if_pos rfl]

/-- A header with a new name opens one more table. -/
theorem openTable_ofTables {tables : Table} {name : String} (fresh : name ∉ tables.map Prod.fst) :
    (Document.ofTables tables).openTable [name] =
      some (Document.ofTables (tables ++ [(name, .table [])])) := by
  have allowed : ¬ ((Document.ofTables tables).atHeader.declared.contains [name] ||
      isWithin (Document.ofTables tables).atHeader.closed [name]) = true := by
    simpa [Document.ofTables, Document.atHeader, isWithin] using fresh
  have made : tables.change true [name] some = some (tables ++ [(name, .table [])]) := by
    rw [Table.change, lookup_fresh fresh]
    rfl
  rw [Document.openTable, if_neg allowed]
  change (tables.change true [name] some >>= _) = _
  rw [made]
  simp [Document.ofTables, Document.atHeader]

/-- An assignment to a new name adds a field to the table that was opened last. -/
theorem assign_ofTables {tables fields : Table} {opened name : String}
    (fresh : opened ∉ tables.map Prod.fst) (new : name ∉ fields.map Prod.fst) {value : Value}
    (lasting : value.isClosed = false) :
    (Document.ofTables (tables ++ [(opened, .table fields)])).assign [name] value =
      some (Document.ofTables (tables ++ [(opened, .table (fields ++ [(name, value)]))])) := by
  have defined : fields.change true [] (Table.define name value) =
      some (fields ++ [(name, value)]) := by
    rw [Table.change, Table.define, lookup_fresh new]
    rfl
  have changed : (tables ++ [(opened, Value.table fields)]).change true [opened]
      (Table.define name value) =
        some (tables ++ [(opened, .table (fields ++ [(name, value)]))]) := by
    rw [Table.change, lookup_append_fresh fresh]
    change (fields.change true [] (Table.define name value) >>= _) = _
    rw [defined]
    exact congrArg some (replace_append_fresh fresh _ _)
  simp [Document.assign, Document.ofTables, Document.passed, isWithin, lasting, changed]

/-- The statements of a text make one document of another, however many lines may be read. -/
def Makes (text : List Char) (before after : Document) : Prop :=
  ∀ bound, text.length < bound → readStatements bound before text = .ok after

/-- Where nothing is left, nothing changes. -/
theorem Makes.nil (document : Document) : Makes [] document document := by
  intro bound enough
  obtain ⟨bound, rfl⟩ := Nat.exists_eq_add_of_lt enough
  rfl

variable {before between after : Document} {line rest : List Char}

/-- A line and the lines behind it do what they do one after the other. -/
theorem Makes.cons
    (statement : readStatement before (skipSpaces line) = .ok (between, '\n' :: rest))
    (shorter : rest.length < line.length) (behind : Makes rest between after) :
    Makes line before after := by
  intro bound enough
  obtain ⟨bound, rfl⟩ : ∃ fewer, bound = fewer + 1 := Nat.exists_eq_succ_of_ne_zero (by omega)
  rw [readStatements, statement]
  exact behind bound (by omega)

/-- An empty line changes nothing. -/
theorem Makes.newLine (behind : Makes rest before after) : Makes ('\n' :: rest) before after :=
  .cons rfl (Nat.lt_succ_self _) behind

/-- The field that is read from a line. -/
def fieldRead (field : String × Scalar) : String × Value := (field.1, field.2.value)

/-- The table that is read from a section, with its name. -/
def Section.read (part : Section) : String × Value :=
  (part.name, .table (part.fields.map fieldRead))

/-- A section whose names can be written without marks, and that names no field twice. -/
structure Section.IsPlain (part : Section) : Prop where
  name : IsBareName part.name
  fields : ∀ field ∈ part.fields, IsBareName field.1
  distinct : (part.fields.map Prod.fst).Nodup

/-- The line of a field. -/
def fieldLine (field : String × Scalar) : List Char :=
  field.1.toList ++ ' ' :: '=' :: ' ' :: (field.2.written.toList ++ ['\n'])

/-- A section is written as its header and the lines of its fields. -/
theorem Section.toList_written (part : Section) :
    part.written.toList =
      '[' :: (part.name.toList ++ ']' :: '\n' :: part.fields.flatMap fieldLine) := by
  have lines : ∀ field : String × Scalar,
      (field.1 ++ " = " ++ field.2.written ++ "\n").toList = fieldLine field := by
    intro field
    simp [fieldLine]
  rw [Section.written, String.toList_append, String.toList_join, List.flatMap_map]
  simp only [lines]
  simp

/-- One section is a document. -/
theorem write_singleton (part : Section) : write [part] = part.written := by
  rw [write, List.map_singleton, String.intercalate_singleton]

/-- An empty line stands between a section and the others. -/
theorem toList_write_cons (part next : Section) (sections : List Section) :
    (write (part :: next :: sections)).toList =
      part.written.toList ++ '\n' :: (write (next :: sections)).toList := by
  simp [write]

variable {tables : Table}

/-- An item of a list without repetitions does not stand in front of itself. -/
theorem notMem_of_nodup {front behind : List String} {item : String}
    (distinct : (front ++ item :: behind).Nodup) : item ∉ front := by
  intro member
  obtain ⟨-, -, apart⟩ := List.nodup_append.mp distinct
  exact apart item member item List.mem_cons_self rfl

/-- The line of a field with a new name adds the field to the table that was opened last. -/
theorem makes_field {opened : String} (fresh : opened ∉ tables.map Prod.fst) {done : Table}
    {field : String × Scalar} (bare : IsBareName field.1) (new : field.1 ∉ done.map Prod.fst)
    (behind : Makes rest
      (.ofTables (tables ++ [(opened, .table (done ++ [fieldRead field]))])) after) :
    Makes (fieldLine field ++ rest) (.ofTables (tables ++ [(opened, .table done)])) after := by
  have lasting : field.2.value.isClosed = false := by
    cases field.2 <;> rfl
  have line : fieldLine field ++ rest =
      field.1.toList ++ ' ' :: '=' :: ' ' :: (field.2.written.toList ++ '\n' :: rest) := by
    simp [fieldLine]
  rw [line]
  refine .cons ?_ ?_ behind
  · rw [bare.skipSpaces_append, readStatement_assignment _ bare, assign_ofTables fresh new lasting]
    rfl
  · simp only [List.length_append, List.length_cons]
    omega

/-- The lines of fields with new names add the fields to the table that was opened last. -/
theorem makes_fields {opened : String} (fresh : opened ∉ tables.map Prod.fst) {done : Table}
    {fields : List (String × Scalar)} (bare : ∀ field ∈ fields, IsBareName field.1)
    (distinct : (done.map Prod.fst ++ fields.map Prod.fst).Nodup)
    (behind : Makes rest
      (.ofTables (tables ++ [(opened, .table (done ++ fields.map fieldRead))])) after) :
    Makes (fields.flatMap fieldLine ++ rest) (.ofTables (tables ++ [(opened, .table done)]))
      after := by
  -- each line adds to the fields in front of it, so these must be any
  induction fields generalizing done with
  | nil =>
    rw [List.map_nil, List.append_nil] at behind
    exact behind
  | cons field fields ih =>
    have new : field.1 ∉ done.map Prod.fst := notMem_of_nodup distinct
    rw [List.map_cons, List.append_cons] at distinct
    rw [List.map_cons, List.append_cons done] at behind
    rw [List.flatMap_cons, List.append_assoc]
    apply makes_field fresh (bare field List.mem_cons_self) new
    apply ih (fun other member => bare other (List.mem_cons_of_mem field member))
    · rw [List.map_append]
      exact distinct
    · exact behind

/-- The lines of a section with a new name open its table and fill it. -/
theorem makes_section {part : Section} (plain : part.IsPlain)
    (fresh : part.name ∉ tables.map Prod.fst)
    (behind : Makes rest (.ofTables (tables ++ [part.read])) after) :
    Makes (part.written.toList ++ rest) (.ofTables tables) after := by
  have header : part.written.toList ++ rest =
      '[' :: (part.name.toList ++ ']' :: '\n' :: (part.fields.flatMap fieldLine ++ rest)) := by
    rw [Section.toList_written]
    simp
  rw [header]
  have filled : Makes (part.fields.flatMap fieldLine ++ rest)
      (.ofTables (tables ++ [(part.name, .table [])])) after :=
    makes_fields fresh plain.fields plain.distinct behind
  refine .cons ?_ ?_ filled
  · change readStatement _ ('[' :: _) = _
    rw [readStatement_header _ plain.name, openTable_ofTables fresh]
    rfl
  · simp only [List.length_append, List.length_cons]
    omega

/-- The lines of sections with new names open their tables one after the other and fill them. -/
theorem makes_write {sections : List Section} (plain : ∀ part ∈ sections, part.IsPlain)
    (distinct : (tables.map Prod.fst ++ sections.map Section.name).Nodup) :
    Makes (write sections).toList (.ofTables tables)
      (.ofTables (tables ++ sections.map Section.read)) := by
  -- each section opens its table behind those in front of it, so these must be any
  induction sections generalizing tables with
  | nil =>
    rw [List.map_nil, List.append_nil]
    exact .nil _
  | cons part sections ih =>
    have plainRest := fun other member => plain other (List.mem_cons_of_mem part member)
    have fresh : part.name ∉ tables.map Prod.fst := notMem_of_nodup distinct
    rw [List.map_cons, List.append_cons] at distinct ⊢
    cases sections with
    | nil =>
      have last := makes_section (plain part List.mem_cons_self) fresh (.nil _)
      rw [List.append_nil] at last
      rw [write_singleton, List.map_nil, List.append_nil]
      exact last
    | cons next sections =>
      rw [toList_write_cons]
      apply makes_section (plain part List.mem_cons_self) fresh
      apply Makes.newLine
      apply ih plainRest
      rw [List.map_append]
      exact distinct

/-- A text without carriage returns has line feeds alone. -/
theorem withLineFeeds_of_notMem {text : List Char} (free : '\r' ∉ text) :
    withLineFeeds text = text := by
  induction text using withLineFeeds.induct with
  | case1 rest ih => exact absurd List.mem_cons_self free
  | case2 c rest other ih =>
    rw [withLineFeeds.eq_2 _ _ other, ih fun member => free (List.mem_cons_of_mem c member)]
  | case3 => rfl

/-- No character is written with a carriage return. -/
theorem notMem_writeCharacter (c : Char) : '\r' ∉ writeCharacter c := by
  unfold writeCharacter
  split_ifs with mark lineFeed backspace formFeed carriageReturn control
  · rw [Bool.or_eq_true, beq_iff_eq, beq_iff_eq] at mark
    rcases mark with rfl | rfl <;> decide
  iterate 4 decide
  · intro member
    rcases List.mem_cons.mp member with same | member
    · cases same
    rcases List.mem_cons.mp member with same | member
    · cases same
    exact absurd (isHexDigit_of_mem_hexNumeral member) (by decide)
  · intro member
    rw [← List.mem_singleton.mp member] at carriageReturn
    exact carriageReturn rfl

/-- No scalar is written with a carriage return. -/
theorem Scalar.notMem_written (scalar : Scalar) : '\r' ∉ scalar.written.toList := by
  cases scalar with
  | string text =>
    rw [Scalar.written, writeString, String.toList_ofList]
    intro member
    simp only [List.mem_append, List.mem_cons, List.mem_flatMap, List.not_mem_nil,
      or_false] at member
    rcases member with (mark | ⟨c, -, inside⟩) | mark
    · cases mark
    · exact notMem_writeCharacter c inside
    · cases mark
  | boolean value => cases value <;> decide

/-- No name without marks holds a carriage return. -/
theorem IsBareName.notMem {name : String} (bare : IsBareName name) : '\r' ∉ name.toList :=
  fun member => absurd rfl (ne_of_isBareKeyCharacter (bare.characters _ member) (by decide))

/-- No section is written with a carriage return. -/
theorem Section.IsPlain.notMem_written {part : Section} (plain : part.IsPlain) :
    '\r' ∉ part.written.toList := by
  have lines : ∀ field ∈ part.fields, '\r' ∉ fieldLine field := by
    intro field member
    simp [fieldLine, (plain.fields field member).notMem, field.2.notMem_written]
  rw [Section.toList_written]
  simpa [plain.name.notMem] using lines

/-- No document is written with a carriage return. -/
theorem notMem_write {sections : List Section} (plain : ∀ part ∈ sections, part.IsPlain) :
    '\r' ∉ (write sections).toList := by
  induction sections with
  | nil => decide
  | cons part sections ih =>
    have first := (plain part List.mem_cons_self).notMem_written
    have others := ih fun other member => plain other (List.mem_cons_of_mem part member)
    cases sections with
    | nil =>
      rw [write_singleton]
      exact first
    | cons next sections =>
      rw [toList_write_cons]
      simpa using ⟨first, others⟩

/-- Sections with different names are read back from the document they are written to. -/
theorem read_write {sections : List Section} (plain : ∀ part ∈ sections, part.IsPlain)
    (distinct : (sections.map Section.name).Nodup) :
    read (write sections) = .ok (sections.map Section.read) := by
  have made :
      Makes (write sections).toList (.ofTables []) (.ofTables (sections.map Section.read)) :=
    makes_write plain distinct
  rw [read, withLineFeeds_of_notMem (notMem_write plain)]
  change (readStatements _ (.ofTables []) _).map _ = _
  rw [made _ (Nat.lt_succ_self _)]
  rfl

end SearchBar.Toml
