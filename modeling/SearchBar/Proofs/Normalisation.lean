import SearchBar.Proofs.Layout

/-!
# What reading and writing change

A text that means a query and the written form of that query differ in two things
only: the blank text around and between the filters, and the leading zeros of
the counts. Both changes are made on the text here, without a filter in sight.

Main statement: a query is written as its shortened pieces, one space between any
two (`parseQuery_written`).
-/

namespace SearchBar

open Text

/-- The text without the zeros that lead a run of digits; one digit of every run is kept. The flag
says whether the text goes on with a run. -/
def shortenNumerals : Bool → List Char → List Char
  | _, [] => []
  | inside, c :: rest =>
    if !inside && c == '0' && rest.head?.any isDecimalDigit then shortenNumerals false rest
    else c :: shortenNumerals (isDecimalDigit c) rest

/-- The text of one filter with its counts shortened. The counts stand behind one keyword, and
behind another one and the colon that follows it. -/
def shortened (piece : List Char) : List Char :=
  match Keyword.at? piece with
  | some .images =>
    let value := piece.drop Keyword.images.characters.length
    Keyword.images.characters ++ shortenNumerals false value
  | some .properties =>
    let value := piece.drop Keyword.properties.characters.length
    Keyword.properties.characters ++
      (value.takeWhile (· != ':') ++ shortenNumerals false (value.dropWhile (· != ':')))
  | _ => piece

/-- The layout lays the text out in pieces that mean the filters of the query one after the
other. -/
structure Layout.Means (layout : Layout) (text : String) (query : Query) : Prop where
  /-- It is this text that is laid out. -/
  text_eq : layout.text = text
  /-- Every piece means the filter at its place. -/
  filters : List.Forall₂ (fun piece filter => parseFilter piece.1 = .ok filter) layout.pieces
    query.filters

/-- The pieces of a layout with their counts shortened, one space between any two. -/
def Layout.normalised (layout : Layout) : String :=
  " ".intercalate (layout.pieces.map fun piece => String.ofList (shortened piece.1.toList))

/-- A decimal digit is the digit of its value. -/
theorem digitChar_of_isDecimalDigit {c : Char} (digit : isDecimalDigit c = true) :
    c.toNat - '0'.toNat < 10 ∧ Nat.digitChar (c.toNat - '0'.toNat) = c := by
  obtain ⟨low, high⟩ := isDecimalDigit_iff.mp digit
  have zero : '0'.toNat = 48 := rfl
  have small : c.toNat - '0'.toNat < 10 := by omega
  refine ⟨small, Char.toNat_inj.mp ?_⟩
  rw [Nat.toNat_digitChar_of_lt_ten small]
  omega

/-- Digits behind the shortest numeral of a positive number make a shortest numeral. -/
theorem toDigits_append_digits {digits : List Char} (run : ∀ c ∈ digits, isDecimalDigit c = true)
    {value : Nat} (positive : 0 < value) :
    Nat.toDigits 10 value ++ digits = Nat.toDigits 10 (Nat.ofDigitChars 10 digits value) := by
  induction digits generalizing value with
  | nil => rw [List.append_nil, Nat.ofDigitChars_nil]
  | cons c digits ih =>
    obtain ⟨small, same⟩ := digitChar_of_isDecimalDigit (run c List.mem_cons_self)
    have last : Nat.toDigits 10 value ++ [c] =
        Nat.toDigits 10 (10 * value + (c.toNat - '0'.toNat)) := by
      rw [← Nat.toDigits_append_toDigits (by decide) positive small,
        Nat.toDigits_of_lt_base small, same]
    rw [List.append_cons, last, Nat.ofDigitChars_cons]
    exact ih (fun d member => run d (List.mem_cons_of_mem c member)) (by omega)

/-- A run of digits that does not begin with a zero is the shortest numeral of its value. -/
theorem naturalNumeral_decimalValue {c : Char} {digits : List Char}
    (run : ∀ d ∈ c :: digits, isDecimalDigit d = true) (leading : c ≠ '0') :
    (naturalNumeral (decimalValue (c :: digits))).toList = c :: digits := by
  obtain ⟨small, same⟩ := digitChar_of_isDecimalDigit (run c List.mem_cons_self)
  have positive : 0 < c.toNat - '0'.toNat := by
    apply Nat.pos_of_ne_zero
    intro none
    rw [none] at same
    exact leading same.symm
  have behind := toDigits_append_digits
    (fun d member => run d (List.mem_cons_of_mem c member)) positive
  rw [Nat.toDigits_of_lt_base small, same, List.singleton_append] at behind
  rw [naturalNumeral, decimalValue, Nat.toList_repr, Nat.ofDigitChars_cons, Nat.mul_zero,
    Nat.zero_add]
  exact behind.symm

/-- What is no digit is kept. -/
theorem shortenNumerals_cons_of_other {c : Char} (other : isDecimalDigit c = false) (inside : Bool)
    (rest : List Char) : shortenNumerals inside (c :: rest) = c :: shortenNumerals false rest := by
  have nonzero : (c == '0') = false := by
    rw [beq_eq_false_iff_ne]
    rintro rfl
    cases other
  rw [shortenNumerals, nonzero, Bool.and_false, Bool.false_and, if_neg Bool.false_ne_true, other]

/-- A text with no digit in it is kept. -/
theorem shortenNumerals_of_other {front : List Char}
    (other : (front.all fun c => !isDecimalDigit c) = true) (rest : List Char) :
    shortenNumerals false (front ++ rest) = front ++ shortenNumerals false rest := by
  induction front with
  | nil => rfl
  | cons c front ih =>
    rw [List.all_cons, Bool.and_eq_true, Bool.not_eq_true'] at other
    rw [List.cons_append, shortenNumerals_cons_of_other other.1, ih other.2, List.cons_append]

/-- In front of anything but a digit it is the same whether a run of digits goes on. -/
theorem shortenNumerals_of_stops {rest : List Char} (stops : StopsAt isDecimalDigit rest)
    (inside : Bool) : shortenNumerals inside rest = shortenNumerals false rest := by
  cases rest with
  | nil => rfl
  | cons c rest =>
    have other := stopsAt_cons.mp stops
    rw [shortenNumerals_cons_of_other other, shortenNumerals_cons_of_other other]

/-- Once a digit of a run is kept, the others are. -/
theorem shortenNumerals_inside {digits : List Char} (run : ∀ c ∈ digits, isDecimalDigit c = true)
    {rest : List Char} (stops : StopsAt isDecimalDigit rest) :
    shortenNumerals true (digits ++ rest) = digits ++ shortenNumerals false rest := by
  induction digits with
  | nil => exact shortenNumerals_of_stops stops true
  | cons c digits ih =>
    have digit := run c List.mem_cons_self
    rw [List.cons_append, shortenNumerals, Bool.not_true, Bool.false_and, Bool.false_and,
      if_neg Bool.false_ne_true, digit, ih fun d member => run d (List.mem_cons_of_mem c member),
      List.cons_append]

/-- A run of digits is shortened to the shortest numeral of its value. -/
theorem shortenNumerals_run {digits : List Char} (present : digits ≠ [])
    (run : ∀ c ∈ digits, isDecimalDigit c = true) {rest : List Char}
    (stops : StopsAt isDecimalDigit rest) :
    shortenNumerals false (digits ++ rest) =
      (naturalNumeral (decimalValue digits)).toList ++ shortenNumerals false rest := by
  induction digits with
  | nil => exact absurd rfl present
  | cons c digits ih =>
    have behind : ∀ d ∈ digits, isDecimalDigit d = true :=
      fun d member => run d (List.mem_cons_of_mem c member)
    by_cases leading : c = '0'
    -- a zero goes, unless it is the last digit of the run; any other digit ends the leading zeros
    · subst leading
      cases digits with
      | nil =>
        have last : rest.head?.any isDecimalDigit = false := by
          cases rest with
          | nil => rfl
          | cons d rest => exact stopsAt_cons.mp stops
        rw [List.singleton_append, shortenNumerals, last, Bool.and_false,
          if_neg Bool.false_ne_true, shortenNumerals_of_stops stops]
        rfl
      | cons d digits =>
        have value : decimalValue ('0' :: d :: digits) = decimalValue (d :: digits) := rfl
        have dropped : shortenNumerals false ('0' :: d :: digits ++ rest) =
            shortenNumerals false (d :: digits ++ rest) := by
          have digit : isDecimalDigit d = true := behind d List.mem_cons_self
          rw [List.cons_append, List.cons_append, shortenNumerals, List.head?_cons, Option.any_some,
            digit]
          rfl
        rw [dropped, value, ih (List.cons_ne_nil d digits) behind]
    · have kept : (c == '0') = false := beq_eq_false_iff_ne.mpr leading
      have digit : isDecimalDigit c = true := run c List.mem_cons_self
      rw [List.cons_append, shortenNumerals, kept, Bool.and_false, Bool.false_and,
        if_neg Bool.false_ne_true, digit, shortenNumerals_inside behind stops,
        naturalNumeral_decimalValue run leading, List.cons_append]

/-- A count is written as its shortened spelling. -/
theorem CountSpelling.shortened {text : String} {count : Int} (spelled : CountSpelling text count)
    {rest : List Char} (stops : StopsAt isDecimalDigit rest) :
    shortenNumerals false (text.toList ++ rest) =
      (integerNumeral count).toList ++ shortenNumerals false rest := by
  have present : text.toList ≠ [] := mt String.toList_eq_nil_iff.mp spelled.nonempty
  rw [shortenNumerals_run present spelled.digits stops, spelled.value]
  rfl

/-- A count at the end of a text is written as its shortened spelling. -/
theorem CountSpelling.shortened_last {text : String} {count : Int}
    (spelled : CountSpelling text count) :
    shortenNumerals false text.toList = (integerNumeral count).toList := by
  have value := spelled.shortened (StopsAt.nil isDecimalDigit)
  simpa only [List.append_nil, shortenNumerals] using value

/-- A range over counts is written as its shortened spelling. -/
theorem RangeSpelling.shortened {text : String} {range : Range Int}
    (spelled : RangeSpelling CountSpelling text range) :
    shortenNumerals false text.toList = (range.written integerNumeral).toList := by
  cases spelled with
  | exactly spelled => exact spelled.shortened_last
  | compared comparison spelled =>
    have symbol : (comparison.symbol.toList.all fun c => !isDecimalDigit c) = true := by
      cases comparison <;> decide
    rw [Range.written, String.toList_append, String.toList_append,
      shortenNumerals_of_other symbol, spelled.shortened_last]
  | @between lowerText upperText lower upper low high =>
    have points : ("..".toList.all fun c => !isDecimalDigit c) = true := by decide
    have stops : StopsAt isDecimalDigit ("..".toList ++ upperText.toList) :=
      stopsAt_cons.mpr (by decide)
    rw [Range.written, String.toList_append, String.toList_append, String.toList_append,
      String.toList_append, List.append_assoc, low.shortened stops,
      shortenNumerals_of_other points, high.shortened_last, List.append_assoc]

/-- A piece with a keyword that holds no counts is kept. -/
theorem shortened_of_keyword {keyword : Keyword} (images : keyword ≠ .images)
    (properties : keyword ≠ .properties) (value : String) :
    shortened (keyword.written ++ value).toList = (keyword.written ++ value).toList := by
  have front : Keyword.at? (keyword.written ++ value).toList = some keyword := by
    rw [String.toList_append]
    exact keyword.at?_characters value.toList
  unfold shortened
  rw [front]
  cases keyword with
  | images => exact absurd rfl images
  | properties => exact absurd rfl properties
  | draft | kind | category | creator | created => rfl

/-- In a piece for images all runs of digits are shortened. -/
theorem shortened_images (value : List Char) :
    shortened (Keyword.images.characters ++ value) =
      Keyword.images.characters ++ shortenNumerals false value := by
  unfold shortened
  rw [Keyword.at?_characters]
  rfl

/-- In a piece for properties only the runs behind the second colon are shortened. -/
theorem shortened_properties {name : List Char} (apart : ':' ∉ name) (value : List Char) :
    shortened (Keyword.properties.characters ++ (name ++ ':' :: value)) =
      Keyword.properties.characters ++ (name ++ ':' :: shortenNumerals false value) := by
  have inside : ∀ c ∈ name, (c != ':') = true := by
    intro c member
    rw [bne_iff_ne]
    rintro rfl
    exact apart member
  have stops : StopsAt (· != ':') (':' :: value) := stopsAt_cons.mpr (by decide)
  unfold shortened
  rw [Keyword.at?_characters]
  simp only [List.drop_left, takeWhile_run inside stops, dropWhile_run inside stops]
  rw [shortenNumerals_cons_of_other (by decide)]

/-- An identifier holds no colon. -/
theorem IsIdentifier.colon_notMem {name : String} (valid : IsIdentifier name) :
    ':' ∉ name.toList := by
  intro member
  have colon := valid ':' member
  revert colon
  decide +kernel

/-- A filter is written as its shortened spelling. -/
theorem Spelling.written_eq {piece : String} {filter : Filter Int}
    (spelled : Spelling piece filter) : filter.written.toList = shortened piece.toList := by
  cases spelled with
  | word valid =>
    have front := Keyword.at?_eq_none_iff.mpr valid.unqualified
    unfold shortened
    rw [front]
    rfl
  | @quoted text valid =>
    have front : Keyword.at? ("\"" ++ text ++ "\"").toList = none := by
      rw [String.append_assoc, String.toList_append]
      rfl
    unfold shortened
    rw [front]
    rfl
  | draft state => exact (shortened_of_keyword (by decide) (by decide) state.written).symm
  | kind valid => exact (shortened_of_keyword (by decide) (by decide) _).symm
  | category valid => exact (shortened_of_keyword (by decide) (by decide) _).symm
  | username valid => exact (shortened_of_keyword (by decide) (by decide) _).symm
  | userId valid => exact (shortened_of_keyword (by decide) (by decide) _).symm
  | created spelled =>
    obtain rfl := rangeSpelling_date_iff.mp spelled
    exact (shortened_of_keyword (by decide) (by decide) _).symm
  | images spelled =>
    rw [String.toList_append, ← Keyword.characters, shortened_images, spelled.shortened]
    exact String.toList_append
  | @propertyCount name text range valid spelled =>
    have colon : ":".toList = [':'] := rfl
    have value := spelled.shortened
    simp only [Filter.written, Filter.writtenWith, String.toList_append, List.append_assoc, colon,
      List.singleton_append]
    rw [← Keyword.characters, shortened_properties valid.colon_notMem, value]
  | @property name id valid validId value =>
    have colon : ":".toList = [':'] := rfl
    have kept : shortenNumerals false (boolText value).toList = (boolText value).toList := by
      cases value <;> rfl
    have apart : ':' ∉ name.toList ++ ("/".toList ++ id.toList) := by
      simp [valid.colon_notMem, validId.colon_notMem]
    have whole := shortened_properties apart (boolText value).toList
    rw [kept] at whole
    simp only [List.append_assoc] at whole
    simp only [Filter.written, Filter.writtenWith, String.toList_append, List.append_assoc, colon,
      List.singleton_append]
    rw [← Keyword.characters, whole]

/-- Shortening adds nothing and keeps the order. -/
theorem shortenNumerals_sublist (inside : Bool) (text : List Char) :
    (shortenNumerals inside text).Sublist text := by
  fun_induction shortenNumerals inside text with
  | case1 => exact List.Sublist.slnil
  | case2 inside c rest dropped ih => exact ih.cons c
  | case3 inside c rest kept ih => exact ih.cons_cons c

/-- A shortened piece holds nothing that the piece does not. -/
theorem shortened_sublist (piece : List Char) : (shortened piece).Sublist piece := by
  unfold shortened
  split
  · rename_i front
    conv => rhs; rw [Keyword.at?_eq front]
    exact (shortenNumerals_sublist false _).append_left _
  · rename_i front
    -- in front of the second colon nothing is dropped, so the two parts are compared one by one
    conv => rhs; rw [Keyword.at?_eq front]
    apply List.Sublist.append_left
    conv => rhs; rw [← List.takeWhile_append_dropWhile (p := (· != ':'))
      (l := piece.drop Keyword.properties.characters.length)]
    exact (shortenNumerals_sublist false _).append_left _
  · exact List.Sublist.refl piece

/-- The written form of a filter holds no character that its spelling does not. -/
theorem Spelling.mem_of_mem_written {piece : String} {filter : Filter Int}
    (spelled : Spelling piece filter) {c : Char} (member : c ∈ filter.written.toList) :
    c ∈ piece.toList := by
  rw [spelled.written_eq] at member
  exact (shortened_sublist piece.toList).mem member

/-- The shortened pieces of a layout are the written filters that the pieces mean. -/
theorem map_shortened_of_spelled {pieces : List (String × String)} {filters : List (Filter Int)}
    (spelled : Spelled pieces filters) :
    (pieces.map fun piece => String.ofList (shortened piece.1.toList)) =
      filters.map Filter.written := by
  induction spelled with
  | nil => rfl
  | cons front behind ih =>
    rw [List.map_cons, List.map_cons, ih, ← front.written_eq, String.ofList_toList]

/-- A text that means a query can be laid out for it. However it is laid out, the query is written
as the pieces with their counts shortened, one space between any two and nothing around them. -/
theorem parseQuery_written {text : String} {query : Query} (meant : parseQuery text = .ok query) :
    (∃ layout : Layout, layout.Means text query) ∧
      ∀ layout : Layout, layout.Means text query → query.written = layout.normalised := by
  constructor
  · obtain ⟨layout, whole, spelled⟩ := parseQuery_eq_ok_iff.mp meant
    refine ⟨layout, whole, ?_⟩
    simpa only [parseFilter_eq_ok_iff] using spelled
  · intro layout means
    have spelled := means.filters
    simp only [parseFilter_eq_ok_iff] at spelled
    rw [Query.written, Layout.normalised, map_shortened_of_spelled spelled]

/-- Blanks and zeros go where they do not matter, and stay in a phrase and in a name. -/
theorem parseQuery_written_zeros :
    let text := "  \"00  a\"\timages:007..010  properties:007:<=000 "
    let query : Query := ⟨[.quoted "00  a", .images (.between 7 10),
      .propertyCount "007" (.compared .atMost 0)]⟩
    parseQuery text = .ok query ∧
      ((∃ layout : Layout, layout.Means text query) ∧
        ∀ layout : Layout, layout.Means text query → query.written = layout.normalised) ∧
      query.written = "\"00  a\" images:7..10 properties:007:<=0" :=
  have meant := by decide +kernel
  ⟨meant, parseQuery_written meant, by decide +kernel⟩

end SearchBar
