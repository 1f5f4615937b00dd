import SearchBar.Proofs.Composition
import SearchBar.Proofs.Interruption

/-!
# Counts that are none

A text may follow the grammar everywhere and still mean no query, because one of
its runs of digits is too long to be a number or too large to be a count. Such a
text is laid out in pieces as any other. The first of these runs from the left is
reported, and only if there is nothing else to report.

Main statement: `parseQuery_miscounted`.
-/

namespace SearchBar

open Text

/-- A run of digits, of any length and any value. -/
def IsDigitRun (text : String) : Prop :=
  text ≠ "" ∧ ∀ c ∈ text.toList, isDecimalDigit c = true

/-- A text that begins at the place is a range over runs of digits, and these are its numerals from
left to right. -/
inductive RangeNumerals (place : Nat) : String → List Numeral → Prop
  | exactly {digits : String} (run : IsDigitRun digits) :
    RangeNumerals place digits [⟨place, digits⟩]
  | compared (comparison : Comparison) {digits : String} (run : IsDigitRun digits) :
    RangeNumerals place (comparison.symbol ++ digits)
      [⟨place + comparison.symbol.length, digits⟩]
  | between {lower upper : String} (low : IsDigitRun lower) (high : IsDigitRun upper) :
    RangeNumerals place (lower ++ ".." ++ upper)
      [⟨place, lower⟩, ⟨place + lower.length + 2, upper⟩]

/-- A text that begins at the place is a filter but for its counts, in the places of which stand
runs of digits, and these are its numerals from left to right. -/
inductive FilterNumerals (place : Nat) : String → List Numeral → Prop
  | uncounted {text : String} {filter : Filter Int} (spelled : Spelling text filter)
    (none : filter.counts = []) : FilterNumerals place text []
  | images {text : String} {numerals : List Numeral}
    (range : RangeNumerals (place + Keyword.images.written.length) text numerals) :
    FilterNumerals place (Keyword.images.written ++ text) numerals
  | propertyCount {propertyKind text : String} {numerals : List Numeral}
    (valid : IsIdentifier propertyKind)
    (range : RangeNumerals (place + Keyword.properties.written.length + propertyKind.length + 1)
      text numerals) :
    FilterNumerals place (Keyword.properties.written ++ propertyKind ++ ":" ++ text) numerals

/-- The numerals of pieces one behind the other, the first of which begins at the place. -/
inductive PieceNumerals : Nat → List (String × String) → List Numeral → Prop
  | nil (place : Nat) : PieceNumerals place [] []
  | cons {place : Nat} {piece gap : String} {pieces : List (String × String)}
    {first others : List Numeral} (front : FilterNumerals place piece first)
    (behind : PieceNumerals (place + piece.length + gap.length) pieces others) :
    PieceNumerals place ((piece, gap) :: pieces) (first ++ others)

/-- The text is laid out in filters but for their counts, and these are all its numerals. -/
def HasNumerals (text : String) (numerals : List Numeral) : Prop :=
  ∃ layout : Layout, layout.text = text ∧
    PieceNumerals layout.lead.length layout.pieces numerals

/-- A numeral that is too long to be a number, or too large to be a count. -/
def Numeral.IsExcessive (numeral : Numeral) : Prop :=
  maximalDigits < numeral.digits.length ∨ maximalCount < numeral.value

/-- What is said of a numeral that is excessive. -/
def Numeral.complaint (numeral : Numeral) : String :=
  if maximalDigits < numeral.digits.length then
    "Exceeds the limit (4300 digits) for integer string conversion: value has " ++
      naturalNumeral numeral.digits.length ++
      " digits; use sys.set_int_max_str_digits() to increase the limit"
  else numeral.digits ++ " is out of range (0-255)"

/-- The numerals begin one behind the other, all of them between two places. -/
structure Ascending (low high : Nat) (numerals : List Numeral) : Prop where
  /-- The places ascend. -/
  pairwise : numerals.Pairwise fun first second => first.offset < second.offset
  /-- They lie between the two. -/
  between : ∀ numeral ∈ numerals, low ≤ numeral.offset ∧ numeral.offset < high

/-- Numerals between two places are between places further apart. -/
theorem Ascending.mono {low high lower higher : Nat} {numerals : List Numeral}
    (ascending : Ascending low high numerals) (front : lower ≤ low) (back : high ≤ higher) :
    Ascending lower higher numerals := by
  refine ⟨ascending.pairwise, ?_⟩
  intro numeral member
  have bounds := ascending.between numeral member
  omega

/-- Numerals up to a place and numerals from there on ascend together. -/
theorem Ascending.append {low middle high : Nat} {first second : List Numeral}
    (front : Ascending low middle first) (behind : Ascending middle high second)
    (ordered : low ≤ middle ∧ middle ≤ high) : Ascending low high (first ++ second) := by
  constructor
  · refine List.pairwise_append.mpr ⟨front.pairwise, behind.pairwise, ?_⟩
    intro left leftListed right rightListed
    have leftBounds := front.between left leftListed
    have rightBounds := behind.between right rightListed
    omega
  · intro numeral member
    rcases List.mem_append.mp member with listed | listed
    · have bounds := front.between numeral listed
      omega
    · have bounds := behind.between numeral listed
      omega

/-- One numeral ascends alone. -/
theorem Ascending.single {low high : Nat} {numeral : Numeral} (front : low ≤ numeral.offset)
    (back : numeral.offset < high) : Ascending low high [numeral] :=
  ⟨List.pairwise_singleton _ _, List.forall_mem_singleton.mpr ⟨front, back⟩⟩

/-- A run of digits has a length. -/
theorem IsDigitRun.length_pos {text : String} (run : IsDigitRun text) : 0 < text.length :=
  Nat.pos_of_ne_zero (mt String.length_eq_zero_iff.mp run.1)

/-- The numerals of a range stand in its text from left to right. -/
theorem RangeNumerals.ascending {place : Nat} {text : String} {numerals : List Numeral}
    (found : RangeNumerals place text numerals) :
    Ascending place (place + text.length) numerals := by
  cases found with
  | exactly run =>
    have some := run.length_pos
    exact .single (Nat.le_refl _) (by simp only; omega)
  | compared comparison run =>
    have some := run.length_pos
    rw [String.length_append]
    exact .single (by simp only; omega) (by simp only; omega)
  | @between lower upper low high =>
    have someLow := low.length_pos
    have someHigh := high.length_pos
    have points : "..".length = 2 := rfl
    rw [String.length_append, String.length_append, points]
    have front : Ascending place (place + lower.length) [⟨place, lower⟩] :=
      .single (Nat.le_refl _) (by simp only; omega)
    have behind : Ascending (place + lower.length) (place + (lower.length + 2 + upper.length))
        [⟨place + lower.length + 2, upper⟩] :=
      .single (by simp only; omega) (by simp only; omega)
    exact front.append behind (by omega)

/-- The numerals of a filter stand in its text from left to right. -/
theorem FilterNumerals.ascending {place : Nat} {text : String} {numerals : List Numeral}
    (found : FilterNumerals place text numerals) :
    Ascending place (place + text.length) numerals := by
  cases found with
  | uncounted => exact ⟨.nil, fun _ => nofun⟩
  | images range =>
    rw [String.length_append]
    exact range.ascending.mono (by omega) (by omega)
  | propertyCount valid range =>
    have colon : ":".length = 1 := rfl
    rw [String.length_append, String.length_append, String.length_append, colon]
    exact range.ascending.mono (by omega) (by omega)

/-- The numerals of pieces stand in them from left to right. -/
theorem PieceNumerals.ascending {place : Nat} {pieces : List (String × String)}
    {numerals : List Numeral} (found : PieceNumerals place pieces numerals) :
    Ascending place (place + (textOfPieces pieces).length) numerals := by
  induction found with
  | nil place => exact ⟨.nil, fun _ => nofun⟩
  | @cons place piece gap pieces first others front behind ih =>
    simp only [textOfPieces, String.length_append]
    exact front.ascending.append (ih.mono (by omega) (by omega)) (by omega)

/-- A range in its place is a range in a place further behind. -/
theorem Range.placed_shift (place offset : Nat) (range : Range Numeral) :
    (range.placed Numeral.digits Numeral.placed offset).map (Numeral.shift place) =
      range.placed Numeral.digits Numeral.placed (place + offset) := by
  cases range with
  | exactly value => rfl
  | compared comparison bound =>
    simp only [Range.placed, Range.map, Numeral.placed, Numeral.shift, Nat.add_assoc]
  | between lower upper =>
    simp only [Range.placed, Range.map, Numeral.placed, Numeral.shift, Nat.add_assoc]

/-- The numerals of a range are the bounds of the range that is typed, in their places. -/
theorem rangeNumerals_iff {place : Nat} {text : String} {numerals : List Numeral} :
    RangeNumerals place text numerals ↔
      ∃ range : Range Numeral, range.written Numeral.digits = text ∧
        (∀ bound ∈ range.bounds, bound.WellFormed) ∧
        (range.placed Numeral.digits Numeral.placed place).bounds = numerals := by
  constructor
  · intro found
    cases found with
    | exactly run =>
      exact ⟨.exactly ⟨place, text⟩, rfl, List.forall_mem_singleton.mpr run, rfl⟩
    | @compared comparison digits run =>
      exact ⟨.compared comparison ⟨place, digits⟩, rfl, List.forall_mem_singleton.mpr run, rfl⟩
    | @between lower upper low high =>
      refine ⟨.between ⟨place, lower⟩ ⟨place, upper⟩, rfl, ?_, rfl⟩
      exact List.forall_mem_cons.mpr ⟨low, List.forall_mem_singleton.mpr high⟩
  · rintro ⟨range, rfl, bounds, rfl⟩
    cases range with
    | exactly value => exact .exactly (bounds value List.mem_cons_self)
    | compared comparison bound => exact .compared comparison (bounds bound List.mem_cons_self)
    | between lower upper =>
      have low := bounds lower List.mem_cons_self
      have high := bounds upper (List.mem_cons_of_mem _ List.mem_cons_self)
      exact .between low high

/-- A filter that can be typed can be typed with its numerals in place, and it is the same text. -/
theorem Filter.WellFormed.settled {filter : Filter Numeral}
    (wellFormed : filter.WellFormed Numeral.WellFormed) :
    filter.placed.WellFormed Numeral.WellFormed ∧ filter.placed.placed = filter.placed ∧
      filter.placed.typed = filter.typed := by
  obtain ⟨valid, placed, typed⟩ :=
    readSingleFilter_eq_ok_iff_typed.mp (readSingleFilter_typed wellFormed)
  exact ⟨valid, placed, String.toList_inj.mp typed⟩

/-- What becomes a filter without counts has no numerals. -/
theorem Filter.counts_eq_nil {filter : Filter Numeral} {counted : Filter Int}
    (count : filter.count = .ok counted) (none : counted.counts = []) : filter.counts = [] := by
  cases filter with
  | images range =>
    obtain ⟨result, -, rfl⟩ := map_eq_ok_iff.mp count
    cases result <;> cases none
  | propertyCount propertyKind range =>
    obtain ⟨result, -, rfl⟩ := map_eq_ok_iff.mp count
    cases result <;> cases none
  | _ => rfl

/-- The numerals of a filter are the counts of the filter that is typed, in their places. -/
theorem filterNumerals_iff {place : Nat} {text : String} {numerals : List Numeral} :
    FilterNumerals place text numerals ↔
      ∃ filter : Filter Numeral, filter.WellFormed Numeral.WellFormed ∧ filter.typed = text ∧
        (filter.placed.map (Numeral.shift place)).counts = numerals := by
  constructor
  · intro found
    cases found with
    | uncounted spelled none =>
      obtain ⟨filter, typed, wellFormed, placed, counted⟩ := typed_of_spelling spelled
      refine ⟨filter, wellFormed, typed, ?_⟩
      rw [placed, Filter.counts_map, Filter.counts_eq_nil counted none, List.map_nil]
    | images found =>
      obtain ⟨range, rfl, bounds, same⟩ := rangeNumerals_iff.mp found
      refine ⟨.images range, bounds, rfl, ?_⟩
      rw [← same, ← Range.placed_shift]
      rfl
    | @propertyCount propertyKind _ _ valid found =>
      obtain ⟨range, rfl, bounds, same⟩ := rangeNumerals_iff.mp found
      refine ⟨.propertyCount propertyKind range, ⟨valid, bounds⟩, rfl, ?_⟩
      rw [← same, Nat.add_assoc, Nat.add_assoc, ← Range.placed_shift, ← Nat.add_assoc]
      rfl
  · rintro ⟨filter, wellFormed, rfl, rfl⟩
    cases filter with
    | images range =>
      refine .images (rangeNumerals_iff.mpr ⟨range, rfl, wellFormed, ?_⟩)
      rw [← Range.placed_shift]
      rfl
    | propertyCount propertyKind range =>
      refine .propertyCount wellFormed.1 (rangeNumerals_iff.mpr ⟨range, rfl, wellFormed.2, ?_⟩)
      rw [Nat.add_assoc, Nat.add_assoc, ← Range.placed_shift, ← Nat.add_assoc]
      rfl
    | _ => exact .uncounted (spelling_of_count wellFormed rfl) rfl

/-- The numerals of pieces are the counts of the filters that are typed as the pieces. -/
theorem pieceNumerals_iff {place : Nat} {pieces : List (String × String)}
    {numerals : List Numeral} :
    PieceNumerals place pieces numerals ↔
      ∃ reads, TypedFrom place pieces reads ∧ reads.flatMap Filter.counts = numerals := by
  constructor
  · intro found
    induction found with
    | nil place => exact ⟨[], .nil place, rfl⟩
    | @cons place piece gap pieces first others front behind ih =>
      obtain ⟨filter, wellFormed, rfl, rfl⟩ := filterNumerals_iff.mp front
      obtain ⟨reads, typed, rfl⟩ := ih
      obtain ⟨valid, placed, same⟩ := wellFormed.settled
      rw [← same] at typed ⊢
      exact ⟨_, .cons valid placed typed, rfl⟩
  · rintro ⟨reads, typed, rfl⟩
    induction typed with
    | nil place => exact .nil place
    | @cons place gap pieces filter reads front placed behind ih =>
      have first : FilterNumerals place filter.typed (filter.map (Numeral.shift place)).counts :=
        filterNumerals_iff.mpr ⟨filter, front, rfl, by rw [placed]⟩
      exact .cons first ih

/-- The numerals of a text are the counts of the filters that are read from it. -/
theorem hasNumerals_iff {text : String} {numerals : List Numeral} :
    HasNumerals text numerals ↔
      ∃ reads, readFilters 0 text.toList = .ok reads ∧ reads.flatMap Filter.counts = numerals := by
  simp only [HasNumerals, pieceNumerals_iff, readFilters_eq_ok_iff, Nat.zero_add]
  constructor
  · rintro ⟨layout, laidOut, reads, typed, same⟩
    exact ⟨reads, ⟨layout, laidOut, typed⟩, same⟩
  · rintro ⟨reads, ⟨layout, laidOut, typed⟩, same⟩
    exact ⟨layout, laidOut, reads, typed, same⟩

/-- The numerals of a text stand in it from left to right. -/
theorem HasNumerals.pairwise {text : String} {numerals : List Numeral}
    (found : HasNumerals text numerals) :
    numerals.Pairwise fun first second => first.offset < second.offset := by
  obtain ⟨layout, -, pieces⟩ := found
  exact pieces.ascending.pairwise

/-- A numeral becomes a count exactly if it is not excessive. -/
theorem Numeral.faultOf_count_eq_none_iff {numeral : Numeral} :
    faultOf numeral.count = none ↔ ¬ numeral.IsExcessive := by
  have fine : faultOf numeral.count = none ↔ ∃ count, numeral.count = .ok count := by
    cases numeral.count with
    | error failure => simp [faultOf]
    | ok count => simp [faultOf]
  simp only [fine, count_eq_ok_iff, IsExcessive, not_or, Nat.not_lt]
  constructor
  · rintro ⟨count, short, small, -⟩
    exact ⟨short, small⟩
  · rintro ⟨short, small⟩
    exact ⟨_, short, small, rfl⟩

/-- The range of counts in words. -/
theorem detail_outOfRange (digits : String) :
    (Cause.outOfRange digits).detail = digits ++ " is out of range (0-255)" := by
  have range : " is out of range (0-" ++ (naturalNumeral maximalCount ++ ")") =
      " is out of range (0-255)" := by decide
  rw [← range, ← String.append_assoc, ← String.append_assoc]
  rfl

/-- A numeral that does not become a count is reported where it stands. -/
theorem Numeral.toError_of_count {numeral : Numeral} {failure : Failure}
    (failed : numeral.count = .error failure) (text : String) :
    failure.toError text = ⟨text, numeral.offset, [], numeral.complaint⟩ := by
  unfold Numeral.count at failed
  unfold Numeral.complaint
  split at failed
  · rename_i long
    cases failed
    rw [if_pos long]
    rfl
  · rename_i short
    split at failed
    · cases failed
      rw [if_neg short, ← detail_outOfRange]
      rfl
    · cases failed

/-- A numeral that does not become a count is excessive. -/
theorem Numeral.isExcessive_of_count {numeral : Numeral} {failure : Failure}
    (failed : numeral.count = .error failure) : numeral.IsExcessive := by
  by_contra fine
  have none := faultOf_count_eq_none_iff.mpr fine
  rw [faultOf_eq_some_iff.mpr failed] at none
  cases none

/-- A text that is read but not counted is reported for the first excessive numeral. -/
theorem parseQuery_eq_error_iff_of_read {text : String} {reads : List (Filter Numeral)}
    (read : readFilters 0 text.toList = .ok reads) (error : ParseError) :
    parseQuery text = .error error ↔
      ∃ before numeral behind, reads.flatMap Filter.counts = before ++ numeral :: behind ∧
        (∀ other ∈ before, ¬ other.IsExcessive) ∧ numeral.IsExcessive ∧
        error = ⟨text, numeral.offset, [], numeral.complaint⟩ := by
  have first : faultOf (reads.mapM Filter.count) =
      (reads.flatMap Filter.counts).findSome? fun numeral => faultOf numeral.count :=
    faultOf_mapM_counts Numeral.count reads
  constructor
  · intro failed
    cases counted : reads.mapM Filter.count with
    | ok filters =>
      rw [parseQuery_of_counted read counted] at failed
      cases failed
    | error failure =>
      rw [parseQuery_of_uncounted read counted] at failed
      cases failed
      rw [counted] at first
      obtain ⟨before, numeral, behind, split, found, fine⟩ :=
        List.findSome?_eq_some_iff.mp first.symm
      have uncounted := faultOf_eq_some_iff.mp found
      refine ⟨before, numeral, behind, split, ?_, Numeral.isExcessive_of_count uncounted,
        Numeral.toError_of_count uncounted text⟩
      exact fun other member => Numeral.faultOf_count_eq_none_iff.mp (fine other member)
  · rintro ⟨before, numeral, behind, split, fine, excessive, rfl⟩
    cases uncounted : numeral.count with
    | ok count =>
      have none : faultOf numeral.count = none := by
        rw [uncounted]
        rfl
      exact absurd excessive (Numeral.faultOf_count_eq_none_iff.mp none)
    | error failure =>
      have found : (reads.flatMap Filter.counts).findSome? (fun numeral => faultOf numeral.count) =
          some failure := by
        rw [List.findSome?_eq_some_iff]
        refine ⟨before, numeral, behind, split, faultOf_eq_some_iff.mpr uncounted, ?_⟩
        exact fun other member => Numeral.faultOf_count_eq_none_iff.mpr (fine other member)
      rw [← first] at found
      rw [parseQuery_of_uncounted read (faultOf_eq_some_iff.mp found),
        Numeral.toError_of_count uncounted]

/-- Of numerals in ascending places the first that is excessive is the leftmost one. -/
theorem leftmost_iff_first {numerals : List Numeral}
    (ascending : numerals.Pairwise fun first second => first.offset < second.offset)
    {numeral : Numeral} :
    (numeral ∈ numerals ∧ numeral.IsExcessive ∧
        ∀ other ∈ numerals, other.IsExcessive → numeral.offset ≤ other.offset) ↔
      numeral.IsExcessive ∧ ∃ before behind, numerals = before ++ numeral :: behind ∧
        ∀ other ∈ before, ¬ other.IsExcessive := by
  constructor
  · rintro ⟨member, excessive, leftmost⟩
    obtain ⟨before, behind, rfl⟩ := List.append_of_mem member
    refine ⟨excessive, before, behind, rfl, ?_⟩
    intro other listed found
    have left := (List.pairwise_append.mp ascending).2.2 other listed numeral List.mem_cons_self
    have right := leftmost other (List.mem_append_left _ listed) found
    omega
  · rintro ⟨excessive, before, behind, rfl, fine⟩
    refine ⟨List.mem_append_right _ List.mem_cons_self, excessive, ?_⟩
    intro other member found
    rcases List.mem_append.mp member with listed | listed
    · exact absurd found (fine other listed)
    · rcases List.mem_cons.mp listed with rfl | listed
      · exact Nat.le_refl _
      · have right := (List.pairwise_append.mp ascending).2.1
        exact Nat.le_of_lt (List.rel_of_pairwise_cons right listed)

/-- A text that cannot be read is not laid out in filters, whatever stands for their counts. -/
theorem not_hasNumerals_of_unread {text : String} {failure : Failure}
    (unread : readFilters 0 text.toList = .error failure) :
    ¬ ∃ numerals, HasNumerals text numerals := by
  rintro ⟨numerals, found⟩
  obtain ⟨reads, read, -⟩ := hasNumerals_iff.mp found
  rw [unread] at read
  cases read

/-- Something is expected in some place exactly if the text is not laid out in filters, whatever
stands for their counts. -/
theorem parseQuery_expects_iff {text : String} :
    (∃ error, parseQuery text = .error error ∧ error.expected ≠ []) ↔
      ¬ ∃ numerals, HasNumerals text numerals := by
  cases read : readFilters 0 text.toList with
  | error failure =>
    have expects := readFilters_expects 0 text.toList failure read
    exact iff_of_true ⟨_, parseQuery_of_unread read, expects⟩ (not_hasNumerals_of_unread read)
  | ok reads =>
    apply iff_of_false
    · rintro ⟨error, failed, expects⟩
      obtain ⟨before, numeral, behind, -, -, -, rfl⟩ :=
        (parseQuery_eq_error_iff_of_read read error).mp failed
      exact expects rfl
    · exact not_not_intro ⟨_, hasNumerals_iff.mpr ⟨reads, read, rfl⟩⟩

/-- Nothing is expected exactly if the text is laid out in filters but for their counts, and the
leftmost numeral that is excessive is reported. -/
theorem parseQuery_expects_nothing_iff {text : String} {error : ParseError} :
    parseQuery text = .error error ∧ error.expected = [] ↔
      ∃ numerals, HasNumerals text numerals ∧ ∃ numeral ∈ numerals, numeral.IsExcessive ∧
        (∀ other ∈ numerals, other.IsExcessive → numeral.offset ≤ other.offset) ∧
        numeral.StandsIn text.toList ∧
        error = ⟨text, numeral.offset, [], numeral.complaint⟩ := by
  constructor
  · rintro ⟨failed, nothing⟩
    cases read : readFilters 0 text.toList with
    | error failure =>
      rw [parseQuery_of_unread read] at failed
      cases failed
      exact absurd nothing (readFilters_expects 0 text.toList failure read)
    | ok reads =>
      obtain ⟨before, numeral, behind, split, fine, excessive, rfl⟩ :=
        (parseQuery_eq_error_iff_of_read read error).mp failed
      have found : HasNumerals text (reads.flatMap Filter.counts) :=
        hasNumerals_iff.mpr ⟨reads, read, rfl⟩
      obtain ⟨listed, -, leftmost⟩ :=
        (leftmost_iff_first found.pairwise).mpr ⟨excessive, before, behind, split, fine⟩
      obtain ⟨filter, member, count⟩ := List.mem_flatMap.mp listed
      obtain ⟨-, inner, stands, same⟩ := standsIn_of_readFilters read filter member numeral count
      have unmoved : inner.shift 0 = inner := by rw [Numeral.shift, Nat.zero_add]
      rw [← unmoved, ← same] at stands
      exact ⟨_, found, numeral, listed, excessive, leftmost, stands, rfl⟩
  · rintro ⟨numerals, found, numeral, listed, excessive, leftmost, -, rfl⟩
    obtain ⟨-, before, behind, split, fine⟩ :=
      (leftmost_iff_first found.pairwise).mp ⟨listed, excessive, leftmost⟩
    obtain ⟨reads, read, rfl⟩ := hasNumerals_iff.mp found
    refine ⟨?_, rfl⟩
    exact (parseQuery_eq_error_iff_of_read read _).mpr
      ⟨before, numeral, behind, split, fine, excessive, rfl⟩

/-- A text fails with nothing expected exactly if it is laid out in filters but for their counts,
and one of its numerals is excessive. The leftmost of these is reported, at its first digit. A text
that is not laid out in this way fails for what was expected in some place. -/
theorem parseQuery_miscounted (text : String) :
    (∀ error, parseQuery text = .error error ∧ error.expected = [] ↔
      ∃ numerals, HasNumerals text numerals ∧ ∃ numeral ∈ numerals, numeral.IsExcessive ∧
        (∀ other ∈ numerals, other.IsExcessive → numeral.offset ≤ other.offset) ∧
        numeral.StandsIn text.toList ∧
        error = ⟨text, numeral.offset, [], numeral.complaint⟩) ∧
      ((∃ error, parseQuery text = .error error ∧ error.expected ≠ []) ↔
        ¬ ∃ numerals, HasNumerals text numerals) :=
  ⟨fun _ => parseQuery_expects_nothing_iff, parseQuery_expects_iff⟩

example : parseQuery " images:1..0300 images:999" =
    .error ⟨" images:1..0300 images:999", 11, [], "0300 is out of range (0-255)"⟩ := by
  decide +kernel

end SearchBar
