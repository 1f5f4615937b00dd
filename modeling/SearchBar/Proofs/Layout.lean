import SearchBar.Proofs.Grammar
import SearchBar.Proofs.Sequence

/-!
# Queries laid out in pieces

A query is laid out as pieces with blank text around and between them. A text
means a query exactly if it can be laid out so that every piece means the filter
at its place. Where the pieces lie is not part of the reading: it is found by
going over the text once, from left to right.

Main statements: the readings of a text are its layouts (`readQuery_eq_ok_iff`),
and a text means what its pieces mean (`parseQuery_eq_ok_iff_layout`).
-/

namespace SearchBar

open Text

/-- A text of blank characters, possibly empty. -/
def IsBlankText (text : String) : Prop := ∀ c ∈ text.toList, isBlank c = true

instance (text : String) : Decidable (IsBlankText text) :=
  decidable_of_iff (text.toList.all isBlank = true) List.all_eq_true

/-- Pieces of a text, with blank text in front of them and behind each. -/
structure Layout where
  /-- The blank text in front of the first piece. -/
  lead : String
  /-- The pieces, each with the blank text behind it. -/
  pieces : List (String × String)
  /-- What stands in front is blank. -/
  leadBlank : IsBlankText lead
  /-- What stands behind the pieces is blank. -/
  gapsBlank : ∀ piece ∈ pieces, IsBlankText piece.2
  /-- Something stands between any two pieces. -/
  separated : ∀ piece ∈ pieces.dropLast, piece.2 ≠ ""

/-- The pieces and the blank texts behind them, one after the other. -/
def textOfPieces : List (String × String) → String
  | [] => ""
  | piece :: pieces => piece.1 ++ piece.2 ++ textOfPieces pieces

/-- The text that is laid out. -/
def Layout.text (layout : Layout) : String := layout.lead ++ textOfPieces layout.pieces

/-- The pieces spell the filters, one after the other. -/
abbrev Spelled (pieces : List (String × String)) (filters : List (Filter Int)) : Prop :=
  List.Forall₂ (fun piece filter => Spelling piece.1 filter) pieces filters

/-- A blank text has a seam at its front. -/
theorem IsBlankText.stops {text : String} (blank : IsBlankText text) :
    StopsAt isSolid text.toList :=
  stopsAt_of_blank blank

namespace Layout

/-- A blank text laid out in no pieces. -/
def blank (lead : String) (leadBlank : IsBlankText lead) : Layout where
  lead
  pieces := []
  leadBlank
  gapsBlank := by simp
  separated := by simp

/-- A layout with one more piece in front. -/
def cons (lead piece : String) (leadBlank : IsBlankText lead) (behind : Layout)
    (apart : behind.pieces ≠ [] → behind.lead ≠ "") : Layout where
  lead
  pieces := (piece, behind.lead) :: behind.pieces
  leadBlank
  gapsBlank := by
    intro other member
    rcases List.mem_cons.mp member with rfl | member
    · exact behind.leadBlank
    · exact behind.gapsBlank other member
  separated := by
    intro other member
    by_cases last : behind.pieces = []
    · rw [last] at member
      cases member
    · rw [List.dropLast_cons_of_ne_nil last] at member
      rcases List.mem_cons.mp member with rfl | member
      · exact apart last
      · exact behind.separated other member

/-- A piece more in front is text more in front. -/
theorem text_cons {lead piece : String} {leadBlank : IsBlankText lead} {behind : Layout}
    {apart : behind.pieces ≠ [] → behind.lead ≠ ""} :
    (cons lead piece leadBlank behind apart).text = lead ++ (piece ++ behind.text) := by
  simp only [text, cons, textOfPieces, String.append_assoc]

end Layout

/-- Filters that can be typed are the pieces, one after the other from a place on. Their numerals
say where they stand. -/
inductive TypedFrom : Nat → List (String × String) → List (Filter Numeral) → Prop
  | nil (place : Nat) : TypedFrom place [] []
  | cons {place : Nat} {gap : String} {pieces : List (String × String)} {filter : Filter Numeral}
    {filters : List (Filter Numeral)} (front : filter.WellFormed Numeral.WellFormed)
    (placed : filter.placed = filter)
    (behind : TypedFrom (place + filter.typed.length + gap.length) pieces filters) :
    TypedFrom place ((filter.typed, gap) :: pieces) (filter.map (Numeral.shift place) :: filters)

/-- Every reading of a text lays the text out. -/
theorem layout_of_readFilters {offset : Nat} {text : List Char} {reads : List (Filter Numeral)}
    (read : readFilters offset text = .ok reads) :
    ∃ layout : Layout, layout.text.toList = text ∧
      layout.lead = String.ofList (text.takeWhile isBlank) ∧
      TypedFrom (offset + layout.lead.length) layout.pieces reads := by
  have leadBlank : ∀ text : List Char, IsBlankText (String.ofList (text.takeWhile isBlank)) := by
    intro text c member
    rw [String.toList_ofList] at member
    exact List.mem_takeWhile_imp member
  have whole : ∀ text : List Char, text.takeWhile isBlank ++ dropBlank text = text :=
    fun text => List.takeWhile_append_dropWhile
  induction offset, text using readFilters_induction generalizing reads with
  | blank offset text blank =>
    rw [readFilters_of_blank blank] at read
    cases read
    have blankText := whole text
    rw [blank, List.append_nil] at blankText
    refine ⟨.blank _ (leadBlank text), ?_, rfl, .nil _⟩
    simp [Layout.text, Layout.blank, textOfPieces, blankText]
  | error offset text failure present failed =>
    rw [readFilters_of_error present failed] at read
    cases read
  | solid offset text reading front solid =>
    rw [readFilters_of_solid front solid] at read
    cases read
  | seam offset text reading front seam later =>
    rw [readFilters_of_seam front seam] at read
    obtain ⟨others, behind, rfl⟩ := map_eq_ok_iff.mp read
    obtain ⟨layout, layoutText, layoutLead, typed⟩ := later behind
    obtain ⟨wellFormed, placed, -⟩ := readFilter_settled front
    -- without a blank behind the filter nothing is left, and then there are no more pieces
    have apart : layout.pieces ≠ [] → layout.lead ≠ "" := by
      intro more
      rw [layoutLead, ne_eq, String.ofList_eq_empty_iff]
      cases left : reading.rest with
      | nil =>
        rw [left, readFilters_of_blank rfl] at behind
        cases behind
        generalize layout.pieces = pieces at typed more
        cases typed
        exact absurd rfl more
      | cons c behindSeam =>
        rw [left, stopsAt_cons, isSolid_eq_false_iff] at seam
        rw [List.takeWhile_cons_of_pos seam]
        exact List.cons_ne_nil _ _
    have sizes := congrArg List.length (whole text)
    have taken := congrArg List.length (readFilter_eq front)
    rw [List.length_append] at sizes taken
    rw [String.length_toList] at taken
    have start : text.length - (dropBlank text).length =
        (String.ofList (text.takeWhile isBlank)).length := by
      rw [String.length_ofList]
      omega
    have stop : offset + (text.length - reading.rest.length) =
        offset + (String.ofList (text.takeWhile isBlank)).length + reading.value.typed.length := by
      rw [String.length_ofList]
      omega
    rw [stop] at typed
    refine ⟨.cons _ reading.value.typed (leadBlank text) layout apart, ?_, rfl, ?_⟩
    · rw [Layout.text_cons, String.toList_append, String.toList_append, String.toList_ofList,
        layoutText, ← readFilter_eq front, whole]
    · rw [start]
      exact .cons wellFormed placed typed

/-- Filters that are typed one after the other spell what they become. -/
theorem TypedFrom.spelled {place : Nat} {pieces : List (String × String)}
    {reads : List (Filter Numeral)} (typed : TypedFrom place pieces reads)
    {filters : List (Filter Int)} (counted : reads.mapM Filter.count = .ok filters) :
    Spelled pieces filters := by
  rw [mapM_eq_ok_iff] at counted
  induction typed generalizing filters with
  | nil place =>
    obtain rfl := List.forall₂_nil_left_iff.mp counted
    exact .nil
  | cons front placed behind ih =>
    obtain ⟨first, others, count, rest, rfl⟩ := List.forall₂_cons_left_iff.mp counted
    exact .cons (spelling_of_count front (Filter.count_shift_eq_ok_iff.mp count)) (ih rest)

/-- A text that is one filter is read as a sequence of one. -/
theorem readFilters_single {text : List Char} {filter : Filter Numeral}
    (read : readSingleFilter text = .ok filter) (offset : Nat) :
    readFilters offset text = .ok [filter.map (Numeral.shift offset)] := by
  obtain ⟨wellFormed, placed, rfl⟩ := readSingleFilter_eq_ok_iff_typed.mp read
  have nothing : readFilters (offset + filter.typed.length) [] = .ok [] := readFilters_of_blank rfl
  have alone := readFilters_typed wellFormed (StopsAt.nil isSolid) offset
  rw [List.append_nil, nothing, placed] at alone
  exact alone

/-- Pieces that are typed are read one after the other. -/
theorem TypedFrom.readFilters {place : Nat} {pieces : List (String × String)}
    {reads : List (Filter Numeral)} (typed : TypedFrom place pieces reads)
    (gapsBlank : ∀ piece ∈ pieces, IsBlankText piece.2)
    (separated : ∀ piece ∈ pieces.dropLast, piece.2 ≠ "") :
    readFilters place (textOfPieces pieces).toList = .ok reads := by
  induction typed with
  | nil place => exact readFilters_of_blank rfl
  | @cons place gap pieces filter reads front placed behind ih =>
    have gapBlank : IsBlankText gap := gapsBlank (filter.typed, gap) List.mem_cons_self
    have othersBlank : ∀ other ∈ pieces, IsBlankText other.2 :=
      fun other member => gapsBlank other (List.mem_cons_of_mem _ member)
    have othersSeparated : ∀ other ∈ pieces.dropLast, other.2 ≠ "" := by
      intro other member
      apply separated other
      rw [List.dropLast_cons_of_ne_nil (List.ne_nil_of_mem (List.dropLast_subset _ member))]
      exact List.mem_cons_of_mem _ member
    have seam : StopsAt isSolid (gap.toList ++ (textOfPieces pieces).toList) := by
      cases pieces with
      | nil => exact gapBlank.stops.append (StopsAt.nil isSolid)
      | cons next pieces =>
        have apart : gap ≠ "" := separated (filter.typed, gap) List.mem_cons_self
        have present : gap.toList ≠ [] := mt String.toList_eq_nil_iff.mp apart
        exact (stopsAt_append present _).mpr gapBlank.stops
    simp only [textOfPieces, String.toList_append, List.append_assoc]
    rw [readFilters_typed front seam, readFilters_blank_append gapBlank, String.length_toList,
      ih othersBlank othersSeparated, placed]
    rfl

/-- The readings of a text are its layouts in pieces that are typed. -/
theorem readFilters_eq_ok_iff {offset : Nat} {text : String} {reads : List (Filter Numeral)} :
    readFilters offset text.toList = .ok reads ↔
      ∃ layout : Layout, layout.text = text ∧
        TypedFrom (offset + layout.lead.length) layout.pieces reads := by
  constructor
  · intro read
    obtain ⟨layout, layoutText, -, typed⟩ := layout_of_readFilters read
    exact ⟨layout, String.toList_inj.mp layoutText, typed⟩
  · intro found
    obtain ⟨layout, rfl, typed⟩ := found
    rw [Layout.text, String.toList_append, readFilters_blank_append layout.leadBlank,
      String.length_toList, typed.readFilters layout.gapsBlank layout.separated]

/-- Pieces that spell filters are typed, and what is typed becomes the filters. -/
theorem exists_typedFrom_of_spelled {pieces : List (String × String)} {filters : List (Filter Int)}
    (spelled : Spelled pieces filters) (place : Nat) :
    ∃ reads, TypedFrom place pieces reads ∧ reads.mapM Filter.count = .ok filters := by
  -- the numerals of each piece are moved to their place, which does not change their counts
  induction spelled generalizing place with
  | nil => exact ⟨[], .nil place, rfl⟩
  | @cons piece filter pieces filters front behind ih =>
    obtain ⟨text, gap⟩ := piece
    obtain ⟨single, typed, wellFormed, placed, count⟩ := typed_of_spelling front
    obtain rfl : single.typed = text := typed
    obtain ⟨reads, later, counted⟩ := ih (place + single.typed.length + gap.length)
    refine ⟨_, .cons wellFormed placed later, ?_⟩
    rw [mapM_eq_ok_iff] at counted ⊢
    exact .cons (Filter.count_shift_eq_ok_iff.mpr count) counted

/-- The readings of a text as a query are its layouts. -/
theorem readQuery_eq_ok_iff {text : String} {filters : List (Filter Int)} :
    readQuery text.toList = .ok ⟨filters⟩ ↔
      ∃ layout : Layout, layout.text = text ∧ Spelled layout.pieces filters := by
  constructor
  · intro read
    simp only [readQuery, bind, Except.bind, pure, Except.pure] at read
    split at read
    · cases read
    · rename_i reads found
      split at read
      · cases read
      · rename_i counted mapped
        cases read
        obtain ⟨layout, layoutText, typed⟩ := readFilters_eq_ok_iff.mp found
        exact ⟨layout, layoutText, typed.spelled mapped⟩
  · intro found
    obtain ⟨layout, layoutText, spelled⟩ := found
    obtain ⟨reads, typed, counted⟩ := exists_typedFrom_of_spelled spelled (0 + layout.lead.length)
    have read := readFilters_eq_ok_iff.mpr ⟨layout, layoutText, typed⟩
    simp only [readQuery, read, bind, Except.bind, counted, pure, Except.pure]

/-- The query that a text means is one that it can be laid out for. -/
theorem parseQuery_eq_ok_iff {text : String} {filters : List (Filter Int)} :
    parseQuery text = .ok ⟨filters⟩ ↔
      ∃ layout : Layout, layout.text = text ∧ Spelled layout.pieces filters := by
  rw [parseQuery, reported_eq_ok_iff, readQuery_eq_ok_iff]

/-- A text that means one filter means the query of that filter. -/
theorem parseQuery_of_parseFilter {text : String} {filter : Filter Int}
    (meant : parseFilter text = .ok filter) : parseQuery text = .ok ⟨[filter]⟩ := by
  have nothing : IsBlankText "" := by decide
  have piece : Spelling text filter := parseFilter_eq_ok_iff.mp meant
  refine parseQuery_eq_ok_iff.mpr ⟨.cons "" text nothing (.blank "" nothing) ?_, ?_, ?_⟩
  · exact fun more => absurd rfl more
  · rw [Layout.text_cons]
    simp [Layout.text, Layout.blank, textOfPieces]
  · exact .cons piece .nil

/-- A text is laid out in no pieces exactly if it is blank. -/
theorem isBlankText_iff_layout {text : String} :
    IsBlankText text ↔ ∃ layout : Layout, layout.text = text ∧ layout.pieces = [] := by
  constructor
  · intro blank
    exact ⟨.blank text blank, by simp [Layout.text, Layout.blank, textOfPieces], rfl⟩
  · intro found
    obtain ⟨layout, rfl, none⟩ := found
    have lead := layout.leadBlank
    simpa [Layout.text, none, textOfPieces] using lead

/-- A text means the filters of a query exactly if it can be laid out in pieces that mean these
filters one after the other, with blank text around and between them. There are no pieces exactly
if the text is blank. -/
theorem parseQuery_eq_ok_iff_layout (text : String) (filters : List (Filter Int)) :
    (parseQuery text = .ok ⟨filters⟩ ↔
      ∃ layout : Layout, layout.text = text ∧
        List.Forall₂ (fun piece filter => parseFilter piece.1 = .ok filter) layout.pieces
          filters) ∧
      (parseQuery text = .ok ⟨[]⟩ ↔ IsBlankText text) := by
  constructor
  · simp only [parseQuery_eq_ok_iff, parseFilter_eq_ok_iff]
  · simp only [parseQuery_eq_ok_iff, List.forall₂_nil_right_iff, isBlankText_iff_layout]

example : parseQuery " \"a b\"  images:007 kind:\t" =
    .ok ⟨[.quoted "a b", .images (.exactly 7), .kind ""]⟩ := by decide +kernel

end SearchBar
