import Mathlib.Tactic.TFAE
import SearchBar.Proofs.Layout

/-!
# Queries written and read back

Whatever is read can be typed, and what can be typed is spelled by its written
form. One space between any two written filters is a layout of them. So a query
comes back from its written form exactly if some text means it at all.

Main statement: three conditions on a query are one (`written_tfae`).
-/

namespace SearchBar

open Text

variable {α : Type}

/-- Only counts are spelled. -/
theorem CountSpelling.isCount {text : String} {count : Int} (spelled : CountSpelling text count) :
    IsCount count := by
  have small := spelled.small
  rw [IsCount, spelled.value]
  omega

/-- Every bound of a range that is spelled is spelled. -/
theorem RangeSpelling.bounds {bound : String → α → Prop} {text : String} {range : Range α}
    (spelled : RangeSpelling bound text range) :
    ∀ value ∈ range.bounds, ∃ part, bound part value := by
  intro value member
  cases spelled with
  | exactly found =>
    obtain rfl := List.mem_singleton.mp member
    exact ⟨_, found⟩
  | compared comparison found =>
    obtain rfl := List.mem_singleton.mp member
    exact ⟨_, found⟩
  | between low high =>
    rcases List.mem_pair.mp member with rfl | rfl
    · exact ⟨_, low⟩
    · exact ⟨_, high⟩

/-- A filter that is spelled can be typed. -/
theorem Spelling.wellFormed {text : String} {filter : Filter Int} (spelled : Spelling text filter) :
    filter.WellFormed IsCount := by
  have counts : ∀ {part : String} {range : Range Int}, RangeSpelling CountSpelling part range →
      ∀ bound ∈ range.bounds, IsCount bound := by
    intro part range found bound member
    obtain ⟨digits, count⟩ := found.bounds bound member
    exact count.isCount
  cases spelled with
  | word valid => exact valid
  | quoted valid => exact valid
  | draft state => trivial
  | kind valid => exact valid
  | category valid => exact valid
  | username valid => exact valid
  | userId valid => exact valid
  | created found => trivial
  | images found => exact counts found
  | propertyCount valid found => exact ⟨valid, counts found⟩
  | property valid validId value => exact ⟨valid, validId⟩

/-- Filters that are spelled one after the other can be typed. -/
theorem wellFormed_of_spelled {pieces : List (String × String)} {filters : List (Filter Int)}
    (spelled : Spelled pieces filters) : ∀ filter ∈ filters, filter.WellFormed IsCount := by
  induction spelled with
  | nil =>
    intro filter member
    cases member
  | cons front behind ih =>
    intro filter member
    rcases List.mem_cons.mp member with rfl | member
    · exact front.wellFormed
    · exact ih filter member

/-- The shortest numeral of a count spells it. -/
theorem IsCount.spelled {count : Int} (valid : IsCount count) :
    CountSpelling (integerNumeral count) count := by
  obtain ⟨low, high⟩ := valid
  obtain ⟨number, rfl⟩ := Int.eq_ofNat_of_zero_le low
  have small : number ≤ 255 := by
    rw [maximalCount] at high
    omega
  constructor
  · exact Nat.repr_ne_empty
  · exact fun c => isDecimalDigit_of_mem_naturalNumeral
  · have few : (integerNumeral number).length ≤ 3 := by
      apply (Nat.length_repr_le_iff (by decide)).mpr
      omega
    exact Nat.le_trans few (by decide)
  · exact (decimalValue_naturalNumeral number).trans_le small
  · exact congrArg Nat.cast (decimalValue_naturalNumeral number).symm

/-- A filter that can be typed is spelled by its written form. -/
theorem Filter.WellFormed.spelled {filter : Filter Int} (wellFormed : filter.WellFormed IsCount) :
    Spelling filter.written filter := by
  have kept : filter.mapM (Except.ok : Int → Except Empty Int) = .ok filter := by
    cases filter with
    | images range => cases range <;> rfl
    | propertyCount propertyKind range => cases range <;> rfl
    | _ => rfl
  apply spelling_of_mapM _ kept
  apply wellFormed.mono
  intro count valid other same
  cases same
  exact valid.spelled

/-- Written filters, with one space between any two, are a layout of these filters. -/
theorem exists_layout_written {filters : List (Filter Int)}
    (wellFormed : ∀ filter ∈ filters, filter.WellFormed IsCount) {lead : String}
    (leadBlank : IsBlankText lead) :
    ∃ layout : Layout, layout.lead = lead ∧
      layout.text = lead ++ " ".intercalate (filters.map Filter.written) ∧
      Spelled layout.pieces filters := by
  -- behind the first filter the text in front of the others is the space, so it must be any
  induction filters generalizing lead with
  | nil =>
    refine ⟨.blank lead leadBlank, rfl, ?_, .nil⟩
    simp [Layout.text, Layout.blank, textOfPieces]
  | cons filter filters ih =>
    have front := (wellFormed filter List.mem_cons_self).spelled
    cases filters with
    | nil =>
      have nothing : IsBlankText "" := by decide
      refine ⟨.cons lead filter.written leadBlank (.blank "" nothing) ?_, rfl, ?_, .cons front .nil⟩
      · exact fun more => absurd rfl more
      · rw [Layout.text_cons]
        simp [Layout.text, Layout.blank, textOfPieces]
    | cons next filters =>
      have space : IsBlankText " " := by decide
      obtain ⟨layout, layoutLead, layoutText, spelled⟩ :=
        ih (fun other member => wellFormed other (List.mem_cons_of_mem _ member)) space
      refine ⟨.cons lead filter.written leadBlank layout ?_, rfl, ?_, .cons front spelled⟩
      · intro _
        rw [layoutLead]
        decide
      · rw [Layout.text_cons, layoutText]
        simp only [List.map_cons, String.intercalate_cons_cons, String.append_assoc]

/-- What a text means can be typed. -/
theorem Query.wellFormed_of_parseQuery {text : String} {query : Query}
    (meant : parseQuery text = .ok query) : query.WellFormed := by
  obtain ⟨layout, -, spelled⟩ := parseQuery_eq_ok_iff.mp meant
  exact wellFormed_of_spelled spelled

/-- A text means a query, the written form of the query means it, and all its filters can be
typed: of these three, each implies the others. -/
theorem written_tfae (query : Query) :
    List.TFAE [∃ text, parseQuery text = .ok query, parseQuery query.written = .ok query,
      query.WellFormed] := by
  obtain ⟨filters⟩ := query
  tfae_have 2 → 1 := fun read => ⟨_, read⟩
  tfae_have 1 → 3 := by
    rintro ⟨text, meant⟩
    exact Query.wellFormed_of_parseQuery meant
  tfae_have 3 → 2 := by
    intro wellFormed
    have nothing : IsBlankText "" := by decide
    obtain ⟨layout, -, layoutText, spelled⟩ := exists_layout_written wellFormed nothing
    apply parseQuery_eq_ok_iff.mpr
    exact ⟨layout, by rw [layoutText, Query.written, String.empty_append], spelled⟩
  tfae_finish

end SearchBar
