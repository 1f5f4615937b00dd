import SearchBar.Proofs.LiteralMarkup
import SearchBar.Text.Quoted

/-!
# Literal texts between quotation marks

A diagnostic shows a text between quotation marks, its invisible characters
escaped. Escaping puts backslashes into the text, but none in front of a bracket
that had none there, and it changes neither brackets nor the characters with
which a tag may begin. So a text that is literal is so between quotation marks.

Main statement: `isLiteral_quoted`.
-/

namespace SearchBar.Console

open Text

/-- What a character may become between quotation marks: itself, two backslashes, or a backslash
and some characters that have no part in markup. -/
inductive QuotedForm : Char → List Char → Prop
  | itself {c : Char} (plain : c ≠ backslash) : QuotedForm c [c]
  | doubled : QuotedForm backslash [backslash, backslash]
  | escaped {c d : Char} {rest : List Char} (unbracketed : isBracket c = false)
    (ordinary : ∀ e ∈ d :: rest, isOrdinary e = true) : QuotedForm c (backslash :: d :: rest)

/-- The number of a character is written in characters that have no part in markup. -/
theorem isOrdinary_of_mem_hexNumeral {width n : Nat} {letter : Char}
    (first : isOrdinary letter = true) :
    ∀ c ∈ letter :: hexNumeral width n, isOrdinary c = true := by
  refine List.forall_mem_cons.mpr ⟨first, ?_⟩
  intro c member
  exact isOrdinary_of_class (by decide) (by decide) (by decide)
    (isHexDigit_of_mem_hexNumeral member)

/-- A character escaped by its number is no bracket. -/
theorem quotedForm_numberEscape {c : Char} (hidden : isPrintable c = false) :
    QuotedForm c (numberEscape c) := by
  have unbracketed : isBracket c = false := by
    by_contra bracket
    rw [Bool.not_eq_false, isBracket, Bool.or_eq_true, beq_iff_eq, beq_iff_eq] at bracket
    rcases bracket with rfl | rfl <;> revert hidden <;> decide
  unfold numberEscape
  split
  · exact .escaped unbracketed (isOrdinary_of_mem_hexNumeral (by decide))
  · split
    · exact .escaped unbracketed (isOrdinary_of_mem_hexNumeral (by decide))
    · exact .escaped unbracketed (isOrdinary_of_mem_hexNumeral (by decide))

/-- What characters become between marks that have no part in markup. -/
theorem quotedForm {mark : Char} (ordinary : isOrdinary mark = true) (c : Char) :
    QuotedForm c (quotedCharacter mark c) := by
  unfold quotedCharacter
  split
  · rename_i special
    by_cases slash : c = backslash
    · rw [slash]
      exact .doubled
    · rw [Bool.or_eq_true, beq_iff_eq, beq_iff_eq] at special
      obtain rfl := special.resolve_right slash
      exact .escaped (isOrdinary_iff.mp ordinary).1 (List.forall_mem_singleton.mpr ordinary)
  · rename_i usual
    have plain : c ≠ backslash := by
      rintro rfl
      simp at usual
    split
    · rename_i newLine
      rw [beq_iff_eq] at newLine
      exact .escaped (by rw [newLine]; decide) (List.forall_mem_singleton.mpr (by decide))
    · split
      · rename_i carriage
        rw [beq_iff_eq] at carriage
        exact .escaped (by rw [carriage]; decide) (List.forall_mem_singleton.mpr (by decide))
      · split
        · rename_i tab
          rw [beq_iff_eq] at tab
          exact .escaped (by rw [tab]; decide) (List.forall_mem_singleton.mpr (by decide))
        · split
          · exact .itself plain
          · rename_i hidden
            exact quotedForm_numberEscape (by simpa using hidden)

/-! ## Tags between quotation marks -/

/-- A backslash more or less in front of a text is no matter for whether a tag stands there. -/
theorem tagAt?_slash_iff {text : List Char} :
    tagAt? (backslash :: text) = none ↔ tagAt? text = none := by
  have dropped : (backslash :: text).dropWhile (· == backslash) = text.dropWhile (· == backslash) :=
    List.dropWhile_cons_of_pos (beq_self_eq_true backslash)
  rw [tagAt?_eq_none_iff, tagAt?_eq_none_iff, dropped]

/-- A tag begins with a backslash or with a bracket that opens it. -/
theorem tagAt?_of_other {c : Char} (slash : c ≠ backslash) (bracket : c ≠ '[')
    (rest : List Char) : tagAt? (c :: rest) = none := by
  rw [tagAt?_eq_none_iff, List.dropWhile_cons_of_neg (by simpa using slash)]
  rintro d behind opening
  cases opening
  exact absurd rfl bracket

/-- At the front of a literal text no tag stands. -/
theorem tagAt?_of_literal {text : List Char} (literal : isLiteral text = true) :
    tagAt? text = none := by
  cases text with
  | nil => rfl
  | cons c rest => exact (isLiteral_cons_iff.mp literal).1

section

variable {mark : Char} (ordinary : isOrdinary mark = true)

include ordinary

/-- Between quotation marks the first bracket of a text is the same. -/
theorem firstBracket_quoted (text : List Char) :
    ((text.flatMap (quotedCharacter mark)).dropWhile fun c => !isBracket c).head? =
      (text.dropWhile fun c => !isBracket c).head? := by
  induction text with
  | nil => rfl
  | cons c rest ih =>
    have skipped : ∀ {front : List Char}, isBracket c = false →
        (∀ d ∈ front, isBracket d = false) →
        ((front ++ rest.flatMap (quotedCharacter mark)).dropWhile fun c => !isBracket c).head? =
          ((c :: rest).dropWhile fun c => !isBracket c).head? := by
      intro front first inside
      rw [List.dropWhile_append_of_pos (by simpa using inside),
        List.dropWhile_cons_of_pos (by simpa using first), ih]
    have slash : isBracket backslash = false := by decide
    have form := quotedForm ordinary c
    rw [List.flatMap_cons]
    generalize quotedCharacter mark c = front at form
    cases form with
    | itself plain =>
      by_cases bracket : isBracket c = true
      · rw [List.singleton_append, List.dropWhile_cons_of_neg (by simpa using bracket),
          List.dropWhile_cons_of_neg (by simpa using bracket)]
        rfl
      · rw [Bool.not_eq_true] at bracket
        exact skipped bracket (List.forall_mem_singleton.mpr bracket)
    | doubled =>
      exact skipped slash (List.forall_mem_cons.mpr ⟨slash, List.forall_mem_singleton.mpr slash⟩)
    | escaped unbracketed inside =>
      refine skipped unbracketed (List.forall_mem_cons.mpr ⟨slash, ?_⟩)
      exact fun d member => (isOrdinary_iff.mp (inside d member)).1

/-- Between quotation marks no bracket begins a tag that does not begin one in the text. -/
theorem tagAt?_bracket_quoted {text : List Char} (absent : tagAt? ('[' :: text) = none) :
    tagAt? ('[' :: text.flatMap (quotedCharacter mark)) = none := by
  have kept : ∀ rest : List Char, ('[' :: rest).dropWhile (· == backslash) = '[' :: rest :=
    fun rest => List.dropWhile_cons_of_neg (by decide)
  rw [tagAt?_eq_none_iff, kept] at absent ⊢
  intro d behind opening opens
  cases text with
  | nil => cases opening
  | cons c rest =>
    have form := quotedForm ordinary c
    rw [List.flatMap_cons] at opening
    generalize quotedCharacter mark c = front at form opening
    cases form with
    | itself plain =>
      rw [List.singleton_append] at opening
      cases opening
      rw [firstBracket_quoted ordinary]
      exact absent d rest rfl opens
    | doubled =>
      cases opening
      cases opens
    | escaped unbracketed inside =>
      cases opening
      cases opens

/-- Between quotation marks a text begins with a bracket only if it does so itself. -/
theorem head?_of_quoted {text : List Char}
    (bracket : (text.flatMap (quotedCharacter mark)).head? = some '[') :
    text.head? = some '[' := by
  cases text with
  | nil => cases bracket
  | cons c rest =>
    have form := quotedForm ordinary c
    rw [List.flatMap_cons] at bracket
    generalize quotedCharacter mark c = front at form bracket
    cases form with
    | itself plain => exact bracket
    | doubled => cases bracket
    | escaped unbracketed inside => cases bracket

/-- A literal text stays literal when it is escaped. -/
theorem isLiteral_escaped {text : List Char} (literal : isLiteral text = true) :
    isLiteral (text.flatMap (quotedCharacter mark)) = true := by
  induction text with
  | nil => rfl
  | cons c rest ih =>
    obtain ⟨untagged, slash, behind⟩ := isLiteral_cons_iff.mp literal
    have escaped := ih behind
    have form := quotedForm ordinary c
    rw [List.flatMap_cons]
    generalize quotedCharacter mark c = front at form
    cases form with
    | itself plain =>
      refine isLiteral_cons_iff.mpr ⟨?_, fun both => plain both.1, escaped⟩
      by_cases bracket : c = '['
      · subst bracket
        exact tagAt?_bracket_quoted ordinary untagged
      · exact tagAt?_of_other plain bracket _
    | doubled =>
      -- of two backslashes only the second stands in front of what follows
      have single : isLiteral (backslash :: rest.flatMap (quotedCharacter mark)) = true :=
        isLiteral_cons_iff.mpr ⟨tagAt?_slash_iff.mpr (tagAt?_of_literal escaped),
          fun both => slash ⟨rfl, head?_of_quoted ordinary both.2⟩, escaped⟩
      refine isLiteral_cons_iff.mpr ⟨tagAt?_slash_iff.mpr (tagAt?_of_literal single), ?_, single⟩
      rintro ⟨-, bracket⟩
      cases bracket
    | @escaped _ d others unbracketed inside =>
      have first := inside d List.mem_cons_self
      refine isLiteral_cons_iff.mpr ⟨tagAt?_slash_iff.mpr (tagAt?_eq_none_of_ordinary first _), ?_,
        isLiteral_append inside escaped⟩
      rintro ⟨-, bracket⟩
      obtain rfl := Option.some.inj bracket
      cases first

end

/-- A literal text is literal between quotation marks. -/
theorem isLiteral_quoted {text : String} (literal : isLiteral text.toList = true) :
    isLiteral (quoted text).toList = true := by
  have ordinary : isOrdinary (surroundingMark text.toList) = true := by
    unfold surroundingMark
    split <;> decide
  have around : ∀ c ∈ [surroundingMark text.toList], isOrdinary c = true :=
    List.forall_mem_singleton.mpr ordinary
  rw [quoted, String.toList_ofList, List.cons_append]
  exact isLiteral_append around
    (isLiteral_append_ordinary around (isLiteral_escaped ordinary literal))

/-- Backslashes that are doubled and marks that are escaped make no markup. -/
example : isLiteral (quoted "a\\b 'c' \"d\" [1]").toList = true := by
  decide +kernel

end SearchBar.Console
