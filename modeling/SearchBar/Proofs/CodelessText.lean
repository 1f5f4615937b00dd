import SearchBar.Console.Markup
import SearchBar.Proofs.Boundary

/-!
# Texts without codes

A code needs two colons in one word. A text is sparse if none of its words holds
two, so that no code stands in it, whatever names there are; and texts stay sparse
when they are put together at a blank, or when one of them holds no colon.

Codes are read in what is shown between two tags, so they do not change which
tags there are, nor what stands behind them.

Main statements: `isCodeless_of_sparse`, `replacePieces_shown`,
`replacePieces_tag`.
-/

namespace SearchBar.Console

open Text

/-- No word of the text holds two colons. -/
def isSparse : List Char → Bool
  | [] => true
  | c :: rest =>
    !(c == ':' && (rest.dropWhile isCodeCharacter).head? == some ':') && isSparse rest

/-- The condition on every place. -/
theorem isSparse_cons_iff {c : Char} {rest : List Char} :
    isSparse (c :: rest) = true ↔
      (c = ':' → (rest.dropWhile isCodeCharacter).head? ≠ some ':') ∧ isSparse rest = true := by
  simp [isSparse, imp_iff_not_or]

/-- In a sparse text no code stands. -/
theorem isCodeless_of_sparse {text : List Char} (sparse : isSparse text = true) :
    IsCodeless text := by
  show replaceCodes text = text
  induction text with
  | nil => rw [replaceCodes]
  | cons c rest ih =>
    obtain ⟨lone, behind⟩ := isSparse_cons_iff.mp sparse
    rw [replaceCodes_cons lone, ih behind]

/-- A text without colons is sparse. -/
theorem isSparse_of_no_colon {text : List Char} (absent : ':' ∉ text) : isSparse text = true := by
  induction text with
  | nil => rfl
  | cons c rest ih =>
    have first := List.ne_of_not_mem_cons absent
    have others := List.not_mem_of_not_mem_cons absent
    exact isSparse_cons_iff.mpr ⟨fun colon => absurd colon.symm first, ih others⟩

/-- A sparse text stays sparse behind a text without colons. -/
theorem isSparse_append {front rest : List Char} (absent : ':' ∉ front)
    (sparse : isSparse rest = true) : isSparse (front ++ rest) = true := by
  induction front with
  | nil => exact sparse
  | cons c front ih =>
    have first := List.ne_of_not_mem_cons absent
    have others := List.not_mem_of_not_mem_cons absent
    exact isSparse_cons_iff.mpr ⟨fun colon => absurd colon.symm first, ih others⟩

/-- What ends a word is found in the text, or else in what stands behind it. -/
theorem head?_dropWhile_cases (member : Char → Bool) (text behind : List Char) :
    ((text ++ behind).dropWhile member).head? = (text.dropWhile member).head? ∨
      ((text ++ behind).dropWhile member).head? = (behind.dropWhile member).head? := by
  rw [List.dropWhile_append]
  split
  · exact Or.inr rfl
  · rename_i present
    cases left : text.dropWhile member with
    | nil => exact absurd (by rw [left]; rfl) present
    | cons c rest => exact Or.inl rfl

/-- Two sparse texts are sparse together, if the second does not end a word of the first with a
colon. -/
theorem isSparse_append_of {text behind : List Char} (first : isSparse text = true)
    (second : isSparse behind = true)
    (ends : (behind.dropWhile isCodeCharacter).head? ≠ some ':') :
    isSparse (text ++ behind) = true := by
  induction text with
  | nil => exact second
  | cons c rest ih =>
    obtain ⟨lone, others⟩ := isSparse_cons_iff.mp first
    rw [List.cons_append]
    refine isSparse_cons_iff.mpr ⟨?_, ih others⟩
    intro colon
    rcases head?_dropWhile_cases isCodeCharacter rest behind with same | same
    · rw [same]
      exact lone colon
    · rw [same]
      exact ends

/-- A sparse text stays sparse in front of a text without colons. -/
theorem isSparse_append_plain {text behind : List Char} (absent : ':' ∉ behind)
    (sparse : isSparse text = true) : isSparse (text ++ behind) = true := by
  apply isSparse_append_of sparse (isSparse_of_no_colon absent)
  intro found
  exact absent ((List.dropWhile_suffix isCodeCharacter).subset (List.mem_of_head? found))

/-- Two sparse texts are sparse with a blank between them. -/
theorem isSparse_append_blank {text behind : List Char} {c : Char} (blank : isBlank c = true)
    (first : isSparse text = true) (second : isSparse behind = true) :
    isSparse (text ++ c :: behind) = true := by
  have notColon : c ≠ ':' := by
    rintro rfl
    exact absurd blank (by decide)
  apply isSparse_append_of first
  · exact isSparse_cons_iff.mpr ⟨fun colon => absurd colon notColon, second⟩
  · rw [List.dropWhile_cons_of_neg (by simp [isCodeCharacter, blank])]
    exact fun found => notColon (Option.some.inj found)

/-- Characters that are shown belong to the run in front of the first seam or tag. -/
theorem splitRun_append (text : List Char) (behind : List Piece) :
    splitRun (text.map .shown ++ behind) =
      (text ++ (splitRun behind).1, (splitRun behind).2) := by
  induction text with
  | nil => rfl
  | cons c rest ih => rw [List.map_cons, List.cons_append, splitRun, ih, List.cons_append]

/-- In a text without tags the codes are replaced. -/
theorem replacePieces_shown (text : List Char) :
    replacePieces (text.map .shown) = (replaceCodes text).map .shown := by
  have run := splitRun_append text []
  rw [List.append_nil] at run
  simp only [replacePieces, run, splitRun, List.append_nil]

/-- In front of a tag and behind it the codes are replaced apart. -/
theorem replacePieces_tag (text content : List Char) (behind : List Piece) :
    replacePieces (text.map .shown ++ .tag content :: behind) =
      (replaceCodes text).map .shown ++ .tag content :: replacePieces behind := by
  simp only [replacePieces, splitRun_append, splitRun, List.append_nil]

/-- Colons in different words make no code. In one word they may. -/
example : isSparse "a:b c: :d".toList = true ∧ isSparse "a:b:".toList = false := by decide

end SearchBar.Console
