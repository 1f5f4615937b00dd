import SearchBar.Console.Table
import SearchBar.Proofs.Counting
import SearchBar.Proofs.LiteralMarkup

/-!
# Markup that cannot be read

A closing tag closes a style that is open. In a text whose first tag is a closing
one no style is, so that the text cannot be read, and no table can show it.

Main statements: `markedText_closing` and `shownTable_unreadable`.
-/

namespace SearchBar.Console

open Text

/-- A closing tag is found with its name. -/
theorem tagAt?_closing {name : List Char} (unbracketed : ∀ c ∈ name, isBracket c = false)
    (rest : List Char) :
    tagAt? ('[' :: '/' :: (name ++ ']' :: rest)) = some (0, '/' :: name, rest) := by
  have inside : ∀ c ∈ name, (!isBracket c) = true := by
    intro c member
    rw [unbracketed c member]
    rfl
  have stops : StopsAt (fun c => !isBracket c) (']' :: rest) := stopsAt_cons.mpr rfl
  have opens : opensTag '/' = true := by decide
  have unslashed : ('[' == backslash) = false := by decide
  simp [tagAt?, unslashed, opens, takeWhile_run inside stops, dropWhile_run inside stops]

/-- A closing tag is a piece of its own. -/
theorem pieces_closing {name : List Char} (unbracketed : ∀ c ∈ name, isBracket c = false)
    (rest : List Char) :
    pieces ('[' :: '/' :: (name ++ ']' :: rest)) = .tag ('/' :: name) :: pieces rest := by
  rw [pieces]
  split
  · rename_i found
    rw [tagAt?_closing unbracketed] at found
    cases found
    rfl
  · rename_i untagged
    rw [tagAt?_closing unbracketed] at untagged
    cases untagged

/-- Ordinary characters are pieces of their own. -/
theorem pieces_ordinary {front : List Char} (ordinary : ∀ c ∈ front, isOrdinary c = true)
    (rest : List Char) : pieces (front ++ rest) = front.map .shown ++ pieces rest := by
  induction front with
  | nil => rfl
  | cons c front ih =>
    have first := ordinary c List.mem_cons_self
    have others := ih fun d member => ordinary d (List.mem_cons_of_mem c member)
    have slash := (isOrdinary_iff.mp first).2
    rw [List.cons_append, pieces_cons (tagAt?_eq_none_of_ordinary first _) fun both => slash both.1,
      others]
    rfl

/-- With no style open there is nothing to close. -/
theorem takeClosed_nothing_open (name : List Char) : ∃ fault, takeClosed name [] = .error fault := by
  unfold takeClosed
  by_cases unnamed : name.isEmpty = true
  · rw [if_pos unnamed]
    exact ⟨.nothingToClose, rfl⟩
  · rw [if_neg unnamed]
    cases normalName name with
    | error fault => exact ⟨fault, rfl⟩
    | ok name => exact ⟨.nothingToClose, rfl⟩

/-- Pieces of which the first tag is a closing one make up no text. -/
theorem textOfPieces_closing (place : Nat) (front name : List Char) (behind : List Piece) :
    ∃ fault, textOfPieces place [] (front.map .shown ++ .tag ('/' :: name) :: behind) =
      .error fault := by
  -- characters that are shown open no style, so none is open when the tag comes
  induction front generalizing place with
  | nil =>
    obtain ⟨fault, stopped⟩ := takeClosed_nothing_open (trim (splitTag name).1)
    have split : splitTag ('/' :: name) = ('/' :: (splitTag name).1, (splitTag name).2) := by
      simp [splitTag]
    refine ⟨fault, ?_⟩
    rw [List.map_nil, List.nil_append, textOfPieces, applyTag, split]
    simp only [stopped, bind, Except.bind]
  | cons c front ih =>
    rw [List.map_cons, List.cons_append, textOfPieces]
    by_cases moves : movesCursor c = true
    · rw [if_pos moves]
      exact ih place
    · obtain ⟨fault, stopped⟩ := ih (place + 1)
      rw [if_neg moves, stopped]
      exact ⟨fault, rfl⟩

/-- A text with a closing tag behind ordinary characters cannot be read. -/
theorem markedText_closing {text : String} {front name rest : List Char}
    (ordinary : ∀ c ∈ front, isOrdinary c = true) (unbracketed : ∀ c ∈ name, isBracket c = false)
    (parts : text.toList = front ++ '[' :: '/' :: (name ++ ']' :: rest)) :
    ∃ fault, markedText text = .error fault := by
  rw [markedText, parts, pieces_ordinary ordinary, pieces_closing unbracketed, replacePieces_tag]
  exact textOfPieces_closing 0 (replaceCodes front) name (replacePieces (pieces rest))

/-- A table with a text that cannot be read below one of its titles is not shown. -/
theorem shownTable_unreadable {columns : List Column} {rows : List (List String)}
    {row : List String} (listed : row ∈ rows) {place : Nat} (inside : place < columns.length)
    {text : String} (found : row[place]? = some text) {fault : MarkupFault}
    (unread : markedText text = .error fault) : ∃ fault, shownTable columns rows = .error fault := by
  have below : text ∈ textsBelow rows place := List.mem_filterMap.mpr ⟨row, listed, found⟩
  obtain ⟨fault, column⟩ := mapM_eq_error below unread
  have contents : ∃ fault, ((List.range columns.length).mapM fun place =>
      (textsBelow rows place).mapM markedText) = .error fault :=
    mapM_eq_error (List.mem_range.mpr inside) column
  obtain ⟨fault, stopped⟩ := contents
  exact ⟨fault, by simp only [shownTable, stopped, bind, Except.bind]⟩

end SearchBar.Console
