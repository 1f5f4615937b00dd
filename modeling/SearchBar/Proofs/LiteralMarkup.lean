import SearchBar.Console.Lines
import SearchBar.Proofs.CodelessText

/-!
# Texts without markup

A text is literal if no tag begins anywhere in it and no backslash stands in
front of a bracket. Nothing in such a text is taken for markup, so that it is
shown as it is but for the codes in it, whether or not markup is looked for. Texts
stay literal when something without brackets and backslashes is put around them.

Main statements: a literal text stands for its characters, with the emoji in the
place of their codes (`markedText_literal`), and is shown like one in which no
markup is looked for (`shownMarkup_literal`). If it also holds nothing that moves
the cursor, it is shown letter by letter (`shownText_still`).
-/

namespace SearchBar.Console

open Text

/-- No tag begins at any place of the text, and no backslash stands in front of a bracket. -/
def isLiteral : List Char → Bool
  | [] => true
  | c :: rest =>
    (tagAt? (c :: rest)).isNone && !(c == backslash && rest.head? == some '[') && isLiteral rest

/-- A character that has no part in markup. -/
def isOrdinary (c : Char) : Bool := !isBracket c && c != backslash

/-- The two conditions on every place. -/
theorem isLiteral_cons_iff {c : Char} {rest : List Char} :
    isLiteral (c :: rest) = true ↔
      tagAt? (c :: rest) = none ∧ ¬ (c = backslash ∧ rest.head? = some '[') ∧
        isLiteral rest = true := by
  simp only [isLiteral, Bool.and_eq_true, Option.isNone_iff_eq_none, Bool.not_eq_true',
    Bool.eq_false_iff, ne_eq, beq_iff_eq, and_assoc]

/-- What stands behind a place of a literal text is literal. -/
theorem isLiteral_of_append {front rest : List Char} (literal : isLiteral (front ++ rest) = true) :
    isLiteral rest = true := by
  induction front with
  | nil => exact literal
  | cons c front ih => exact ih (isLiteral_cons_iff.mp literal).2.2

/-- An ordinary character is no bracket and no backslash. -/
theorem isOrdinary_iff {c : Char} :
    isOrdinary c = true ↔ isBracket c = false ∧ c ≠ backslash := by
  simp [isOrdinary]

/-- A class without brackets and backslashes has ordinary members only. -/
theorem isOrdinary_of_class {member : Char → Bool} (opening : member '[' = false)
    (closing : member ']' = false) (slash : member backslash = false) {c : Char}
    (inside : member c = true) : isOrdinary c = true := by
  have apart : ∀ d : Char, member d = false → c ≠ d := by
    rintro d outside rfl
    rw [inside] at outside
    cases outside
  simp [isOrdinary, isBracket, apart '[' opening, apart ']' closing, apart backslash slash]

/-- No tag is found exactly if no bracket with a name behind it is closed. -/
theorem tagAt?_eq_none_iff {text : List Char} :
    tagAt? text = none ↔
      ∀ c rest, text.dropWhile (· == backslash) = '[' :: c :: rest → opensTag c = true →
        (rest.dropWhile fun c => !isBracket c).head? ≠ some ']' := by
  unfold tagAt?
  constructor
  · intro absent c rest opening opens closed
    obtain ⟨behind, closing⟩ := List.head?_eq_some_iff.mp closed
    simp only [opening, opens, closing, if_true] at absent
    cases absent
  · intro endless
    split
    · rename_i c rest opening
      split
      · rename_i opens
        split
        · rename_i closing
          exact absurd (congrArg List.head? closing) (endless c rest opening opens)
        · rfl
      · rfl
    · rfl

/-- A tag begins with a backslash or with a bracket. -/
theorem tagAt?_eq_none_of_ordinary {c : Char} (ordinary : isOrdinary c = true) (rest : List Char) :
    tagAt? (c :: rest) = none := by
  obtain ⟨bracket, slash⟩ := isOrdinary_iff.mp ordinary
  rw [tagAt?_eq_none_iff, List.dropWhile_cons_of_neg (by simpa using slash)]
  rintro d behind opening
  cases opening
  cases bracket

/-- A run goes on or ends in a text as it does with more of the run behind the text. -/
theorem head?_dropWhile_append {member : Char → Bool} {behind : List Char}
    (inside : ∀ c ∈ behind, member c = true) (text : List Char) :
    ((text ++ behind).dropWhile member).head? = (text.dropWhile member).head? := by
  induction text with
  | nil => rw [List.nil_append, List.dropWhile_eq_nil_iff.mpr inside, List.dropWhile_nil]
  | cons c rest ih =>
    by_cases first : member c = true
    · rw [List.cons_append, List.dropWhile_cons_of_pos first, List.dropWhile_cons_of_pos first, ih]
    · rw [List.cons_append, List.dropWhile_cons_of_neg first, List.dropWhile_cons_of_neg first]
      rfl

/-- Ordinary characters behind a text complete no tag of it. -/
theorem tagAt?_append_ordinary {text behind : List Char}
    (ordinary : ∀ c ∈ behind, isOrdinary c = true) (absent : tagAt? text = none) :
    tagAt? (text ++ behind) = none := by
  have brackets : ∀ c ∈ behind, isBracket c = false :=
    fun c member => (isOrdinary_iff.mp (ordinary c member)).1
  have inside : ∀ c ∈ behind, (!isBracket c) = true := by
    intro c member
    rw [brackets c member]
    rfl
  have slashes : StopsAt (· == backslash) behind := by
    intro c found
    have apart := (isOrdinary_iff.mp (ordinary c (List.mem_of_head? found))).2
    simpa using apart
  rw [tagAt?_eq_none_iff] at absent ⊢
  intro c rest opening opens
  rw [dropWhile_append_boundary slashes] at opening
  -- the bracket and the first character of the name may lie in the text or behind it
  match front : text.dropWhile (· == backslash), opening with
  | [], opening =>
    have inBehind : '[' ∈ behind := by
      rw [← List.nil_append behind, opening]
      exact List.mem_cons_self
    cases brackets '[' inBehind
  | [_], opening =>
    obtain ⟨-, rfl⟩ := List.cons.inj opening
    rw [List.dropWhile_eq_nil_iff.mpr fun d member => inside d (List.mem_cons_of_mem c member)]
    simp
  | _ :: _ :: within, opening =>
    obtain ⟨rfl, tail⟩ := List.cons.inj opening
    obtain ⟨rfl, rfl⟩ := List.cons.inj tail
    have endless := absent _ within front opens
    rw [← head?_dropWhile_append inside within] at endless
    exact endless

/-- What a run leaves of a text goes on with what stands behind the text. -/
theorem dropWhile_append_left {member : Char → Bool} {text left : List Char} {c : Char}
    (found : text.dropWhile member = c :: left) (behind : List Char) :
    (text ++ behind).dropWhile member = c :: (left ++ behind) := by
  rw [List.dropWhile_append, found]
  rfl

/-- A tag of a text stands in front of whatever follows. -/
theorem tagAt?_of_append {text behind : List Char} (absent : tagAt? (text ++ behind) = none) :
    tagAt? text = none := by
  rw [tagAt?_eq_none_iff] at absent ⊢
  intro c rest opening opens closed
  obtain ⟨tail, closing⟩ := List.head?_eq_some_iff.mp closed
  apply absent c (rest ++ behind) (dropWhile_append_left opening behind) opens
  rw [dropWhile_append_left closing]
  rfl

/-- Ordinary characters are literal. -/
theorem isLiteral_of_ordinary {text : List Char} (ordinary : ∀ c ∈ text, isOrdinary c = true) :
    isLiteral text = true := by
  induction text with
  | nil => rfl
  | cons c rest ih =>
    have first := ordinary c List.mem_cons_self
    refine isLiteral_cons_iff.mpr ⟨tagAt?_eq_none_of_ordinary first rest, ?_,
      ih fun d member => ordinary d (List.mem_cons_of_mem c member)⟩
    exact fun both => (isOrdinary_iff.mp first).2 both.1

/-- What stands in front of a place of a literal text is literal. -/
theorem isLiteral_of_append_left {text behind : List Char}
    (literal : isLiteral (text ++ behind) = true) : isLiteral text = true := by
  induction text with
  | nil => rfl
  | cons c rest ih =>
    obtain ⟨tag, slash, inside⟩ := isLiteral_cons_iff.mp literal
    refine isLiteral_cons_iff.mpr ⟨tagAt?_of_append tag, ?_, ih inside⟩
    rintro ⟨same, bracket⟩
    obtain ⟨others, rfl⟩ := List.head?_eq_some_iff.mp bracket
    exact slash ⟨same, rfl⟩

/-- A literal text stays literal behind ordinary characters. -/
theorem isLiteral_append {front rest : List Char} (ordinary : ∀ c ∈ front, isOrdinary c = true)
    (literal : isLiteral rest = true) : isLiteral (front ++ rest) = true := by
  induction front with
  | nil => exact literal
  | cons c front ih =>
    have first := ordinary c List.mem_cons_self
    refine isLiteral_cons_iff.mpr ⟨tagAt?_eq_none_of_ordinary first _, ?_,
      ih fun d member => ordinary d (List.mem_cons_of_mem c member)⟩
    exact fun both => (isOrdinary_iff.mp first).2 both.1

/-- A literal text stays literal in front of ordinary characters. -/
theorem isLiteral_append_ordinary {text behind : List Char}
    (ordinary : ∀ c ∈ behind, isOrdinary c = true) (literal : isLiteral text = true) :
    isLiteral (text ++ behind) = true := by
  induction text with
  | nil => exact isLiteral_of_ordinary ordinary
  | cons c rest ih =>
    obtain ⟨tag, slash, behindLiteral⟩ := isLiteral_cons_iff.mp literal
    refine isLiteral_cons_iff.mpr ⟨tagAt?_append_ordinary ordinary tag, ?_, ih behindLiteral⟩
    rintro ⟨same, bracket⟩
    cases rest with
    | nil =>
      have first := isOrdinary_iff.mp (ordinary '[' (List.mem_of_head? bracket))
      cases first.1
    | cons d rest => exact slash ⟨same, bracket⟩

/-- Where no tag begins, a character is a piece of its own, if it is no backslash in front of a
bracket. -/
theorem pieces_cons {c : Char} {rest : List Char} (untagged : tagAt? (c :: rest) = none)
    (slash : ¬ (c = backslash ∧ rest.head? = some '[')) :
    pieces (c :: rest) = .shown c :: pieces rest := by
  have front : shownFront? (c :: rest) = some (c, rest) := by
    unfold shownFront?
    split
    · rename_i same
      cases same
    · rename_i same
      cases same
      exact absurd ⟨rfl, rfl⟩ slash
    · rename_i same
      cases same
      rfl
  rw [pieces]
  split
  · rename_i found
    rw [untagged] at found
    cases found
  · split
    · rename_i found
      rw [front] at found
      cases found
      rfl
    · rename_i found
      rw [front] at found
      cases found

/-- A literal text has only characters that are shown. -/
theorem pieces_literal {text : List Char} (literal : isLiteral text = true) :
    pieces text = text.map .shown := by
  induction text with
  | nil =>
    unfold pieces
    rfl
  | cons c rest ih =>
    obtain ⟨tag, slash, behind⟩ := isLiteral_cons_iff.mp literal
    rw [pieces_cons tag slash, ih behind, List.map_cons]

/-- Characters that are shown stand for themselves, but for the controls that move the cursor. -/
theorem textOfPieces_shown (place : Nat) (text : List Char) :
    textOfPieces place [] (text.map .shown) = .ok ⟨settled text, []⟩ := by
  induction text generalizing place with
  | nil => rfl
  | cons c rest ih =>
    rw [List.map_cons, textOfPieces]
    by_cases moves : movesCursor c = true
    · rw [if_pos moves, ih, settled, settled, List.filter_cons_of_neg (by simpa using moves)]
    · rw [if_neg moves, ih, settled, settled, List.filter_cons_of_pos (by simpa using moves)]
      rfl

/-- A literal text stands for its characters, with the emoji in the place of their codes. -/
theorem markedText_literal {markup : String} (literal : isLiteral markup.toList = true) :
    markedText markup = .ok ⟨settled (replaceCodes markup.toList), []⟩ := by
  rw [markedText, pieces_literal literal, replacePieces_shown, textOfPieces_shown]

/-- The pieces of a text with no style in it have none. -/
theorem StyledText.spread_unstyled (gap start : Nat) (found : List (List Char)) :
    spread gap start [] found = found.map fun piece => ⟨piece, []⟩ := by
  induction found generalizing start with
  | nil => rfl
  | cons piece found ih => rw [spread, ih, List.map_cons]; rfl

/-- The lines of a text with no style in it have none. -/
theorem StyledText.lines_unstyled (characters : List Char) :
    (⟨characters, []⟩ : StyledText).lines =
      (linesOf characters).map fun line => ⟨expandTabs 0 line, []⟩ := by
  have divided : (⟨characters, []⟩ : StyledText).divide 1 (linesOf characters) =
      (linesOf characters).map fun line => ⟨line, []⟩ := by
    unfold StyledText.divide
    split
    · rename_i single
      rw [single]
      rfl
    · exact spread_unstyled 1 0 _
  rw [StyledText.lines, divided, List.map_map]
  apply List.map_congr_left
  intro line _
  have kept := (⟨line, []⟩ : StyledText).characters_withoutTabs
  simp only [Function.comp_apply, StyledText.withoutTabs] at kept ⊢
  split
  · rfl
  · rename_i tabless
    rw [if_neg tabless] at kept
    rw [← kept]

/-- A literal text is shown like one in which no markup is looked for, with the emoji in the place
of their codes. -/
theorem shownMarkup_literal {markup : String} (literal : isLiteral markup.toList = true) :
    shownMarkup markup = .ok (shownText (replaceCodes markup.toList)) := by
  generalize shownAs : replaceCodes markup.toList = text
  have marked := markedText_literal literal
  rw [shownAs] at marked
  have readable : ((linesOf (settled text)).map fun line =>
      (⟨expandTabs 0 line, []⟩ : StyledText)).all StyledText.isReadable = true := by
    rw [List.all_map, List.all_eq_true]
    intro line _
    rfl
  have shown : ((linesOf (settled text)).map fun line =>
      (⟨expandTabs 0 line, []⟩ : StyledText)).map StyledText.characters =
        (linesOf (settled text)).map (expandTabs 0) := by
    rw [List.map_map]
    rfl
  simp only [shownMarkup, marked, StyledText.lines_unstyled, bind, Except.bind, readable, if_true,
    shown]
  rfl

/-- A character that is shown in its place: no new line, no tab, and no control that moves the
cursor. -/
def isStill (c : Char) : Bool := !movesCursor c && c != '\n' && c != '\t'

/-- The three conditions on a character that is shown in its place. -/
theorem isStill_iff {c : Char} :
    isStill c = true ↔ movesCursor c = false ∧ c ≠ '\n' ∧ c ≠ '\t' := by
  simp [isStill, and_assoc]

/-- Only controls are not shown in their place. -/
theorem isStill_of_space_le {c : Char} (low : 32 ≤ c.toNat) : isStill c = true := by
  have apart : ∀ d : Char, d.toNat < 32 → c ≠ d := by
    rintro d below rfl
    exact Nat.not_lt.mpr low below
  simp [isStill, movesCursor, apart '\x07' (by decide), apart '\x08' (by decide),
    apart '\x0b' (by decide), apart '\x0c' (by decide), apart '\x0d' (by decide),
    apart '\n' (by decide), apart '\t' (by decide)]

/-- Nothing is taken out of a text that is shown in its place. -/
theorem settled_still {text : List Char} (still : ∀ c ∈ text, isStill c = true) :
    settled text = text := by
  apply List.filter_eq_self.mpr
  intro c member
  rw [(isStill_iff.mp (still c member)).1]
  rfl

/-- A text that is shown in its place is one line, and stays as it is. -/
theorem lines_still {text : List Char} (still : ∀ c ∈ text, isStill c = true) :
    (linesOf text).map (expandTabs 0) = [text] := by
  have oneLine : '\n' ∉ text := fun member => (isStill_iff.mp (still _ member)).2.1 rfl
  have tabless : '\t' ∉ text := fun member => (isStill_iff.mp (still _ member)).2.2 rfl
  rw [linesOf_eq_singleton oneLine, List.map_singleton, expandTabs_eq_self tabless]

/-- A text that is shown in its place has a new line behind it. -/
theorem shownText_still {text : List Char} (still : ∀ c ∈ text, isStill c = true) :
    shownText text = String.ofList text ++ "\n" := by
  have newLine : "\n".toList = ['\n'] := rfl
  rw [shownText, settled_still still, lines_still still, joinLines, List.flatMap_singleton,
    ← String.toList_inj, String.toList_append, String.toList_ofList, String.toList_ofList, newLine]

/-- Brackets without a name between them are no markup, and neither is a bracket that is not
closed. -/
example : isLiteral "[1] [a [] ]".toList = true ∧ isLiteral "a[b]".toList = false := by
  decide +kernel

end SearchBar.Console
