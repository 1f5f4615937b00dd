import Mathlib.Data.List.GetD
import SearchBar.Console.Table
import SearchBar.Proofs.Counting
import SearchBar.Proofs.LiteralMarkup

/-!
# Tables of literal texts

A column is as wide as its widest text, so none of its texts is broken, trimmed
or cut. A table whose texts hold no markup, no codes of emoji, no line breaks and
no blank at their ends therefore shows every text as it is, filled with spaces to
the width of its column: one line for the titles, and one line for every row.

Main statement: `shownTable_literal`.
-/

namespace SearchBar.Console

open Text

variable {α : Type}

/-- The characters that are not shown in their place: tabs, controls that move the cursor, and what
ends a line. -/
def restless : List Char :=
  ['\x07', '\x08', '\t', '\n', '\x0b', '\x0c', '\x0d', '\x1c', '\x1d', '\x1e', '\u0085', '\u2028',
    '\u2029']

/-- A character that is shown in its place. -/
def isCalm (c : Char) : Bool := !restless.contains c

/-- Such a character is not one of the others. -/
theorem isCalm_iff {c : Char} : isCalm c = true ↔ c ∉ restless := by
  simp [isCalm]

/-- Such a character does not move the cursor. -/
theorem isStill_of_isCalm {c : Char} (calm : isCalm c = true) : isStill c = true := by
  simp only [isCalm_iff, restless, List.mem_cons, List.not_mem_nil, or_false, not_or] at calm
  simp [isStill, movesCursor, calm]

/-- Such a character ends no line. -/
theorem undivided_of_isCalm {c : Char} (calm : isCalm c = true) : dividesWidth c = false := by
  simp only [isCalm_iff, restless, List.mem_cons, List.not_mem_nil, or_false, not_or] at calm
  simp [dividesWidth, calm]

/-- A class without restless characters has calm members only. -/
theorem isCalm_of_class {member : Char → Bool} (none : restless.all (fun d => !member d) = true)
    {c : Char} (inside : member c = true) : isCalm c = true := by
  rw [isCalm_iff]
  intro listed
  have outside := List.all_eq_true.mp none c listed
  rw [inside] at outside
  cases outside

/-- A text that a column shows as it is, if the column is wide enough. -/
structure IsCell (text : List Char) : Prop where
  /-- It holds no markup. -/
  literal : isLiteral text = true
  /-- It holds no code of an emoji. -/
  codeless : IsCodeless text
  /-- Every character is shown in its place. -/
  calm : ∀ c ∈ text, isCalm c = true
  /-- No blank stands at its end. -/
  closed : ∀ c ∈ text.getLast?, isBlank c = false

/-- No character of a cell moves the cursor. -/
theorem IsCell.still {text : List Char} (cell : IsCell text) : ∀ c ∈ text, isStill c = true :=
  fun c member => isStill_of_isCalm (cell.calm c member)

/-- A cell is one line. -/
theorem IsCell.undivided {text : List Char} (cell : IsCell text) :
    ∀ c ∈ text, dividesWidth c = false :=
  fun c member => undivided_of_isCalm (cell.calm c member)

/-- A character of cells wherever it stands: neither blank nor restless, and of no markup or code. -/
def isCellCharacter (c : Char) : Bool := isOrdinary c && isSolid c && isCalm c && c != ':'

/-- Such characters make up a cell. -/
theorem isCell_of_characters {text : List Char} (made : ∀ c ∈ text, isCellCharacter c = true) :
    IsCell text := by
  simp only [isCellCharacter, Bool.and_eq_true, bne_iff_ne] at made
  constructor
  · exact isLiteral_of_ordinary fun c member => (made c member).1.1.1
  · have absent : ':' ∉ text := fun member => (made _ member).2 rfl
    exact isCodeless_of_sparse (isSparse_of_no_colon absent)
  · exact fun c member => (made c member).1.2
  · exact fun c last => isSolid_eq_true_iff.mp (made c (List.mem_of_getLast? last)).1.1.2

/-- One line is as wide as it is long. -/
theorem widthOf_undivided {text : List Char} (undivided : ∀ c ∈ text, dividesWidth c = false) :
    widthOf text = cells text := by
  have oneLine : text.splitOnP dividesWidth = [text] :=
    List.splitOnP_eq_singleton fun c member => by rw [undivided c member]
  rw [widthOf, oneLine, List.map_singleton, List.foldl_cons, List.foldl_nil, Nat.zero_max]

/-- Seen from its end, a text that ends with no blank begins with none. -/
theorem stopsAt_reverse {text : List Char} (closed : ∀ c ∈ text.getLast?, isBlank c = false) :
    StopsAt isBlank text.reverse := by
  intro c found
  rw [List.head?_reverse] at found
  exact closed c found

/-- Nothing is trimmed from a text that ends with no blank. -/
theorem trimEnd_closed {text : List Char} (closed : ∀ c ∈ text.getLast?, isBlank c = false) :
    trimEnd text = text := by
  have kept := dropWhile_append_boundary (stopsAt_reverse closed) []
  rw [List.nil_append, List.dropWhile_nil, List.nil_append] at kept
  rw [trimEnd, kept, List.reverse_reverse]

/-- No blank is too many in a text that ends with none. -/
theorem trimExcess_closed {text : List Char} (closed : ∀ c ∈ text.getLast?, isBlank c = false)
    (width : Nat) : trimExcess width text = text := by
  have none := takeWhile_append_boundary (stopsAt_reverse closed) []
  rw [List.nil_append, List.takeWhile_nil] at none
  rw [trimExcess, blankEnd, none, List.length_nil, Nat.zero_min, Nat.sub_zero, List.take_length]

/-- A text without the blanks at its end takes no more cells. -/
theorem cells_trimEnd_le (text : List Char) : cells (trimEnd text) ≤ cells text := by
  have whole : trimEnd text ++ (text.reverse.takeWhile isBlank).reverse = text := by
    rw [trimEnd, ← List.reverse_append, List.takeWhile_append_dropWhile, List.reverse_reverse]
  have sum := congrArg cells whole
  rw [cells_append] at sum
  omega

/-- Words that all fit are put on one line. -/
theorem fill_fits {width used : Nat} {words : List (List Char)}
    (fits : used + cells words.flatten ≤ width) (line : List Char) :
    fill width line used words = [line ++ words.flatten] := by
  induction words generalizing used line with
  | nil => rw [fill, List.flatten_nil, List.append_nil]
  | cons word words ih =>
    rw [List.flatten_cons, cells_append] at fits
    have trimmed := cells_trimEnd_le word
    rw [fill, if_pos (by omega), ih (by omega), List.flatten_cons, List.append_assoc]

/-- A line that fits is not broken. -/
theorem breakLine_fits {width : Nat} {line : List Char} (fits : cells line ≤ width) :
    breakLine width line = [line] := by
  -- the words of a line make up the line, so they fit together if the line fits
  have whole := flatten_breakLine width line
  unfold breakLine at whole ⊢
  split
  · rfl
  · rename_i word words found
    rw [found] at whole
    simp only [flatten_fill] at whole
    have size := congrArg cells whole
    rw [cells_append] at size
    rw [fill_fits (by omega), whole]

/-- A text put in the place of itself is the same. -/
theorem StyledText.replace_self (text : StyledText) : text.replace text.characters = text := by
  simp [StyledText.replace]

/-- A line that fits is one part. -/
theorem StyledText.partsIn_fits {text : List Char} {width : Nat} (alignment : Alignment)
    (closed : ∀ c ∈ text.getLast?, isBlank c = false) (fits : cells text ≤ width) :
    (⟨text, []⟩ : StyledText).partsIn alignment width = [⟨text, []⟩] := by
  have undivided : (⟨text, []⟩ : StyledText).divide 0 [text] = [⟨text, []⟩] := by
    rw [StyledText.divide, if_pos rfl]
  have placed : alignment.trimmed text = text := by
    cases alignment with
    | left => rfl
    | right => exact trimEnd_closed closed
  have short : shorten width text = text := by rw [shorten, if_pos fits]
  have kept := StyledText.replace_self ⟨text, []⟩
  simp only at kept
  simp only [StyledText.partsIn, breakLine_fits fits, undivided, List.map_singleton,
    trimExcess_closed closed, kept, placed, short]

/-- A cell that fits is one line. -/
theorem IsCell.linesIn {text : List Char} (cell : IsCell text) {width : Nat} (alignment : Alignment)
    (fits : cells text ≤ width) :
    (⟨text, []⟩ : StyledText).linesIn alignment width = [⟨text, []⟩] := by
  have oneLine : (⟨text, []⟩ : StyledText).lines = [⟨text, []⟩] := by
    have line := congrArg (List.map fun line => (⟨line, []⟩ : StyledText)) (lines_still cell.still)
    rw [List.map_map, List.map_singleton] at line
    rw [StyledText.lines_unstyled]
    exact line
  rw [StyledText.linesIn, oneLine, List.flatMap_singleton,
    StyledText.partsIn_fits alignment cell.closed fits]

/-- A text without markup. -/
def styled (text : String) : StyledText := ⟨text.toList, []⟩

/-- A text that is a cell is read as it is. -/
theorem markedText_cell {text : String} (cell : IsCell text.toList) :
    markedText text = .ok (styled text) := by
  have codeless : replaceCodes text.toList = text.toList := cell.codeless
  rw [markedText_literal cell.literal, codeless, settled_still cell.still, styled]

/-- A line of texts in columns, each filled to the width of its column. -/
def layoutRow (bar : Char) (layouts : List ColumnLayout) (row : List String) : List Char :=
  barred bar ((layouts.zip row).map fun (layout, text) =>
    layout.alignment.pad layout.width text.toList)

/-- Every text of the row is a cell that fits its column. -/
def Fits (layouts : List ColumnLayout) (row : List String) : Prop :=
  ∀ pair ∈ layouts.zip row, IsCell pair.2.toList ∧ cells pair.2.toList ≤ pair.1.width

/-- A cell that fits its column is one line of it. -/
theorem lines_styled {layout : ColumnLayout} {text : String} (cell : IsCell text.toList)
    (fits : cells text.toList ≤ layout.width) : layout.lines (styled text) = [styled text] :=
  cell.linesIn layout.alignment fits

/-- A row that fits is one line. -/
theorem rowLines_fits {layouts : List ColumnLayout} {row : List String} (fits : Fits layouts row)
    (bar : Char) : rowLines bar layouts (row.map styled) = [layoutRow bar layouts row] := by
  have contents : (layouts.zip (row.map styled)).map (fun pair => (pair.1, pair.1.lines pair.2)) =
      (layouts.zip row).map fun pair => (pair.1, [styled pair.2]) := by
    rw [List.zip_map_right, List.map_map]
    apply List.map_congr_left
    intro pair member
    obtain ⟨cell, width⟩ := fits pair member
    show (pair.1, pair.1.lines (styled pair.2)) = _
    rw [lines_styled cell width]
  have height : (((layouts.zip row).map fun pair => (pair.1, [styled pair.2])).map
      fun entry => entry.2.length).foldl max 1 = 1 := by
    generalize layouts.zip row = pairs
    induction pairs with
    | nil => rfl
    | cons pair pairs ih => exact ih
  -- every cell is one line, and so is the row
  simp only [rowLines]
  rw [contents, height, List.range_one, List.map_singleton, List.map_map]
  rfl

/-- A column at a place with its width: that of the title and of the texts below it, each one
line. -/
def layoutAt (rows : List (List String)) (place : Nat) (column : Column) : ColumnLayout :=
  ⟨column.alignment,
    (rows.map fun row => cells (row.getD place "").toList).foldl max (cells column.title.toList)⟩

/-- The columns with their widths. -/
def layoutsOf (columns : List Column) (rows : List (List String)) : List ColumnLayout :=
  columns.mapIdx (layoutAt rows)

/-- A table that shows every text as it is, one line for each row. -/
def literalTable (columns : List Column) (rows : List (List String)) : String :=
  let layouts := layoutsOf columns rows
  let widths := layouts.map ColumnLayout.width
  joinLines ([topRule.line widths, layoutRow headingBar layouts (columns.map Column.title),
    headingRule.line widths] ++ rows.map (layoutRow rowBar layouts) ++ [bottomRule.line widths])

/-- The largest number is at least the first. -/
theorem le_foldl_max (numbers : List Nat) (first : Nat) : first ≤ numbers.foldl max first := by
  induction numbers generalizing first with
  | nil => exact Nat.le_refl first
  | cons number numbers ih => exact Nat.le_trans (Nat.le_max_left first number) (ih _)

/-- The largest number is at least each of the others. -/
theorem le_foldl_max_of_mem {numbers : List Nat} {number : Nat} (member : number ∈ numbers)
    (first : Nat) : number ≤ numbers.foldl max first := by
  induction numbers generalizing first with
  | nil => cases member
  | cons other numbers ih =>
    rcases List.mem_cons.mp member with rfl | member
    · exact Nat.le_trans (Nat.le_max_right first number) (le_foldl_max numbers _)
    · exact ih member _

/-- A list from its entries. -/
theorem map_range_getD (values : List α) (default : α) :
    (List.range values.length).map (fun place => values.getD place default) = values := by
  apply List.ext_getElem
  · simp
  · intro place inside present
    simp [present]

section

variable {columns : List Column} {rows : List (List String)}

/-- In full rows every text below a title is there. -/
theorem textsBelow_full (full : ∀ row ∈ rows, row.length = columns.length) {place : Nat}
    (inside : place < columns.length) :
    textsBelow rows place = rows.map fun row => row.getD place "" := by
  rw [textsBelow, ← List.filterMap_eq_map]
  apply List.filterMap_congr
  intro row member
  have present : place < row.length := by rw [full row member]; exact inside
  simp [present]

/-- The texts of full rows, column by column. -/
def contentsOf (columns : List Column) (rows : List (List String)) : List (List StyledText) :=
  (List.range columns.length).map fun place => rows.map fun row => styled (row.getD place "")

/-- Every text of full rows is a text of a row. -/
theorem getD_mem (full : ∀ row ∈ rows, row.length = columns.length) {place : Nat}
    (inside : place < columns.length) {row : List String} (listed : row ∈ rows) :
    row.getD place "" ∈ row := by
  have present : place < row.length := by rw [full row listed]; exact inside
  rw [List.getD_eq_getElem _ _ present]
  exact List.getElem_mem present

/-- Texts that are cells are read column by column. -/
theorem mapM_textsBelow (full : ∀ row ∈ rows, row.length = columns.length)
    (cell : ∀ row ∈ rows, ∀ text ∈ row, IsCell text.toList) :
    ((List.range columns.length).mapM fun place => (textsBelow rows place).mapM markedText) =
      .ok (contentsOf columns rows) := by
  apply mapM_eq_map
  intro place member
  have inside := List.mem_range.mp member
  have read : ∀ text ∈ rows.map fun row => row.getD place "",
      markedText text = .ok (styled text) := by
    intro text below
    obtain ⟨row, listed, rfl⟩ := List.mem_map.mp below
    exact markedText_cell (cell row listed _ (getD_mem full inside listed))
  rw [textsBelow_full full inside, mapM_eq_map read, List.map_map]
  rfl

/-- The texts across a full row are those of the row. -/
theorem textsAcross_full (full : ∀ row ∈ rows, row.length = columns.length) {place : Nat}
    (inside : place < rows.length) :
    textsAcross place (contentsOf columns rows) = rows[place].map styled := by
  have width := full rows[place] (List.getElem_mem inside)
  have found : (fun texts : List StyledText => texts[place]?) ∘
      (fun column => rows.map fun row => styled (row.getD column "")) =
        some ∘ fun column => styled (rows[place].getD column "") := by
    funext column
    simp [inside]
  have across := congrArg (List.map styled) (map_range_getD rows[place] "")
  rw [List.map_map] at across
  rw [textsAcross, contentsOf, List.filterMap_map, ← width, found, List.filterMap_eq_map]
  exact across

/-- A column is as wide as its contents ask for. -/
theorem layout_eq (full : ∀ row ∈ rows, row.length = columns.length)
    (cell : ∀ row ∈ rows, ∀ text ∈ row, IsCell text.toList) {place : Nat}
    (inside : place < columns.length) {column : Column} (title : IsCell column.title.toList) :
    column.layout (rows.map fun row => styled (row.getD place "")) = layoutAt rows place column := by
  have heading : widthOf column.heading.characters = cells column.title.toList := by
    rw [Column.heading, settled_still title.still, widthOf_undivided title.undivided]
  have below : (rows.map fun row => styled (row.getD place "")).map
      (fun text => widthOf text.characters) =
        rows.map fun row => cells (row.getD place "").toList := by
    rw [List.map_map]
    apply List.map_congr_left
    intro row listed
    exact widthOf_undivided (cell row listed _ (getD_mem full inside listed)).undivided
  rw [Column.layout, columnWidth, heading, below, layoutAt]

/-- The columns are as wide as their contents ask for. -/
theorem zipWith_layout (titles : ∀ column ∈ columns, IsCell column.title.toList)
    (full : ∀ row ∈ rows, row.length = columns.length)
    (cell : ∀ row ∈ rows, ∀ text ∈ row, IsCell text.toList) :
    List.zipWith Column.layout columns (contentsOf columns rows) = layoutsOf columns rows := by
  apply List.ext_getElem
  · simp [contentsOf, layoutsOf]
  · intro place inside present
    have within : place < columns.length := by simpa [layoutsOf] using present
    have title := titles columns[place] (List.getElem_mem within)
    simp only [List.getElem_zipWith, contentsOf, List.getElem_map, List.getElem_range, layoutsOf,
      List.getElem_mapIdx, layout_eq full cell within title]

/-- Every text of a row fits its column. -/
theorem cells_getD_le {row : List String} (listed : row ∈ rows) (place : Nat) (column : Column) :
    cells (row.getD place "").toList ≤ (layoutAt rows place column).width := by
  rw [layoutAt]
  apply le_foldl_max_of_mem
  exact List.mem_map.mpr ⟨row, listed, rfl⟩

/-- Every row fits the columns. -/
theorem fits_row (cell : ∀ row ∈ rows, ∀ text ∈ row, IsCell text.toList) {row : List String}
    (listed : row ∈ rows) : Fits (layoutsOf columns rows) row := by
  intro pair member
  obtain ⟨place, inside, rfl⟩ := List.getElem_of_mem member
  have present : place < row.length := by
    rw [List.length_zip] at inside
    omega
  have width := cells_getD_le listed place
  rw [List.getD_eq_getElem _ _ present] at width
  rw [List.getElem_zip]
  simp only [layoutsOf, List.getElem_mapIdx]
  exact ⟨cell row listed _ (List.getElem_mem present), width _⟩

/-- The titles fit the columns. -/
theorem fits_titles (titles : ∀ column ∈ columns, IsCell column.title.toList)
    (rows : List (List String)) : Fits (layoutsOf columns rows) (columns.map Column.title) := by
  intro pair member
  obtain ⟨place, inside, rfl⟩ := List.getElem_of_mem member
  have present : place < columns.length := by
    rw [List.length_zip, List.length_map] at inside
    omega
  rw [List.getElem_zip]
  simp only [layoutsOf, List.getElem_mapIdx, List.getElem_map]
  exact ⟨titles _ (List.getElem_mem present), le_foldl_max _ _⟩

/-- Every row is one line. -/
theorem flatMap_rowLines (full : ∀ row ∈ rows, row.length = columns.length)
    (cell : ∀ row ∈ rows, ∀ text ∈ row, IsCell text.toList) :
    ((List.range rows.length).flatMap fun place =>
      rowLines rowBar (layoutsOf columns rows) (textsAcross place (contentsOf columns rows))) =
        rows.map (layoutRow rowBar (layoutsOf columns rows)) := by
  have single : ∀ place ∈ List.range rows.length,
      rowLines rowBar (layoutsOf columns rows) (textsAcross place (contentsOf columns rows)) =
        [layoutRow rowBar (layoutsOf columns rows) (rows.getD place [])] := by
    intro place member
    have inside := List.mem_range.mp member
    rw [textsAcross_full full inside, List.getD_eq_getElem _ _ inside]
    exact rowLines_fits (fits_row cell (List.getElem_mem inside)) rowBar
  have all := congrArg (List.map (layoutRow rowBar (layoutsOf columns rows)))
    (map_range_getD rows [])
  rw [List.map_map] at all
  rw [List.flatMap_congr single, ← List.map_eq_flatMap]
  exact all

/-- No style is left that cannot be read. -/
theorem readable_contents (titles : ∀ column ∈ columns, IsCell column.title.toList)
    (full : ∀ row ∈ rows, row.length = columns.length)
    (cell : ∀ row ∈ rows, ∀ text ∈ row, IsCell text.toList) :
    (List.zipWith Column.isReadable columns (contentsOf columns rows)).all id = true := by
  rw [List.all_eq_true]
  intro readable member
  obtain ⟨place, inside, rfl⟩ := List.getElem_of_mem member
  have within : place < columns.length := by
    rw [List.length_zipWith] at inside
    omega
  have title := titles columns[place] (List.getElem_mem within)
  simp only [List.getElem_zipWith, contentsOf, List.getElem_map, List.getElem_range, id_eq,
    Column.isReadable, layout_eq full cell within title, List.all_eq_true]
  intro text below line inLines
  obtain ⟨row, listed, rfl⟩ := List.mem_map.mp below
  have text := cell row listed _ (getD_mem full within listed)
  rw [lines_styled text (cells_getD_le listed place _)] at inLines
  rw [List.mem_singleton.mp inLines]
  rfl

/-- Full rows of cells below titles that are cells are shown as they are. -/
theorem shownTable_literal (titles : ∀ column ∈ columns, IsCell column.title.toList)
    (full : ∀ row ∈ rows, row.length = columns.length)
    (cell : ∀ row ∈ rows, ∀ text ∈ row, IsCell text.toList) :
    shownTable columns rows = .ok (literalTable columns rows) := by
  have headings : columns.map Column.heading = (columns.map Column.title).map styled := by
    rw [List.map_map]
    apply List.map_congr_left
    intro column listed
    rw [Column.heading, settled_still (titles column listed).still]
    rfl
  simp only [shownTable, mapM_textsBelow full cell, bind, Except.bind,
    readable_contents titles full cell, if_true, tableLines, zipWith_layout titles full cell,
    headings, rowLines_fits (fits_titles titles rows), flatMap_rowLines full cell, literalTable]
  rfl

end

/-- A title to the right, above two numbers. -/
example : literalTable [⟨"#", .right⟩] [["9"], ["10"]] =
    "┏━━━━┓\n┃  # ┃\n┡━━━━┩\n│  9 │\n│ 10 │\n└────┘\n" := by
  decide +kernel

end SearchBar.Console
