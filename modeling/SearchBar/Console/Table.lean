import SearchBar.Console.Fit

/-!
# Tables

A table has a heading, a row of cells for each entry, and lines around them: heavy
ones around the heading, light ones around the rows. A column is as wide as the
widest text in it and one space at either side.

The terminal is assumed to be as wide as the table, so that no column is made
narrower and no cell is cut for want of room.
-/

namespace SearchBar.Console

open Text

/-- A column by its title. -/
structure Column where
  title : String
  alignment : Alignment := .left
  deriving DecidableEq, Repr

/-- The characters of a line across the table: its ends, its crossings, and what is between. -/
structure Rule where
  left : Char
  fill : Char
  crossing : Char
  right : Char
  deriving DecidableEq, Repr

/-- The line above the heading. -/
def topRule : Rule := ⟨'┏', '━', '┳', '┓'⟩

/-- The line between the heading and the rows. -/
def headingRule : Rule := ⟨'┡', '━', '╇', '┩'⟩

/-- The line below the rows. -/
def bottomRule : Rule := ⟨'└', '─', '┴', '┘'⟩

/-- The bar between the cells of the heading. -/
def headingBar : Char := '┃'

/-- The bar between the cells of a row. -/
def rowBar : Char := '│'

/-- A line across columns of these widths. -/
def Rule.line (rule : Rule) (widths : List Nat) : List Char :=
  rule.left ::
    [rule.crossing].intercalate (widths.map fun width => List.replicate (width + 2) rule.fill) ++
    [rule.right]

/-- One line of a row, a bar at either end of each cell. -/
def barred (bar : Char) (parts : List (List Char)) : List Char :=
  bar :: parts.flatMap fun part => (' ' :: part ++ [' ']) ++ [bar]

/-- A column of a table with its width. -/
structure ColumnLayout where
  alignment : Alignment
  width : Nat
  deriving DecidableEq, Repr

/-- The lines that a text takes in a column. -/
def ColumnLayout.lines (layout : ColumnLayout) (text : StyledText) : List StyledText :=
  text.linesIn layout.alignment layout.width

/-- The lines of a row; a cell with fewer lines than others is filled below. -/
def rowLines (bar : Char) (layouts : List ColumnLayout) (texts : List StyledText) :
    List (List Char) :=
  let contents := (layouts.zip texts).map fun (layout, text) => (layout, layout.lines text)
  let height := (contents.map fun (_, lines) => lines.length).foldl max 1
  (List.range height).map fun place =>
    barred bar (contents.map fun (layout, lines) =>
      match lines[place]? with
      | some line => layout.alignment.pad layout.width line.characters
      | none => spaces layout.width)

/-- The width of a column: that of its title and of the texts below it. -/
def columnWidth (title : StyledText) (texts : List StyledText) : Nat :=
  (texts.map fun text => widthOf text.characters).foldl max (widthOf title.characters)

/-- The title of a column, which holds no markup. -/
def Column.heading (column : Column) : StyledText := ⟨settled column.title.toList, []⟩

/-- The layout of a column with these texts. -/
def Column.layout (column : Column) (texts : List StyledText) : ColumnLayout :=
  ⟨column.alignment, columnWidth column.heading texts⟩

/-- The texts of a row, from the texts of each column. -/
def textsAcross (row : Nat) (contents : List (List StyledText)) : List StyledText :=
  contents.filterMap fun texts => texts[row]?

/-- The lines of a table with so many rows, from the texts of each column. -/
def tableLines (columns : List Column) (height : Nat) (contents : List (List StyledText)) :
    List (List Char) :=
  let layouts := List.zipWith Column.layout columns contents
  let widths := layouts.map ColumnLayout.width
  [topRule.line widths] ++ rowLines headingBar layouts (columns.map Column.heading) ++
    [headingRule.line widths] ++
    (List.range height).flatMap (fun row => rowLines rowBar layouts (textsAcross row contents)) ++
    [bottomRule.line widths]

/-- Whether a column can be shown: nothing is left of a style that cannot be read. -/
def Column.isReadable (column : Column) (texts : List StyledText) : Bool :=
  texts.all fun text => ((column.layout texts).lines text).all StyledText.isReadable

/-- The texts that stand below one another in a place of the rows. -/
def textsBelow (rows : List (List String)) (place : Nat) : List String :=
  rows.filterMap fun row => row[place]?

/-- The table as a terminal shows it. The texts of the cells may hold markup, which is read column
by column. -/
def shownTable (columns : List Column) (rows : List (List String)) :
    Except MarkupFault String := do
  let contents ← (List.range columns.length).mapM fun place =>
    (textsBelow rows place).mapM markedText
  if (List.zipWith Column.isReadable columns contents).all id then
    return joinLines (tableLines columns rows.length contents)
  else throw .unreadableNumber

end SearchBar.Console
