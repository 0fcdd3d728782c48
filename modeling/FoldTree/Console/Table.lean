import FoldTree.Console.Markup
import FoldTree.Console.Wrapped

/-! Tables in boxes: a heavy line around the heading, a light one around the rows, and a title over
the middle.
-/

namespace FoldTree.Console

/-- A column with the place of its texts. -/
structure Column where
  heading : String
  justify : Justify

/-- A table; each row has a text for each column. -/
structure Table where
  title : String
  columns : List Column
  rows : List (List String)

namespace Table

/-- A table as it is shown: its title and the texts of its rows without their markup, if there is
nothing wrong with any of it.
-/
def shown? (table : Table) : Option Table := do
  let title ← Markup.shown? table.title
  let rows ← table.rows.mapM fun row => row.mapM Markup.shown?
  return { table with title, rows }

/-- The corners, the filling and the crossings of a line through a box. -/
structure Rule where
  first : Char
  filling : Char
  crossing : Char
  last : Char

/-- The line over the heading. -/
def topRule : Rule := ⟨'┏', '━', '┳', '┓'⟩

/-- The line below the heading. -/
def headingRule : Rule := ⟨'┡', '━', '╇', '┩'⟩

/-- The line below the rows. -/
def bottomRule : Rule := ⟨'└', '─', '┴', '┘'⟩

/-- The texts of a column in all rows. -/
def textsAt (table : Table) (index : Nat) : List String :=
  table.rows.map fun row => row[index]?.getD ""

/-- The widths of the columns: those of their widest texts. -/
def widths (table : Table) : List Nat :=
  table.columns.mapIdx fun index column =>
    ((column.heading :: table.textsAt index).map textWidth).foldl max 0

/-- The width of a table with its box and a blank on both sides of each text. -/
def totalWidth (widths : List Nat) : Nat :=
  widths.foldl (fun total width => total + width + 3) 1

/-- A line through a box. -/
def Rule.line (rule : Rule) (widths : List Nat) : List Char :=
  let parts := widths.map fun width => List.replicate (width + 2) rule.filling
  rule.first :: List.intercalate [rule.crossing] parts ++ [rule.last]

/-- The lines of one text in its column. -/
def cellLines (column : Column) (width : Nat) (text : String) : List (List Char) :=
  (wrapped width .ellipsis column.justify text).map fun line =>
    line ++ blanks (width - Text.cells line)

/-- The lines of a row, with a sign between the columns. A text of fewer lines than the row is
followed by blanks.
-/
def rowLines (columns : List Column) (widths : List Nat) (sign : Char) (row : List String) :
    List (List Char) :=
  let texts := (columns.zip (widths.zip row)).map fun (column, width, text) =>
    (width, cellLines column width text)
  let height := (texts.map (·.2.length)).foldl max 1
  (List.range height).map fun index =>
    let parts := texts.map fun (width, lines) =>
      ' ' :: lines[index]?.getD (blanks width) ++ [' ']
    sign :: List.intercalate [sign] parts ++ [sign]

/-- The lines of a table. -/
def lines (table : Table) : List (List Char) :=
  let widths := table.widths
  wrapped (totalWidth widths) .fold .center table.title
    ++ topRule.line widths :: rowLines table.columns widths '┃' (table.columns.map (·.heading))
    ++ headingRule.line widths :: table.rows.flatMap (rowLines table.columns widths '│')
    ++ [bottomRule.line widths]

end Table

end FoldTree.Console
