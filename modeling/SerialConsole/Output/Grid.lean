import SerialConsole.Output.Forms
import SerialConsole.Text.Width

/-!
# Tables at their full width

Where nothing limits the width of a line, a table is drawn with box characters
and no line of it is broken.  A cell may have several lines; every column is as
wide as its widest line, with one space on each side, and text stands at the
left.  A double rule follows the header and dashed rules stand between rows.
-/

namespace SerialConsole.Output

/-- A cell, as its lines. -/
abbrev Cell := List (List Char)

/-- The lines of a text. -/
def Cell.ofText (text : String) : Cell :=
  text.toList.splitOn '\n'

def Cell.width (cell : Cell) : Nat :=
  (cell.map Text.width).foldl max 0

structure Grid where
  header : List Cell
  rows : List (List Cell)
  deriving DecidableEq, Repr

/-- The characters of a horizontal rule: its ends, its line, and where it
crosses the line between two columns. -/
structure Rule where
  left : Char
  line : Char
  cross : Char
  right : Char

namespace Rule

def top : Rule := ⟨'┌', '─', '┬', '┐'⟩

def belowHeader : Rule := ⟨'╞', '═', '╪', '╡'⟩

def betweenRows : Rule := ⟨'├', '╌', '┼', '┤'⟩

def bottom : Rule := ⟨'└', '─', '┴', '┘'⟩

/-- A rule across columns of the given widths. -/
def draw (rule : Rule) (widths : List Nat) : List Char :=
  let segments := widths.map fun width => List.replicate (width + 2) rule.line
  rule.left :: [rule.cross].intercalate segments ++ [rule.right]

end Rule

namespace Grid

def ofTable (table : Table) : Grid where
  header := table.header.map Cell.ofText
  rows := table.rows.map fun row => row.map Cell.ofText

/-- The widths of the columns. -/
def widths (grid : Grid) : List Nat :=
  grid.rows.foldl
    (fun widths row => List.zipWith (fun width cell => max width cell.width) widths row)
    (grid.header.map Cell.width)

/-- A line of a cell, filled up to the width of its column. -/
def padded (width : Nat) (line : List Char) : List Char :=
  ' ' :: line ++ List.replicate (width - Text.width line) ' ' ++ [' ']

/-- As many lines as the tallest cell of a row has. -/
def height (row : List Cell) : Nat :=
  (row.map List.length).foldl max 0

/-- What stands of each cell of a row in its line of a given index. -/
def segments (widths : List Nat) (row : List Cell) (index : Nat) : List (List Char) :=
  List.zipWith (fun width cell => padded width (cell[index]?.getD [])) widths row

/-- The lines of a row. -/
def drawRow (widths : List Nat) (row : List Cell) : List (List Char) :=
  (List.range (height row)).map fun index =>
    '│' :: ['┆'].intercalate (segments widths row index) ++ ['│']

def lines (grid : Grid) : List (List Char) :=
  let widths := grid.widths
  let between := [Rule.betweenRows.draw widths]
  [Rule.top.draw widths] ++ drawRow widths grid.header ++ [Rule.belowHeader.draw widths] ++
    between.intercalate (grid.rows.map (drawRow widths)) ++ [Rule.bottom.draw widths]

/-- The text of a table, with no line feed at its end. -/
def render (grid : Grid) : String :=
  String.ofList (['\n'].intercalate grid.lines)

end Grid

/-- Draw a table as wide as its columns need to be. -/
def Drawing.fullWidth : Drawing := fun table => (Grid.ofTable table).render

end SerialConsole.Output
