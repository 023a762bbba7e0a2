/-
# Grids

Cells of text in a frame of lines. Every column is as wide as its widest cell and at least one
column of the display, up to a greatest width, at which lines are broken. A cell of several lines
makes its row that many lines high.

* `Grid.lines` : the lines of a grid in a frame;
* `Frame.rounded` : a frame with round corners.
-/
import PagedTables.Text.Wrap

namespace PagedTables

/-! ## Frames -/

/-- A horizontal line: its ends, its stretches, and its crossings with the dividers. -/
structure Rule where
  /-- The left end. -/
  left : Char
  /-- A stretch over one column of the display. -/
  fill : Char
  /-- The crossing with a divider. -/
  cross : Char
  /-- The right end. -/
  right : Char
  deriving DecidableEq, Repr

/-- The lines around and between cells. -/
structure Frame where
  /-- The line above everything. -/
  top : Rule
  /-- The line below the header. -/
  header : Rule
  /-- The line between two rows. -/
  between : Rule
  /-- The line below everything. -/
  bottom : Rule
  /-- The line at both sides. -/
  edge : Char
  /-- The line between two columns. -/
  divider : Char
  deriving DecidableEq, Repr

/-- Round corners, a double line below the header, and dashed lines inside. -/
def Frame.rounded : Frame where
  top := ⟨'╭', '─', '┬', '╮'⟩
  header := ⟨'╞', '═', '╪', '╡'⟩
  between := ⟨'├', '╌', '┼', '┤'⟩
  bottom := ⟨'╰', '─', '┴', '╯'⟩
  edge := '│'
  divider := '┆'

/-! ## Grids -/

/-- Rows of cells, with a header or without. Rows need not be equally long. -/
structure Grid where
  /-- The cells of the header. -/
  header : Option (List String)
  /-- The cells of the rows. -/
  rows : List (List String)
  deriving DecidableEq, Repr

namespace Grid

/-- The columns of the display that a column has at most. -/
def maxWidth : Nat :=
  65535

/-- The columns of the display that a cell takes. -/
def cellWidth (cell : String) : Nat :=
  min maxWidth (((cell.splitOn "\n").map Width.ofText).foldl max 1)

/-- The header and the rows. -/
def allRows (g : Grid) : List (List String) :=
  g.header.toList ++ g.rows

/-- The number of columns. -/
def columnCount (g : Grid) : Nat :=
  (g.allRows.map List.length).foldl max 0

/-- The widths of the cells of a row, with cells of width one at its end, up to `count` cells. -/
def cellWidths (count : Nat) (row : List String) : List Nat :=
  row.map cellWidth ++ List.replicate (count - row.length) 1

/-- The width of every column. -/
def widths (g : Grid) : List Nat :=
  (g.allRows.map (cellWidths g.columnCount)).foldl
    (List.zipWith max) (List.replicate g.columnCount 1)

/-- The columns from edge to edge: a blank stands at both sides of a cell, as far as the greatest
width allows. -/
def span (width : Nat) : Nat :=
  min maxWidth (width + 2)

/-- The same character several times. -/
def stretch (c : Char) (count : Nat) : String :=
  String.ofList (List.replicate count c)

/-- A blank line from edge to edge. -/
def blank (width : Nat) : String :=
  stretch ' ' (span width)

/-- One line of a cell with blanks around it. -/
def padded (width : Nat) (line : String) : String :=
  " " ++ line ++ stretch ' ' (width - Width.ofText line + 1)

/-- The lines of a cell. -/
def cellLines (width : Nat) (cell : String) : List String :=
  ((cell.splitOn "\n").flatMap (Wrap.lines width)).map (padded width)

/-- The lines of each cell of a row; a cell that is not there has one blank line. -/
def cells : List Nat → List String → List (List String)
  | [], _ => []
  | width :: widths, [] => [blank width] :: cells widths []
  | width :: widths, cell :: row => cellLines width cell :: cells widths row

/-- A horizontal line. -/
def ruleLine (r : Rule) (widths : List Nat) : String :=
  let stretches := widths.map fun width => stretch r.fill (span width)
  r.left.toString ++ r.cross.toString.intercalate stretches ++ r.right.toString

/-- The lines of a row; a grid without columns has none. -/
def rowLines (f : Frame) (widths : List Nat) (row : List String) : List String :=
  let cells := cells widths row
  let height := (cells.map List.length).foldl max 0
  (List.range height).map fun i =>
    let line := List.zipWith (fun width cell => cell[i]?.getD (blank width)) widths cells
    f.edge.toString ++ f.divider.toString.intercalate line ++ f.edge.toString

/-- Rows with a line between each two of them. -/
def bodyLines (f : Frame) (widths : List Nat) : List (List String) → List String
  | [] => []
  | [row] => rowLines f widths row
  | row :: rest => rowLines f widths row ++ ruleLine f.between widths :: bodyLines f widths rest

/-- The header with the line below it. -/
def headerLines (f : Frame) (widths : List Nat) : Option (List String) → List String
  | none => []
  | some row => rowLines f widths row ++ [ruleLine f.header widths]

/-- The lines of a grid in a frame. -/
def lines (f : Frame) (g : Grid) : List String :=
  let widths := g.widths
  ruleLine f.top widths :: headerLines f widths g.header ++ bodyLines f widths g.rows ++
    [ruleLine f.bottom widths]

/-- A grid in a frame as text. -/
def text (f : Frame) (g : Grid) : String :=
  "\n".intercalate (g.lines f)

end Grid

end PagedTables
