import PacketLog.Text.Separated
import PacketLog.Text.Columns

set_option autoImplicit false

/-! # Grids

A header and one row of cells are drawn as a grid of box characters. A column is as wide as its
widest line, with a blank on each side, and a cell that has several lines makes the row as
high. -/

namespace PacketLog.Text

/-- `s` with blanks behind it up to `width` columns. -/
def padRight (columns : Nat) (s : String) : String :=
  s ++ String.ofList (List.replicate (columns - width s) ' ')

/-- The lines of a cell. -/
def cellLines (cell : String) : List String := (pieces '\n' cell.toList).map String.ofList

/-- The columns that the widest of some lines takes. -/
def widest (lines : List String) : Nat := (lines.map width).foldl max 0

/-- A line of the grid's frame. -/
def frameLine (left fill middle right : String) (widths : List Nat) : String :=
  let runs := widths.map fun w => String.join (List.replicate (w + 2) fill)
  left ++ middle.intercalate runs ++ right

/-- A line of cells. -/
def cellLine (widths : List Nat) (cells : List String) : String :=
  let filled := List.zipWith (fun w cell => " " ++ padRight w cell ++ " ") widths cells
  "│" ++ "┆".intercalate filled ++ "│"

/-- A row of cells, as many lines as its highest cell has. -/
def cellRow (widths : List Nat) (cells : List String) : List String :=
  let columns := cells.map cellLines
  let height := (columns.map List.length).foldl max 0
  (List.range height).map fun i => cellLine widths (columns.map fun lines => lines.getD i "")

/-- A header and a row as a grid. -/
def grid (header row : List String) : String :=
  let widths := List.zipWith (fun h c => widest (cellLines h ++ cellLines c)) header row
  "\n".intercalate (
    [frameLine "┌" "─" "┬" "┐" widths] ++ cellRow widths header ++
    [frameLine "╞" "═" "╪" "╡" widths] ++ cellRow widths row ++
    [frameLine "└" "─" "┴" "┘" widths])

end PacketLog.Text
