import TableScript.Text.Split
import TableScript.Text.Width

/-!
# Grids

Tables drawn with lines: a header, a double line, and the rows with dotted lines between them.  A column is as wide
as its widest line, and a cell with several lines makes its row as high.
-/

namespace TableScript.Grid

/-- A cell as its lines. -/
abbrev Cell := List (List Char)

def cell (text : String) : Cell :=
  Text.splitOn '\n' text.toList

/-- A row with empty cells up to a number of columns. -/
def padRow (columns : Nat) (row : List Cell) : List Cell :=
  row ++ List.replicate (columns - row.length) [[]]

def cellWidth (c : Cell) : Nat :=
  (c.map Text.width).foldl max 1

/-- The widths of the columns of rows of equal length. -/
def columnWidths (columns : Nat) (rows : List (List Cell)) : List Nat :=
  rows.foldl (fun widths row => List.zipWith max widths (row.map cellWidth)) (List.replicate columns 1)

/-- A line across the table. -/
def rule (left fill cross right : Char) (widths : List Nat) : List Char :=
  left :: ([cross].intercalate (widths.map fun width => List.replicate (width + 2) fill) ++ [right])

/-- A cell's line between blanks, as wide as its column. -/
def padLine (width : Nat) (line : List Char) : List Char :=
  ' ' :: (line ++ List.replicate (width - Text.width line + 1) ' ')

/-- The lines of a row. -/
def rowLines (widths : List Nat) (row : List Cell) : List (List Char) :=
  let height := (row.map List.length).foldl max 1
  (List.range height).map fun i =>
    '│' :: (['┆'].intercalate (List.zipWith (fun width cell => padLine width (cell.getD i [])) widths row) ++
      ['│'])

/-- The lines of a table. -/
def lines (header : List String) (rows : List (List String)) : List (List Char) :=
  let columns := (header :: rows).foldl (fun n row => max n row.length) 0
  let header := padRow columns (header.map cell)
  let rows := rows.map fun row => padRow columns (row.map cell)
  let widths := columnWidths columns (header :: rows)
  let between := [rule '├' '╌' '┼' '┤' widths]
  rule '┌' '─' '┬' '┐' widths :: (rowLines widths header ++
    rule '╞' '═' '╪' '╡' widths :: (between.intercalate (rows.map (rowLines widths)) ++
      [rule '└' '─' '┴' '┘' widths]))

/-- A table as a text, without a line feed at its end. -/
def text (header : List String) (rows : List (List String)) : String :=
  String.ofList (['\n'].intercalate (lines header rows))

end TableScript.Grid
