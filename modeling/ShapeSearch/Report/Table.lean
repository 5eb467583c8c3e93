import ShapeSearch.Text.Width

/-!
# Tables

Tables are drawn with rounded corners: a header row, a rule under it, and the
body rows, each cell padded on the right to the width of its column with one
space on either side.  A cell with several lines makes its row as tall as its
line count; the other cells of that row are padded with blank lines.
-/

namespace ShapeSearch
namespace Table

/-- A text padded on the right to a display width. -/
def padRight (s : String) (width : Nat) : String :=
  s ++ String.ofList (List.replicate (width - textWidth s) ' ')

/-- The lines of a cell. -/
def cellLines (cell : String) : List String :=
  cell.splitOn "\n"

/-- The display width of a cell: its widest line. -/
def cellWidth (cell : String) : Nat :=
  ((cellLines cell).map textWidth).foldl max 0

/-- The width of each column: the widest of its cells. -/
def columnWidths (rows : List (List String)) (columns : Nat) : List Nat :=
  (List.range columns).map fun i => (rows.map fun r => cellWidth (r.getD i "")).foldl max 0

/-- A horizontal rule with the given corner and junction characters. -/
def rule (widths : List Nat) (left mid right : String) : String :=
  left ++ mid.intercalate (widths.map fun w => String.ofList (List.replicate (w + 2) '─')) ++ right

/-- One line of cells. -/
def line (widths : List Nat) (cells : List String) : String :=
  "│" ++ "│".intercalate ((widths.zipIdx).map fun (w, i) => " " ++ padRight (cells.getD i "") w ++ " ") ++ "│"

/-- The lines of one row: as many as its tallest cell has. -/
def rowLines (widths : List Nat) (cells : List String) : List String :=
  let split := cells.map cellLines
  let height := (split.map List.length).foldl max 1
  (List.range height).map fun k => line widths (split.map fun ls => ls.getD k "")

/-- A table with a header row and body rows, in the rounded style; the rule under the
header is drawn only when there are body rows. -/
def render (header : List String) (rows : List (List String)) : String :=
  let widths := columnWidths (header :: rows) header.length
  "\n".intercalate
    ([rule widths "╭" "┬" "╮"] ++ rowLines widths header ++
      (if rows.isEmpty then [] else rule widths "├" "┼" "┤" :: rows.flatMap (rowLines widths)) ++
      [rule widths "╰" "┴" "╯"])

/-- The two-column table of metrics; no rows give no text at all. -/
def metrics (rows : List (String × String)) : String :=
  if rows.isEmpty then ""
  else render ["Metric", "Value"] (rows.map fun (label, value) => [label, value])

end Table
end ShapeSearch
