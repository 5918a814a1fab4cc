import Grounding.Text.Width

/-! Tables in frames: a rule between all rows, one blank on either side of a cell, and each column
as wide as its widest line. -/

namespace Grounding.Table

def linesOf (cell : String) : List (List Char) :=
  (cell.splitOn "\n").map String.toList

def cellWidth (cell : String) : Nat :=
  ((linesOf cell).map Text.width).foldl max 0

/-- The widths of the columns of rows that have the same number of cells. -/
def columnWidths : List (List String) → List Nat
  | [] => []
  | [row] => row.map cellWidth
  | row :: rows => List.zipWith max (row.map cellWidth) (columnWidths rows)

/-- A rule with its left end, its crossings and its right end. -/
def rule (widths : List Nat) (left crossing right : String) : String :=
  left ++ crossing.intercalate (widths.map fun w => String.ofList (List.replicate (w + 2) '─')) ++
    right

/-- One line of a cell, filled up to the width of its column. -/
def fill (width : Nat) (line : List Char) : String :=
  String.ofList (line ++ List.replicate (width - Text.width line) ' ')

/-- The lines of a row, as many as its highest cell has. -/
def rowLines (widths : List Nat) (row : List String) : List String :=
  let cells := row.map linesOf
  let height := (cells.map List.length).foldl max 0
  (List.range height).map fun i =>
    "│ " ++ " │ ".intercalate
      (List.zipWith (fun w cell => fill w (cell[i]?.getD [])) widths cells) ++ " │"

/-- The frame around rows that have the same number of cells. -/
def render (rows : List (List String)) : String :=
  let widths := columnWidths rows
  let bodies := rows.map fun row => "\n".intercalate (rowLines widths row)
  "\n".intercalate
    [rule widths "┌" "┬" "┐",
      ("\n" ++ rule widths "├" "┼" "┤" ++ "\n").intercalate bodies,
      rule widths "└" "┴" "┘"]

end Grounding.Table
