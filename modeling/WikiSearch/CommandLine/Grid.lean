/-!
# WikiSearch — tables for a terminal

A table has a head and rows, with lines around it and below the head. Every column is
as wide as its widest cell, with a blank on both sides.
-/

namespace WikiSearch.CommandLine

/-- Texts in rows and columns. -/
structure Grid where
  head : List String
  rows : List (List String)

namespace Grid

/-- The widths of the columns. -/
def widths (g : Grid) : List Nat :=
  g.rows.foldl (fun ws row => List.zipWith max ws (row.map String.length))
    (g.head.map String.length)

/-- A line across a table. -/
def rule (left middle crossing right : String) (widths : List Nat) : String :=
  left ++ crossing.intercalate (widths.map fun w => "".intercalate (List.replicate (w + 2) middle))
    ++ right ++ "\n"

/-- A row of cells. -/
def row (widths : List Nat) (cells : List String) : String :=
  let padded := List.zipWith (fun w cell =>
    " " ++ cell ++ String.ofList (List.replicate (w - cell.length) ' ') ++ " ") widths cells
  "│" ++ "┆".intercalate padded ++ "│\n"

/-- The table as it is shown. -/
def text (g : Grid) : String :=
  rule "┌" "─" "┬" "┐" g.widths ++ row g.widths g.head ++ rule "╞" "═" "╪" "╡" g.widths
    ++ "".intercalate (g.rows.map (row g.widths)) ++ rule "└" "─" "┴" "┘" g.widths

end Grid

end WikiSearch.CommandLine
