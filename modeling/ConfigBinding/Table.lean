import ConfigBinding.Text.Blank

/-!
# Aligned tables

A table is written with one line for each row. Every cell but the last of its row is padded to the
widest cell of its column and four spaces more, and blanks at the end of a line are cut off.
-/

set_option autoImplicit false

namespace ConfigBinding.Table

/-- The spaces between the widest cell of a column and the next column. -/
def gap : Nat :=
  4

/-- The width of the widest cell in a column; rows that end before it count for nothing. -/
def columnWidth (rows : List (List String)) (column : Nat) : Nat :=
  rows.foldl (fun width row => max width ((row[column]?).elim 0 String.length)) 0

/-- A row from a column on, with the cells padded to the given widths. -/
def padCells (width : Nat → Nat) (column : Nat) : List String → List Char
  | [] => []
  | [cell] => cell.toList
  | cell :: rest =>
    cell.toList ++ List.replicate (width column + gap - cell.length) ' ' ++
      padCells width (column + 1) rest

/-- The line of a row, without its end. -/
def line (width : Nat → Nat) (row : List String) : String :=
  String.ofList (Text.dropBlankEnd (padCells width 0 row))

/-- The text of a table with a header row. -/
def render (header : List String) (rows : List (List String)) : String :=
  let all := header :: rows
  let widths := (List.range ((all.map List.length).foldl max 0)).map (columnWidth all)
  String.join (all.map fun row => line (fun column => widths.getD column 0) row ++ "\n")

end ConfigBinding.Table
