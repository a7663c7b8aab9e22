import Switchboard.Text.Blank
import Switchboard.Text.Split

/-!
# Tables

Rows of cells, set in columns as wide as their widest cell with two blanks between columns. Rows
may differ in length. A line never ends in blanks.
-/

namespace Switchboard.Table

/-- The wider of two lists of column widths, column by column. -/
def widen : List Nat → List Nat → List Nat
  | [], widths => widths
  | widths, [] => widths
  | w :: widths, w' :: widths' => max w w' :: widen widths widths'

/-- The width of each column, in characters. -/
def columnWidths (rows : List (List String)) : List Nat :=
  rows.foldl (fun widths row => widen widths (row.map String.length)) []

/-- A cell with blanks after it up to a width. -/
def pad (width : Nat) (cell : List Char) : List Char :=
  cell ++ List.replicate (width - cell.length) ' '

/-- A row in columns of the given widths. -/
def line (widths : List Nat) (row : List String) : List Char :=
  Text.trimEnd
    (Text.joinWith [' ', ' '] (List.zipWith (fun w cell => pad w cell.toList) widths row))

/-- A table in columns, one line a row. -/
def aligned (rows : List (List String)) : String :=
  String.ofList (Text.joinWith ['\n'] (rows.map (line (columnWidths rows))))

/-- A table with tabs between its cells, one line a row. -/
def tabbed (rows : List (List String)) : String :=
  Text.joinStrings "\n" (rows.map (Text.joinStrings "\t"))

end Switchboard.Table
