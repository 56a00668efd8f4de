import AskLedger.Text.Columns
import AskLedger.Text.Find

/-!
# Tables

Tables drawn with ASCII characters. Every column is as wide as its widest line, and every cell has a
space on either side. A cell may have several lines, and a row has as many as its tallest cell.

* `Table.length_widths`: every column has a width.
-/

namespace AskLedger

/-- A table. -/
structure Table where
  /-- The names of the columns. -/
  header : List String
  /-- The rows, each with one cell for every column. -/
  rows : List (List String)

namespace Table

/-- The lines of a cell. -/
def cellLines (cell : String) : List (List Char) :=
  Text.splitAt '\n' cell.toList

/-- The width of the widest line of a cell. -/
def cellWidth (cell : String) : Nat :=
  (cellLines cell).foldl (fun width line => max width (Text.columns line)) 0

/-- The widths of the columns, so far `widths`, with one more row. -/
def widen (widths : List Nat) (row : List String) : List Nat :=
  List.zipWith max widths (row.map cellWidth)

/-- The widths of the columns. -/
def widths (t : Table) : List Nat :=
  t.rows.foldl widen (t.header.map cellWidth)

/-- A line across the table: its ends, the character it is drawn with and the one
between columns. -/
def rule (side fill middle : Char) (widths : List Nat) : String :=
  side.toString
    ++ Text.joinWith middle.toString
      (widths.map fun w => String.ofList (List.replicate (w + 2) fill))
    ++ side.toString

/-- A line filled up with spaces. -/
def filled (width : Nat) (line : List Char) : String :=
  String.ofList (line ++ List.replicate (width - Text.columns line) ' ')

/-- One line of a row. -/
def drawnLine (widths : List Nat) (cells : List (List (List Char))) (i : Nat) : String :=
  "| "
    ++ Text.joinWith " | " (List.zipWith (fun w cell => filled w (cell.getD i [])) widths cells)
    ++ " |"

/-- The lines of a row. -/
def drawnRow (widths : List Nat) (row : List String) : List String :=
  let cells := row.map cellLines
  let height := cells.foldl (fun h cell => max h cell.length) 0
  (List.range height).map (drawnLine widths cells)

/-- The lines of rows, with a line between neighbours. -/
def drawnRows (widths : List Nat) : List (List String) → List String
  | [] => []
  | [row] => drawnRow widths row
  | row :: rows => drawnRow widths row ++ rule '|' '-' '+' widths :: drawnRows widths rows

/-- The table as text, without a line feed at its end. -/
def drawn (t : Table) : String :=
  let widths := t.widths
  Text.joinWith "\n"
    (rule '+' '-' '+' widths :: drawnRow widths t.header
      ++ rule '+' '=' '=' widths :: drawnRows widths t.rows
      ++ [rule '+' '-' '+' widths])

/-- Rows do not change the number of columns. -/
theorem length_foldl_widen {n : Nat} {widths : List Nat} {rows : List (List String)}
    (hw : widths.length = n) (h : ∀ row ∈ rows, row.length = n) :
    (rows.foldl widen widths).length = n := by
  induction rows generalizing widths with
  | nil => exact hw
  | cons row rows ih =>
    apply ih
    · simp [widen, hw, h row List.mem_cons_self]
    · exact fun r hr => h r (List.mem_cons_of_mem _ hr)

/-- Every column has a width. -/
theorem length_widths {t : Table} (h : ∀ row ∈ t.rows, row.length = t.header.length) :
    t.widths.length = t.header.length :=
  length_foldl_widen (by simp) h

end Table

end AskLedger
