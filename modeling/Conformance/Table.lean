import Conformance.Text.Width

/-!
# Tables

Tables drawn with lines, for a terminal. A column is as wide as the widest line in its cells, and a
cell may have several lines.
-/

namespace Conformance

/-- A table: a header and rows with as many cells. -/
structure Table where
  header : List String
  rows : List (List String)
  deriving Repr, DecidableEq

namespace Table

/-- The lines of a cell. -/
def linesOf (cell : String) : List String := cell.splitOn "\n"

/-- The columns that a cell takes on a terminal. -/
def cellWidth (cell : String) : Nat := (linesOf cell).foldl (fun n l => max n (Text.width l)) 0

/-- The wider of two widths, column by column. -/
def widest : List Nat → List Nat → List Nat
  | m :: ms, n :: ns => max m n :: widest ms ns
  | [], ns => ns
  | ms, [] => ms

/-- The widths of the columns. -/
def widths (t : Table) : List Nat :=
  (t.header :: t.rows).foldl (fun ws r => widest ws (r.map cellWidth)) []

/-- A line between rows. -/
def rule (left fill cross right : String) (ws : List Nat) : String :=
  left ++ cross.intercalate (ws.map fun w => String.join (List.replicate (w + 2) fill)) ++ right

/-- The `i`-th line of a row. -/
def rowLine (ws : List Nat) (row : List String) (i : Nat) : String :=
  let cells := (ws.zip row).map fun (w, cell) =>
    " " ++ Text.padTo w (((linesOf cell)[i]?).getD "") ++ " "
  "│" ++ "┆".intercalate cells ++ "│"

/-- The lines of a row. -/
def rowLines (ws : List Nat) (row : List String) : List String :=
  let height := row.foldl (fun n c => max n (linesOf c).length) 1
  (List.range height).map (rowLine ws row)

/-- The lines of the table. -/
def lines (t : Table) : List String :=
  let ws := t.widths
  let body := t.rows.map (rowLines ws)
  let between := rule "├" "╌" "┼" "┤" ws
  [rule "┌" "─" "┬" "┐" ws] ++ rowLines ws t.header ++ [rule "╞" "═" "╪" "╡" ws]
    ++ [between].intercalate body ++ [rule "└" "─" "┴" "┘" ws]

/-- The text of the table, without an end of its last line. -/
def text (t : Table) : String := "\n".intercalate t.lines

end Table

end Conformance
