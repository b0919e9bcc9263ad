import StartupBench.Text.Blank
import StartupBench.Text.Width

/-!
# Tables drawn with box characters

A table has a header and rows of cells.  A cell is split at line feeds, so that a row is as high as
its highest cell, and a column is as wide as its widest line, with a blank on either side.
-/

namespace StartupBench

/-- A cell of a table. -/
structure Table.Cell where
  text : String
  alignRight : Bool := false

/-- A table. -/
structure Table where
  header : List Table.Cell
  rows : List (List Table.Cell)

namespace Table

/-- The lines of a cell. -/
def Cell.lines (c : Cell) : List String := Text.splitOn '\n' c.text

/-- The width of a cell. -/
def Cell.width (c : Cell) : Nat := (c.lines.map Text.width).foldl max 0

/-- The height of a row. -/
def rowHeight (row : List Cell) : Nat := (row.map fun c => c.lines.length).foldl max 0

/-- The widths of the columns. -/
def widths (t : Table) : List Nat :=
  t.rows.foldl (fun ws row => ws.zipWith (fun w c => max w c.width) row)
    (t.header.map Cell.width)

/-- So many copies of a text. -/
def copies (n : Nat) (text : String) : String := String.join (List.replicate n text)

/-- A line between rows. -/
def rule (left fill cross right : String) (ws : List Nat) : String :=
  left ++ String.intercalate cross (ws.map fun w => copies (w + 2) fill) ++ right

/-- A line of a cell in a column of a width. -/
def padded (c : Cell) (w : Nat) (line : String) : String :=
  let blanks := copies (w - Text.width line) " "
  if c.alignRight then " " ++ blanks ++ line ++ " " else " " ++ line ++ blanks ++ " "

/-- Line `k` of a row. -/
def rowLine (ws : List Nat) (row : List Cell) (k : Nat) : String :=
  "│" ++ String.intercalate "┆" (ws.zipWith (fun w c => padded c w (c.lines.getD k "")) row) ++ "│"

/-- The lines of a row. -/
def rowLines (ws : List Nat) (row : List Cell) : List String :=
  (List.range (rowHeight row)).map (rowLine ws row)

/-- The lines of the table. -/
def lines (t : Table) : List String :=
  let ws := t.widths
  [rule "┌" "─" "┬" "┐" ws] ++ rowLines ws t.header ++ [rule "╞" "═" "╪" "╡" ws] ++
    List.intercalate [rule "├" "╌" "┼" "┤" ws] (t.rows.map (rowLines ws)) ++
    [rule "└" "─" "┴" "┘" ws]

/-- The table as text. -/
def text (t : Table) : String := String.intercalate "\n" t.lines

end Table

end StartupBench
